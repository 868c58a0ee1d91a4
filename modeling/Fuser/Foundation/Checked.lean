import Fuser.Foundation.Outcome
import Mathlib.Algebra.Order.Group.Nat
import Mathlib.Algebra.Ring.Int.Defs

/-!
Machine arithmetic of a build with overflow checks. An operation whose exact
result has no place in its type panics; any other agrees with the arithmetic of a
build without the checks.
-/

namespace Rust.Checked

variable {ε : Type}

def neg64 (a : Int64) : Outcome ε Int64 :=
  if a = Int64.minValue then .panic (.explicit "attempt to negate with overflow") else .ok (-a)

def neg32 (a : Int32) : Outcome ε Int32 :=
  if a = Int32.minValue then .panic (.explicit "attempt to negate with overflow") else .ok (-a)

/-- The sum of two sizes, on a machine with 64-bit addresses. -/
def addUsize (a b : Nat) : Outcome ε Nat :=
  if a + b < 2 ^ 64 then .ok (a + b) else .panic (.explicit "attempt to add with overflow")

def sub64 (a b : Int64) : Outcome ε Int64 :=
  if -(2 ^ 63) ≤ a.toInt - b.toInt ∧ a.toInt - b.toInt < 2 ^ 63 then .ok (a - b)
  else .panic (.explicit "attempt to subtract with overflow")

def subU32 (a b : UInt32) : Outcome ε UInt32 :=
  if b ≤ a then .ok (a - b) else .panic (.explicit "attempt to subtract with overflow")

def addU16 (a b : UInt16) : Outcome ε UInt16 :=
  if a.toNat + b.toNat < 2 ^ 16 then .ok (a + b)
  else .panic (.explicit "attempt to add with overflow")

def subU64 (a b : UInt64) : Outcome ε UInt64 :=
  if b ≤ a then .ok (a - b) else .panic (.explicit "attempt to subtract with overflow")

theorem toInt_range (a : Int64) : -(2 ^ 63) ≤ a.toInt ∧ a.toInt < 2 ^ 63 := by
  have hmin : Int64.minValue.toInt = -(2 ^ 63) := by decide
  exact ⟨hmin ▸ a.minValue_le_toInt, a.toInt_lt⟩

theorem toInt_neg {a : Int64} (h : -(2 ^ 63) < a.toInt) : (-a).toInt = -a.toInt := by
  have hrange := toInt_range a
  rw [Int64.toInt_neg, Int.bmod_eq_of_le] <;> omega

theorem neg64_eq {a : Int64} (h : -(2 ^ 63) < a.toInt) : (neg64 a : Outcome ε Int64) = .ok (-a) := by
  refine if_neg fun hmin => ?_
  have hvalue : Int64.minValue.toInt = -(2 ^ 63) := by decide
  rw [hmin, hvalue] at h
  omega

theorem neg32_eq {a : Int32} (h : 0 < a) : (neg32 a : Outcome ε Int32) = .ok (-a) := by
  refine if_neg fun hmin => ?_
  rw [hmin] at h
  exact absurd h (by decide)

theorem toInt_neg32 {a : Int32} (h : 0 < a) : (-a).toInt = -a.toInt := by
  have hpos : 0 < a.toInt := Int32.lt_iff_toInt_lt.mp h
  have hlt := a.toInt_lt
  rw [Int32.toInt_neg, Int.bmod_eq_of_le] <;> omega

theorem addUsize_eq {a b : Nat} (h : a + b < 2 ^ 64) : (addUsize a b : Outcome ε Nat) = .ok (a + b) :=
  if_pos h

theorem toInt_sub {a b : Int64} (h : -(2 ^ 63) ≤ a.toInt - b.toInt ∧ a.toInt - b.toInt < 2 ^ 63) :
    (a - b).toInt = a.toInt - b.toInt := by
  rw [Int64.toInt_sub, Int.bmod_eq_of_le] <;> omega

theorem sub64_eq {a b : Int64} (h : -(2 ^ 63) ≤ a.toInt - b.toInt ∧ a.toInt - b.toInt < 2 ^ 63) :
    (sub64 a b : Outcome ε Int64) = .ok (a - b) := if_pos h

theorem subU32_eq {a b : UInt32} (h : b ≤ a) : (subU32 a b : Outcome ε UInt32) = .ok (a - b) :=
  if_pos h

theorem addU16_eq {a b : UInt16} (h : a.toNat + b.toNat < 2 ^ 16) :
    (addU16 a b : Outcome ε UInt16) = .ok (a + b) := if_pos h

theorem subU64_eq {a b : UInt64} (h : b ≤ a) : (subU64 a b : Outcome ε UInt64) = .ok (a - b) :=
  if_pos h

end Rust.Checked
