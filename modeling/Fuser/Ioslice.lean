import Fuser.Foundation.Outcome
import Fuser.Foundation.SmallVec
import Mathlib.Algebra.GroupWithZero.Nat
import Mathlib.Algebra.Order.Group.Nat
import Mathlib.Data.Vector.Defs

/-!
Byte slices handed to one system call without being copied together. A value
made of pairs, options, arrays and slices stands for the sequence of slices it
holds from left to right; the length of a message is taken from one walk along
that sequence, and its bytes from another.
-/

namespace Fuser

open Rust

abbrev IoSlice := List UInt8

/-- The trait `IosliceConcat`. -/
class IosliceConcat (α : Type) where
  iterSlices : α → List IoSlice

namespace IosliceConcat

variable {α β τ ε : Type}

instance : IosliceConcat (List IoSlice) := ⟨id⟩

instance (n : Nat) : IosliceConcat (List.Vector IoSlice n) := ⟨List.Vector.toList⟩

instance [IosliceConcat α] [IosliceConcat β] : IosliceConcat (α × β) :=
  ⟨fun x => iterSlices x.1 ++ iterSlices x.2⟩

instance [IosliceConcat α] : IosliceConcat (Option α) :=
  ⟨fun x => x.toList.flatMap iterSlices⟩

/-- A step of the sum of the lengths. -/
def checkedAdd (sum length : Nat) : Outcome ε Nat :=
  if sum + length < 2 ^ 64 then .ok (sum + length) else .panic (.expect "iovec size overflow")

def sumLen [IosliceConcat α] (self : α) : Outcome ε Nat :=
  ((iterSlices self).map List.length).foldlM checkedAdd 0

def withIoslice [IosliceConcat α] (self : α) (f : List IoSlice → τ) : τ :=
  match iterSlices self with
  | [] => f []
  | [x0] => f [x0]
  | [x0, x1] => f [x0, x1]
  | x0 :: x1 :: x2 :: rest =>
      let v : SmallVec IoSlice 3 := .fromIter ([x0, x1, x2] ++ rest)
      f v.asSlice

variable [IosliceConcat α]

/-- The callback is given the sequence of slices, however many there are. -/
theorem withIoslice_eq (self : α) (f : List IoSlice → τ) :
    withIoslice self f = f (iterSlices self) := by
  rw [withIoslice]
  split
  next h => rw [h]
  next x0 h => rw [h]
  next x0 x1 h => rw [h]
  next x0 x1 x2 rest h =>
    have hslice : (SmallVec.fromIter ([x0, x1, x2] ++ rest) : SmallVec IoSlice 3).asSlice =
        x0 :: x1 :: x2 :: rest := SmallVec.asSlice_fromIter _
    rw [h]
    exact congrArg f hslice

theorem foldlM_checkedAdd (lengths : List Nat) (sum : Nat) (hsum : sum < 2 ^ 64) :
    (lengths.foldlM checkedAdd sum : Outcome ε Nat) =
      if sum + lengths.sum < 2 ^ 64 then .ok (sum + lengths.sum)
      else .panic (.expect "iovec size overflow") := by
  induction lengths generalizing sum with
  | nil =>
      rw [List.sum_nil, Nat.add_zero, if_pos hsum]
      rfl
  | cons length lengths ih =>
      rw [List.foldlM_cons, List.sum_cons, checkedAdd]
      by_cases hfits : sum + length < 2 ^ 64
      · rw [if_pos hfits, Outcome.ok_bind, ih _ hfits, Nat.add_assoc]
      · have hover : ¬ sum + (length + lengths.sum) < 2 ^ 64 := by omega
        rw [if_neg hfits, if_neg hover, Outcome.panic_bind]

/-- The sum is the length of all bytes, unless no machine word holds it. -/
theorem sumLen_eq (self : α) :
    (sumLen self : Outcome ε Nat) =
      if (iterSlices self).flatten.length < 2 ^ 64 then .ok (iterSlices self).flatten.length
      else .panic (.expect "iovec size overflow") := by
  rw [sumLen, foldlM_checkedAdd _ 0 (by decide), Nat.zero_add, List.length_flatten]

end IosliceConcat

end Fuser
