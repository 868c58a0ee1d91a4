import Mathlib.Tactic.Common

/-!
Vectors that avoid an allocation while they are small. Where the elements are
kept depends on how the vector came about; what can be read back does not.
-/

namespace Rust

/-- A vector that keeps up to `n` elements in place and more of them on the heap. -/
inductive SmallVec (α : Type) (n : Nat) where
  | inline (data : List α) (fits : data.length ≤ n)
  | heap (data : List α)

namespace SmallVec

variable {α : Type} {n : Nat}

def asSlice : SmallVec α n → List α
  | inline data _ => data
  | heap data => data

/-- Elements are copied into the value when there is room for them. -/
def fromSlice (data : List α) : SmallVec α n :=
  if h : data.length ≤ n then inline data h else heap data

/-- A vector is taken over as it is, unless its elements fit in place. -/
def fromVec (data : List α) : SmallVec α n :=
  if h : data.length ≤ n then inline data h else heap data

/-- Elements are added one by one, and move to the heap when the place is full. -/
def push (self : SmallVec α n) (value : α) : SmallVec α n :=
  match self with
  | inline data _ =>
      if h : (data ++ [value]).length ≤ n then inline (data ++ [value]) h
      else heap (data ++ [value])
  | heap data => heap (data ++ [value])

def fromIter (data : List α) : SmallVec α n :=
  data.foldl push (inline [] (Nat.zero_le n))

@[simp] theorem asSlice_fromSlice (data : List α) : (fromSlice data : SmallVec α n).asSlice = data := by
  rw [fromSlice]
  split <;> rfl

@[simp] theorem asSlice_fromVec (data : List α) : (fromVec data : SmallVec α n).asSlice = data := by
  rw [fromVec]
  split <;> rfl

@[simp] theorem asSlice_push (self : SmallVec α n) (value : α) :
    (self.push value).asSlice = self.asSlice ++ [value] := by
  cases self with
  | inline data fits =>
      simp only [push]
      split <;> rfl
  | heap data => rfl

theorem asSlice_foldl_push (data : List α) (self : SmallVec α n) :
    (data.foldl push self).asSlice = self.asSlice ++ data := by
  induction data generalizing self with
  | nil => simp
  | cons value data ih => rw [List.foldl_cons, ih, asSlice_push, List.append_assoc]; rfl

@[simp] theorem asSlice_fromIter (data : List α) : (fromIter data : SmallVec α n).asSlice = data := by
  rw [fromIter, asSlice_foldl_push]
  rfl

end SmallVec

end Rust
