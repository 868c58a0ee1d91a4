import Mathlib.Data.BitVec

/-!
A machine word read as the set of its one bits.

`all` is the union of the bits a flag type names. Complement stays inside it,
so that the complement of a set never contains an unnamed bit.
-/

namespace Bitflags

variable {w : Nat}

def contains (s t : BitVec w) : Bool := s &&& t == t

def complement (all s : BitVec w) : BitVec w := ~~~s &&& all

def isEmpty (s : BitVec w) : Bool := s == 0#w

theorem contains_iff (s t : BitVec w) :
    contains s t = true ↔ ∀ i, t.getLsbD i = true → s.getLsbD i = true := by
  simp only [contains, beq_iff_eq]
  constructor
  · intro h i hi
    rw [← h, BitVec.getLsbD_and, Bool.and_eq_true] at hi
    exact hi.1
  · intro h
    apply BitVec.eq_of_getLsbD_eq
    intro i hi
    rw [BitVec.getLsbD_and]
    cases ht : t.getLsbD i with
    | false => simp
    | true => simp [h i ht]

/-- Containing a single flag is having its bit. -/
theorem contains_twoPow (s : BitVec w) {k : Nat} (hk : k < w) :
    contains s (BitVec.twoPow w k) = s.getLsbD k := by
  rw [Bool.eq_iff_iff, contains_iff]
  constructor
  · intro h
    exact h k (by simp [hk])
  · intro h i hi
    simp only [BitVec.getLsbD_twoPow, Bool.and_eq_true, decide_eq_true_eq] at hi
    rw [← hi.2]
    exact h

theorem isEmpty_iff (s : BitVec w) : isEmpty s = true ↔ ∀ i, s.getLsbD i = false := by
  simp only [isEmpty, beq_iff_eq]
  constructor
  · intro h i
    simp [h]
  · intro h
    apply BitVec.eq_of_getLsbD_eq
    intro i _
    simp [h i]

theorem contains_and_left (s t : BitVec w) : contains s (s &&& t) = true := by
  rw [contains_iff]
  intro i hi
  rw [BitVec.getLsbD_and, Bool.and_eq_true] at hi
  exact hi.1

theorem and_or_eq_zero (s t u : BitVec w) :
    s &&& (t ||| u) = 0#w ↔ s &&& t = 0#w ∧ s &&& u = 0#w := by
  have hdisj : ∀ v : BitVec w, s &&& v = 0#w ↔ ∀ i, s.getLsbD i = true → v.getLsbD i = false := by
    intro v
    rw [← beq_iff_eq]
    exact (isEmpty_iff (s &&& v)).trans (by simp [BitVec.getLsbD_and])
  simp only [hdisj, BitVec.getLsbD_or, Bool.or_eq_false_iff]
  exact ⟨fun h => ⟨fun i hi => (h i hi).1, fun i hi => (h i hi).2⟩,
    fun h i hi => ⟨h.1 i hi, h.2 i hi⟩⟩

/-- A set lies within `all` if it has nothing outside of it. -/
theorem and_eq_self_iff (all s : BitVec w) : s &&& all = s ↔ s &&& ~~~all = 0#w := by
  have hsplit : s &&& all ||| s &&& ~~~all = s := by
    rw [← BitVec.and_or_distrib_left, BitVec.or_not_self, BitVec.and_allOnes]
  constructor
  · intro h
    rw [← h, BitVec.and_assoc, BitVec.and_not_self]
    exact BitVec.and_zero
  · intro h
    rwa [h, BitVec.or_zero] at hsplit

theorem contains_mono {s s' t : BitVec w} (hs : contains s' s = true)
    (h : contains s t = true) : contains s' t = true := by
  rw [contains_iff] at hs h ⊢
  exact fun i hi => hs i (h i hi)

end Bitflags
