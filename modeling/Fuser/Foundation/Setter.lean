import Fuser.Foundation.Outcome
import Mathlib.Data.Nat.Dist

/-!
Methods that store a value, or refuse it and name another one.

What a caller wants of a refusal is that it left nothing behind, that the named
value is taken, and that no value nearer to the refused one would be. A method
that takes a range of values and names the bound that was missed does that just
when there is a value in the range.
-/

namespace Rust

/-- A method that returns the value it replaced, or one it would have stored. -/
def Setter (σ α : Type) : Type := α → Method σ α α

namespace Setter

variable {σ α : Type}

def Accepts (set : Setter σ α) (s : σ) (value : α) : Prop :=
  ∃ previous, ((set value).run s).1 = .ok previous

/-- A refusal of `value` changes nothing and names a value that is accepted, and
no accepted value lies nearer to the refused one. -/
def RefusesWithNearest (set : Setter σ α) (measure : α → Nat) (s : σ) (value : α) : Prop :=
  ∀ named, ((set value).run s).1 = .err named →
    ((set value).run s).2 = s ∧
    set.Accepts ((set value).run s).2 named ∧
    ∀ other, set.Accepts s other →
      ¬ (measure other).dist (measure value) < (measure named).dist (measure value)

theorem refusesWithNearest_of_accepts {set : Setter σ α} {measure : α → Nat} {s : σ} {value : α}
    (h : set.Accepts s value) : set.RefusesWithNearest measure s value := by
  intro named hnamed
  obtain ⟨previous, hprevious⟩ := h
  rw [hprevious] at hnamed
  cases hnamed

/-- For a value known to be refused. -/
theorem refusesWithNearest_iff_of_err {set : Setter σ α} {measure : α → Nat} {s : σ}
    {value named : α} (h : (set value).run s = (.err named, s)) :
    set.RefusesWithNearest measure s value ↔
      set.Accepts s named ∧ ∀ other, set.Accepts s other →
        ¬ (measure other).dist (measure value) < (measure named).dist (measure value) := by
  constructor
  · intro hnearest
    have hrefused := hnearest named (congrArg Prod.fst h)
    rw [h] at hrefused
    exact hrefused.2
  · intro hnamed other hother
    rw [h] at hother ⊢
    cases hother
    exact ⟨rfl, hnamed⟩

/-- The values of a range are taken, and any other is refused with the bound it
misses. -/
def TakesRange (set : Setter σ α) (measure : α → Nat) (s : σ) (lo hi : Nat) : Prop :=
  ∀ value,
    (lo ≤ measure value ∧ measure value ≤ hi ∧ set.Accepts s value) ∨
    ∃ named, (set value).run s = (.err named, s) ∧
      (measure value < lo ∧ measure named = lo ∨ hi < measure value ∧ measure named = hi)

namespace TakesRange

variable {set : Setter σ α} {measure : α → Nat} {s : σ} {lo hi : Nat}

theorem range_of_accepts (h : set.TakesRange measure s lo hi) {value : α}
    (haccepts : set.Accepts s value) : lo ≤ measure value ∧ measure value ≤ hi := by
  obtain ⟨hlo, hhi, -⟩ | ⟨named, hrun, -⟩ := h value
  · exact ⟨hlo, hhi⟩
  · obtain ⟨previous, hprevious⟩ := haccepts
    rw [hrun] at hprevious
    cases hprevious

theorem accepts_of_range (h : set.TakesRange measure s lo hi) {value : α}
    (hlo : lo ≤ measure value) (hhi : measure value ≤ hi) : set.Accepts s value := by
  obtain ⟨-, -, haccepts⟩ | ⟨named, -, ⟨hlt, -⟩ | ⟨hlt, -⟩⟩ := h value
  · exact haccepts
  · exact absurd hlo (Nat.not_le.mpr hlt)
  · exact absurd hhi (Nat.not_le.mpr hlt)

/-- With an empty range every value is refused, and with a value that is refused. -/
theorem refusesWithNearest_iff_le (h : set.TakesRange measure s lo hi) (value : α) :
    set.RefusesWithNearest measure s value ↔ lo ≤ hi := by
  obtain ⟨hlo, hhi, haccepts⟩ | ⟨named, hrun, hbound⟩ := h value
  · exact ⟨fun _ => Nat.le_trans hlo hhi, fun _ => refusesWithNearest_of_accepts haccepts⟩
  · rw [refusesWithNearest_iff_of_err hrun]
    constructor
    · intro hnamed
      obtain ⟨hlo, hhi⟩ := h.range_of_accepts hnamed.1
      exact Nat.le_trans hlo hhi
    · intro hle
      refine ⟨h.accepts_of_range (by omega) (by omega), fun other hother => ?_⟩
      obtain ⟨hlo, hhi⟩ := h.range_of_accepts hother
      simp only [Nat.dist]
      omega

end TakesRange

end Setter

end Rust
