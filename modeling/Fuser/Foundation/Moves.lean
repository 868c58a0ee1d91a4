import Mathlib.Order.Defs.Unbundled
import Fuser.Foundation.Outcome

/-!
What a method does to the state it borrows: it keeps an invariant on each of its exits and, if
it comes back, has moved along an order of the states, whether it returns a value or an error.
-/

namespace Rust.Method

variable {σ ε ε' α β : Type}

/-- Go on with the error as a value. -/
def attempt (m : Method σ ε α) : Method σ ε' (Except ε α) := fun s =>
  match m.run s with
  | (.ok a, s') => (.ok (.ok a), s')
  | (.err e, s') => (.ok (.error e), s')
  | (.panic p, s') => (.panic p, s')

/-- `unwrap` of a result: an error panics. -/
def unwrap (m : Method σ ε' α) : Method σ ε α := fun s =>
  match m.run s with
  | (.ok a, s') => (.ok a, s')
  | (.err _, s') => (.panic (.expect "called Result::unwrap() on an Err value"), s')
  | (.panic p, s') => (.panic p, s')

def failIf (c : Prop) [Decidable c] (e : ε) : Method σ ε Unit := if c then fail e else pure ()

/-- Run from a state with the invariant, a method leaves one that has it and, unless it
unwinds, that `R` relates to the first. `Q` holds of what it returns and of the state it
leaves. -/
def Moves (I : σ → Prop) (R : σ → σ → Prop) (m : Method σ ε α) (s : σ) (Q : α → σ → Prop) : Prop :=
  I s →
    match m.run s with
    | (.ok a, s') => I s' ∧ R s s' ∧ Q a s'
    | (.err _, s') => I s' ∧ R s s'
    | (.panic _, s') => I s'

variable {I : σ → Prop} {R : σ → σ → Prop} {m : Method σ ε α} {s : σ} {Q : α → σ → Prop}

theorem Moves.ok (h : m.Moves I R s Q) (hs : I s) {a : α} {s' : σ} (hrun : m.run s = (.ok a, s')) :
    I s' ∧ R s s' ∧ Q a s' := by
  have hmoves := h hs
  rw [hrun] at hmoves
  exact hmoves

theorem Moves.imp {Q' : α → σ → Prop} (h : m.Moves I R s Q)
    (himp : ∀ a s', I s' → R s s' → Q a s' → Q' a s') : m.Moves I R s Q' := by
  intro hs
  have hmoves := h hs
  rcases hrun : m.run s with ⟨a | e | p, s'⟩
  · rw [hrun] at hmoves
    obtain ⟨hI, hR, hQ⟩ := hmoves
    exact ⟨hI, hR, himp a s' hI hR hQ⟩
  · rw [hrun] at hmoves
    exact hmoves
  · rw [hrun] at hmoves
    exact hmoves

/-- The invariant is there on each exit. -/
theorem Moves.inv (h : m.Moves I R s Q) (hs : I s) : I (m.run s).2 := by
  have hmoves := h hs
  rcases hrun : m.run s with ⟨a | e | p, s'⟩
  all_goals rw [hrun] at hmoves
  · exact hmoves.1
  · exact hmoves.1
  · exact hmoves

theorem moves_of_inv (h : I s → m.Moves I R s Q) : m.Moves I R s Q := fun hs => h hs hs

theorem moves_abort {p : Panic} : (abort p : Method σ ε α).Moves I R s Q := id

theorem moves_unwrap {m : Method σ ε' α} (h : m.Moves I R s Q) :
    (unwrap m : Method σ ε α).Moves I R s Q := by
  intro hs
  have hmoves := h hs
  rcases hrun : m.run s with ⟨a | e | p, s'⟩
  all_goals rw [hrun] at hmoves
  all_goals simp only [run] at hrun
  · simpa only [run, unwrap, hrun] using hmoves
  · simpa only [run, unwrap, hrun] using hmoves.1
  · simpa only [run, unwrap, hrun] using hmoves

section Refl

variable [Std.Refl R]

theorem moves_pure {a : α} (h : I s → Q a s) : (pure a : Method σ ε α).Moves I R s Q :=
  fun hs => ⟨hs, Std.Refl.refl s, h hs⟩

theorem moves_fail {e : ε} : (fail e : Method σ ε α).Moves I R s Q :=
  fun hs => ⟨hs, Std.Refl.refl s⟩

theorem moves_ofOutcome (x : Outcome ε α) :
    (ofOutcome x).Moves I R s fun a s' => x = .ok a ∧ s' = s := by
  intro hs
  cases x with
  | ok a => exact ⟨hs, Std.Refl.refl s, rfl, rfl⟩
  | err e => exact ⟨hs, Std.Refl.refl s⟩
  | panic p => exact hs

theorem moves_failIf {c : Prop} [Decidable c] {e : ε} :
    (failIf c e : Method σ ε Unit).Moves I R s fun _ s' => ¬ c ∧ s' = s := by
  unfold failIf
  split
  next => exact moves_fail
  next hc => exact moves_pure fun _ => ⟨hc, rfl⟩

end Refl

/-- Only the state is of interest after an error that the method goes on with. -/
theorem moves_attempt {m : Method σ ε α} (h : m.Moves I R s Q) :
    (attempt m : Method σ ε' (Except ε α)).Moves I R s
      fun result s' => ∀ a, result = .ok a → Q a s' := by
  intro hs
  have hmoves := h hs
  rcases hrun : m.run s with ⟨a | e | p, s'⟩
  all_goals rw [hrun] at hmoves
  all_goals simp only [run] at hrun
  all_goals simp only [run, attempt, hrun]
  · refine ⟨hmoves.1, hmoves.2.1, fun b hb => ?_⟩
    cases hb
    exact hmoves.2.2
  · refine ⟨hmoves.1, hmoves.2, fun b hb => ?_⟩
    cases hb
  · exact hmoves

/-- What follows starts from wherever the first part may have left the state. -/
theorem Moves.bind [IsTrans σ R] {f : α → Method σ ε β} {Q' : β → σ → Prop}
    (hm : m.Moves I R s Q) (hf : ∀ a s', R s s' → Q a s' → (f a).Moves I R s' Q') :
    (m >>= f).Moves I R s Q' := by
  intro hs
  have hmoves := hm hs
  rcases hrun : m.run s with ⟨a | e | p, s'⟩
  all_goals rw [hrun] at hmoves
  · obtain ⟨hI, hR, hQ⟩ := hmoves
    have hnext := hf a s' hR hQ hI
    rw [run_bind_of_ok f hrun]
    rcases hrun' : (f a).run s' with ⟨b | e | p, s''⟩
    all_goals rw [hrun'] at hnext
    · exact ⟨hnext.1, IsTrans.trans _ _ _ hR hnext.2.1, hnext.2.2⟩
    · exact ⟨hnext.1, IsTrans.trans _ _ _ hR hnext.2⟩
    · exact hnext
  · rw [run_bind_of_err f hrun]
    exact hmoves
  · rw [run_bind_of_panic f hrun]
    exact hmoves

/-- One of two parts, and what comes after both. -/
theorem moves_either [IsTrans σ R] {c : Prop} [Decidable c] {m m' : Method σ ε α}
    {rest : α → Method σ ε β} {Q' : β → σ → Prop} (hm : c → m.Moves I R s Q)
    (hm' : ¬ c → m'.Moves I R s Q)
    (hrest : ∀ a s', R s s' → Q a s' → (rest a).Moves I R s' Q') :
    (if c then m >>= rest else m' >>= rest).Moves I R s Q' := by
  split
  next hc => exact (hm hc).bind hrest
  next hc => exact (hm' hc).bind hrest

/-- A part that is left out or not, and what comes after it. -/
theorem moves_ifThen [Std.Refl R] [IsTrans σ R] {c : Prop} [Decidable c] {m : Method σ ε Unit}
    {rest : Unit → Method σ ε α} (hm : c → m.Moves I R s fun _ _ => True)
    (hrest : ∀ s', R s s' → (rest ()).Moves I R s' Q) :
    (if c then m >>= rest else rest ()).Moves I R s Q := by
  split
  next hc => exact (hm hc).bind fun _ s' h _ => hrest s' h
  next => exact hrest s (Std.Refl.refl s)

end Rust.Method
