import Fuser.Foundation.Outcome
import Mathlib.Data.List.Basic

/-!
Methods whose state is a log that they add to. Such a method does the same whatever
the log held before, so that it can be described by what it adds to an empty one.
-/

namespace Rust.Method

variable {τ ε α β : Type}

/-- What a method adds to the log does not depend on what is there. -/
def Appends (m : Method (List τ) ε α) : Prop :=
  ∀ log, m.run log = ((m.run []).1, log ++ (m.run []).2)

theorem appends_pure (a : α) : (pure a : Method (List τ) ε α).Appends := by
  intro log
  simp only [run_pure, List.append_nil]

theorem appends_abort (p : Panic) : (abort p : Method (List τ) ε α).Appends := by
  intro log
  simp only [run, abort, List.append_nil]

theorem Appends.bind {m : Method (List τ) ε α} {f : α → Method (List τ) ε β} (hm : m.Appends)
    (hf : ∀ a, (f a).Appends) : (m >>= f).Appends := by
  intro log
  have hlog := hm log
  rcases hrun : m.run [] with ⟨outcome, added⟩
  rw [hrun] at hlog
  cases outcome with
  | ok a =>
      rw [run_bind_of_ok f hlog, run_bind_of_ok f hrun, hf a (log ++ added), hf a added,
        List.append_assoc]
  | err e => rw [run_bind_of_err f hlog, run_bind_of_err f hrun]
  | panic p => rw [run_bind_of_panic f hlog, run_bind_of_panic f hrun]

end Rust.Method
