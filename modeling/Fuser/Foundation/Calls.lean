import Fuser.Foundation.Outcome
import Mathlib.Algebra.BigOperators.Group.List.Basic
import Mathlib.Algebra.Order.Group.Multiset
import Mathlib.Tactic.Abel

/-!
Programs that make calls to the world around them and go on with the answers.

A program is known by its runs: the calls it makes, with the answers it gets, and
what it returns. A monitor follows the calls of a run through states of its own, and
a property of all runs is shown by following the program through the monitor once,
whatever the answers are.

The monitor that matters most keeps the things a program owns. A call may take things
that are owned, need others, and give new ones, so that nothing is given back twice,
nothing is used after it was given back, and what is owned in the end is known.
-/

namespace Calls

open Rust

variable {κ : Type} {ρ : κ → Type} {α β ε σ R : Type}

/-- A call and the answer to it. -/
abbrev Event (κ : Type) (ρ : κ → Type) : Type := (c : κ) × ρ c

/-- `retry` makes its call again for as long as the answers ask for it. -/
inductive Prog (κ : Type) (ρ : κ → Type) (α : Type) where
  | ret (a : α)
  | call (c : κ) (k : ρ c → Prog κ ρ α)
  | retry (c : κ) (again : ρ c → Bool) (k : ρ c → Prog κ ρ α)

namespace Prog

def bind : Prog κ ρ α → (α → Prog κ ρ β) → Prog κ ρ β
  | .ret a, f => f a
  | .call c k, f => .call c fun x => (k x).bind f
  | .retry c again k, f => .retry c again fun x => (k x).bind f

instance : Monad (Prog κ ρ) where
  pure := .ret
  bind := bind

/-- One call, whose answer is the result. -/
def send (c : κ) : Prog κ ρ (ρ c) := .call c .ret

/-- Go on with the value. On an error or a panic, drop what is in scope and pass it on. -/
def orLeave (x : Outcome ε α) (drops : Prog κ ρ Unit) (k : α → Prog κ ρ (Outcome ε β)) :
    Prog κ ρ (Outcome ε β) :=
  match x with
  | .ok a => k a
  | .err e => do drops; return .err e
  | .panic p => do drops; return .panic p

/-- The calls that a program makes until it returns. -/
inductive Run : Prog κ ρ α → List (Event κ ρ) → α → Prop where
  | ret (a : α) : Run (.ret a) [] a
  | call {c : κ} {k : ρ c → Prog κ ρ α} {log : List (Event κ ρ)} {a : α} (x : ρ c)
      (h : Run (k x) log a) : Run (.call c k) (⟨c, x⟩ :: log) a
  | again {c : κ} {again : ρ c → Bool} {k : ρ c → Prog κ ρ α} {log : List (Event κ ρ)} {a : α}
      (x : ρ c) (hx : again x = true) (h : Run (.retry c again k) log a) :
      Run (.retry c again k) (⟨c, x⟩ :: log) a
  | answered {c : κ} {again : ρ c → Bool} {k : ρ c → Prog κ ρ α} {log : List (Event κ ρ)} {a : α}
      (x : ρ c) (hx : again x = false) (h : Run (k x) log a) :
      Run (.retry c again k) (⟨c, x⟩ :: log) a

end Prog

/-! Monitors -/

/-- What follows the calls of a program. The answers that `allows` excludes do not
occur; `step` says which calls may be made in a state, and where they lead. -/
structure Monitor (κ : Type) (ρ : κ → Type) (σ : Type) where
  allows : (c : κ) → ρ c → Prop
  step : σ → (c : κ) → ρ c → σ → Prop

namespace Monitor

/-- The monitor follows the calls from one state to another. -/
inductive Follows (m : Monitor κ ρ σ) : σ → List (Event κ ρ) → σ → Prop where
  | nil (s : σ) : Follows m s [] s
  | cons {s s' s'' : σ} {c : κ} {x : ρ c} {log : List (Event κ ρ)} (h : m.step s c x s')
      (hlog : Follows m s' log s'') : Follows m s (⟨c, x⟩ :: log) s''

/-- From state `s`, the monitor can follow the program whatever it is answered, and the
result and the last state are as `Q` says. A call that is retried leaves the state as it
is, until it is answered. -/
def Keeps (m : Monitor κ ρ σ) : Prog κ ρ α → σ → (α → σ → Prop) → Prop
  | .ret a, s, Q => Q a s
  | .call c k, s, Q => ∀ x, m.allows c x → ∃ s', m.step s c x s' ∧ m.Keeps (k x) s' Q
  | .retry c again k, s, Q => ∀ x, m.allows c x →
      (again x = true → m.step s c x s) ∧
        (again x = false → ∃ s', m.step s c x s' ∧ m.Keeps (k x) s' Q)

variable {m : Monitor κ ρ σ} {p : Prog κ ρ α} {s : σ} {Q : α → σ → Prop}

theorem keeps_pure {a : α} (h : Q a s) : m.Keeps (pure a) s Q := h

theorem keeps_send {c : κ} {Q : ρ c → σ → Prop}
    (h : ∀ x, m.allows c x → ∃ s', m.step s c x s' ∧ Q x s') :
    m.Keeps (.send c) s Q := h

theorem Keeps.imp {Q' : α → σ → Prop} (h : m.Keeps p s Q) (hQ : ∀ a s', Q a s' → Q' a s') :
    m.Keeps p s Q' := by
  induction p generalizing s with
  | ret a => exact hQ a s h
  | call c k ih =>
      intro x hx
      obtain ⟨s', hstep, hrest⟩ := h x hx
      exact ⟨s', hstep, ih x hrest⟩
  | retry c again k ih =>
      intro x hx
      refine ⟨(h x hx).1, fun hagain => ?_⟩
      obtain ⟨s', hstep, hrest⟩ := (h x hx).2 hagain
      exact ⟨s', hstep, ih x hrest⟩

theorem Keeps.bind {f : α → Prog κ ρ β} {Q' : β → σ → Prop} (h : m.Keeps p s Q)
    (hf : ∀ a s', Q a s' → m.Keeps (f a) s' Q') : m.Keeps (p >>= f) s Q' := by
  induction p generalizing s with
  | ret a => exact hf a s h
  | call c k ih =>
      intro x hx
      obtain ⟨s', hstep, hrest⟩ := h x hx
      exact ⟨s', hstep, ih x hrest⟩
  | retry c again k ih =>
      intro x hx
      refine ⟨(h x hx).1, fun hagain => ?_⟩
      obtain ⟨s', hstep, hrest⟩ := (h x hx).2 hagain
      exact ⟨s', hstep, ih x hrest⟩

/-- What is kept of a program is true of every run of it. -/
theorem Keeps.follows {log : List (Event κ ρ)} {a : α} (h : m.Keeps p s Q) (hrun : p.Run log a)
    (hallows : ∀ event ∈ log, m.allows event.1 event.2) :
    ∃ s', m.Follows s log s' ∧ Q a s' := by
  induction hrun generalizing s with
  | ret a => exact ⟨s, .nil s, h⟩
  | call x hrun ih =>
      obtain ⟨hx, hlog⟩ := List.forall_mem_cons.mp hallows
      obtain ⟨s', hstep, hrest⟩ := h x hx
      obtain ⟨s'', hfollows, hQ⟩ := ih hrest hlog
      exact ⟨s'', .cons hstep hfollows, hQ⟩
  | again x hagain hrun ih =>
      obtain ⟨hx, hlog⟩ := List.forall_mem_cons.mp hallows
      obtain ⟨s', hfollows, hQ⟩ := ih h hlog
      exact ⟨s', .cons ((h x hx).1 hagain) hfollows, hQ⟩
  | answered x hagain hrun ih =>
      obtain ⟨hx, hlog⟩ := List.forall_mem_cons.mp hallows
      obtain ⟨s', hstep, hrest⟩ := (h x hx).2 hagain
      obtain ⟨s'', hfollows, hQ⟩ := ih hrest hlog
      exact ⟨s'', .cons hstep hfollows, hQ⟩

end Monitor

/-! Owning things -/

/-- What a call takes of the things that are owned, which things it needs to be owned, and
what it gives. -/
structure Ownership (κ : Type) (ρ : κ → Type) (R : Type) where
  allows : (c : κ) → ρ c → Prop
  needs : κ → Multiset R
  takes : (c : κ) → ρ c → Multiset R
  gives : (c : κ) → ρ c → Multiset R

namespace Ownership

def monitor (o : Ownership κ ρ R) : Monitor κ ρ (Multiset R) where
  allows := o.allows
  step held c x held' :=
    o.needs c ≤ held ∧ ∃ rest, held = o.takes c x + rest ∧ held' = o.gives c x + rest

/-- The calls are within what is owned, from `held` to `held'`. -/
def Accounts (o : Ownership κ ρ R) (held : Multiset R) (log : List (Event κ ρ))
    (held' : Multiset R) : Prop := o.monitor.Follows held log held'

/-- A program that owns `held` stays within that and what it is given, whatever the answers
are, and leaves a result and things that are as `Q` says. -/
def Owns (o : Ownership κ ρ R) (p : Prog κ ρ α) (held : Multiset R)
    (Q : α → Multiset R → Prop) : Prop := o.monitor.Keeps p held Q

variable {o : Ownership κ ρ R} {p : Prog κ ρ α} {held : Multiset R} {Q : α → Multiset R → Prop}

theorem owns_pure {a : α} (h : Q a held) : o.Owns (pure a) held Q := h

theorem owns_send {c : κ} {Q : ρ c → Multiset R → Prop} (hneeds : o.needs c ≤ held)
    (h : ∀ x, o.allows c x → ∃ rest, held = o.takes c x + rest ∧ Q x (o.gives c x + rest)) :
    o.Owns (.send c) held Q := by
  intro x hx
  obtain ⟨rest, hheld, hQ⟩ := h x hx
  exact ⟨o.gives c x + rest, ⟨hneeds, rest, hheld, rfl⟩, hQ⟩

theorem owns_send_bind {c : κ} {f : ρ c → Prog κ ρ α} (hneeds : o.needs c ≤ held)
    (h : ∀ x, o.allows c x →
      ∃ rest, held = o.takes c x + rest ∧ o.Owns (f x) (o.gives c x + rest) Q) :
    o.Owns (Prog.send c >>= f) held Q := by
  intro x hx
  obtain ⟨rest, hheld, hrest⟩ := h x hx
  exact ⟨o.gives c x + rest, ⟨hneeds, rest, hheld, rfl⟩, hrest⟩

theorem Owns.imp {Q' : α → Multiset R → Prop} (h : o.Owns p held Q)
    (hQ : ∀ a held', Q a held' → Q' a held') : o.Owns p held Q' :=
  Monitor.Keeps.imp h hQ

theorem Owns.bind {f : α → Prog κ ρ β} {Q' : β → Multiset R → Prop} (h : o.Owns p held Q)
    (hf : ∀ a held', Q a held' → o.Owns (f a) held' Q') : o.Owns (p >>= f) held Q' :=
  Monitor.Keeps.bind h hf

/-- Leaving early drops what is in scope, whatever the reason. -/
theorem owns_orLeave {x : Outcome ε α} {drops : Prog κ ρ Unit}
    {k : α → Prog κ ρ (Outcome ε β)} {Q : Outcome ε β → Multiset R → Prop}
    (hok : ∀ a, x = .ok a → o.Owns (k a) held Q)
    (hdrops : (∀ a, x ≠ .ok a) →
      o.Owns drops held fun _ held' => ∀ y, (∀ b, y ≠ .ok b) → Q y held') :
    o.Owns (Prog.orLeave x drops k) held Q := by
  cases x with
  | ok a => exact hok a rfl
  | err e => exact (hdrops (by simp)).bind fun _ _ hQ => hQ _ (by simp)
  | panic p => exact (hdrops (by simp)).bind fun _ _ hQ => hQ _ (by simp)

/-- What else is owned is left alone. -/
theorem Owns.frame (h : o.Owns p held Q) (others : Multiset R) :
    o.Owns p (held + others) fun a held' => ∃ own, held' = own + others ∧ Q a own := by
  have hstep {held held' : Multiset R} {c : κ} {x : ρ c} (h : o.monitor.step held c x held') :
      o.monitor.step (held + others) c x (held' + others) := by
    obtain ⟨hneeds, rest, rfl, rfl⟩ := h
    refine ⟨hneeds.trans (Multiset.le_add_right _ others), rest + others, ?_, ?_⟩ <;>
      rw [add_assoc]
  induction p generalizing held with
  | ret a => exact ⟨held, rfl, h⟩
  | call c k ih =>
      intro x hx
      obtain ⟨held', hx', hrest⟩ := h x hx
      exact ⟨held' + others, hstep hx', ih x hrest⟩
  | retry c again k ih =>
      intro x hx
      refine ⟨fun hagain => hstep ((h x hx).1 hagain), fun hagain => ?_⟩
      obtain ⟨held', hx', hrest⟩ := (h x hx).2 hagain
      exact ⟨held' + others, hstep hx', ih x hrest⟩

/-- A part of a program that works on a part of what is owned. -/
theorem Owns.frame_bind {own others : Multiset R} {f : α → Prog κ ρ β}
    {Q' : β → Multiset R → Prop} (h : o.Owns p own Q) (hheld : held = own + others)
    (hf : ∀ a own', Q a own' → o.Owns (f a) (own' + others) Q') : o.Owns (p >>= f) held Q' := by
  subst hheld
  refine (h.frame others).bind ?_
  rintro a _ ⟨own', rfl, hQ⟩
  exact hf a own' hQ

theorem Owns.accounts {log : List (Event κ ρ)} {a : α} (h : o.Owns p held Q)
    (hrun : p.Run log a) (hallows : ∀ event ∈ log, o.allows event.1 event.2) :
    ∃ held', o.Accounts held log held' ∧ Q a held' :=
  Monitor.Keeps.follows h hrun hallows

/-- What is known of the answers does not matter to what is accounted for. -/
theorem Accounts.of_allows {log : List (Event κ ρ)} {held' : Multiset R}
    (allows : (c : κ) → ρ c → Prop) (h : o.Accounts held log held') :
    ({ o with allows := allows } : Ownership κ ρ R).Accounts held log held' := by
  induction h with
  | nil held => exact .nil held
  | cons hstep hlog ih => exact .cons hstep ih

/-- What is owned in the end is what was owned and given, less what was taken. -/
theorem Accounts.add_eq {log : List (Event κ ρ)} {held' : Multiset R}
    (h : o.Accounts held log held') :
    held + (log.map fun event => o.gives event.1 event.2).sum =
      held' + (log.map fun event => o.takes event.1 event.2).sum := by
  induction h with
  | nil held => rfl
  | @cons held _ held' c x log hstep hlog ih =>
      obtain ⟨-, rest, rfl, rfl⟩ := hstep
      simp only [List.map_cons, List.sum_cons]
      calc o.takes c x + rest + (o.gives c x + (log.map fun e => o.gives e.1 e.2).sum)
          = o.takes c x + (o.gives c x + rest + (log.map fun e => o.gives e.1 e.2).sum) := by abel
        _ = o.takes c x + (held' + (log.map fun e => o.takes e.1 e.2).sum) := by rw [ih]
        _ = held' + (o.takes c x + (log.map fun e => o.takes e.1 e.2).sum) := add_left_comm _ _ _

end Ownership

end Calls
