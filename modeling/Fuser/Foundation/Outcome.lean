import Mathlib.Logic.Basic

/-!
Results of a program that may fail with an error value or abort with a panic,
and methods that update the state they borrow.

A panic is kept apart from an error: an error is returned to the caller, a
panic unwinds it. A method keeps the state it reached on every exit, so that
what a failed call leaves behind can be stated.
-/

namespace Rust

/-- What made a thread panic. -/
inductive Panic where
  | explicit (message : String)
  | assertion
  | sliceIndex
  | expect (message : String)
  deriving DecidableEq, Repr

inductive Outcome (ε α : Type) where
  | ok (value : α)
  | err (error : ε)
  | panic (reason : Panic)
  deriving DecidableEq, Repr

namespace Outcome

variable {ε ε' α β : Type}

def bind (x : Outcome ε α) (f : α → Outcome ε β) : Outcome ε β :=
  match x with
  | .ok a => f a
  | .err e => .err e
  | .panic p => .panic p

instance : Monad (Outcome ε) where
  pure := .ok
  bind := bind

@[simp] theorem ok_bind (a : α) (f : α → Outcome ε β) : (Outcome.ok a >>= f) = f a := rfl

@[simp] theorem err_bind (e : ε) (f : α → Outcome ε β) :
    (Outcome.err e >>= f) = Outcome.err e := rfl

@[simp] theorem panic_bind (p : Panic) (f : α → Outcome ε β) :
    (Outcome.panic p >>= f) = Outcome.panic p := rfl

@[simp] theorem pure_eq_ok (a : α) : (pure a : Outcome ε α) = .ok a := rfl

def map (f : α → β) : Outcome ε α → Outcome ε β
  | .ok a => .ok (f a)
  | .err e => .err e
  | .panic p => .panic p

theorem map_map {γ : Type} (f : α → β) (g : β → γ) (x : Outcome ε α) :
    (x.map f).map g = x.map (fun a => g (f a)) := by
  cases x <;> rfl

theorem map_id (x : Outcome ε α) : x.map id = x := by
  cases x <;> rfl

def mapErr (f : ε → ε') : Outcome ε α → Outcome ε' α
  | .ok a => .ok a
  | .err e => .err (f e)
  | .panic p => .panic p

/-- The call comes back to its caller, with a value or with an error. -/
def Returns (x : Outcome ε α) : Prop := ∀ p, x ≠ .panic p

@[simp] theorem returns_ok (a : α) : (Outcome.ok a : Outcome ε α).Returns := nofun

@[simp] theorem returns_err (e : ε) : (Outcome.err e : Outcome ε α).Returns := nofun

@[simp] theorem not_returns_panic (p : Panic) : ¬ (Outcome.panic p : Outcome ε α).Returns :=
  fun h => h p rfl

theorem Returns.of_ok {x : Outcome ε α} (h : ∃ a, x = .ok a) : x.Returns := by
  obtain ⟨a, rfl⟩ := h
  exact returns_ok a

theorem Returns.bind {x : Outcome ε α} {f : α → Outcome ε β} (hx : x.Returns)
    (hf : ∀ a, (f a).Returns) : (x >>= f).Returns := by
  cases x with
  | ok a => exact hf a
  | err e => exact returns_err e
  | panic p => exact absurd hx (not_returns_panic p)

theorem Returns.map {x : Outcome ε α} (hx : x.Returns) (f : α → β) : (x.map f).Returns := by
  cases x with
  | ok a => exact returns_ok (f a)
  | err e => exact returns_err e
  | panic p => exact absurd hx (not_returns_panic p)

@[simp] theorem returns_mapErr (f : ε → ε') (x : Outcome ε α) :
    (x.mapErr f).Returns ↔ x.Returns := by
  cases x <;> simp [mapErr]

end Outcome

/-- A method on a value of type `σ` that it may update. -/
def Method (σ ε α : Type) : Type := σ → Outcome ε α × σ

namespace Method

variable {σ ε α β : Type}

def run (m : Method σ ε α) (s : σ) : Outcome ε α × σ := m s

def bind (m : Method σ ε α) (f : α → Method σ ε β) : Method σ ε β := fun s =>
  match m s with
  | (.ok a, s') => f a s'
  | (.err e, s') => (.err e, s')
  | (.panic p, s') => (.panic p, s')

instance : Monad (Method σ ε) where
  pure a := fun s => (.ok a, s)
  bind := bind

/-- Return early with an error. -/
def fail (e : ε) : Method σ ε α := fun s => (.err e, s)

/-- Unwind. -/
def abort (p : Panic) : Method σ ε α := fun s => (.panic p, s)

def ofOutcome (x : Outcome ε α) : Method σ ε α := fun s => (x, s)

instance : LawfulMonad (Method σ ε) :=
  LawfulMonad.mk' _
    (by
      intro α m
      funext s
      change Method.bind m pure s = m s
      rcases h : m s with ⟨a | e | p, s'⟩
      · simp only [bind, h]
        rfl
      · simp only [bind, h]
      · simp only [bind, h])
    (fun _ _ => rfl)
    (by
      intro α β γ m f g
      funext s
      change Method.bind (Method.bind m f) g s = Method.bind m (fun a => Method.bind (f a) g) s
      rcases h : m s with ⟨a | e | p, s'⟩
      all_goals simp only [bind, h])

@[simp] theorem map_fail (f : α → β) (e : ε) : (f <$> fail e : Method σ ε β) = fail e := rfl

@[simp] theorem map_abort (f : α → β) (p : Panic) :
    (f <$> abort p : Method σ ε β) = abort p := rfl

theorem run_eq_mk {m : Method σ ε α} {s : σ} {x : Outcome ε α} (h : (m.run s).1 = x) :
    m.run s = (x, (m.run s).2) := Prod.ext h rfl

@[simp] theorem run_pure (a : α) (s : σ) :
    (pure a : Method σ ε α).run s = (.ok a, s) := rfl

@[simp] theorem run_fail (e : ε) (s : σ) :
    (fail e : Method σ ε α).run s = (.err e, s) := rfl

theorem run_bind_of_ok {m : Method σ ε α} {s s' : σ} {a : α} (f : α → Method σ ε β)
    (h : m.run s = (.ok a, s')) : (m >>= f).run s = (f a).run s' := by
  change Method.bind m f s = _
  rw [run] at h
  simp only [bind, h, run]

theorem run_bind_of_err {m : Method σ ε α} {s s' : σ} {e : ε} (f : α → Method σ ε β)
    (h : m.run s = (.err e, s')) : (m >>= f).run s = (.err e, s') := by
  change Method.bind m f s = _
  rw [run] at h
  simp only [bind, h]

theorem run_bind_of_panic {m : Method σ ε α} {s s' : σ} {p : Panic} (f : α → Method σ ε β)
    (h : m.run s = (.panic p, s')) : (m >>= f).run s = (.panic p, s') := by
  change Method.bind m f s = _
  rw [run] at h
  simp only [bind, h]

/-- A sequence that succeeds is made of steps that do. -/
theorem run_bind_eq_ok {m : Method σ ε α} {f : α → Method σ ε β} {s s'' : σ} {b : β}
    (h : (m >>= f).run s = (.ok b, s'')) :
    ∃ a s', m.run s = (.ok a, s') ∧ (f a).run s' = (.ok b, s'') := by
  rcases hrun : m.run s with ⟨res, s'⟩
  cases res with
  | ok a =>
      rw [run_bind_of_ok f hrun] at h
      exact ⟨a, s', rfl, h⟩
  | err e =>
      rw [run_bind_of_err f hrun] at h
      cases h
  | panic p =>
      rw [run_bind_of_panic f hrun] at h
      cases h

theorem run_map (f : α → β) (m : Method σ ε α) (s : σ) :
    (f <$> m).run s = ((m.run s).1.map f, (m.run s).2) := by
  change Method.bind m (fun a => pure (f a)) s = _
  rw [run]
  rcases h : m s with ⟨a | e | p, s'⟩
  · simp only [bind, h]
    rfl
  · simp only [bind, h]
    rfl
  · simp only [bind, h]
    rfl

/-- A method run from `s` comes back, and `Q` holds of what it returns and of
the state it leaves when it succeeds. -/
def Safe (m : Method σ ε α) (s : σ) (Q : α → σ → Prop) : Prop :=
  match m.run s with
  | (.ok a, s') => Q a s'
  | (.err _, _) => True
  | (.panic _, _) => False

theorem Safe.returns {m : Method σ ε α} {s : σ} {Q : α → σ → Prop} (h : m.Safe s Q) :
    (m.run s).1.Returns := by
  unfold Safe at h
  split at h
  next heq => simp [heq]
  next heq => simp [heq]
  next => contradiction

theorem Safe.of_ok {m : Method σ ε α} {s s' : σ} {Q : α → σ → Prop} {a : α} (h : m.Safe s Q)
    (hrun : m.run s = (.ok a, s')) : Q a s' := by
  simpa only [Safe, hrun] using h

theorem safe_pure {s : σ} {Q : α → σ → Prop} {a : α} (h : Q a s) :
    (pure a : Method σ ε α).Safe s Q := h

theorem safe_fail {s : σ} {Q : α → σ → Prop} {e : ε} : (fail e : Method σ ε α).Safe s Q :=
  True.intro

theorem Safe.bind {m : Method σ ε α} {f : α → Method σ ε β} {s : σ} {Q : α → σ → Prop}
    {R : β → σ → Prop} (hm : m.Safe s Q) (hf : ∀ a s', Q a s' → (f a).Safe s' R) :
    (m >>= f).Safe s R := by
  rcases hrun : m.run s with ⟨res, s'⟩
  cases res with
  | ok a =>
      have h := hf a s' (hm.of_ok hrun)
      simpa only [Safe, run_bind_of_ok f hrun] using h
  | err e => simp only [Safe, run_bind_of_err f hrun]
  | panic p => simp only [Safe, hrun] at hm

theorem Safe.imp {m : Method σ ε α} {s : σ} {Q R : α → σ → Prop} (h : m.Safe s Q)
    (hQR : ∀ a s', Q a s' → R a s') : m.Safe s R := by
  unfold Safe at h ⊢
  split at h <;> simp_all

/-- What is known of a state that a method leaves is that it leaves it. -/
theorem Safe.with_run {m : Method σ ε α} {s : σ} {Q : α → σ → Prop} (h : m.Safe s Q) :
    m.Safe s (fun a s' => m.run s = (.ok a, s')) := by
  unfold Safe at h ⊢
  split at h <;> simp_all

/-- Whatever a method returns satisfies `Q`; it need not come back. -/
def Yields (m : Method σ ε α) (Q : α → Prop) : Prop := ∀ s a s', m.run s = (.ok a, s') → Q a

theorem yields_pure {Q : α → Prop} {a : α} (h : Q a) : (pure a : Method σ ε α).Yields Q := by
  rintro s a' s' ⟨⟩
  exact h

theorem yields_fail {Q : α → Prop} {e : ε} : (fail e : Method σ ε α).Yields Q := nofun

theorem yields_abort {Q : α → Prop} {p : Panic} : (abort p : Method σ ε α).Yields Q := nofun

theorem yields_true (m : Method σ ε α) : m.Yields (fun _ => True) := fun _ _ _ _ => True.intro

theorem Yields.bind {m : Method σ ε α} {f : α → Method σ ε β} {Q : α → Prop} {R : β → Prop}
    (hm : m.Yields Q) (hf : ∀ a, Q a → (f a).Yields R) : (m >>= f).Yields R := by
  intro s b s' h
  obtain ⟨a, s₁, hm', hf'⟩ := run_bind_eq_ok h
  exact hf a (hm s a s₁ hm') s₁ b s' hf'

/-- A method keeps `I` of the state, however it ends. -/
def Preserves (m : Method σ ε α) (I : σ → Prop) : Prop := ∀ s, I s → I (m.run s).2

theorem preserves_pure {I : σ → Prop} (a : α) : (pure a : Method σ ε α).Preserves I :=
  fun _ h => h

theorem preserves_fail {I : σ → Prop} (e : ε) : (fail e : Method σ ε α).Preserves I :=
  fun _ h => h

theorem preserves_ofOutcome {I : σ → Prop} (x : Outcome ε α) : (ofOutcome x).Preserves I :=
  fun _ h => h

theorem Preserves.bind {m : Method σ ε α} {f : α → Method σ ε β} {I : σ → Prop}
    (hm : m.Preserves I) (hf : ∀ a, (f a).Preserves I) : (m >>= f).Preserves I := by
  intro s hs
  have hleft := hm s hs
  rcases hrun : m.run s with ⟨outcome, s'⟩
  rw [hrun] at hleft
  cases outcome with
  | ok a =>
      rw [run_bind_of_ok f hrun]
      exact hf a s' hleft
  | err e =>
      rw [run_bind_of_err f hrun]
      exact hleft
  | panic p =>
      rw [run_bind_of_panic f hrun]
      exact hleft

end Method

end Rust
