import Fuser.Mount

/-!
What a caller learns when a call to unmount returns `Ok`. An empty slot is taken
for a filesystem that is unmounted, and it is empty for other reasons as well: a
failed attempt has used the mount up, or `Session::spawn` has moved it.
-/

namespace Fuser.Mounting

/-- The mount is really gone: it was unmounted, or its connection was found dead. -/
def Gone (log : List Event) : Prop := .umountImpl (.ok ()) ∈ log ∨ .shouldUnmount false ∈ log

def Failed (log : List Event) : Prop := ∃ e, .umountImpl (.error e) ∈ log

/-- The mount was gone by the time any unmount call returned `Ok`. -/
def Trustworthy (log : List Event) : Prop :=
  ∀ before after call, log = before ++ .returned call (.ok ()) :: after → Gone before

/-- Where an unmount call looks for the mount. -/
def World.looksAt (s : World) : UnmountCall → Option Mount
  | .sessionUnmount | .unmounterUnmount => s.slot
  | .umountAndJoin => match s.background with
    | .held mount => mount
    | _ => none

/-- A call that finds no mount does not do so because an attempt to unmount failed before,
or because `spawn` or the background session has the mount. -/
def Meets (s : World) : Option UnmountCall → Prop
  | none => True
  | some call =>
      s.looksAt call = none → ¬ Failed s.log ∧ s.spawn.pending = 0 ∧ s.background.pending = 0

/-- A run in which every step meets the condition. -/
def RunsMeeting : World → World → Prop :=
  Relation.ReflTransGen fun s s' => ∃ call, Step s call s' ∧ Meets s call

theorem Gone.append {log : List Event} (h : Gone log) (events : List Event) :
    Gone (log ++ events) :=
  h.imp (List.mem_append_left events) (List.mem_append_left events)

theorem gone_of_finished {log : List Event} (h : 0 < finished log) (hfailed : ¬ Failed log) :
    Gone log := by
  obtain ⟨result, hmem⟩ | hdead := exists_of_finished h
  · cases result with
    | ok value => exact .inl hmem
    | error e => exact absurd ⟨e, hmem⟩ hfailed
  · exact .inr hdead

theorem trustworthy_nil : Trustworthy [] := by
  intro before after call h
  simp at h

theorem Trustworthy.append {log events : List Event} (h : Trustworthy log)
    (hevents : ∀ before after call, events = before ++ .returned call (.ok ()) :: after →
      Gone (log ++ before)) : Trustworthy (log ++ events) := by
  intro before after call hsplit
  obtain ⟨rest, hbefore, hrest⟩ | ⟨rest, hlog, hrest⟩ := List.append_eq_append_iff.mp hsplit
  · rw [hbefore]
    exact hevents rest after call hrest
  · cases rest with
    | nil =>
        rw [List.append_nil] at hlog
        have hgone := hevents [] after call hrest.symm
        rwa [List.append_nil, hlog] at hgone
    | cons event rest =>
        injection hrest with hevent _
        exact h before rest call (hevent ▸ hlog)

/-- A return that is the truth, or an error, keeps the log trustworthy. -/
theorem Trustworthy.returned {log : List Event} (h : Trustworthy log) (call : UnmountCall)
    (result : IoResult) (hgone : result = .ok () → Gone log) :
    Trustworthy (log ++ [.returned call result]) := by
  refine h.append fun before after call' hsplit => ?_
  cases before with
  | nil =>
      injection hsplit with hevent _
      injection hevent with _ hresult
      rw [List.append_nil]
      exact hgone hresult
  | cons event before => simp at hsplit

theorem Trustworthy.teardown {log events : List Event} {teardown teardown' : Teardown}
    (h : Trustworthy log) (hstep : teardown.Step events teardown') :
    Trustworthy (log ++ events) := by
  refine h.append fun before after call hsplit => ?_
  have hmem : .returned call (.ok ()) ∈ events := by simp [hsplit]
  cases hstep <;> simp at hmem

/-- A mount that has an owner has its implementation. -/
structure Whole (s : World) : Prop where
  slot : ∀ mount, s.slot = some mount → mount.mountImpl ≠ none
  locked : ∀ locker mount, s.locked = some (locker, .begun mount) → mount.mountImpl ≠ none
  starting : ∀ mount, s.spawn = .starting (some mount) → mount.mountImpl ≠ none
  held : ∀ mount, s.background = .held (some mount) → mount.mountImpl ≠ none
  unmounting : ∀ mount, s.background = .unmounting (.begun mount) → mount.mountImpl ≠ none

/-- A teardown that came to `Ok` did so because the mount is gone. -/
structure Settled (s : World) : Prop where
  locked : ∀ locker, s.locked = some (locker, .ended (.ok ())) → Gone s.log
  unmounted : s.background = .unmounting (.ended (.ok ())) → Gone s.log
  joining : ∀ mount, s.background = .joining .umountAndJoin mount → Gone s.log

theorem Teardown.Step.not_begun {teardown : Teardown} {events : List Event} {mount : Mount}
    (h : teardown.Step events (.begun mount)) : False := by
  cases h

theorem Teardown.Step.gone {teardown : Teardown} {events : List Event}
    (hwhole : ∀ mount, teardown = .begun mount → mount.mountImpl ≠ none)
    (h : teardown.Step events (.ended (.ok ()))) (log : List Event) : Gone (log ++ events) := by
  cases h with
  | @nothing self hnone => exact absurd hnone (hwhole self rfl)
  | dead => exact .inr (by simp)
  | umountImpl => exact .inl (by simp)

theorem whole_new : Whole .new := by
  refine ⟨?_, ?_, ?_, ?_, ?_⟩ <;> simp [World.new]

theorem Whole.step {s s' : World} {call : Option UnmountCall} (hs : Whole s)
    (h : Step s call s') : Whole s' := by
  cases h with
  | unmountEmpty | unmountCallable | unmounterEmpty | dropUnmounter | run | runEnds | dropSession
  | umountOnDropEmpty =>
      exact ⟨hs.slot, hs.locked, hs.starting, hs.held, hs.unmounting⟩
  | unmountTake _ _ hslot | unmounterTake _ _ hslot | umountOnDropTake _ _ hslot
  | dropCell _ _ _ hslot =>
      refine ⟨nofun, ?_, hs.starting, hs.held, hs.unmounting⟩
      intro locker mount h
      cases h
      exact hs.slot _ hslot
  | unmountReturn | unmounterReturn | umountOnDropReturn | cellReturn =>
      exact ⟨hs.slot, nofun, hs.starting, hs.held, hs.unmounting⟩
  | locked hlock hstep =>
      refine ⟨hs.slot, ?_, hs.starting, hs.held, hs.unmounting⟩
      intro locker mount h
      cases h
      exact hstep.not_begun.elim
  | spawn =>
      refine ⟨nofun, hs.locked, ?_, hs.held, hs.unmounting⟩
      intro mount h
      injection h with hslot
      exact hs.slot mount hslot
  | threadStarts hspawn =>
      refine ⟨hs.slot, hs.locked, nofun, ?_, nofun⟩
      intro mount h
      cases h
      exact hs.starting _ hspawn
  | threadFails | spawnDropEmpty | spawnDrop | spawnTeardown | spawnReturn =>
      exact ⟨hs.slot, hs.locked, nofun, hs.held, hs.unmounting⟩
  | umountAndJoinTake hheld =>
      refine ⟨hs.slot, hs.locked, hs.starting, nofun, ?_⟩
      intro mount h
      cases h
      exact hs.held _ hheld
  | umountAndJoinTeardown hstate hstep =>
      refine ⟨hs.slot, hs.locked, hs.starting, nofun, ?_⟩
      intro mount h
      cases h
      exact hstep.not_begun.elim
  | umountAndJoinEmpty | join | dropTeardown | connectionEnded | connectionAlive =>
      exact ⟨hs.slot, hs.locked, hs.starting, nofun, nofun⟩
  | @umountAndJoinUnmounted result | @dropUnmounted result =>
      cases result <;> exact ⟨hs.slot, hs.locked, hs.starting, nofun, nofun⟩
  | @joined _ mount | @dropBackground mount =>
      cases mount <;> exact ⟨hs.slot, hs.locked, hs.starting, nofun, nofun⟩

theorem settled_new : Settled .new := ⟨nofun, nofun, nofun⟩

/-- The state of a run in which every step met the condition. -/
structure Truthful (s : World) : Prop where
  owned : Owned s
  whole : Whole s
  settled : Settled s
  log : Trustworthy s.log

/-- Where no owner has the mount and no attempt failed, the mount is gone. -/
theorem Owned.gone {s : World} (hs : Owned s) (hslot : s.slot = none) (hlock : s.locked = none)
    (h : ¬ Failed s.log ∧ s.spawn.pending = 0 ∧ s.background.pending = 0) : Gone s.log := by
  obtain ⟨hfailed, hspawn, hbackground⟩ := h
  have htotal := hs.total
  rw [World.total, hslot, hlock, hspawn, hbackground] at htotal
  simp only [pendingIn, pendingLocked, Nat.zero_add] at htotal
  exact gone_of_finished (by omega) hfailed

/-- A background session has no mount only when the slot and the lock have none either. -/
theorem Owned.gone_of_held {s : World} (hs : Owned s) (hheld : s.background = .held none)
    (h : Meets s (some .umountAndJoin)) : Gone s.log := by
  obtain ⟨hslot, hlock⟩ := hs.placed.spawned (.inr (by simp [hheld]))
  exact hs.gone hslot hlock (h (by simp [World.looksAt, hheld]))

theorem Settled.step {s s' : World} {call : Option UnmountCall} (hs : Truthful s)
    (h : Step s call s') (hmeets : Meets s call) : Settled s' := by
  obtain ⟨howned, hwhole, ⟨hlocked, hunmounted, hjoining⟩, _⟩ := hs
  have hlocked' := fun events locker h => (hlocked locker h).append events
  have hunmounted' := fun events h => (hunmounted h).append events
  have hjoining' := fun events mount h => (hjoining mount h).append events
  cases h with
  | unmountCallable | dropUnmounter | run | runEnds | dropSession | umountOnDropEmpty | threadFails
  | spawnDropEmpty | spawnDrop | spawnReturn | spawn =>
      exact ⟨hlocked, hunmounted, hjoining⟩
  | unmountEmpty | unmounterEmpty | spawnTeardown =>
      exact ⟨hlocked' _, hunmounted' _, hjoining' _⟩
  | unmountTake | unmounterTake | umountOnDropTake | dropCell | umountOnDropReturn | cellReturn =>
      exact ⟨nofun, hunmounted, hjoining⟩
  | unmountReturn | unmounterReturn =>
      exact ⟨nofun, hunmounted' _, hjoining' _⟩
  | locked hlock hstep =>
      refine ⟨?_, hunmounted' _, hjoining' _⟩
      intro locker h
      cases h
      exact hstep.gone (fun mount h => hwhole.locked _ mount (h ▸ hlock)) s.log
  | threadStarts => exact ⟨hlocked, nofun, nofun⟩
  | umountAndJoinEmpty hheld =>
      exact ⟨hlocked, nofun, fun _ _ => howned.gone_of_held hheld hmeets⟩
  | umountAndJoinTake | join | connectionEnded | connectionAlive => exact ⟨hlocked, nofun, nofun⟩
  | umountAndJoinTeardown hstate hstep =>
      refine ⟨hlocked' _, ?_, nofun⟩
      intro h
      cases h
      exact hstep.gone (fun mount h => hwhole.unmounting mount (h ▸ hstate)) s.log
  | @umountAndJoinUnmounted result hstate =>
      cases result with
      | ok value =>
          exact ⟨hlocked' _, nofun, fun _ _ => hunmounted' _ hstate⟩
      | error e => exact ⟨hlocked' _, nofun, nofun⟩
  | @joined _ mount =>
      cases mount <;> exact ⟨hlocked' _, nofun, nofun⟩
  | dropTeardown =>
      exact ⟨hlocked' _, nofun, nofun⟩
  | @dropBackground mount => cases mount <;> exact ⟨hlocked, nofun, nofun⟩
  | @dropUnmounted result => cases result <;> exact ⟨hlocked, nofun, nofun⟩

theorem Trustworthy.step {s s' : World} {call : Option UnmountCall} (hs : Truthful s)
    (h : Step s call s') (hmeets : Meets s call) : Trustworthy s'.log := by
  obtain ⟨howned, _, ⟨hlocked, hunmounted, hjoining⟩, hlog⟩ := hs
  cases h with
  | unmountEmpty _ hlock hslot | unmounterEmpty _ hlock hslot =>
      exact hlog.returned _ _ fun _ => howned.gone hslot hlock (hmeets hslot)
  | unmountReturn hlock | unmounterReturn hlock =>
      refine hlog.returned _ _ fun hresult => ?_
      rw [hresult] at hlock
      exact hlocked _ hlock
  | locked _ hstep | spawnTeardown _ hstep | umountAndJoinTeardown _ hstep | dropTeardown _ hstep =>
      exact hlog.teardown hstep
  | @umountAndJoinUnmounted result =>
      cases result with
      | ok value => simpa [BackgroundState.afterUmount] using hlog
      | error e => exact hlog.returned _ _ nofun
  | @joined joiner mount result hstate =>
      by_cases hjoiner : joiner = .umountAndJoin
      · simp only [Joiner.reports, hjoiner, if_true]
        exact hlog.returned _ _ fun _ => hjoining mount (hjoiner ▸ hstate)
      · simpa [Joiner.reports, hjoiner] using hlog
  | _ => exact hlog

theorem truthful_of_runsMeeting {s : World} (h : RunsMeeting .new s) : Truthful s := by
  induction h with
  | refl => exact ⟨⟨placed_new, rfl⟩, whole_new, settled_new, trustworthy_nil⟩
  | tail _ hstep ih =>
      obtain ⟨call, hstep, hmeets⟩ := hstep
      have howned : Owned _ :=
        ⟨ih.owned.placed.step hstep, (hstep.total_eq ih.owned.placed).trans ih.owned.total⟩
      exact ⟨howned, ih.whole.step hstep, .step ih hstep hmeets, .step ih hstep hmeets⟩

theorem RunsMeeting.refl (s : World) : RunsMeeting s s := Relation.ReflTransGen.refl

theorem RunsMeeting.step {s s' s'' : World} {call : Option UnmountCall} (h : RunsMeeting s s')
    (hstep : Step s' call s'') (hmeets : Meets s' call) : RunsMeeting s s'' :=
  h.tail ⟨call, hstep, hmeets⟩

theorem Gone.finished_pos {log : List Event} (h : Gone log) : 0 < finished log := by
  obtain h | h := h
  · exact List.countP_pos_iff.mpr ⟨_, h, rfl⟩
  · exact List.countP_pos_iff.mpr ⟨_, h, rfl⟩

/-- Only one attempt is made, so that after a failed one the mount stays. -/
theorem Owned.not_gone_of_failed {s : World} (hs : Owned s) (h : Failed s.log) : ¬ Gone s.log := by
  obtain ⟨e, hfailed⟩ := h
  have htotal := hs.total
  rw [World.total] at htotal
  intro hgone
  have htwo : 2 ≤ finished s.log := by
    obtain hgone | hgone := hgone
    · exact two_le_finished (by simp) hfailed hgone rfl rfl
    · exact two_le_finished (by simp) hfailed hgone rfl rfl
  omega

/-- A call that finds the slot empty against the condition reports what is not the case. -/
theorem Owned.not_gone {s : World} (hs : Owned s)
    (h : ¬ (¬ Failed s.log ∧ s.spawn.pending = 0 ∧ s.background.pending = 0)) : ¬ Gone s.log := by
  intro hgone
  by_cases hfailed : Failed s.log
  · exact hs.not_gone_of_failed hfailed hgone
  · have hpos := hgone.finished_pos
    have htotal := hs.total
    rw [World.total] at htotal
    exact h ⟨hfailed, by omega, by omega⟩

theorem Trustworthy.gone_of_returned {log : List Event} {call : UnmountCall}
    (h : Trustworthy (log ++ [.returned call (.ok ())])) : Gone log := h log [] call rfl

/-- `Ok` can be believed in a run in which no unmount call finds the mount elsewhere or
lost to a failed attempt; a call that looks into the slot and does find that returns
`Ok` for a mount that is still there. -/
theorem ok_trustworthy (s : World) :
    (RunsMeeting .new s → Trustworthy s.log) ∧
    (Runs .new s → ∀ s' call, Step s (some call) s' → call ≠ .umountAndJoin →
      ¬ Meets s (some call) → ¬ Trustworthy s'.log) := by
  constructor
  · intro h
    exact (truthful_of_runsMeeting h).log
  · intro hruns s' call hstep hcall hmeets htrust
    have howned := owned_of_runs hruns
    cases hstep with
    | unmountEmpty _ _ hslot | unmounterEmpty _ _ hslot =>
        exact howned.not_gone (fun h => hmeets fun _ => h) htrust.gone_of_returned
    | unmountTake _ _ hslot | unmounterTake _ _ hslot =>
        exact hmeets fun hnone => absurd (hslot.symm.trans hnone) (by simp)
    | umountAndJoinEmpty | umountAndJoinTake => exact hcall rfl

/-- A session is unmounted, and an unmounter finds that out. -/
theorem ok_trustworthy_twice :
    ∃ s, RunsMeeting .new s ∧ .returned .unmounterUnmount (.ok ()) ∈ s.log ∧ Trustworthy s.log := by
  have hruns := (((((RunsMeeting.refl .new).step
    (.unmountCallable rfl) trivial).step
    (.unmountTake rfl rfl rfl) (by simp [Meets, World.looksAt, World.new])).step
    (.locked rfl (.alive rfl)) trivial).step
    (.locked rfl (.umountImpl (.ok ()))) trivial).step
    (.unmountReturn rfl) trivial
  have hall := hruns.step (.unmounterEmpty (by decide) rfl rfl)
    (by simp [Meets, World.looksAt, World.new, Failed, SpawnState.pending, BackgroundState.pending])
  exact ⟨_, hall, by simp, (ok_trustworthy _).1 hall⟩

theorem ok_while_mounted :
    (∃ s, Runs .new s ∧
      s.log = [.shouldUnmount true, .umountImpl (.error (.os 16)),
        .returned .sessionUnmount (.error (.os 16)), .returned .sessionUnmount (.ok ())] ∧
      ¬ Trustworthy s.log) ∧
    (∃ s, Runs .new s ∧ s.log = [.returned .unmounterUnmount (.ok ())] ∧
      s.background = .held (some ⟨some {}⟩) ∧ ¬ Trustworthy s.log) := by
  constructor
  · have hruns := ((((Runs.refl .new).step
      (.unmountTake rfl rfl rfl)).step
      (.locked rfl (.alive rfl))).step
      (.locked rfl (.umountImpl (.error (.os 16))))).step
      (.unmountReturn rfl)
    refine ⟨_, hruns.step (.unmountEmpty rfl rfl rfl), rfl, ?_⟩
    intro htrust
    have hgone := htrust.gone_of_returned
    simp [Gone, World.new] at hgone
  · have hruns := (((Runs.refl .new).step
      (.unmountCallable rfl)).step
      (.spawn rfl rfl)).step
      (.threadStarts rfl)
    refine ⟨_, hruns.step (.unmounterEmpty (by decide) rfl rfl), rfl, rfl, ?_⟩
    intro htrust
    have hgone := htrust.gone_of_returned
    simp [Gone, World.new] at hgone

end Fuser.Mounting
