import Fuser.Errno
import Fuser.Foundation.Outcome
import Mathlib.Algebra.Order.Group.Nat
import Mathlib.Logic.Relation

/-!
Who owns the mount of a session, from `Session::new` until the last owner is
gone. The mount starts in a slot that the session and its unmounters share under
a lock. `Session::spawn` moves it into the `BackgroundSession`; every other
operation that takes it out consumes it.

Any number of threads are at work, so that the machine takes one small step at a
time: a call takes the mount in one step, asks whether the connection is alive
in another and unmounts in a third. A call that waits for the lock has not
taken a step yet.
-/

namespace Fuser.Mounting

open Rust

structure MountImpl where
  deriving DecidableEq

/-- `Mount`, whose `mount_impl` is gone once the mount was torn down. -/
structure Mount where
  mountImpl : Option MountImpl
  deriving DecidableEq

/-- The calls that report to their caller whether the filesystem was unmounted. -/
inductive UnmountCall where
  | sessionUnmount
  | unmounterUnmount
  | umountAndJoin
  deriving DecidableEq

inductive Event where
  | shouldUnmount (alive : Bool)
  | umountImpl (result : IoResult)
  | returned (call : UnmountCall) (result : IoResult)

/-- A call of `Mount::umount` or of `Drop for Mount`. The implementation is taken out of
the mount first, so that dropping the mount at the end of the call does nothing. -/
inductive Teardown where
  | begun (self : Mount)
  | unmounting
  | ended (result : IoResult)

inductive Teardown.Step : Teardown → List Event → Teardown → Prop where
  | nothing {self : Mount} (h : self.mountImpl = none) :
      Step (.begun self) [] (.ended (.ok ()))
  | dead {self : Mount} {impl : MountImpl} (h : self.mountImpl = some impl) :
      Step (.begun self) [.shouldUnmount false] (.ended (.ok ()))
  | alive {self : Mount} {impl : MountImpl} (h : self.mountImpl = some impl) :
      Step (.begun self) [.shouldUnmount true] .unmounting
  | umountImpl (result : IoResult) : Step .unmounting [.umountImpl result] (.ended result)

/-- On whose behalf the lock is held while the mount is torn down. -/
inductive Locker where
  | sessionUnmount
  | unmounterUnmount
  | umountOnDrop
  | cell

/-- Where the value of type `Session` is. -/
inductive SessionState where
  | idle
  | unmounting
  | moved
  | running
  | dropping
  | gone

/-- A call of `Session::spawn`, with its local variable `mount`. -/
inductive SpawnState where
  | none
  | starting (mount : Option Mount)
  | failed (mount : Option Mount)
  | dropping (teardown : Teardown)

inductive Joiner where
  | umountAndJoin
  | join
  | drop
  deriving DecidableEq

inductive BackgroundState where
  | absent
  | held (mount : Option Mount)
  | unmounting (teardown : Teardown)
  | joining (joiner : Joiner) (mount : Option Mount)
  | dropping (teardown : Teardown)
  | waiting
  | gone

structure World where
  /-- What the mutex guards. -/
  slot : Option Mount
  locked : Option (Locker × Teardown)
  session : SessionState
  /-- The unmounters that have no call in progress. -/
  unmounters : Nat
  spawn : SpawnState
  background : BackgroundState
  /-- What `Session::run` came to. -/
  result : Option (Outcome IoError Unit)
  log : List Event

namespace World

/-- A session right after `Session::new`. -/
def new : World where
  slot := some ⟨some {}⟩
  locked := none
  session := .idle
  unmounters := 0
  spawn := .none
  background := .absent
  result := none
  log := []

end World

/-- What `BackgroundSession::join_impl` makes of the way the thread ended. -/
def joinImpl : Outcome IoError Unit → IoResult
  | .ok () => .ok ()
  | .err e => .error e
  | .panic _ => .error (.new .other "filesystem background thread panicked")

/-- What is left to do for a `BackgroundSession` that goes out of scope. -/
def BackgroundState.drop : Option Mount → BackgroundState
  | none => .gone
  | some mount => .dropping (.begun mount)

/-- What `umount_and_join` does once the mount is torn down. -/
def BackgroundState.afterUmount : IoResult → BackgroundState × List Event
  | .ok () => (.joining .umountAndJoin none, [])
  | .error e => (.gone, [.returned .umountAndJoin (.error e)])

/-- What `Drop for BackgroundSession` does once the mount is torn down. -/
def BackgroundState.afterDrop : IoResult → BackgroundState
  | .ok () => .waiting
  | .error _ => .gone

def Joiner.reports (joiner : Joiner) (result : IoResult) : List Event :=
  if joiner = .umountAndJoin then [.returned .umountAndJoin result] else []

/-- One step of one thread. A step by which an unmount call looks for the mount has
that call as its label. -/
inductive Step (s : World) : Option UnmountCall → World → Prop where
  -- `Session::unmount`
  | unmountEmpty (hsession : s.session = .idle) (hlock : s.locked = none) (hslot : s.slot = none) :
      Step s (some .sessionUnmount)
        { s with log := s.log ++ [.returned .sessionUnmount (.ok ())] }
  | unmountTake {mount : Mount} (hsession : s.session = .idle) (hlock : s.locked = none)
      (hslot : s.slot = some mount) :
      Step s (some .sessionUnmount)
        { s with
          slot := none, locked := some (.sessionUnmount, .begun mount), session := .unmounting }
  | unmountReturn {result : IoResult} (hlock : s.locked = some (.sessionUnmount, .ended result)) :
      Step s none
        { s with
          locked := none, session := .idle,
          log := s.log ++ [.returned .sessionUnmount result] }
  -- `Session::unmount_callable`, and `SessionUnmounter`
  | unmountCallable (hsession : s.session = .idle) :
      Step s none { s with unmounters := s.unmounters + 1 }
  | unmounterEmpty (hidle : 0 < s.unmounters) (hlock : s.locked = none) (hslot : s.slot = none) :
      Step s (some .unmounterUnmount)
        { s with log := s.log ++ [.returned .unmounterUnmount (.ok ())] }
  | unmounterTake {mount : Mount} (hidle : 0 < s.unmounters) (hlock : s.locked = none)
      (hslot : s.slot = some mount) :
      Step s (some .unmounterUnmount)
        { s with
          slot := none, locked := some (.unmounterUnmount, .begun mount),
          unmounters := s.unmounters - 1 }
  | unmounterReturn {result : IoResult}
      (hlock : s.locked = some (.unmounterUnmount, .ended result)) :
      Step s none
        { s with
          locked := none, unmounters := s.unmounters + 1,
          log := s.log ++ [.returned .unmounterUnmount result] }
  | dropUnmounter (hidle : 0 < s.unmounters) :
      Step s none { s with unmounters := s.unmounters - 1 }
  -- what is done with the lock held
  | locked {locker : Locker} {teardown teardown' : Teardown} {events : List Event}
      (hlock : s.locked = some (locker, teardown)) (h : teardown.Step events teardown') :
      Step s none { s with locked := some (locker, teardown'), log := s.log ++ events }
  -- `Session::spawn`
  | spawn (hsession : s.session = .idle) (hlock : s.locked = none) :
      Step s none { s with slot := none, session := .moved, spawn := .starting s.slot }
  | threadStarts {mount : Option Mount} (hspawn : s.spawn = .starting mount) :
      Step s none { s with session := .running, spawn := .none, background := .held mount }
  | threadFails {mount : Option Mount} (hspawn : s.spawn = .starting mount) :
      Step s none { s with session := .dropping, spawn := .failed mount }
  | spawnDropEmpty (hspawn : s.spawn = .failed none) (hsession : s.session = .gone) :
      Step s none { s with spawn := .none }
  | spawnDrop {mount : Mount} (hspawn : s.spawn = .failed (some mount))
      (hsession : s.session = .gone) :
      Step s none { s with spawn := .dropping (.begun mount) }
  | spawnTeardown {teardown teardown' : Teardown} {events : List Event}
      (hspawn : s.spawn = .dropping teardown) (h : teardown.Step events teardown') :
      Step s none { s with spawn := .dropping teardown', log := s.log ++ events }
  | spawnReturn {result : IoResult} (hspawn : s.spawn = .dropping (.ended result)) :
      Step s none { s with spawn := .none }
  -- `Session::run`, and `Drop for UmountOnDrop`
  | run (hsession : s.session = .idle) : Step s none { s with session := .running }
  | runEnds (result : Outcome IoError Unit) (hsession : s.session = .running) :
      Step s none { s with session := .dropping, result := some result }
  | dropSession (hsession : s.session = .idle) : Step s none { s with session := .dropping }
  | umountOnDropEmpty (hsession : s.session = .dropping) (hlock : s.locked = none)
      (hslot : s.slot = none) :
      Step s none { s with session := .gone }
  | umountOnDropTake {mount : Mount} (hsession : s.session = .dropping) (hlock : s.locked = none)
      (hslot : s.slot = some mount) :
      Step s none { s with slot := none, locked := some (.umountOnDrop, .begun mount) }
  | umountOnDropReturn {result : IoResult}
      (hlock : s.locked = some (.umountOnDrop, .ended result)) :
      Step s none { s with locked := none, session := .gone }
  -- the last reference to the slot is dropped
  | dropCell {mount : Mount} (hsession : s.session = .gone) (hidle : s.unmounters = 0)
      (hlock : s.locked = none) (hslot : s.slot = some mount) :
      Step s none { s with slot := none, locked := some (.cell, .begun mount) }
  | cellReturn {result : IoResult} (hlock : s.locked = some (.cell, .ended result)) :
      Step s none { s with locked := none }
  -- `BackgroundSession`
  | umountAndJoinEmpty (hheld : s.background = .held none) :
      Step s (some .umountAndJoin) { s with background := .joining .umountAndJoin none }
  | umountAndJoinTake {mount : Mount} (hheld : s.background = .held (some mount)) :
      Step s (some .umountAndJoin) { s with background := .unmounting (.begun mount) }
  | umountAndJoinTeardown {teardown teardown' : Teardown} {events : List Event}
      (hstate : s.background = .unmounting teardown) (h : teardown.Step events teardown') :
      Step s none { s with background := .unmounting teardown', log := s.log ++ events }
  | umountAndJoinUnmounted {result : IoResult}
      (hstate : s.background = .unmounting (.ended result)) :
      Step s none
        { s with
          background := (BackgroundState.afterUmount result).1,
          log := s.log ++ (BackgroundState.afterUmount result).2 }
  | join {mount : Option Mount} (hheld : s.background = .held mount) :
      Step s none { s with background := .joining .join mount }
  | joined {joiner : Joiner} {mount : Option Mount} {result : Outcome IoError Unit}
      (hstate : s.background = .joining joiner mount) (hsession : s.session = .gone)
      (hresult : s.result = some result) :
      Step s none
        { s with
          background := .drop mount, log := s.log ++ joiner.reports (joinImpl result) }
  | dropBackground {mount : Option Mount} (hheld : s.background = .held mount) :
      Step s none { s with background := .drop mount }
  | dropTeardown {teardown teardown' : Teardown} {events : List Event}
      (hstate : s.background = .dropping teardown) (h : teardown.Step events teardown') :
      Step s none { s with background := .dropping teardown', log := s.log ++ events }
  | dropUnmounted {result : IoResult} (hstate : s.background = .dropping (.ended result)) :
      Step s none { s with background := .afterDrop result }
  | connectionEnded (hstate : s.background = .waiting) :
      Step s none { s with background := .joining .drop none }
  | connectionAlive (hstate : s.background = .waiting) :
      Step s none { s with background := .gone }

/-- Any number of steps, in any order the threads may take them. -/
def Runs : World → World → Prop := Relation.ReflTransGen fun s s' => ∃ call, Step s call s'

theorem Runs.refl (s : World) : Runs s s := Relation.ReflTransGen.refl

theorem Runs.step {s s' s'' : World} {call : Option UnmountCall} (h : Runs s s')
    (hstep : Step s' call s'') : Runs s s'' := h.tail ⟨call, hstep⟩

/-! The mount that is still to be torn down is in one place. -/

def Mount.pending (self : Mount) : Nat := if self.mountImpl.isSome then 1 else 0

def pendingIn : Option Mount → Nat
  | none => 0
  | some mount => mount.pending

def Teardown.pending : Teardown → Nat
  | .begun self => self.pending
  | .unmounting => 1
  | .ended _ => 0

def pendingLocked : Option (Locker × Teardown) → Nat
  | none => 0
  | some (_, teardown) => teardown.pending

def SpawnState.pending : SpawnState → Nat
  | .none => 0
  | .starting mount | .failed mount => pendingIn mount
  | .dropping teardown => teardown.pending

def BackgroundState.pending : BackgroundState → Nat
  | .absent | .waiting | .gone => 0
  | .held mount | .joining _ mount => pendingIn mount
  | .unmounting teardown | .dropping teardown => teardown.pending

/-- The event is the end of a teardown: the connection is dead, or was to be unmounted. -/
def Event.finishes : Event → Bool
  | .shouldUnmount alive => !alive
  | .umountImpl _ => true
  | .returned _ _ => false

def finished (log : List Event) : Nat := log.countP Event.finishes

def World.total (s : World) : Nat :=
  pendingIn s.slot + pendingLocked s.locked + s.spawn.pending + s.background.pending +
    finished s.log

@[simp] theorem finished_append (log events : List Event) :
    finished (log ++ events) = finished log + finished events := List.countP_append

@[simp] theorem finished_returned (call : UnmountCall) (result : IoResult) :
    finished [.returned call result] = 0 := rfl

@[simp] theorem finished_reports (joiner : Joiner) (result : IoResult) :
    finished (joiner.reports result) = 0 := by
  rw [Joiner.reports]
  split <;> rfl

@[simp] theorem finished_afterUmount (result : IoResult) :
    finished (BackgroundState.afterUmount result).2 = 0 := by
  cases result <;> rfl

@[simp] theorem pending_afterUmount (result : IoResult) :
    (BackgroundState.afterUmount result).1.pending = 0 := by
  cases result <;> rfl

@[simp] theorem pending_afterDrop (result : IoResult) :
    (BackgroundState.afterDrop result).pending = 0 := by
  cases result <;> rfl

@[simp] theorem pending_drop (mount : Option Mount) :
    (BackgroundState.drop mount).pending = pendingIn mount := by
  cases mount <;> rfl

/-- A step of a teardown leaves the mount to the rest of it, or ends it. -/
theorem Teardown.Step.pending_add {teardown teardown' : Teardown} {events : List Event}
    (h : teardown.Step events teardown') :
    teardown'.pending + finished events = teardown.pending := by
  cases h with
  | nothing h | dead h | alive h => simp [Teardown.pending, Mount.pending, h, finished, Event.finishes]
  | umountImpl result => rfl

/-- Where the parts of a session can be at the same time. -/
structure Placed (s : World) : Prop where
  idle : s.session = .idle ∨ s.session = .unmounting → s.spawn = .none ∧ s.background = .absent
  calling : ∀ teardown, s.locked = some (.sessionUnmount, teardown) → s.session = .unmounting
  starting : s.spawn ≠ .none → s.background = .absent
  spawned : s.spawn ≠ .none ∨ s.background ≠ .absent → s.slot = none ∧ s.locked = none
  taken : s.locked ≠ none → s.slot = none
  dropped : s.session = .gone → s.slot = none

theorem placed_new : Placed .new := by
  refine ⟨?_, ?_, ?_, ?_, ?_, ?_⟩ <;> simp [World.new]

namespace Placed

variable {s s' : World}

/-- Before a spawn, the mount is in the slot or with the one that holds the lock. -/
theorem of_not_spawned (hspawned : s.spawn = .none ∧ s.background = .absent)
    (hcalling : ∀ teardown, s.locked = some (.sessionUnmount, teardown) → s.session = .unmounting)
    (htaken : s.locked ≠ none → s.slot = none) (hdropped : s.session = .gone → s.slot = none) :
    Placed s :=
  ⟨fun _ => hspawned, hcalling, fun h => absurd hspawned.1 h,
    fun h => h.elim (absurd hspawned.1) (absurd hspawned.2), htaken, hdropped⟩

/-- From the spawn on, the slot is empty and nobody gets at it. -/
theorem of_spawned (hempty : s.slot = none ∧ s.locked = none)
    (hsession : ¬ (s.session = .idle ∨ s.session = .unmounting))
    (hone : s.spawn = .none ∨ s.background = .absent) : Placed s := by
  refine ⟨fun h => absurd h hsession, fun teardown h => ?_, fun h => hone.resolve_left h,
    fun _ => hempty, fun h => absurd hempty.2 h, fun _ => hempty.1⟩
  rw [hempty.2] at h
  cases h

theorem not_spawned (hs : Placed s) (h : s.slot ≠ none ∨ s.locked ≠ none) :
    s.spawn = .none ∧ s.background = .absent := by
  have hnot : ¬ (s.spawn ≠ .none ∨ s.background ≠ .absent) := fun hspawned =>
    h.elim (absurd (hs.spawned hspawned).1) (absurd (hs.spawned hspawned).2)
  exact ⟨not_not.mp fun hspawn => hnot (.inl hspawn),
    not_not.mp fun hbackground => hnot (.inr hbackground)⟩

/-- The session goes on, with or without a background session. -/
theorem session_moves (hs : Placed s) {session : SessionState}
    {result : Option (Outcome IoError Unit)} (hbefore : s.session ≠ .unmounting)
    (hafter : ¬ (session = .idle ∨ session = .unmounting))
    (hdropped : session = .gone → s.slot = none) :
    Placed { s with session := session, result := result } :=
  ⟨fun h => absurd h hafter, fun teardown h => absurd (hs.calling teardown h) hbefore,
    hs.starting, hs.spawned, hs.taken, hdropped⟩

/-- With a background session the slot is empty, and stays so whatever becomes of the
session. -/
theorem background_moves (hs : Placed s) {background : BackgroundState} {log : List Event}
    (h : s.background ≠ .absent) :
    Placed { s with background := background, log := log } := by
  have hspawn : s.spawn = .none := not_not.mp fun hspawn => h (hs.starting hspawn)
  exact of_spawned (hs.spawned (.inr h)) (fun hidle => h (hs.idle hidle).2) (.inl hspawn)

theorem step {call : Option UnmountCall} (hs : Placed s) (h : Step s call s') : Placed s' := by
  cases h with
  -- nothing moves
  | unmountEmpty | unmountCallable | unmounterEmpty | dropUnmounter =>
      exact ⟨hs.idle, hs.calling, hs.starting, hs.spawned, hs.taken, hs.dropped⟩
  -- the mount leaves the slot
  | unmountTake _ _ hslot | unmounterTake _ _ hslot | umountOnDropTake _ _ hslot
  | dropCell _ _ _ hslot =>
      have hspawned := hs.not_spawned (.inl (by simp [hslot]))
      exact .of_not_spawned hspawned (by simp) (fun _ => rfl) (fun _ => rfl)
  | @locked locker teardown teardown' _ hlock =>
      have hheld : s.locked ≠ none := by simp [hlock]
      refine .of_not_spawned (hs.not_spawned (.inr hheld)) (fun next hnext => ?_)
        (fun _ => hs.taken hheld) hs.dropped
      cases hnext
      exact hs.calling teardown hlock
  | unmountReturn hlock | unmounterReturn hlock | umountOnDropReturn hlock | cellReturn hlock =>
      have hheld : s.locked ≠ none := by simp [hlock]
      exact .of_not_spawned (hs.not_spawned (.inr hheld)) (by simp) (fun _ => hs.taken hheld)
        (fun _ => hs.taken hheld)
  | run hsession | runEnds _ hsession | dropSession hsession =>
      exact hs.session_moves (by simp [hsession]) (by simp) (by simp)
  | umountOnDropEmpty hsession _ hslot =>
      exact hs.session_moves (by simp [hsession]) (by simp) (fun _ => hslot)
  | spawn hsession hlock =>
      exact .of_spawned ⟨rfl, hlock⟩ (by simp) (.inr (hs.idle (.inl hsession)).2)
  | threadStarts hspawn =>
      exact .of_spawned (hs.spawned (.inl (by simp [hspawn]))) (by simp) (.inl rfl)
  | threadFails hspawn =>
      have hstarted : s.spawn ≠ .none := by simp [hspawn]
      exact .of_spawned (hs.spawned (.inl hstarted)) (by simp) (.inr (hs.starting hstarted))
  | spawnDropEmpty hspawn | spawnDrop hspawn | spawnTeardown hspawn | spawnReturn hspawn =>
      have hstarted : s.spawn ≠ .none := by simp [hspawn]
      exact .of_spawned (hs.spawned (.inl hstarted))
        (fun hidle => hstarted (hs.idle hidle).1) (.inr (hs.starting hstarted))
  | umountAndJoinEmpty hstate | umountAndJoinTake hstate | umountAndJoinTeardown hstate
  | umountAndJoinUnmounted hstate | join hstate | joined hstate | dropBackground hstate
  | dropTeardown hstate | dropUnmounted hstate | connectionEnded hstate | connectionAlive hstate =>
      exact hs.background_moves (by simp [hstate])

end Placed

/-- No step makes a second mount out of one, or loses it. -/
theorem Step.total_eq {s s' : World} {call : Option UnmountCall} (h : Step s call s')
    (hs : Placed s) : s'.total = s.total := by
  cases h with
  | unmountEmpty | unmountCallable | unmounterEmpty | dropUnmounter | run | runEnds | dropSession
  | umountOnDropEmpty =>
      simp [World.total]
  | unmountTake _ hlock hslot | unmounterTake _ hlock hslot | umountOnDropTake _ hlock hslot
  | dropCell _ _ hlock hslot =>
      simp [World.total, hlock, hslot, pendingIn, pendingLocked, Teardown.pending]
  | unmountReturn hlock | unmounterReturn hlock | umountOnDropReturn hlock | cellReturn hlock =>
      simp [World.total, hlock, pendingLocked, Teardown.pending]
  | locked hlock h =>
      have hpending := h.pending_add
      simp only [World.total, hlock, pendingLocked, finished_append]
      omega
  | spawn hsession hlock =>
      have hspawn := (hs.idle (.inl hsession)).1
      simp only [World.total, hspawn, SpawnState.pending, pendingIn]
      omega
  | threadStarts hspawn =>
      have hbackground := hs.starting (by simp [hspawn])
      simp only [World.total, hspawn, hbackground, SpawnState.pending, BackgroundState.pending]
      omega
  | threadFails hspawn | spawnDropEmpty hspawn | spawnDrop hspawn | spawnReturn hspawn =>
      simp [World.total, hspawn, SpawnState.pending, pendingIn, Teardown.pending]
  | spawnTeardown hspawn h =>
      have hpending := h.pending_add
      simp only [World.total, hspawn, SpawnState.pending, finished_append]
      omega
  | umountAndJoinTeardown hstate h | dropTeardown hstate h =>
      have hpending := h.pending_add
      simp only [World.total, hstate, BackgroundState.pending, finished_append]
      omega
  | umountAndJoinUnmounted hstate | dropUnmounted hstate =>
      have hpending : s.background.pending = 0 := by rw [hstate]; rfl
      simp [World.total, hpending]
  | @joined _ mount _ hstate | @dropBackground mount hstate =>
      have hpending : s.background.pending = pendingIn mount := by rw [hstate]; rfl
      simp [World.total, hpending]
  | umountAndJoinEmpty hstate | umountAndJoinTake hstate | join hstate | connectionEnded hstate
  | connectionAlive hstate =>
      simp [World.total, hstate, BackgroundState.pending, pendingIn, Teardown.pending]

/-- In every run, the mount is in one place until it is torn down. -/
structure Owned (s : World) : Prop where
  placed : Placed s
  total : s.total = 1

theorem owned_of_runs {s : World} (h : Runs .new s) : Owned s := by
  induction h with
  | refl => exact ⟨placed_new, rfl⟩
  | tail _ hstep ih =>
      obtain ⟨call, hstep⟩ := hstep
      exact ⟨ih.placed.step hstep, (hstep.total_eq ih.placed).trans ih.total⟩

/-- No value that could still unmount is left: neither the session nor a background
session, and no call in progress. -/
structure World.OwnersGone (s : World) : Prop where
  session : s.session = .gone
  locked : s.locked = none
  spawn : s.spawn = .none
  background : s.background = .absent ∨ s.background = .gone

def Event.isUmountImpl : Event → Bool
  | .umountImpl _ => true
  | _ => false

theorem countP_isUmountImpl_le (log : List Event) :
    log.countP Event.isUmountImpl ≤ finished log := by
  refine List.countP_mono_left fun event _ h => ?_
  cases event with
  | umountImpl result => rfl
  | shouldUnmount alive | returned call result => cases h

/-- A dead connection and an attempt to unmount each end a teardown, so that a log with
both of them has two. -/
theorem two_le_finished {log : List Event} {first second : Event} (hne : first ≠ second)
    (hfirst : first ∈ log) (hsecond : second ∈ log) (hf : first.finishes = true)
    (hs : second.finishes = true) : 2 ≤ finished log := by
  obtain ⟨before, after, rfl⟩ := List.append_of_mem hfirst
  have hother : 0 < finished (before ++ after) := by
    refine List.countP_pos_iff.mpr ⟨second, ?_, hs⟩
    simpa [hne.symm] using hsecond
  have hcons : finished (first :: after) = finished after + 1 := List.countP_cons_of_pos hf
  rw [finished_append] at hother
  rw [finished_append, hcons]
  omega

theorem exists_of_finished {log : List Event} (h : 0 < finished log) :
    (∃ result, .umountImpl result ∈ log) ∨ .shouldUnmount false ∈ log := by
  obtain ⟨event, hmem, hevent⟩ := List.countP_pos_iff.mp h
  cases event with
  | umountImpl result => exact .inl ⟨result, hmem⟩
  | shouldUnmount alive =>
      cases alive with
      | true => cases hevent
      | false => exact .inr hmem
  | returned call result => cases hevent

/-- In every run the implementation is asked to unmount at most once, and not at all when
the connection was found dead; once the owners are gone, one of the two has happened. -/
theorem umount_once {s : World} (h : Runs .new s) :
    s.log.countP Event.isUmountImpl ≤ 1 ∧
    (.shouldUnmount false ∈ s.log → ∀ result, .umountImpl result ∉ s.log) ∧
    (s.OwnersGone → (∃ result, .umountImpl result ∈ s.log) ∨ .shouldUnmount false ∈ s.log) := by
  have howned := owned_of_runs h
  have hfinished : finished s.log ≤ 1 := by
    have htotal := howned.total
    rw [World.total] at htotal
    omega
  refine ⟨(countP_isUmountImpl_le s.log).trans hfinished, ?_, ?_⟩
  · intro hdead result hcalled
    have htwo := two_le_finished (by simp) hdead hcalled rfl rfl
    omega
  · intro hgone
    have hslot := howned.placed.dropped hgone.session
    have hbackground : s.background.pending = 0 := by
      obtain hstate | hstate := hgone.background <;> rw [hstate] <;> rfl
    have htotal := howned.total
    rw [World.total, hslot, hgone.locked, hgone.spawn, hbackground] at htotal
    simp only [pendingIn, pendingLocked, SpawnState.pending, Nat.zero_add] at htotal
    exact exists_of_finished (by omega)

/-- The thread of a background session cannot be started, and the filesystem is busy. -/
theorem umount_once_spawn_fails :
    ∃ s, Runs .new s ∧ s.OwnersGone ∧ s.log.countP Event.isUmountImpl ≤ 1 ∧
      ((∃ result, .umountImpl result ∈ s.log) ∨ .shouldUnmount false ∈ s.log) := by
  have hruns := (((((((Runs.refl .new).step
    (.spawn rfl rfl)).step
    (.threadFails rfl)).step
    (.umountOnDropEmpty rfl rfl rfl)).step
    (.spawnDrop rfl rfl)).step
    (.spawnTeardown rfl (.alive rfl))).step
    (.spawnTeardown rfl (.umountImpl (.error (.os 16))))).step
    (.spawnReturn rfl)
  obtain ⟨honce, _, htorn⟩ := umount_once hruns
  exact ⟨_, hruns, ⟨rfl, rfl, rfl, .inl rfl⟩, honce, htorn ⟨rfl, rfl, rfl, .inl rfl⟩⟩

end Fuser.Mounting
