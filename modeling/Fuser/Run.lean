import Fuser.Errno
import Fuser.Foundation.Outcome
import Mathlib.Algebra.Order.Group.Nat
import Mathlib.Logic.Relation

/-!
The threads of `Session::run` and the filesystem they share. The filesystem is
reference counted: `run` has one reference and every event loop another. Whoever
gives up the last one destroys the filesystem, and so does `run` when it has
joined all threads; since destroying takes the filesystem out of its holder, the
second of the two finds nothing.

A thread is done with the filesystem when its event loop has returned or
panicked, and gives up its reference after that. It can be joined only then.
-/

namespace Fuser.Running

open Rust

/-- A thread with its event loop at work, with the loop at an end, and without the
variables the thread was given. -/
inductive ThreadState where
  | running
  | returned (result : Outcome IoError Unit)
  | ended (result : Outcome IoError Unit)

/-- How far `Session::run` has come. -/
inductive RunState where
  | cloning (channels : Nat)
  | starting
  | launching
  | joining (joined : Nat) (reply : IoResult)
  | leaving (result : IoResult)
  | returned (result : IoResult)

inductive Event where
  | called (thread : Nat)
  | destroy
  | bug
  deriving DecidableEq

structure World where
  /-- The references to the filesystem. -/
  strong : Nat
  /-- Whether `FilesystemHolder::fs` is still there. -/
  fs : Bool
  threads : List ThreadState
  run : RunState
  log : List Event

namespace World

def new : World where
  strong := 1
  fs := true
  threads := []
  run := .cloning 0
  log := []

/-- `FilesystemHolder::destroy`. -/
def destroy (s : World) : World :=
  if s.fs then { s with fs := false, log := s.log ++ [.destroy] } else s

/-- A reference goes out of scope, and the holder with the last one. -/
def dropArc (s : World) : World :=
  if s.strong = 1 then destroy { s with strong := 0 } else { s with strong := s.strong - 1 }

end World

/-- What the reply of `run` is after a thread that ended with `result` was joined. -/
def replyAfter (reply : IoResult) (result : IoResult) : IoResult :=
  match result, reply with
  | .error e, .ok () => .error e
  | _, _ => reply

/-- What the closure of a thread returned, if it did not panic. -/
def returnValue : Outcome IoError Unit → Option IoResult
  | .ok () => some (.ok ())
  | .err e => some (.error e)
  | .panic _ => none

def panicked : IoError := .new .other "event loop thread panicked"

def bugMessage : IoError := .new .other "BUG: must have one refcount for filesystem"

/-- One step of `run` or of a thread, in a session with `nThreads` threads. -/
inductive Step (nThreads : Nat) (cloneFd : Bool) (s : World) : World → Prop where
  | noThreads {channels : Nat} (hrun : s.run = .cloning channels) (hnone : nThreads = 0) :
      Step nThreads cloneFd s { s with run := .leaving (.error (.new .other "n_threads")) }
  -- the channels
  | cloneChannel {channels : Nat} (hrun : s.run = .cloning channels)
      (hmore : channels + 1 < nThreads) :
      Step nThreads cloneFd s { s with run := .cloning (channels + 1) }
  | cloneFdFails {channels : Nat} (e : IoError) (hrun : s.run = .cloning channels)
      (hmore : channels + 1 < nThreads) (hclone : cloneFd = true) :
      Step nThreads cloneFd s { s with run := .leaving (.error e) }
  | channelsDone {channels : Nat} (hrun : s.run = .cloning channels)
      (hdone : channels + 1 = nThreads) :
      Step nThreads cloneFd s { s with run := .starting }
  -- the threads are started
  | eventLoop (hrun : s.run = .starting) (hmore : s.threads.length < nThreads) :
      Step nThreads cloneFd s { s with strong := s.strong + 1, run := .launching }
  | threadStarts (hrun : s.run = .launching) :
      Step nThreads cloneFd s { s with threads := s.threads ++ [.running], run := .starting }
  | threadFails (e : IoError) (hrun : s.run = .launching) :
      Step nThreads cloneFd s { s.dropArc with run := .leaving (.error e) }
  | allStarted (hrun : s.run = .starting) (hall : s.threads.length = nThreads) :
      Step nThreads cloneFd s { s with run := .joining 0 (.ok ()) }
  -- the threads are joined in the order they were started
  | join {before after : List ThreadState} {reply value : IoResult}
      {result : Outcome IoError Unit} (hrun : s.run = .joining before.length reply)
      (hthread : s.threads = before ++ .ended result :: after)
      (hvalue : returnValue result = some value) :
      Step nThreads cloneFd s
        { s with run := .joining (before.length + 1) (replyAfter reply value) }
  | joinPanicked {before after : List ThreadState} {reply : IoResult}
      {result : Outcome IoError Unit} (hrun : s.run = .joining before.length reply)
      (hthread : s.threads = before ++ .ended result :: after)
      (hvalue : returnValue result = none) :
      Step nThreads cloneFd s { s with run := .leaving (.error panicked) }
  -- `Arc::get_mut`, when all are joined
  | destroys {reply : IoResult} (hrun : s.run = .joining s.threads.length reply)
      (hunique : s.strong = 1) :
      Step nThreads cloneFd s { s.destroy with run := .leaving reply }
  | bug {reply : IoResult} (hrun : s.run = .joining s.threads.length reply)
      (hshared : s.strong ≠ 1) :
      Step nThreads cloneFd s
        { s with run := .leaving (.error bugMessage), log := s.log ++ [.bug] }
  | leaves {result : IoResult} (hrun : s.run = .leaving result) :
      Step nThreads cloneFd s { s.dropArc with run := .returned result }
  -- the threads themselves
  | dispatch {before after : List ThreadState} (hthread : s.threads = before ++ .running :: after) :
      Step nThreads cloneFd s { s with log := s.log ++ [.called before.length] }
  | threadReturns {before after : List ThreadState} (result : Outcome IoError Unit)
      (hthread : s.threads = before ++ .running :: after) :
      Step nThreads cloneFd s { s with threads := before ++ .returned result :: after }
  | threadReleases {before after : List ThreadState} {result : Outcome IoError Unit}
      (hthread : s.threads = before ++ .returned result :: after) :
      Step nThreads cloneFd s { s.dropArc with threads := before ++ .ended result :: after }

/-- Any number of steps, in any order the threads may take them. -/
def Runs (nThreads : Nat) (cloneFd : Bool) : World → World → Prop :=
  Relation.ReflTransGen (Step nThreads cloneFd)

theorem Runs.refl (nThreads : Nat) (cloneFd : Bool) (s : World) : Runs nThreads cloneFd s s :=
  Relation.ReflTransGen.refl

theorem Runs.step {nThreads : Nat} {cloneFd : Bool} {s s' s'' : World}
    (h : Runs nThreads cloneFd s s') (hstep : Step nThreads cloneFd s' s'') :
    Runs nThreads cloneFd s s'' := h.tail hstep

/-! References. -/

def ThreadState.holds : ThreadState → Bool
  | .running | .returned _ => true
  | .ended _ => false

def RunState.refs : RunState → Nat
  | .cloning _ | .starting | .joining _ _ | .leaving _ => 1
  | .launching => 2
  | .returned _ => 0

/-- No thread will be started or joined any more. -/
def RunState.left : RunState → Bool
  | .leaving _ | .returned _ => true
  | _ => false

def holding (threads : List ThreadState) : Nat := threads.countP ThreadState.holds

/-- The filesystem is destroyed once, when nobody can use it any more. -/
structure Counted (s : World) : Prop where
  strong : s.strong = s.run.refs + holding s.threads
  destroyed : s.log.count .destroy = if s.fs then 0 else 1
  kept : s.strong = 0 → s.fs = false
  unused : s.fs = false → holding s.threads = 0 ∧ s.run.left = true

@[simp] theorem holding_split (before after : List ThreadState) (thread : ThreadState) :
    holding (before ++ thread :: after) =
      holding before + holding after + if thread.holds then 1 else 0 := by
  rw [holding, List.countP_append, List.countP_cons]
  simp only [holding]
  omega

@[simp] theorem threads_destroy (s : World) : s.destroy.threads = s.threads := by
  rw [World.destroy]
  split <;> rfl

@[simp] theorem threads_dropArc (s : World) : s.dropArc.threads = s.threads := by
  rw [World.dropArc]
  split <;> simp

@[simp] theorem run_destroy (s : World) : s.destroy.run = s.run := by
  rw [World.destroy]
  split <;> rfl

@[simp] theorem run_dropArc (s : World) : s.dropArc.run = s.run := by
  rw [World.dropArc]
  split <;> simp

@[simp] theorem strong_destroy (s : World) : s.destroy.strong = s.strong := by
  rw [World.destroy]
  split <;> rfl

@[simp] theorem fs_destroy (s : World) : s.destroy.fs = false := by
  rw [World.destroy]
  split
  next h => rfl
  next h => simpa using h

@[simp] theorem strong_dropArc (s : World) : s.dropArc.strong = s.strong - 1 := by
  rw [World.dropArc]
  split
  next h => simp [h]
  next h => rfl

theorem fs_dropArc (s : World) : s.dropArc.fs = (s.fs && decide (s.strong ≠ 1)) := by
  rw [World.dropArc]
  split
  next h => simp [h]
  next h => simp [h]

/-- With the last reference the filesystem goes. -/
theorem kept_dropArc {s : World} (h : 0 < s.strong) :
    s.dropArc.strong = 0 → s.dropArc.fs = false := by
  intro hzero
  rw [strong_dropArc] at hzero
  have hone : s.strong = 1 := by omega
  simp [fs_dropArc, hone]

theorem count_destroy {s : World} (h : s.log.count .destroy = if s.fs then 0 else 1) :
    s.destroy.log.count .destroy = 1 := by
  rw [World.destroy]
  cases hfs : s.fs with
  | true => simp [h, hfs]
  | false => simp [h, hfs]

theorem count_dropArc {s : World} (h : s.log.count .destroy = if s.fs then 0 else 1) :
    s.dropArc.log.count .destroy = if s.dropArc.fs then 0 else 1 := by
  rw [World.dropArc]
  split
  · rw [fs_destroy]
    exact count_destroy h
  · exact h

variable {nThreads : Nat} {cloneFd : Bool} {s s' : World}

theorem RunState.left_of_refs {run : RunState} (h : run.refs = 0) : run.left = true := by
  cases run with
  | returned result => rfl
  | _ => cases h

theorem counted_new : Counted .new := ⟨rfl, rfl, nofun, nofun⟩

/-- Someone who still needs the filesystem keeps it from being destroyed. -/
theorem Counted.present (hs : Counted s) (h : 0 < holding s.threads ∨ s.run.left = false) :
    s.fs = true := by
  cases hfs : s.fs with
  | true => rfl
  | false =>
      obtain ⟨hholding, hleft⟩ := hs.unused hfs
      obtain h | h := h
      · omega
      · rw [hleft] at h
        cases h

/-- Nothing is to be shown for a filesystem that is still there. -/
theorem unused_of_present {fs : Bool} {unused : Prop} (hfs : fs = true) : fs = false → unused := by
  intro h
  rw [hfs] at h
  cases h

theorem Counted.step (hs : Counted s) (h : Step nThreads cloneFd s s') : Counted s' := by
  have hstrong := hs.strong
  cases h with
  | noThreads hrun | cloneChannel hrun | cloneFdFails e hrun | channelsDone hrun | allStarted hrun
  | join hrun | joinPanicked hrun =>
      have hfs : s.fs = true := hs.present (.inr (by rw [hrun]; rfl))
      rw [hrun] at hstrong
      exact ⟨hstrong, hs.destroyed, hs.kept, unused_of_present hfs⟩
  | bug hrun =>
      have hfs : s.fs = true := hs.present (.inr (by rw [hrun]; rfl))
      rw [hrun] at hstrong
      refine ⟨hstrong, ?_, hs.kept, unused_of_present hfs⟩
      simpa using hs.destroyed
  | eventLoop hrun =>
      have hfs : s.fs = true := hs.present (.inr (by rw [hrun]; rfl))
      rw [hrun] at hstrong
      refine ⟨?_, hs.destroyed, nofun, unused_of_present hfs⟩
      simp only [RunState.refs] at hstrong ⊢
      omega
  | threadStarts hrun =>
      have hfs : s.fs = true := hs.present (.inr (by rw [hrun]; rfl))
      rw [hrun] at hstrong
      refine ⟨?_, hs.destroyed, hs.kept, unused_of_present hfs⟩
      simp only [RunState.refs, holding_split, ThreadState.holds] at hstrong ⊢
      rw [hstrong]
      simp only [holding, List.countP_nil, if_true]
      omega
  -- the reference of the thread that was not started is not the last one
  | threadFails e hrun =>
      have hfs : s.fs = true := hs.present (.inr (by rw [hrun]; rfl))
      rw [hrun] at hstrong
      simp only [RunState.refs] at hstrong
      have hmany : s.strong ≠ 1 := by omega
      have hafter : s.dropArc.fs = true := by simp [fs_dropArc, hfs, hmany]
      refine ⟨?_, count_dropArc hs.destroyed, kept_dropArc (by omega), unused_of_present hafter⟩
      simp only [strong_dropArc, threads_dropArc, RunState.refs]
      omega
  | destroys hrun hunique =>
      rw [hrun, hunique] at hstrong
      simp only [RunState.refs] at hstrong
      refine ⟨?_, ?_, fun _ => fs_destroy s, fun _ => ⟨?_, rfl⟩⟩
      · simp only [strong_destroy, threads_destroy, RunState.refs]
        omega
      · simpa using count_destroy hs.destroyed
      · simp only [threads_destroy]
        omega
  | leaves hrun =>
      rw [hrun] at hstrong
      simp only [RunState.refs] at hstrong
      refine ⟨?_, count_dropArc hs.destroyed, kept_dropArc (by omega), ?_⟩
      · simp only [strong_dropArc, threads_dropArc, RunState.refs]
        omega
      · simp only [fs_dropArc, threads_dropArc]
        intro h
        refine ⟨?_, rfl⟩
        cases hfs : s.fs with
        | false => exact (hs.unused hfs).1
        | true =>
            have hone : s.strong = 1 := by simpa [hfs] using h
            omega
  | dispatch hthread =>
      refine ⟨hstrong, ?_, hs.kept, hs.unused⟩
      simpa using hs.destroyed
  | @threadReturns before after result hthread =>
      have hsame : holding s.threads = holding (before ++ .returned result :: after) := by
        rw [hthread, holding_split, holding_split]
        rfl
      rw [hsame] at hstrong
      refine ⟨hstrong, hs.destroyed, hs.kept, ?_⟩
      intro h
      have hunused := hs.unused h
      rwa [hsame] at hunused
  -- the thread that gives up the last reference is the last one that had any
  | @threadReleases before after result hthread =>
      have hholding : holding s.threads = holding before + holding after + 1 := by
        rw [hthread, holding_split]
        rfl
      have hafter : holding (before ++ .ended result :: after) = holding before + holding after := by
        rw [holding_split]
        rfl
      have hfs : s.fs = true := hs.present (.inl (by omega))
      refine ⟨?_, count_dropArc hs.destroyed, kept_dropArc (by omega), ?_⟩
      · simp only [strong_dropArc, run_dropArc, hafter]
        omega
      · simp only [fs_dropArc, run_dropArc, hafter]
        intro h
        have hone : s.strong = 1 := by simpa [hfs] using h
        exact ⟨by omega, RunState.left_of_refs (by omega)⟩

/-! What `run` knows about the threads. -/

/-- The thread can be joined, and did not panic. -/
def Joined (thread : ThreadState) : Prop :=
  ∃ result value, thread = .ended result ∧ returnValue result = some value

/-- The error of the first thread that failed, in the order they were started. -/
def firstError : List ThreadState → IoResult
  | [] => .ok ()
  | .ended (.err e) :: _ => .error e
  | _ :: rest => firstError rest

def Panicked (threads : List ThreadState) : Prop :=
  ∃ result, .ended result ∈ threads ∧ returnValue result = none

def Progress (nThreads : Nat) (fs : Bool) (threads : List ThreadState) : RunState → Prop
  | .cloning _ => threads = []
  | .starting => threads.length ≤ nThreads
  | .launching => threads.length < nThreads
  | .joining joined reply =>
      threads.length = nThreads ∧ joined ≤ nThreads ∧
        (∀ thread ∈ threads.take joined, Joined thread) ∧ reply = firstError (threads.take joined)
  | .leaving result | .returned result =>
      nThreads = 0 ∨ threads.length < nThreads ∨ Panicked threads ∨
        (fs = false ∧ (∀ thread ∈ threads, Joined thread) ∧ result = firstError threads)

theorem Joined.not_holds {thread : ThreadState} (h : Joined thread) : thread.holds = false := by
  obtain ⟨result, value, rfl, _⟩ := h
  rfl

theorem holding_eq_zero_of_joined {threads : List ThreadState}
    (h : ∀ thread ∈ threads, Joined thread) : holding threads = 0 := by
  refine List.countP_eq_zero.mpr fun thread hmem => ?_
  rw [(h thread hmem).not_holds]
  exact Bool.false_ne_true

/-- The error of the first thread stays when another one is joined. -/
theorem firstError_concat {threads : List ThreadState} {result : Outcome IoError Unit}
    {value : IoResult} (h : ∀ thread ∈ threads, Joined thread)
    (hvalue : returnValue result = some value) :
    firstError (threads ++ [.ended result]) = replyAfter (firstError threads) value := by
  induction threads with
  | nil =>
      cases result with
      | ok u | err e =>
          cases hvalue
          rfl
      | panic reason => cases hvalue
  | cons thread threads ih =>
      obtain ⟨other, otherValue, rfl, hother⟩ := h thread List.mem_cons_self
      have htail := ih fun thread hmem => h thread (List.mem_cons_of_mem _ hmem)
      cases other with
      | ok u => exact htail
      | err e => cases value <;> rfl
      | panic reason => cases hother

theorem firstError_eq_ok {threads : List ThreadState} (h : ∀ thread ∈ threads, Joined thread) :
    firstError threads = .ok () ↔ ∀ thread ∈ threads, thread = .ended (.ok ()) := by
  induction threads with
  | nil => simp [firstError]
  | cons thread threads ih =>
      obtain ⟨result, value, rfl, hvalue⟩ := h thread List.mem_cons_self
      have htail := ih fun thread hmem => h thread (List.mem_cons_of_mem _ hmem)
      cases result with
      | ok u => simpa [firstError] using htail
      | err e => simp [firstError]
      | panic reason => cases hvalue

theorem firstError_eq_error {threads : List ThreadState} (h : ∀ thread ∈ threads, Joined thread)
    (e : IoError) :
    firstError threads = .error e ↔
      ∃ before after, threads = before ++ .ended (.err e) :: after ∧
        ∀ thread ∈ before, thread = .ended (.ok ()) := by
  induction threads with
  | nil => simp [firstError]
  | cons thread threads ih =>
      obtain ⟨result, value, rfl, hvalue⟩ := h thread List.mem_cons_self
      have htail := ih fun thread hmem => h thread (List.mem_cons_of_mem _ hmem)
      cases result with
      | ok u =>
          have hcons : firstError (.ended (.ok u) :: threads) = firstError threads := rfl
          rw [hcons, htail]
          constructor
          · rintro ⟨before, after, rfl, hbefore⟩
            exact ⟨.ended (.ok u) :: before, after, rfl, by simpa using hbefore⟩
          · rintro ⟨before, after, hsplit, hbefore⟩
            cases before with
            | nil => simp at hsplit
            | cons first before =>
                injection hsplit with _ hsplit
                exact ⟨before, after, hsplit, fun thread hmem =>
                  hbefore thread (List.mem_cons_of_mem _ hmem)⟩
      | err e' =>
          constructor
          · intro heq
            injection heq with he
            exact ⟨[], threads, by rw [he, List.nil_append], nofun⟩
          · rintro ⟨before, after, hsplit, hbefore⟩
            cases before with
            | nil =>
                injection hsplit with hthread _
                injection hthread with hresult
                injection hresult with he
                rw [firstError, he]
            | cons first before =>
                injection hsplit with hfirst _
                have hok := hbefore first List.mem_cons_self
                rw [← hfirst] at hok
                simp at hok
      | panic reason => cases hvalue

/-- A thread that was not joined yet may change without `run` noticing. -/
theorem Progress.update {fs fs' : Bool} {before after : List ThreadState}
    {thread thread' : ThreadState} {run : RunState} (hholds : thread.holds = true)
    (h : Progress nThreads fs (before ++ thread :: after) run) :
    Progress nThreads fs' (before ++ thread' :: after) run := by
  have hlength : (before ++ thread' :: after).length = (before ++ thread :: after).length := by simp
  have hnot : ∀ threads : List ThreadState, (∀ t ∈ threads, Joined t) → thread ∉ threads := by
    intro threads hjoined hmem
    rw [(hjoined thread hmem).not_holds] at hholds
    cases hholds
  cases run with
  | cloning channels => simp [Progress] at h
  | starting | launching =>
      simp only [Progress, hlength] at h ⊢
      exact h
  | joining joined reply =>
      obtain ⟨hall, hle, hjoined, hreply⟩ := h
      have hbefore : joined ≤ before.length := by
        by_contra hlt
        refine hnot _ hjoined ?_
        obtain ⟨rest, hrest⟩ := Nat.exists_eq_add_of_lt (Nat.lt_of_not_le hlt)
        rw [hrest, Nat.add_assoc, List.take_append]
        simp
      rw [List.take_append_of_le_length hbefore] at hjoined hreply
      refine ⟨hlength.trans hall, hle, ?_, ?_⟩
      · rw [List.take_append_of_le_length hbefore]
        exact hjoined
      · rw [List.take_append_of_le_length hbefore]
        exact hreply
  | leaving result | returned result =>
      simp only [Progress, hlength] at h ⊢
      obtain hzero | hfew | ⟨result', hmem, hvalue⟩ | ⟨_, hjoined, _⟩ := h
      · exact .inl hzero
      · exact .inr (.inl hfew)
      · refine .inr (.inr (.inl ⟨result', ?_, hvalue⟩))
        have hne : .ended result' ≠ thread := by
          rintro rfl
          cases hholds
        rw [List.mem_append, List.mem_cons] at hmem ⊢
        obtain hmem | hmem | hmem := hmem
        · exact .inl hmem
        · exact absurd hmem hne
        · exact .inr (.inr hmem)
      · exact absurd (by simp) (hnot _ hjoined)

/-- When all threads are joined, the only reference left is the one of `run`. -/
theorem Counted.unique (hs : Counted s) (hp : Progress nThreads s.fs s.threads s.run)
    {reply : IoResult} (hrun : s.run = .joining s.threads.length reply) : s.strong = 1 := by
  rw [hrun] at hp
  obtain ⟨_, _, hjoined, _⟩ := hp
  rw [List.take_length] at hjoined
  rw [hs.strong, hrun, holding_eq_zero_of_joined hjoined]
  rfl

theorem Progress.step (hs : Counted s) (hp : Progress nThreads s.fs s.threads s.run)
    (h : Step nThreads cloneFd s s') : Progress nThreads s'.fs s'.threads s'.run := by
  cases h with
  | noThreads hrun hnone => exact .inl hnone
  | cloneChannel hrun =>
      rw [hrun] at hp
      exact hp
  | cloneFdFails e hrun hmore =>
      rw [hrun] at hp
      have hempty : s.threads = [] := hp
      exact .inr (.inl (by rw [hempty]; exact Nat.lt_of_le_of_lt (Nat.zero_le _) hmore))
  | channelsDone hrun =>
      rw [hrun] at hp
      have hempty : s.threads = [] := hp
      change s.threads.length ≤ nThreads
      rw [hempty]
      exact Nat.zero_le _
  | eventLoop hrun hmore => exact hmore
  | threadStarts hrun =>
      rw [hrun] at hp
      have hfew : s.threads.length < nThreads := hp
      change (s.threads ++ [ThreadState.running]).length ≤ nThreads
      rw [List.length_append]
      exact hfew
  | threadFails e hrun =>
      rw [hrun] at hp
      refine .inr (.inl ?_)
      rw [threads_dropArc]
      exact hp
  | allStarted hrun hall => exact ⟨hall, Nat.zero_le _, by simp, by simp [firstError]⟩
  | @join before after reply value result hrun hthread hvalue =>
      rw [hrun] at hp
      obtain ⟨hall, hle, hjoined, hreply⟩ := hp
      have hbefore : s.threads.take before.length = before := by rw [hthread, List.take_left]
      have htake : s.threads.take (before.length + 1) = before ++ [.ended result] := by
        have hsplit : s.threads = (before ++ [.ended result]) ++ after := by simp [hthread]
        rw [hsplit, List.take_left' (by simp)]
      rw [hbefore] at hjoined hreply
      refine ⟨hall, ?_, ?_, ?_⟩
      · rw [← hall, hthread]
        simp
      · rw [htake]
        intro thread hmem
        obtain hmem | hmem := List.mem_append.mp hmem
        · exact hjoined thread hmem
        · exact ⟨result, value, List.mem_singleton.mp hmem, hvalue⟩
      · rw [htake, firstError_concat hjoined hvalue, hreply]
  | joinPanicked hrun hthread hvalue =>
      refine .inr (.inr (.inl ⟨_, ?_, hvalue⟩))
      rw [hthread]
      simp
  | destroys hrun =>
      rw [hrun] at hp
      obtain ⟨_, _, hjoined, hreply⟩ := hp
      rw [List.take_length] at hjoined hreply
      refine .inr (.inr (.inr ⟨fs_destroy s, ?_, ?_⟩))
      · rw [threads_destroy]
        exact hjoined
      · rw [threads_destroy]
        exact hreply
  | bug hrun hshared => exact absurd (hs.unique hp hrun) hshared
  | leaves hrun =>
      rw [hrun] at hp
      simp only [Progress, threads_dropArc, fs_dropArc] at hp ⊢
      obtain hzero | hfew | hpanicked | ⟨hfs, hjoined⟩ := hp
      · exact .inl hzero
      · exact .inr (.inl hfew)
      · exact .inr (.inr (.inl hpanicked))
      · exact .inr (.inr (.inr ⟨by rw [hfs, Bool.false_and], hjoined⟩))
  | dispatch => exact hp
  | threadReturns result hthread =>
      rw [hthread] at hp
      exact hp.update rfl
  | threadReleases hthread =>
      rw [hthread] at hp
      simp only [run_dropArc]
      exact hp.update rfl

/-- What holds in every run. -/
structure Sound (nThreads : Nat) (s : World) : Prop where
  counted : Counted s
  progress : Progress nThreads s.fs s.threads s.run
  noBug : .bug ∉ s.log
  /-- Nothing happens to the filesystem once it is destroyed. -/
  last : .destroy ∉ s.log.dropLast

theorem mem_destroy_log {event : Event} (hne : event ≠ .destroy) (s : World) :
    event ∈ s.destroy.log ↔ event ∈ s.log := by
  rw [World.destroy]
  split <;> simp [hne]

theorem mem_dropArc_log {event : Event} (hne : event ≠ .destroy) (s : World) :
    event ∈ s.dropArc.log ↔ event ∈ s.log := by
  rw [World.dropArc]
  split
  · exact mem_destroy_log hne _
  · rfl

theorem Counted.not_destroyed (hs : Counted s) (hfs : s.fs = true) : .destroy ∉ s.log := by
  have hcount := hs.destroyed
  rw [hfs] at hcount
  exact List.count_eq_zero.mp hcount

/-- Only a filesystem that is still there is destroyed. -/
theorem last_destroy {s : World} (hcount : s.fs = true → .destroy ∉ s.log)
    (h : .destroy ∉ s.log.dropLast) : .destroy ∉ s.destroy.log.dropLast := by
  rw [World.destroy]
  split
  next hfs =>
    rw [List.dropLast_concat]
    exact hcount hfs
  next => exact h

theorem last_dropArc (hs : Counted s) (h : .destroy ∉ s.log.dropLast) :
    .destroy ∉ s.dropArc.log.dropLast := by
  rw [World.dropArc]
  split
  · exact last_destroy hs.not_destroyed h
  · exact h

theorem Sound.step (hs : Sound nThreads s) (h : Step nThreads cloneFd s s') :
    Sound nThreads s' := by
  refine ⟨hs.counted.step h, hs.progress.step hs.counted h, ?_, ?_⟩
  · have hbug := hs.noBug
    cases h with
    | bug hrun hshared => exact absurd (hs.counted.unique hs.progress hrun) hshared
    | destroys => rwa [mem_destroy_log (by simp)]
    | threadFails | leaves | threadReleases => rwa [mem_dropArc_log (by simp)]
    | dispatch => simpa using hbug
    | _ => exact hbug
  · have hlast := hs.last
    cases h with
    | bug hrun hshared => exact absurd (hs.counted.unique hs.progress hrun) hshared
    | destroys => exact last_destroy hs.counted.not_destroyed hlast
    | threadFails | leaves | threadReleases => exact last_dropArc hs.counted hlast
    | dispatch hthread =>
        have hholding : 0 < holding s.threads := by
          rw [hthread, holding_split]
          exact Nat.succ_pos _
        rw [List.dropLast_concat]
        exact hs.counted.not_destroyed (hs.counted.present (.inl hholding))
    | _ => exact hlast

theorem sound_of_runs (h : Runs nThreads cloneFd .new s) : Sound nThreads s := by
  induction h with
  | refl => exact ⟨counted_new, rfl, nofun, nofun⟩
  | tail _ hstep ih => exact ih.step hstep

theorem eq_nil_of_last {log before after : List Event} (h : .destroy ∉ log.dropLast)
    (hsplit : log = before ++ .destroy :: after) : after = [] := by
  by_contra hne
  refine h ?_
  rw [hsplit, List.dropLast_append_of_ne_nil (List.cons_ne_nil _ _),
    List.dropLast_cons_of_ne_nil hne]
  simp

theorem Counted.unused_of_mem (hs : Counted s) (h : .destroy ∈ s.log) :
    holding s.threads = 0 ∧ s.run.left = true := by
  cases hfs : s.fs with
  | true => exact absurd h (hs.not_destroyed hfs)
  | false => exact hs.unused hfs

theorem Counted.count_le (hs : Counted s) : s.log.count .destroy ≤ 1 := by
  rw [hs.destroyed]
  split <;> omega

theorem Counted.count_eq (hs : Counted s) (hfs : s.fs = false) : s.log.count .destroy = 1 := by
  rw [hs.destroyed, hfs]
  rfl

/-- The filesystem is destroyed once and for all: when no event loop is at work and none
will be started, and not later than the last of `run` and the threads comes to its end.
If the threads were all started and none panicked, `run` destroys it before it
returns, and reports what they came to. -/
theorem destroyed_once (hthreads : 1 ≤ nThreads) (h : Runs nThreads cloneFd .new s) :
    s.log.count .destroy ≤ 1 ∧
    (.destroy ∈ s.log → (∀ thread ∈ s.threads, thread ≠ .running) ∧ s.run.left = true) ∧
    (∀ before after, s.log = before ++ .destroy :: after → after = []) ∧
    (∀ result, s.run = .returned result →
      (∀ thread ∈ s.threads, ∃ result, thread = .ended result) → s.log.count .destroy = 1) ∧
    .bug ∉ s.log ∧
    (∀ result, s.run = .returned result → s.threads.length = nThreads → ¬ Panicked s.threads →
      s.log.count .destroy = 1 ∧
      (result = .ok () ↔ ∀ thread ∈ s.threads, thread = .ended (.ok ())) ∧
      ∀ e, result = .error e ↔
        ∃ before after, s.threads = before ++ .ended (.err e) :: after ∧
          ∀ thread ∈ before, thread = .ended (.ok ())) := by
  obtain ⟨hcounted, hprogress, hbug, hlast⟩ := sound_of_runs h
  refine ⟨hcounted.count_le, ?_, fun before after => eq_nil_of_last hlast, ?_, hbug, ?_⟩
  · intro hdestroyed
    obtain ⟨hholding, hleft⟩ := hcounted.unused_of_mem hdestroyed
    refine ⟨fun thread hmem hrunning => ?_, hleft⟩
    have hnot := List.countP_eq_zero.mp hholding thread hmem
    rw [hrunning] at hnot
    exact hnot rfl
  · intro result hrun hended
    have hholding : holding s.threads = 0 := by
      refine List.countP_eq_zero.mpr fun thread hmem => ?_
      obtain ⟨result, rfl⟩ := hended thread hmem
      exact Bool.false_ne_true
    refine hcounted.count_eq (hcounted.kept ?_)
    rw [hcounted.strong, hrun, hholding]
    rfl
  · intro result hrun hall hpanicked
    rw [hrun] at hprogress
    obtain hzero | hfew | hpanicked' | ⟨hfs, hjoined, hresult⟩ := hprogress
    · omega
    · omega
    · exact absurd hpanicked' hpanicked
    · rw [hresult]
      exact ⟨hcounted.count_eq hfs, firstError_eq_ok hjoined, firstError_eq_error hjoined⟩

/-- Two threads fail, the second one first. -/
theorem destroyed_once_two :
    ∃ s, Runs 2 false .new s ∧ s.run = .returned (.error (.os 5)) ∧
      s.log.count .destroy = 1 := by
  have hboth : [ThreadState.running, .running] = [.running] ++ .running :: [] := rfl
  have hsecond : [ThreadState.running, .returned (.err (.os 11))] =
    [.running] ++ .returned (.err (.os 11)) :: [] := rfl
  have hfirst : [ThreadState.running, .ended (.err (.os 11))] =
    [] ++ .running :: [.ended (.err (.os 11))] := rfl
  have hfirst' : [ThreadState.returned (.err (.os 5)), .ended (.err (.os 11))] =
    [] ++ .returned (.err (.os 5)) :: [.ended (.err (.os 11))] := rfl
  have hended : [ThreadState.ended (.err (.os 5)), .ended (.err (.os 11))] =
    [] ++ .ended (.err (.os 5)) :: [.ended (.err (.os 11))] := rfl
  have hended' : [ThreadState.ended (.err (.os 5)), .ended (.err (.os 11))] =
    [.ended (.err (.os 5))] ++ .ended (.err (.os 11)) :: [] := rfl
  have hstarted := (((((((Runs.refl 2 false .new).step
    (.cloneChannel rfl (by decide))).step
    (.channelsDone rfl rfl)).step
    (.eventLoop rfl (by decide))).step
    (.threadStarts rfl)).step
    (.eventLoop rfl (by decide))).step
    (.threadStarts rfl)).step
    (.allStarted rfl rfl)
  have hreturned := ((((hstarted.step
    (.threadReturns (.err (.os 11)) hboth)).step
    (.threadReleases hsecond)).step
    (.threadReturns (.err (.os 5)) hfirst)).step
    (.threadReleases hfirst'))
  have hruns := (((hreturned.step
    (.join rfl hended rfl)).step
    (.join rfl hended' rfl)).step
    (.destroys rfl rfl)).step
    (.leaves rfl)
  have hpanicked : ¬ Panicked [.ended (.err (.os 5)), .ended (.err (.os 11))] := by
    simp [Panicked, returnValue]
  obtain ⟨_, _, _, _, _, hreport⟩ := destroyed_once (by decide) hruns
  exact ⟨_, hruns, rfl, (hreport _ rfl rfl hpanicked).1⟩

end Fuser.Running
