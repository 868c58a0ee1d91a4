import Fuser.Serving

/-!
Asynchronous filesystems. `TokioAdapter` makes a task of a call and returns, so that the
loop that made the call reads on while the task is at work. It does so for four of the
methods, and has the others as the trait provides them.

A task may find the filesystem in another state than the task before it did. A filesystem
is therefore given by what its methods come to for each request, by the place of the
request among all that were received. A task that is cancelled lets go of its reply
object as one that panics does.
-/

namespace Fuser

open Rust Wire

/-- What the methods that the trait provides answer. -/
def FsMethod.provided (self : FsMethod) : Option Answer :=
  match self with
  | .symlink .. | .link .. => some ⟨.entry, .error .eperm⟩
  | .open .. | .opendir .. => some ⟨.open, .opened ⟨0⟩ ⟨0⟩⟩
  | .release .. | .releasedir .. => some ⟨.empty, .ok⟩
  | .statfs .. => some ⟨.statfs, .statfs 0 0 0 0 0 512 255 0⟩
  | _ => self.replyType.map fun t => ⟨t, .error .enosys⟩

structure RequestContext where
  uid : Option UInt32
  gid : Option UInt32
  pid : UInt32
  requestId : RequestId

def RequestContext.ofRequest (req : Request) : RequestContext :=
  ⟨req.uid, req.gid, req.pid, req.unique⟩

structure LookupResponse where
  ttl : Duration
  attr : FileAttr
  generation : Generation

structure GetAttrResponse where
  ttl : Duration
  attr : FileAttr

/-- What is done with a `DirEntListBuilder`, up to the result or a panic. -/
inductive DirEntListing where
  | add (args : ReplyDirectory.Add) (next : Bool → DirEntListing)
  | remainingCapacity (next : Nat → DirEntListing)
  | finish (result : Except Errno Unit)
  | unwind (reason : Panic)

/-- The entries go to the reply object that the builder borrows. -/
def DirEntListing.build : DirEntListing → Method DirectoryReply Empty (Except Errno Unit)
  | .add args next => do
      let full ← ReplyDirectory.add args
      (next full).build
  | .remainingCapacity next => fun entries => (next entries.remainingCapacity).build entries
  | .finish result => return result
  | .unwind reason => .abort reason

/-- What the methods come to. `read` has its buffer as a state. -/
structure AsyncFilesystem where
  lookup (context : RequestContext) (parent : INodeNo) (name : OsStr) :
    Outcome Errno LookupResponse
  getattr (context : RequestContext) (ino : INodeNo) (fileHandle : Option FileHandle) :
    Outcome Errno GetAttrResponse
  read (context : RequestContext) (ino : INodeNo) (fileHandle : FileHandle) (offset : UInt64)
    (size : UInt32) (flags : OpenFlags) (lock : Option LockOwner) : Method (List UInt8) Errno Unit
  readdir (context : RequestContext) (ino : INodeNo) (fileHandle : FileHandle)
    (offset : UInt64) : DirEntListing

namespace TokioAdapter

/-- A reply object is answered with, or dropped. -/
def conclude (answer : Option Answer) (unique : RequestId) (size : Nat) :
    Method (List (List UInt8)) Empty Unit :=
  match answer with
  | some answer => answer.call.perform unique size
  | none => (ReplyRaw.new unique).drops

/-- The two arms of a task, and the reply object of one that does not get to them. -/
def respond {α : Type} {t : ReplyType} (result : Outcome Errno α) (answer : α → ReplyCall t) :
    Option Answer :=
  match result with
  | .ok a => some ⟨t, answer a⟩
  | .err e => some ⟨t, .error e⟩
  | .panic _ => none

/-- The task of `readdir`. -/
def readdirTask (listing : DirEntListing) (unique : RequestId) (size : Nat) :
    Method (List (List UInt8)) Empty Unit := fun sent =>
  match listing.build.run (.new unique size) with
  | (.ok (.ok ()), dir) =>
      let (outcome, (_, sent)) := DirectoryReply.ok.run (dir, sent)
      (outcome, sent)
  | (.ok (.error e), dir) => (dir.reply.sends (ResponseImpl.response (ResponseErrno.mk e))).run sent
  | (.err e, _) => nomatch e
  | (.panic reason, dir) =>
      let (_, sent) := dir.reply.drops.run sent
      (.panic reason, sent)

def spawns : FsMethod → Bool
  | .lookup .. | .getattr .. | .read .. | .readdir .. => true
  | _ => false

/-- What becomes of the reply object that a method was called with. -/
def call (inner : AsyncFilesystem) (call : FsCall) (object : ReplyObject) :
    Method (List (List UInt8)) Empty Unit :=
  let context := RequestContext.ofRequest call.request
  let conclude := fun answer => conclude answer object.unique object.size
  match call.method with
  | .lookup parent name =>
      conclude (respond (inner.lookup context parent name)
        fun response => ReplyCall.entry response.ttl response.attr response.generation)
  | .getattr ino fh =>
      conclude (respond (inner.getattr context ino fh)
        fun response => ReplyCall.attr response.ttl response.attr)
  | .read ino fh offset size flags lockOwner =>
      let (result, buf) := (inner.read context ino fh offset size flags lockOwner).run []
      conclude (respond result fun _ => ReplyCall.data buf)
  | .readdir ino fh offset =>
      readdirTask (inner.readdir context ino fh offset) object.unique object.size
  | method => conclude method.provided

end TokioAdapter

/-- The answer that a listing comes to, given the calls of `add` that were made for it. -/
def DirEntListing.answer :
    DirEntListing → DirectoryReply → List ReplyDirectory.Add → Option Answer
  | .add args next, entries, adds =>
      match (ReplyDirectory.add args).run entries with
      | (.ok full, entries) => (next full).answer entries (adds ++ [args])
      | _ => none
  | .remainingCapacity next, entries, adds => (next entries.remainingCapacity).answer entries adds
  | .finish (.ok ()), _, adds => some ⟨.directory, .directory adds⟩
  | .finish (.error e), _, _ => some ⟨.directory, .error e⟩
  | .unwind _, _, _ => none

section Listing

variable {unique : RequestId} {size : Nat}

/-- What is left of a reply object after a listing, and the answer it is for. -/
inductive Concludes (unique : RequestId) (size : Nat) : Option Answer →
    Outcome Empty (Except Errno Unit) × DirectoryReply → Prop where
  | listed {adds : List ReplyDirectory.Add} {fulls : List Bool} {dir : DirectoryReply}
      (hadds : (addAll ReplyDirectory.add adds).run (.new unique size) = (.ok fulls, dir))
      (hreply : dir.reply = .new unique) :
      Concludes unique size (some ⟨.directory, .directory adds⟩) (.ok (.ok ()), dir)
  | failed (e : Errno) {dir : DirectoryReply} (hreply : dir.reply = .new unique) :
      Concludes unique size (some ⟨.directory, .error e⟩) (.ok (.error e), dir)
  | unwound (reason : Panic) {dir : DirectoryReply} (hreply : dir.reply = .new unique) :
      Concludes unique size none (.panic reason, dir)

theorem run_addAll_concat {γ : Type} {add : γ → Method DirectoryReply Empty Bool} {adds : List γ}
    {args : γ} {self dir dir' : DirectoryReply} {fulls : List Bool} {full : Bool}
    (hadds : (addAll add adds).run self = (.ok fulls, dir))
    (hadd : (add args).run dir = (.ok full, dir')) :
    (addAll add (adds ++ [args])).run self = (.ok (fulls ++ [full]), dir') := by
  induction adds generalizing self fulls with
  | nil =>
      cases hadds
      rw [List.nil_append, addAll, Method.run_bind_of_ok _ hadd]
      rfl
  | cons first adds ih =>
      obtain ⟨full', self', hfirst, hrest⟩ := Method.run_bind_eq_ok hadds
      obtain ⟨fulls', last, hadds', hlast⟩ := Method.run_bind_eq_ok hrest
      cases hlast
      rw [List.cons_append, addAll, Method.run_bind_of_ok _ hfirst,
        Method.run_bind_of_ok _ (ih hadds')]
      rfl

theorem concludes_build (listing : DirEntListing) {entries : DirectoryReply}
    {adds : List ReplyDirectory.Add} {fulls : List Bool}
    (hadds : (addAll ReplyDirectory.add adds).run (.new unique size) = (.ok fulls, entries))
    (hreply : entries.reply = .new unique) :
    Concludes unique size (listing.answer entries adds) (listing.build.run entries) := by
  induction listing generalizing entries adds fulls with
  | add args next ih =>
      rw [DirEntListing.answer, DirEntListing.build]
      have hkeeps : ((ReplyDirectory.add args).run entries).2.reply = .new unique := hreply
      rcases hadd : (ReplyDirectory.add args).run entries with ⟨full | e | reason, entries'⟩
      · rw [hadd] at hkeeps
        rw [Method.run_bind_of_ok _ hadd]
        exact ih full (run_addAll_concat hadds hadd) hkeeps
      · cases e
      · rw [hadd] at hkeeps
        rw [Method.run_bind_of_panic _ hadd]
        exact .unwound reason hkeeps
  | remainingCapacity next ih => exact ih entries.remainingCapacity hadds hreply
  | finish result =>
      cases result with
      | ok _ => exact .listed hadds hreply
      | error e => exact .failed e hreply
  | unwind reason => exact .unwound reason hreply

end Listing

namespace TokioAdapter

/-- What is sent for a listing is the answer with the entries that were added. -/
theorem readdirTask_sends (listing : DirEntListing) (unique : RequestId) (size : Nat)
    (sent : List (List UInt8)) :
    ((readdirTask listing unique size).run sent).2 =
      ((conclude (listing.answer (.new unique size) []) unique size).run sent).2 := by
  have hnil : (addAll ReplyDirectory.add []).run (.new unique size) = (.ok [], .new unique size) :=
    rfl
  have hconcludes := concludes_build listing hnil rfl
  simp only [Method.run, readdirTask] at hconcludes ⊢
  generalize listing.build (.new unique size) = result at hconcludes ⊢
  generalize listing.answer (.new unique size) [] = answer at hconcludes ⊢
  cases hconcludes with
  | @listed adds fulls dir hadds hreply =>
      have hresponse : (ReplyCall.directory adds).response unique size = dir.data.newDirectory := by
        simp only [ReplyCall.response, ReplyCall.listing, hadds, Outcome.ok_bind]
      simp only [conclude, ReplyCall.perform, hresponse, DirectoryReply.ok]
      cases (dir.data.newDirectory : Outcome Empty Response) with
      | ok response => simp only [Method.run, hreply, ReplyRaw.sends]
      | err e => cases e
      | panic reason =>
          have hdrop := ReplyRaw.run_drop unique {} sent
          have habort := Method.run_bind_of_ok
            (fun _ => (.abort reason : Method (List (List UInt8)) Empty Unit))
            (ReplyRaw.run_drops unique sent)
          simp only [Method.run, ReplyRaw.new, hreply] at hdrop habort ⊢
          rw [hdrop, habort]
          rfl
  | failed e hreply =>
      simp only [hreply]
      rfl
  | unwound reason hreply =>
      simp only [hreply]
      rfl

/-- The answer that a call of a method comes to, if the reply object is not dropped. -/
def answer (inner : AsyncFilesystem) (call : FsCall) (object : ReplyObject) : Option Answer :=
  let context := RequestContext.ofRequest call.request
  match call.method with
  | .lookup parent name =>
      respond (inner.lookup context parent name)
        fun response => ReplyCall.entry response.ttl response.attr response.generation
  | .getattr ino fh =>
      respond (inner.getattr context ino fh)
        fun response => ReplyCall.attr response.ttl response.attr
  | .read ino fh offset size flags lockOwner =>
      let (result, buf) := (inner.read context ino fh offset size flags lockOwner).run []
      respond result fun _ => ReplyCall.data buf
  | .readdir ino fh offset =>
      (inner.readdir context ino fh offset).answer (.new object.unique object.size) []
  | method => method.provided

theorem call_sends (inner : AsyncFilesystem) (call : FsCall) (object : ReplyObject)
    (sent : List (List UInt8)) :
    ((TokioAdapter.call inner call object).run sent).2 =
      ((conclude (answer inner call object) object.unique object.size).run sent).2 := by
  rw [TokioAdapter.call, answer]
  cases call.method with
  | readdir ino fh offset => exact readdirTask_sends _ object.unique object.size sent
  | _ => rfl

/-- A call is answered by a method of the reply object that came with it. -/
def Typed (t : Option ReplyType) (answer : Option Answer) : Prop :=
  ∀ a, answer = some a → t = some a.type

theorem typed_respond {α : Type} {t : ReplyType} (result : Outcome Errno α)
    (answer : α → ReplyCall t) : Typed (some t) (respond result answer) := by
  intro a ha
  cases result with
  | ok _ | err _ =>
      cases ha
      rfl
  | panic _ => cases ha

theorem typed_listing (listing : DirEntListing) (entries : DirectoryReply)
    (adds : List ReplyDirectory.Add) :
    Typed (some .directory) (listing.answer entries adds) := by
  induction listing generalizing entries adds with
  | add args next ih =>
      rw [DirEntListing.answer]
      split
      · exact ih _ _ _
      · intro a ha
        cases ha
  | remainingCapacity next ih => exact ih _ _ _
  | finish result =>
      intro a ha
      cases result with
      | ok _ | error _ =>
          cases ha
          rfl
  | unwind reason =>
      intro a ha
      cases ha

theorem typed_provided (method : FsMethod) : Typed method.replyType method.provided := by
  intro a ha
  have henosys {t : Option ReplyType}
      (h : (t.map fun t => (⟨t, .error .enosys⟩ : Answer)) = some a) : t = some a.type := by
    obtain ⟨t, rfl, rfl⟩ := Option.map_eq_some_iff.mp h
    rfl
  cases method with
  | symlink | link | «open» | opendir | release | releasedir | statfs =>
      cases ha
      rfl
  | _ => exact henosys ha

theorem typed_answer (inner : AsyncFilesystem) (call : FsCall) (object : ReplyObject) :
    Typed call.method.replyType (answer inner call object) := by
  rw [answer]
  cases call.method with
  | lookup | getattr | read => exact typed_respond _ _
  | readdir => exact typed_listing _ _ _
  | _ => exact typed_provided _

theorem call_of_not_spawns (inner : AsyncFilesystem) (object : ReplyObject) {call : FsCall}
    (h : spawns call.method = false) :
    TokioAdapter.call inner call object =
      conclude call.method.provided object.unique object.size := by
  rw [TokioAdapter.call]
  cases hmethod : call.method with
  | lookup | getattr | read | readdir =>
      rw [hmethod] at h
      cases h
  | _ => rfl

/-- The provided methods answer without a panic. -/
theorem returns_provided (method : FsMethod) (unique : RequestId) (size : Nat)
    (sent : List (List UInt8)) :
    ((conclude method.provided unique size).run sent).1 = .ok () := by
  have hsending {ρ : Type} [ResponseImpl ρ] {self : ρ} {t : ReplyType} {call : ReplyCall t}
      (hresponse : call.response unique size = ReplyCall.sending self)
      (hfits : (ResponseImpl.response self).Fits) :
      ((conclude (some ⟨t, call⟩) unique size).run sent).1 = .ok () := by
    simp only [conclude, ReplyCall.perform, hresponse, ReplyCall.sending]
    exact congrArg Prod.fst (ReplyRaw.run_sends hfits unique sent)
  have hstruct {S : Type} [ReprC S] (value : S) (h : 16 + ReprC.size S < 2 ^ 32) :
      (ResponseImpl.response (ResponseStruct.mk value)).Fits := by
    rw [Response.Fits, ReplyCall.sumLen_struct]
    exact h
  have herror (t : ReplyType) (errno : Errno) :
      ((conclude (some ⟨t, .error errno⟩) unique size).run sent).1 = .ok () :=
    hsending rfl (Response.fits_ofErrno errno)
  have henosys : ((conclude (method.replyType.map fun t => ⟨t, .error .enosys⟩) unique size).run
      sent).1 = .ok () := by
    cases method.replyType with
    | none => exact congrArg Prod.fst (ReplyRaw.run_drops unique sent)
    | some t => exact herror t .enosys
  cases method with
  | symlink | link => exact herror .entry .eperm
  | «open» | opendir | statfs => exact hsending rfl (hstruct _ (by decide))
  | release | releasedir => exact hsending rfl Response.fits_empty
  | _ => exact henosys

end TokioAdapter

/-- The request that a task is for is the `number`th. -/
structure Task (ι : Type) where
  number : Nat
  waiting : Waiting ι

/-- The event loops of an adapter, and its tasks. -/
structure Adapting (ι : Type) where
  ended : ι → Option (Outcome IoError Unit)
  received : List (Taken ι)
  log : List (Nat × Exchange ι)
  tasks : List (Task ι)

/-- What happens next: a thread reads, or a task is done. -/
inductive AdaptEvent (ι : Type) where
  | read (thread : ι) (event : ReadEvent)
  | finish (index : Nat)

/-- The calls that a loop makes on a message and that are to be answered. -/
def SessionEventLoop.asked {ι : Type} (se : SessionEventLoop) (addr : ι → Nat)
    (request : Taken ι) : List (Waiting ι) :=
  (se.calls (addr request.thread) request.bytes).filterMap fun call =>
    call.reply.map (⟨request, call, ·⟩)

namespace Adapting

variable {ι : Type}

def start : Adapting ι := ⟨fun _ => none, [], [], []⟩

section Step

variable (se : SessionEventLoop) (addr : ι → Nat) (inner : Nat → AsyncFilesystem)

/-- What is sent for one call, whenever that is. -/
def sends (number : Nat) (waiting : Waiting ι) : List (Nat × Exchange ι) :=
  let answer := TokioAdapter.answer (inner number) waiting.call waiting.object
  ((TokioAdapter.call (inner number) waiting.call waiting.object).run []).2.map fun reply =>
    (number, ⟨waiting.request, answer, reply⟩)

/-- What a filesystem would send for a request that makes no tasks. -/
def plain (number : Nat) (request : Taken ι) : List (Nat × Exchange ι) :=
  let turn := se.onMessage (addr request.thread) request.bytes .start
  (turn.sent.map fun reply => (number, ⟨request, none, reply⟩)) ++
    (se.asked addr request).flatMap (sends inner number)

/-- A method that panics before it returns. -/
def panics (number : Nat) (waiting : Waiting ι) : Option Panic :=
  match ((TokioAdapter.call (inner number) waiting.call waiting.object).run []).1 with
  | .panic reason => some reason
  | _ => none

variable [DecidableEq ι]

/-- A method that makes a task has returned when its task is at work. -/
def onMessage (state : Adapting ι) (thread : ι) (bytes : List UInt8) : Adapting ι :=
  let turn := se.onMessage (addr thread) bytes .start
  let request : Taken ι := ⟨thread, bytes⟩
  let number := state.received.length
  let spawned := (se.asked addr request).filter (TokioAdapter.spawns ·.call.method)
  let provided := (se.asked addr request).filter (!TokioAdapter.spawns ·.call.method)
  let ended :=
    match provided.findSome? (panics inner number) with
    | some reason => some (.panic reason)
    | none => turn.ended
  { ended := Function.update state.ended thread ended
    received := state.received ++ [request]
    log := state.log ++ ((turn.sent.map fun reply => (number, ⟨request, none, reply⟩)) ++
      provided.flatMap (sends inner number))
    tasks := state.tasks ++ spawned.map (⟨number, ·⟩) }

def onRead (state : Adapting ι) (thread : ι) : ReadEvent → Adapting ι
  | .message bytes => state.onMessage se addr inner thread bytes
  | .error errno =>
      let turn := se.onRead (addr thread) (.error errno) .start
      { state with ended := Function.update state.ended thread turn.ended }

def step (state : Adapting ι) : AdaptEvent ι → Adapting ι
  | .read thread event =>
      if (state.ended thread).isSome then state else state.onRead se addr inner thread event
  | .finish index =>
      match state.tasks[index]? with
      | none => state
      | some task =>
          { state with
            log := state.log ++ sends inner task.number task.waiting
            tasks := state.tasks.eraseIdx index }

end Step

section Accounts

variable [DecidableEq ι] {se : SessionEventLoop} {addr : ι → Nat} {inner : Nat → AsyncFilesystem}
variable {state : Adapting ι}

/-- Any number of steps. -/
def run (se : SessionEventLoop) (addr : ι → Nat) (inner : Nat → AsyncFilesystem)
    (events : List (AdaptEvent ι)) : Adapting ι := events.foldl (step se addr inner) start

/-- The call is one that the loop made on the request, which is the `number`th. -/
def Asked (se : SessionEventLoop) (addr : ι → Nat) (received : List (Taken ι)) (number : Nat)
    (waiting : Waiting ι) : Prop :=
  (waiting.request, number) ∈ received.zipIdx ∧ waiting ∈ se.asked addr waiting.request

omit [DecidableEq ι] in
theorem Asked.append {received : List (Taken ι)} {number : Nat} {waiting : Waiting ι}
    (h : Asked se addr received number waiting) (request : Taken ι) :
    Asked se addr (received ++ [request]) number waiting := by
  refine ⟨?_, h.2⟩
  rw [List.zipIdx_append]
  exact List.mem_append_left _ h.1

omit [DecidableEq ι] in
/-- The calls that a loop makes on a message that was just read. -/
theorem asked_last {received : List (Taken ι)} {request : Taken ι} {waiting : Waiting ι}
    (h : waiting ∈ se.asked addr request) :
    Asked se addr (received ++ [request]) received.length waiting := by
  obtain ⟨call, -, hcall⟩ := List.mem_filterMap.mp h
  obtain ⟨object, -, rfl⟩ := Option.map_eq_some_iff.mp hcall
  refine ⟨?_, h⟩
  rw [List.zipIdx_append, List.zipIdx_singleton, Nat.zero_add]
  exact List.mem_append_right _ (List.mem_singleton_self _)

/-- What was sent, and what the tasks will send, is what a filesystem without tasks would
have sent for the requests so far. Only the four methods have tasks. -/
structure Accounts (se : SessionEventLoop) (addr : ι → Nat) (inner : Nat → AsyncFilesystem)
    (state : Adapting ι) : Prop where
  balanced : (state.log ++
      state.tasks.flatMap fun task => sends inner task.number task.waiting).Perm
    (state.received.zipIdx.flatMap fun (request, number) => plain se addr inner number request)
  spawned : ∀ task ∈ state.tasks, TokioAdapter.spawns task.waiting.call.method = true
  asked : ∀ task ∈ state.tasks, Asked se addr state.received task.number task.waiting

omit [DecidableEq ι] in
theorem accounts_start : (start : Adapting ι).Accounts se addr inner := by
  refine ⟨.refl _, ?_, ?_⟩
  · intro task htask
    cases htask
  · intro task htask
    cases htask

omit [DecidableEq ι] in
/-- A list of calls in two parts, those with a task behind the others. -/
theorem flatMap_parts (p : Waiting ι → Bool) (f : Waiting ι → List (Nat × Exchange ι))
    (asked : List (Waiting ι)) :
    ((asked.filter (!p ·)).flatMap f ++ (asked.filter p).flatMap f).Perm (asked.flatMap f) := by
  rw [← List.flatMap_append]
  refine List.Perm.flatMap_right f ?_
  exact List.perm_append_comm.trans (List.filter_append_perm p asked)

omit [DecidableEq ι] in
/-- What is sent at once goes in front of what the earlier tasks will send. -/
theorem perm_atOnce (log due atOnce later : List (Nat × Exchange ι)) :
    ((log ++ atOnce) ++ (due ++ later)).Perm ((log ++ due) ++ (atOnce ++ later)) := by
  simp only [List.append_assoc]
  exact (List.perm_append_comm_assoc atOnce due later).append_left log

theorem Accounts.onMessage (h : state.Accounts se addr inner) (thread : ι) (bytes : List UInt8) :
    (state.onMessage se addr inner thread bytes).Accounts se addr inner := by
  let request : Taken ι := ⟨thread, bytes⟩
  let number := state.received.length
  refine ⟨?_, ?_, ?_⟩
  · have hparts := flatMap_parts (TokioAdapter.spawns ·.call.method) (sends inner number)
      (se.asked addr request)
    simp only [Adapting.onMessage, List.zipIdx_append, List.flatMap_append, List.flatMap_map,
      List.zipIdx_singleton, List.flatMap_singleton, Nat.zero_add]
    refine (perm_atOnce _ _ _ _).trans (h.balanced.append ?_)
    rw [List.append_assoc]
    exact hparts.append_left _
  · intro task htask
    simp only [Adapting.onMessage, List.mem_append, List.mem_map, List.mem_filter] at htask
    obtain hold | ⟨waiting, ⟨-, hspawns⟩, rfl⟩ := htask
    · exact h.spawned task hold
    · exact hspawns
  · intro task htask
    simp only [Adapting.onMessage, List.mem_append, List.mem_map, List.mem_filter] at htask
    obtain hold | ⟨waiting, ⟨hasked, -⟩, rfl⟩ := htask
    · exact (h.asked task hold).append request
    · exact asked_last hasked

omit [DecidableEq ι] in
theorem Accounts.finish (h : state.Accounts se addr inner) {index : Nat} {task : Task ι}
    (htask : state.tasks[index]? = some task) :
    ({ state with
        log := state.log ++ sends inner task.number task.waiting
        tasks := state.tasks.eraseIdx index } : Adapting ι).Accounts se addr inner := by
  obtain ⟨hindex, hget⟩ := List.getElem?_eq_some_iff.mp htask
  have hperm := List.getElem_cons_eraseIdx_perm hindex
  rw [hget] at hperm
  refine ⟨?_, fun other hother => h.spawned other (List.mem_of_mem_eraseIdx hother),
    fun other hother => h.asked other (List.mem_of_mem_eraseIdx hother)⟩
  refine .trans ?_ h.balanced
  rw [List.append_assoc, ← List.flatMap_cons
    (f := fun task : Task ι => sends inner task.number task.waiting)]
  exact (List.Perm.flatMap_right _ hperm).append_left state.log

theorem Accounts.step (h : state.Accounts se addr inner) (event : AdaptEvent ι) :
    (state.step se addr inner event).Accounts se addr inner := by
  cases event with
  | read thread event =>
      rw [Adapting.step]
      split
      · exact h
      · cases event with
        | message bytes => exact h.onMessage thread bytes
        | error errno => exact ⟨h.balanced, h.spawned, h.asked⟩
  | finish index =>
      rw [Adapting.step]
      split
      · exact h
      next task htask => exact h.finish htask

end Accounts

section Refines

variable [DecidableEq ι] {se : SessionEventLoop} {addr : ι → Nat} {inner : Nat → AsyncFilesystem}
variable {state : Adapting ι}

/-- The loops and the calls that they wait for, with no more said of the filesystem. -/
def serving (state : Adapting ι) (lost : List (Lost ι)) : Serving ι :=
  ⟨state.ended, state.received, state.log.map Prod.snd, state.tasks.map Task.waiting, lost⟩

/-- An answer that was lost is what the method came to, on a request that was read. -/
def CameTo (se : SessionEventLoop) (addr : ι → Nat) (inner : Nat → AsyncFilesystem)
    (received : List (Taken ι)) (one : Lost ι) : Prop :=
  ∃ number, Asked se addr received number one.waiting ∧
    TokioAdapter.answer (inner number) one.waiting.call one.waiting.object = some one.answer

omit [DecidableEq ι] in
theorem CameTo.append {received : List (Taken ι)} {one : Lost ι}
    (h : CameTo se addr inner received one) (request : Taken ι) :
    CameTo se addr inner (received ++ [request]) one := by
  obtain ⟨number, hasked, hanswer⟩ := h
  exact ⟨number, hasked.append request, hanswer⟩

omit [DecidableEq ι] in
/-- What is lost when a method is done is what it came to. -/
theorem cameTo_finish {received : List (Taken ι)} {number : Nat} {waiting : Waiting ι}
    {lost : List (Lost ι)} {silent : Bool} (hasked : Asked se addr received number waiting)
    (h : ∀ one ∈ lost, CameTo se addr inner received one) :
    ∀ one ∈ lost ++ (if silent then
        (TokioAdapter.answer (inner number) waiting.call waiting.object).toList.map
          fun answer => ⟨waiting, answer⟩
      else []), CameTo se addr inner received one := by
  refine List.forall_mem_append.mpr ⟨h, fun one hone => ?_⟩
  split at hone
  · obtain ⟨answer, hanswer, rfl⟩ := List.mem_map.mp hone
    exact ⟨number, hasked, Option.mem_toList.mp hanswer⟩
  · cases hone

/-- The events of a kernel that keeps to the protocol. What the tasks come to is the affair
of the filesystem. -/
def Admissible (addr : ι → Nat) : AdaptEvent ι → Prop
  | .read thread (.message bytes) => (LoopEvent.read (.message bytes)).Admissible (addr thread)
  | _ => True

def Runs (se : SessionEventLoop) (addr : ι → Nat) (inner : Nat → AsyncFilesystem) :
    Adapting ι → Adapting ι → Prop :=
  Relation.ReflTransGen fun state state' =>
    ∃ event, Admissible addr event ∧ state' = state.step se addr inner event

/-- Using up a reply object, as a step of the loops that wait for it. -/
theorem serving_conclude {serving : Serving ι} (hconforms : serving.Conforms se addr)
    {index : Nat} {waiting : Waiting ι} (hwaiting : serving.waiting[index]? = some waiting)
    {answer : Option Answer} (htyped : TokioAdapter.Typed waiting.call.method.replyType answer)
    {send : Method (List (List UInt8)) Empty Unit}
    (hsend : (send.run []).2 = ((TokioAdapter.conclude answer waiting.object.unique
      waiting.object.size).run []).2) :
    Serving.Runs se addr serving (serving.finish index waiting answer send) := by
  have hfinish : serving.finish index waiting answer send = serving.finish index waiting answer
      (TokioAdapter.conclude answer waiting.object.unique waiting.object.size) := by
    simp only [Serving.finish, hsend]
  rw [hfinish]
  cases answer with
  | none =>
      have hreply := hconforms.unused waiting (List.mem_of_getElem? hwaiting)
      have hstep : serving.step se addr (.drop index) =
          serving.finish index waiting none waiting.object.reply.drops := by
        simp only [Serving.step, hwaiting]
      rw [hreply] at hstep
      rw [TokioAdapter.conclude, ← hstep]
      exact .step .refl (.drop index) True.intro
  | some answer =>
      have hstep : serving.step se addr (.answer index answer.call) =
          serving.finish index waiting (some answer)
            (answer.call.perform waiting.object.unique waiting.object.size) := by
        simp only [Serving.step, hwaiting, htyped answer rfl, if_true]
      rw [TokioAdapter.conclude, ← hstep]
      exact .step .refl (.answer index answer.call) True.intro

omit [DecidableEq ι] in
/-- A request leads to one call at the most. -/
theorem asked_of_turned {request : Taken ι} {turn : Looping}
    (h : se.Turned (addr request.thread) request.bytes turn
      (se.calls (addr request.thread) request.bytes)) :
    se.asked addr request = [] ∨ ∃ waiting, se.asked addr request = [waiting] ∧ turn.sent = [] := by
  rw [SessionEventLoop.asked]
  generalize se.calls (addr request.thread) request.bytes = calls at h ⊢
  cases h with
  | answered => exact .inl rfl
  | @called call object hforgets hhanded =>
      refine .inr ⟨⟨request, call, object⟩, ?_, rfl⟩
      simp only [List.filterMap_cons, hhanded.reply, Option.map_some, List.filterMap_nil]
  | @forgot call hforgets hreply =>
      refine .inl ?_
      simp only [List.filterMap_cons, hreply, Option.map_none, List.filterMap_nil]

omit [DecidableEq ι] in
theorem panics_of_not_spawns (number : Nat) {waiting : Waiting ι}
    (h : TokioAdapter.spawns waiting.call.method = false) : panics inner number waiting = none := by
  rw [panics, TokioAdapter.call_of_not_spawns _ _ h, TokioAdapter.returns_provided]

theorem serving_onMessage {lost : List (Lost ι)}
    (hconforms : (state.serving lost).Conforms se addr) (hfs : se.filesystemPresent = true)
    {thread : ι} (haddr : addr thread % 8 = 0) (hended : (state.ended thread).isSome = false)
    {bytes : List UInt8} (hbytes : (LoopEvent.read (.message bytes)).Admissible (addr thread))
    (hlost : ∀ one ∈ lost, CameTo se addr inner state.received one) :
    ∃ lost', Serving.Runs se addr (state.serving lost)
        ((state.onMessage se addr inner thread bytes).serving lost') ∧
      ∀ one ∈ lost', CameTo se addr inner (state.onMessage se addr inner thread bytes).received
        one := by
  let request : Taken ι := ⟨thread, bytes⟩
  have hread : Serving.Runs se addr (state.serving lost)
      ((state.serving lost).onMessage se addr thread bytes) := by
    have hstep : (state.serving lost).step se addr (.read thread (.message bytes)) =
        (state.serving lost).onMessage se addr thread bytes := by
      change (if (state.ended thread).isSome then _ else _) = _
      rw [hended]
      rfl
    rw [← hstep]
    exact .step .refl _ hbytes
  obtain ⟨-, hconforms'⟩ := hconforms.onMessage hfs haddr hbytes
  have hturned := SessionEventLoop.turned_onMessage hfs haddr hbytes
  have hasked := @asked_of_turned _ _ addr request _ hturned
  have hserving : (state.serving lost).onMessage se addr thread bytes =
      ⟨Function.update state.ended thread (se.onMessage (addr thread) bytes .start).ended,
        state.received ++ [request],
        state.log.map Prod.snd ++ (se.onMessage (addr thread) bytes .start).sent.map
          fun reply => ⟨request, none, reply⟩,
        state.tasks.map Task.waiting ++ se.asked addr request, lost⟩ := rfl
  have htarget (lost' : List (Lost ι)) :
      (state.onMessage se addr inner thread bytes).serving lost' =
      ⟨Function.update state.ended thread (se.onMessage (addr thread) bytes .start).ended,
        state.received ++ [request],
        state.log.map Prod.snd ++ ((se.onMessage (addr thread) bytes .start).sent.map
          (fun reply => ⟨request, none, reply⟩) ++
            (((se.asked addr request).filter (!TokioAdapter.spawns ·.call.method)).flatMap
              (sends inner state.received.length)).map Prod.snd),
        state.tasks.map Task.waiting ++
          (se.asked addr request).filter (TokioAdapter.spawns ·.call.method), lost'⟩ := by
    have hended : ((se.asked addr request).filter (!TokioAdapter.spawns ·.call.method)).findSome?
        (panics inner state.received.length) = none := by
      refine List.findSome?_eq_none_iff.mpr fun waiting hwaiting => panics_of_not_spawns _ ?_
      simpa using (List.mem_filter.mp hwaiting).2
    simp only [serving, Adapting.onMessage, List.map_append, List.map_map, Function.comp_def,
      List.map_id', request, hended]
  have hlost' : ∀ one ∈ lost, CameTo se addr inner (state.received ++ [request]) one :=
    fun one hone => (hlost one hone).append request
  rw [hserving] at hread hconforms'
  simp only [htarget]
  obtain hnil | ⟨waiting, hone, hsent⟩ := hasked
  · refine ⟨lost, ?_, hlost'⟩
    rw [hnil] at hread ⊢
    simpa only [List.filter_nil, List.flatMap_nil, List.map_nil, List.append_nil] using hread
  · have hrequest : Asked se addr (state.received ++ [request]) state.received.length waiting :=
      asked_last (hone ▸ List.mem_singleton_self waiting)
    rw [hone, hsent] at hread hconforms'
    rw [hone, hsent]
    cases hspawns : TokioAdapter.spawns waiting.call.method with
    | true =>
        refine ⟨lost, ?_, hlost'⟩
        simpa only [List.filter_cons, hspawns, Bool.not_true, Bool.false_eq_true, if_false, if_true,
          List.filter_nil, List.flatMap_nil, List.map_nil, List.append_nil] using hread
    | false =>
        -- The method answers before the loop goes on.
        have hwaiting : (state.tasks.map Task.waiting ++ [waiting])[state.tasks.length]? =
            some waiting := by
          rw [List.getElem?_append_right (by rw [List.length_map]), List.length_map, Nat.sub_self]
          rfl
        have herase : (state.tasks.map Task.waiting ++ [waiting]).eraseIdx state.tasks.length =
            state.tasks.map Task.waiting := by
          rw [List.eraseIdx_append_of_length_le (by rw [List.length_map]), List.length_map,
            Nat.sub_self, List.eraseIdx_cons_zero, List.append_nil]
        have hconclude := serving_conclude hconforms' hwaiting
          (TokioAdapter.typed_answer (inner state.received.length) waiting.call waiting.object)
          (TokioAdapter.call_sends (inner state.received.length) waiting.call waiting.object [])
        have hsends : (sends inner state.received.length waiting).map Prod.snd =
            ((TokioAdapter.call (inner state.received.length) waiting.call
              waiting.object).run []).2.map fun reply => ⟨waiting.request,
                TokioAdapter.answer (inner state.received.length) waiting.call waiting.object,
                reply⟩ := by
          rw [sends, List.map_map]
          rfl
        simp only [Serving.finish, herase, List.map_nil, List.append_nil] at hread hconclude
        simp only [List.filter_cons, hspawns, Bool.not_false, if_true, Bool.false_eq_true, if_false,
          List.filter_nil, List.flatMap_singleton, hsends, List.map_nil, List.nil_append,
          List.append_nil]
        exact ⟨_, hread.trans hconclude, cameTo_finish hrequest hlost'⟩

theorem serving_finish {lost : List (Lost ι)} (hconforms : (state.serving lost).Conforms se addr)
    {index : Nat} {task : Task ι} (htask : state.tasks[index]? = some task)
    (hasked : Asked se addr state.received task.number task.waiting)
    (hlost : ∀ one ∈ lost, CameTo se addr inner state.received one) :
    ∃ lost', Serving.Runs se addr (state.serving lost)
        (({ state with
          log := state.log ++ sends inner task.number task.waiting
          tasks := state.tasks.eraseIdx index } : Adapting ι).serving lost') ∧
      ∀ one ∈ lost', CameTo se addr inner state.received one := by
  have hwaiting : (state.serving lost).waiting[index]? = some task.waiting := by
    change (state.tasks.map Task.waiting)[index]? = _
    rw [List.getElem?_map, htask]
    rfl
  have hconclude := serving_conclude hconforms hwaiting
    (TokioAdapter.typed_answer (inner task.number) task.waiting.call task.waiting.object)
    (TokioAdapter.call_sends (inner task.number) task.waiting.call task.waiting.object [])
  simp only [serving, Serving.finish, sends, List.map_append, List.map_map, Function.comp_def,
    List.eraseIdx_map] at hconclude ⊢
  exact ⟨_, hconclude, cameTo_finish hasked hlost⟩

theorem serving_step {lost : List (Lost ι)} (hconforms : (state.serving lost).Conforms se addr)
    (haccounts : state.Accounts se addr inner) (hfs : se.filesystemPresent = true)
    (haddr : ∀ thread, addr thread % 8 = 0) (event : AdaptEvent ι) (hevent : Admissible addr event)
    (hlost : ∀ one ∈ lost, CameTo se addr inner state.received one) :
    ∃ lost', Serving.Runs se addr (state.serving lost)
        ((state.step se addr inner event).serving lost') ∧
      ∀ one ∈ lost', CameTo se addr inner (state.step se addr inner event).received one := by
  cases event with
  | read thread event =>
      rw [Adapting.step]
      cases hended : (state.ended thread).isSome with
      | true => exact ⟨lost, .refl, hlost⟩
      | false =>
          rw [if_neg Bool.false_ne_true]
          cases event with
          | message bytes =>
              exact serving_onMessage hconforms hfs (haddr thread) hended hevent hlost
          | error errno =>
              have hstep : (state.serving lost).step se addr (.read thread (.error errno)) =
                  (state.serving lost).onRead se addr thread (.error errno) := by
                change (if (state.ended thread).isSome then _ else _) = _
                rw [hended]
                rfl
              refine ⟨lost, ?_, hlost⟩
              change Serving.Runs se addr (state.serving lost)
                ((state.serving lost).onRead se addr thread (.error errno))
              rw [← hstep]
              exact .step .refl _ True.intro
  | finish index =>
      rw [Adapting.step]
      split
      · exact ⟨lost, .refl, hlost⟩
      next task htask =>
        exact serving_finish hconforms htask
          (haccounts.asked task (List.mem_of_getElem? htask)) hlost

/-- An adapter is a filesystem like any other to its event loops. -/
theorem serving_runs (hfs : se.filesystemPresent = true) (haddr : ∀ thread, addr thread % 8 = 0)
    (hruns : Runs se addr inner start state) :
    (∃ lost, Serving.Runs se addr Serving.start (state.serving lost) ∧
        ∀ one ∈ lost, CameTo se addr inner state.received one) ∧
      state.Accounts se addr inner := by
  have hstart : (Serving.start : Serving ι).Conforms se addr := Serving.conforms_start
  induction hruns with
  | refl => exact ⟨⟨[], .refl, fun one hone => nomatch hone⟩, accounts_start⟩
  | tail _ hstep ih =>
      obtain ⟨event, hevent, rfl⟩ := hstep
      obtain ⟨⟨lost, hserving, hlost⟩, haccounts⟩ := ih
      obtain ⟨-, hconforms⟩ := hstart.runs hfs haddr hserving
      refine ⟨?_, haccounts.step event⟩
      obtain ⟨lost', hserving', hlost'⟩ :=
        serving_step hconforms haccounts hfs haddr event hevent hlost
      exact ⟨lost', hserving.trans hserving', hlost'⟩

theorem Runs.step {state' : Adapting ι} (h : Runs se addr inner state state')
    (event : AdaptEvent ι) (hevent : Admissible addr event) :
    Runs se addr inner state (state'.step se addr inner event) :=
  Relation.ReflTransGen.tail h ⟨event, hevent, rfl⟩

end Refines

/-- However many loops share a connection, and in whatever order the tasks of an adapter
are done: what was sent, together with what the tasks that are left will send, is what a
filesystem would have sent that comes to the same results and makes no tasks; only the
four methods leave any; every message is an answer to its request, and of the form that
the request asks for exactly if what the method came to suits it; and no request has two
of them, and those without one are still with a task, or came to more than a message can
hold. -/
theorem adapter_serves [DecidableEq ι] (session : Session) (hsession : session.Initialized)
    (ptr : ι → Nat) (inner : Nat → AsyncFilesystem) (state : Adapting ι)
    (hruns : Runs session.eventLoop (fun thread => FuseReadBuf.asMut (ptr thread)) inner start
      state) :
    let addr := fun thread => FuseReadBuf.asMut (ptr thread)
    (state.log ++ state.tasks.flatMap fun task => sends inner task.number task.waiting).Perm
      (state.received.zipIdx.flatMap fun (request, number) =>
        plain session.eventLoop addr inner number request) ∧
    (∀ task ∈ state.tasks, TokioAdapter.spawns task.waiting.call.method = true) ∧
    (∀ sent ∈ state.log, IsAnswer .any (receivedUnique sent.2.request.bytes) sent.2.reply ∧
      (IsAnswer (Serving.roomFor session.eventLoop addr sent.2.request)
          (receivedUnique sent.2.request.bytes) sent.2.reply ↔
        ∀ answer, sent.2.answer = some answer →
          answer.call.Suits (Serving.roomFor session.eventLoop addr sent.2.request))) ∧
    (∃ lost : List (Lost ι),
      (state.log.map (·.2.request) ++ lost.map (·.waiting.request) ++
        state.tasks.map (·.waiting.request)).Perm
        (state.received.filter fun request =>
          !forgetful session.negotiated (addr request.thread) request.bytes) ∧
      ∀ one ∈ lost,
        one.answer.call.TooLong one.waiting.object.unique one.waiting.object.size ∧
        ∃ number, (one.waiting.request, number) ∈ state.received.zipIdx ∧
          one.waiting ∈ session.eventLoop.asked addr one.waiting.request ∧
          TokioAdapter.answer (inner number) one.waiting.call one.waiting.object =
            some one.answer) ∧
    ∀ thread reason, state.ended thread ≠ some (.panic reason) := by
  intro addr
  have haddr (thread : ι) : addr thread % 8 = 0 := FuseReadBuf.asMut_aligned (ptr thread)
  obtain ⟨⟨lost, hserving, hlost⟩, haccounts⟩ :=
    serving_runs hsession.filesystemPresent haddr hruns
  have hstart : (Serving.start : Serving ι).Conforms session.eventLoop addr :=
    Serving.conforms_start
  obtain ⟨hentries, hconforms⟩ := hstart.runs hsession.filesystemPresent haddr hserving
  have hempty : Ledger.Balanced ((Serving.start : Serving ι).book session.eventLoop addr) := rfl
  have hbalanced : Ledger.Balanced ((state.serving lost).book session.eventLoop addr) :=
    hempty.entries hentries
  refine ⟨haccounts.balanced, haccounts.spawned, ?_, ⟨lost, ?_, fun one hone => ?_⟩,
    hconforms.returns⟩
  · intro sent hsent
    have hexchange := hconforms.answers sent.2 (List.mem_map_of_mem hsent)
    exact ⟨hexchange.answers, hexchange.suits⟩
  · have hperm := (Multiset.coe_eq_coe.mp hbalanced).symm
    simp only [serving, List.map_map, Function.comp_def] at hperm
    exact hperm
  · obtain ⟨number, ⟨hrequest, hasked⟩, hanswer⟩ := hlost one hone
    exact ⟨hconforms.lost one hone, number, hrequest, hasked, hanswer⟩

/-- A filesystem that has nothing, and one whose methods panic. -/
def lookups : Nat → AsyncFilesystem
  | 0 => ⟨fun _ _ _ => .err .enoent, fun _ _ _ => .err .enoent, fun _ _ _ _ _ _ _ => .fail .enoent,
      fun _ _ _ _ => .finish (.error .enoent)⟩
  | _ => ⟨fun _ _ _ => .panic .assertion, fun _ _ _ => .panic .assertion,
      fun _ _ _ _ _ _ _ => .abort .assertion, fun _ _ _ _ => .unwind .assertion⟩

/-- Two loops read a LOOKUP each, and the task for the later one is done first. -/
def twoTasks : List (AdaptEvent Bool) :=
  [.read false (.message (RequestWithSender.lookupMessage 0 0)),
    .read true (.message (RequestWithSender.lookupMessage 0 0)), .finish 1, .finish 0]

theorem adapter_serves_twoTasks :
    let se := Session.idmapSession.eventLoop
    let addr := fun _ => FuseReadBuf.asMut 8
    let state := run se addr lookups twoTasks
    state.log.map Prod.fst = [1, 0] ∧
    (state.log ++ state.tasks.flatMap fun task => sends lookups task.number task.waiting).Perm
      (state.received.zipIdx.flatMap fun (request, number) =>
        plain se addr lookups number request) := by
  intro se addr state
  have hsession : Session.idmapSession.Initialized :=
    ⟨Session.idmapEnv, .all, 1000, [], [.message Session.idmapInit], rfl, rfl⟩
  have hlookup : (LoopEvent.read (.message (RequestWithSender.lookupMessage 0 0))).Admissible
      (FuseReadBuf.asMut 8) :=
    ⟨_, rfl, fun h => absurd h (by decide), fun h => absurd h (by decide)⟩
  have hruns : Runs se addr lookups start state := by
    change Runs _ _ _ _ (run _ _ _ twoTasks)
    rw [run, twoTasks, List.foldl_cons, List.foldl_cons, List.foldl_cons, List.foldl_cons,
      List.foldl_nil]
    apply Runs.step
    · apply Runs.step
      · apply Runs.step
        · exact Runs.step .refl _ hlookup
        · exact hlookup
      · exact True.intro
    · exact True.intro
  refine ⟨by decide +kernel, ?_⟩
  exact (adapter_serves Session.idmapSession hsession (fun _ => 8) lookups state hruns).1

end Adapting

end Fuser
