import Fuser.EventLoop
import Fuser.Foundation.Writer
import Fuser.Replies

/-!
Several event loops on one connection, and the filesystem behind them. Every loop
reads into a buffer of its own, and a request goes to whichever loop reads it first.
The filesystem answers by the methods of the reply objects, in any order.

Where the ledger of a single loop counts requests by their numbers, the log here
says which request each message was written for, so that a message can be held
against what that very request asks for.
-/

namespace Fuser

open Rust Wire

/-- A message, and the thread that read it. -/
structure Taken (ι : Type) where
  thread : ι
  bytes : List UInt8
  deriving DecidableEq

/-- A message that was written, the request it was written for, and what the filesystem
answered with, if it is not the loop or a dropped reply object that answers. -/
structure Exchange (ι : Type) where
  request : Taken ι
  answer : Option Answer
  reply : List UInt8

/-- A call that the filesystem has yet to answer. -/
structure Waiting (ι : Type) where
  request : Taken ι
  call : FsCall
  object : ReplyObject

/-- A call that was answered without a message coming of it. -/
structure Lost (ι : Type) where
  waiting : Waiting ι
  answer : Answer

structure Serving (ι : Type) where
  ended : ι → Option (Outcome IoError Unit)
  received : List (Taken ι)
  log : List (Exchange ι)
  waiting : List (Waiting ι)
  lost : List (Lost ι)

/-- What happens next: a thread reads, or some reply object is used or dropped. -/
inductive ServeEvent (ι : Type) where
  | read (thread : ι) (event : ReadEvent)
  | answer (index : Nat) {t : ReplyType} (answer : ReplyCall t)
  | drop (index : Nat)

/-- The size of a reply object that is a buffer. -/
def ReplyObject.size : ReplyObject → Nat
  | .raw _ => 0
  | .directory dir | .directoryPlus dir => dir.data.maxSize

/-- The calls that a loop makes on a request. -/
def SessionEventLoop.callsFor (se : SessionEventLoop) (req : RequestWithSender) : List FsCall :=
  match req.request.operation with
  | .ok (.destroy _) => []
  | .panic _ => []
  | _ =>
      match (req.dispatch se).run [] with
      | (.ok calls, _) => calls
      | _ => []

/-- The calls that a loop makes on a message. -/
def SessionEventLoop.calls (se : SessionEventLoop) (addr : Nat) (bytes : List UInt8) :
    List FsCall :=
  match (RequestWithSender.new ⟨addr, bytes⟩ se.negotiated : Outcome Empty _) with
  | .ok (some req) => se.callsFor req
  | _ => []

namespace Serving

variable {ι : Type}

def start : Serving ι := ⟨fun _ => none, [], [], [], []⟩

/-- What using up the reply object at `index` does. -/
def finish (state : Serving ι) (index : Nat) (waiting : Waiting ι) (answer : Option Answer)
    (send : Method (List (List UInt8)) Empty Unit) : Serving ι :=
  { state with
    log := state.log ++ (send.run []).2.map fun reply => ⟨waiting.request, answer, reply⟩
    waiting := state.waiting.eraseIdx index
    lost := state.lost ++
      if (send.run []).2.isEmpty then answer.toList.map fun answer => ⟨waiting, answer⟩ else [] }

section Step

variable [DecidableEq ι] (se : SessionEventLoop) (addr : ι → Nat)

/-- One turn of a loop, which starts with nothing of its own. -/
def onMessage (state : Serving ι) (thread : ι) (bytes : List UInt8) : Serving ι :=
  let turn := se.onMessage (addr thread) bytes .start
  let request : Taken ι := ⟨thread, bytes⟩
  { state with
    ended := Function.update state.ended thread turn.ended
    received := state.received ++ [request]
    log := state.log ++ turn.sent.map fun reply => ⟨request, none, reply⟩
    waiting := state.waiting ++
      (se.calls (addr thread) bytes).filterMap fun call => call.reply.map (⟨request, call, ·⟩) }

def onRead (state : Serving ι) (thread : ι) : ReadEvent → Serving ι
  | .message bytes => state.onMessage se addr thread bytes
  | .error errno =>
      let turn := se.onRead (addr thread) (.error errno) .start
      { state with ended := Function.update state.ended thread turn.ended }

/-- A method is called on a reply object that has it, or not at all. -/
def step (state : Serving ι) : ServeEvent ι → Serving ι
  | .read thread event =>
      if (state.ended thread).isSome then state else state.onRead se addr thread event
  | @ServeEvent.answer _ index t answer =>
      match state.waiting[index]? with
      | none => state
      | some waiting =>
          if waiting.call.method.replyType = some t then
            state.finish index waiting (some ⟨t, answer⟩)
              (answer.perform waiting.object.unique waiting.object.size)
          else state
  | .drop index =>
      match state.waiting[index]? with
      | none => state
      | some waiting => state.finish index waiting none waiting.object.reply.drops

def run (events : List (ServeEvent ι)) : Serving ι := events.foldl (step se addr) start

end Step

end Serving

namespace ReplyRaw

theorem appends_drops (self : ReplyRaw) : self.drops.Appends := by
  obtain ⟨unique, sender⟩ := self
  intro log
  cases sender with
  | none => simp only [Method.run, drops, drop, Option.isSome_none, Bool.false_eq_true, if_false,
      List.append_nil]
  | some sender =>
      have hlog := run_drop unique sender log
      have hnil := run_drop unique sender []
      simp only [Method.run, drops] at hlog hnil ⊢
      rw [hlog, hnil, List.nil_append]

theorem appends_sends (unique : RequestId) (response : Response) :
    ((new unique).sends response).Appends := by
  intro log
  by_cases hfits : response.Fits
  · rw [run_sends hfits unique log, run_sends hfits unique [], List.nil_append]
  · rw [ReplyCall.run_sends_of_not_fits hfits unique log,
      ReplyCall.run_sends_of_not_fits hfits unique [], List.append_nil]

theorem appends_dropAll (replies : List ReplyRaw) : (dropAll replies).Appends := by
  induction replies with
  | nil => exact Method.appends_pure ()
  | cons reply replies ih => exact (appends_drops reply).bind fun _ => ih

end ReplyRaw

namespace RequestWithSender

variable (self : RequestWithSender)

theorem appends_conclude (outcome : Outcome Errno (Option Response)) :
    (self.conclude outcome).Appends := by
  cases outcome with
  | ok response =>
      cases response with
      | none => exact Method.appends_pure ()
      | some response => exact ReplyRaw.appends_sends self.unique response
  | err errno => exact ReplyRaw.appends_sends self.unique (.ofErrno errno)
  | panic reason => exact Method.appends_abort reason

/-- What a request comes to does not depend on what was sent before. -/
theorem appends_dispatch (se : SessionEventLoop) : (self.dispatch se).Appends := by
  rw [dispatch]
  refine (ReplyRaw.appends_dropAll _).bind fun _ => ?_
  exact (self.appends_conclude _).bind fun _ => Method.appends_pure _

end RequestWithSender

/-- A state of the loop, and what one more turn of it did. -/
def Looping.extend (state turn : Looping) : Looping :=
  ⟨turn.ended, state.received ++ turn.received, state.sent ++ turn.sent,
    state.pending ++ turn.pending⟩

namespace SessionEventLoop

variable (se : SessionEventLoop) (addr : Nat)

theorem destroyed_extend (req : RequestWithSender) (before : Looping) {state : Looping}
    (h : state.sent = []) :
    destroyed req (before.extend state) = before.extend (destroyed req state) := by
  have happends := ReplyRaw.appends_sends req.unique .empty before.sent
  rw [destroyed, destroyed, Looping.extend, h, List.append_nil, happends]
  rcases ((ReplyRaw.new req.unique).sends .empty).run [] with ⟨outcome | e | reason, sent⟩
  · rfl
  · cases e
  · rfl

theorem dispatched_extend (req : RequestWithSender) (before : Looping) {state : Looping}
    (h : state.sent = []) :
    se.dispatched req (before.extend state) = before.extend (se.dispatched req state) := by
  have happends := req.appends_dispatch se before.sent
  rw [dispatched, dispatched, Looping.extend, h, List.append_nil, happends]
  rcases (req.dispatch se).run [] with ⟨calls | e | reason, sent⟩
  · simp only [Looping.extend, List.append_assoc]
  · cases e
  · rfl

theorem handled_extend (req : RequestWithSender) (before : Looping) {state : Looping}
    (h : state.sent = []) :
    se.handled req (before.extend state) = before.extend (se.handled req state) := by
  rw [handled, handled]
  split
  · exact destroyed_extend req before h
  · rfl
  · exact se.dispatched_extend req before h

/-- A turn of the loop adds to the state what it would do from the start. -/
theorem onMessage_extend (bytes : List UInt8) {state : Looping} (h : state.ended = none) :
    se.onMessage addr bytes state = state.extend (se.onMessage addr bytes .start) := by
  have hstate : ({ state with received := state.received ++ [bytes] } : Looping) =
      state.extend { Looping.start with received := [bytes] } := by
    simp only [Looping.extend, Looping.start, h, List.append_nil]
  rw [onMessage, onMessage, hstate]
  split
  · exact se.handled_extend _ state rfl
  · rfl
  next e _ => cases e
  · rfl

theorem turn_destroyed (req : RequestWithSender) (bytes : List UInt8) :
    (destroyed req ⟨none, [bytes], [], []⟩).received = [bytes] ∧
      (destroyed req ⟨none, [bytes], [], []⟩).pending = [] := by
  rw [destroyed]
  rcases ((ReplyRaw.new req.unique).sends .empty).run [] with ⟨outcome | e | reason, sent⟩
  · exact ⟨rfl, rfl⟩
  · cases e
  · exact ⟨rfl, rfl⟩

theorem turn_dispatched (req : RequestWithSender) (bytes : List UInt8) :
    (se.dispatched req ⟨none, [bytes], [], []⟩).received = [bytes] ∧
      (se.dispatched req ⟨none, [bytes], [], []⟩).pending =
        (match (req.dispatch se).run [] with
          | (.ok calls, _) => calls
          | _ => []).filterMap FsCall.reply := by
  rw [dispatched]
  rcases (req.dispatch se).run [] with ⟨calls | e | reason, sent⟩
  · exact ⟨rfl, rfl⟩
  · cases e
  · exact ⟨rfl, rfl⟩

theorem turn_handled (req : RequestWithSender) (bytes : List UInt8) :
    (se.handled req ⟨none, [bytes], [], []⟩).received = [bytes] ∧
      (se.handled req ⟨none, [bytes], [], []⟩).pending =
        (se.callsFor req).filterMap FsCall.reply := by
  rw [handled, callsFor]
  cases req.request.operation with
  | panic reason => exact ⟨rfl, rfl⟩
  | err e => exact se.turn_dispatched req bytes
  | ok op =>
      cases op with
      | destroy x => exact turn_destroyed req bytes
      | _ => exact se.turn_dispatched req bytes

/-- The filesystem holds the reply objects of the calls that were made. -/
theorem turn_onMessage (bytes : List UInt8) :
    (se.onMessage addr bytes .start).received = [bytes] ∧
      (se.onMessage addr bytes .start).pending =
        (se.calls addr bytes).filterMap FsCall.reply := by
  rw [onMessage, calls]
  rcases (RequestWithSender.new ⟨addr, bytes⟩ se.negotiated : Outcome Empty _) with
    (_ | req) | e | reason
  · exact ⟨rfl, rfl⟩
  · exact se.turn_handled req bytes
  · cases e
  · exact ⟨rfl, rfl⟩

/-- What a message asks for as its answer. A message whose body does not parse
has no operation, and an error is the only answer to it. -/
def room (bytes : List UInt8) : Room :=
  match AnyRequest.tryFrom ⟨addr, bytes⟩ with
  | .ok request =>
      match (request.setNegotiated se.negotiated).operation with
      | .ok op => op.room
      | _ => ⟨0, 0⟩
  | _ => ⟨0, 0⟩

/-- A call comes with a reply object that is made for the answers to the message. -/
structure Handed (bytes : List UInt8) (call : FsCall) (object : ReplyObject) :
    Prop where
  reply : call.reply = some object
  typed : ∃ t, call.method.replyType = some t ∧
    object = t.object ⟨receivedUnique bytes⟩ object.size ∧
    t.MadeFor object.size (se.room addr bytes)

/-- How a turn of the loop ends that a message of the kernel led to, and the calls that
were made in it. -/
inductive Turned (bytes : List UInt8) : Looping → List FsCall → Prop where
  | answered {ended : Option (Outcome IoError Unit)} {message : List UInt8}
      (hforgets : forgetful se.negotiated addr bytes = false)
      (hanswers : IsAnswer (se.room addr bytes) (receivedUnique bytes) message)
      (hended : ∀ reason, ended ≠ some (.panic reason)) :
      Turned bytes ⟨ended, [bytes], [message], []⟩ []
  | called {call : FsCall} {object : ReplyObject}
      (hforgets : forgetful se.negotiated addr bytes = false)
      (hhanded : se.Handed addr bytes call object) :
      Turned bytes ⟨none, [bytes], [], [object]⟩ [call]
  | forgot {call : FsCall} (hforgets : forgetful se.negotiated addr bytes = true)
      (hreply : call.reply = none) :
      Turned bytes ⟨none, [bytes], [], []⟩ [call]

end SessionEventLoop

theorem ReplyType.reply_object (t : ReplyType) (unique : RequestId) (size : Nat) :
    (t.object unique size).reply = .new unique := by
  cases t <;> rfl

theorem ReplyType.object_size (t : ReplyType) (unique : RequestId) (op : Operation)
    (h : t.MadeFor op.listSize op.room) :
    t.object unique op.listSize = t.object unique (t.object unique op.listSize).size ∧
      t.MadeFor (t.object unique op.listSize).size op.room := by
  cases t with
  | directory | directoryPlus => exact ⟨rfl, h⟩
  | _ => exact ⟨rfl, h⟩

/-- A loop that goes on, or returns. -/
theorem not_panicked {ended : Option (Outcome IoError Unit)}
    (h : ended = none ∨ ∃ result, ended = some result ∧ result.Returns) :
    ∀ reason, ended ≠ some (.panic reason) := by
  intro reason hpanic
  obtain rfl | ⟨result, rfl, hreturns⟩ := h
  · cases hpanic
  · exact hreturns reason (Option.some.inj hpanic)

/-- An exchange is of the form that the request asks for exactly if the filesystem did not
answer, or answered with what suits the request. -/
structure Exchange.Conforms {ι : Type} (room : Room) (exchange : Exchange ι) : Prop where
  answers : IsAnswer .any (receivedUnique exchange.request.bytes) exchange.reply
  suits : IsAnswer room (receivedUnique exchange.request.bytes) exchange.reply ↔
    ∀ answer, exchange.answer = some answer → answer.call.Suits room

theorem Exchange.conforms_errno {ι : Type} {room : Room} (errno : Errno) (request : Taken ι)
    (answer : Option Answer) (h : ∀ a, answer = some a → a.call.Suits room) :
    Exchange.Conforms room
      ⟨request, answer, (Response.ofErrno errno).message ⟨receivedUnique request.bytes⟩⟩ :=
  ⟨answers_errno errno .any _, iff_of_true (answers_errno errno room _) h⟩

/-- The loop answers by itself. -/
theorem Exchange.conforms_of_answers {ι : Type} {room : Room} {request : Taken ι}
    {message : List UInt8} (h : IsAnswer room (receivedUnique request.bytes) message) :
    Exchange.Conforms room ⟨request, none, message⟩ :=
  ⟨h.any, iff_of_true h fun _ hanswer => nomatch hanswer⟩

namespace SessionEventLoop

variable {se : SessionEventLoop} {addr : Nat} {bytes : List UInt8}

theorem handled_callsFor (se : SessionEventLoop) {req : RequestWithSender} {op : Operation}
    (hop : req.request.operation = .ok op) (state : Looping) :
    (∃ x, op = .destroy x ∧ se.handled req state = destroyed req state ∧ se.callsFor req = []) ∨
      se.handled req state = se.dispatched req state ∧
        ∀ calls sent, (req.dispatch se).run [] = (.ok calls, sent) → se.callsFor req = calls := by
  rw [handled, callsFor, hop]
  cases op with
  | destroy x => exact .inl ⟨x, rfl, rfl, rfl⟩
  | _ => exact .inr ⟨rfl, fun calls sent hrun => by simp only [hrun]⟩

theorem turned_dispatched {req : RequestWithSender} {op : Operation}
    (hop : req.request.operation = .ok op) (hfs : se.filesystemPresent = true)
    (hshort : op.shortIoctl = false) (hunique : req.unique.raw = receivedUnique bytes)
    (hroom : se.room addr bytes = op.room)
    (hforgets : forgetful se.negotiated addr bytes = op.forgets) :
    ∃ calls sent, (req.dispatch se).run [] = (.ok calls, sent) ∧
      se.Turned addr bytes ⟨none, [bytes], sent, calls.filterMap FsCall.reply⟩ calls := by
  have hdispatched := (req.dispatched se hfs []).1 op hop
  rw [hshort, ← hforgets] at hdispatched
  rcases hrun : (req.dispatch se).run [] with ⟨outcome, sent⟩
  have hhands {calls : List FsCall} (h : outcome = .ok calls) :=
    RequestWithSender.handsReply_of_dispatch hop (h ▸ hrun)
  rw [hrun] at hdispatched
  cases hdispatched with
  | answered errno hforgets' =>
      refine ⟨_, _, rfl, .answered hforgets' ?_ (not_panicked (.inl rfl))⟩
      rw [← hunique]
      exact answers_errno errno _ req.unique
  | panicked reason hpanic => cases hpanic
  | called method object hobject hforgets' =>
      refine ⟨_, _, rfl, .called hforgets' ⟨rfl, ?_⟩⟩
      have hhanded := hhands rfl _ (List.mem_singleton_self _)
      rw [RequestWithSender.HandsReply] at hhanded
      split at hhanded
      next t ht =>
          obtain ⟨hreply, hmade⟩ := hhanded
          cases hreply
          have hunique' : req.unique = ⟨receivedUnique bytes⟩ := congrArg RequestId.mk hunique
          rw [hunique', hroom]
          exact ⟨t, ht, t.object_size _ op hmade⟩
      next => cases hhanded
  | forgot method hforgets' => exact ⟨_, _, rfl, .forgot hforgets' rfl⟩

theorem turned_destroyed {req : RequestWithSender}
    (hunique : req.unique.raw = receivedUnique bytes)
    (hroom : se.room addr bytes = ⟨0, 0⟩)
    (hforgets : forgetful se.negotiated addr bytes = false) :
    se.Turned addr bytes (destroyed req ⟨none, [bytes], [], []⟩) [] := by
  have hempty := answers_message Response.fits_empty (fun _ => rfl) ⟨0, 0⟩ req.unique
  have hanswers := hempty.mpr (.inr ⟨Nat.le_refl _, Nat.le_refl _⟩)
  rw [← hroom, hunique] at hanswers
  rw [destroyed, ReplyRaw.run_sends Response.fits_empty]
  exact .answered hforgets hanswers (not_panicked (.inr ⟨_, rfl, Outcome.returns_ok ()⟩))

/-- Every message of a kernel that keeps to the protocol. -/
theorem turned_onMessage (hfs : se.filesystemPresent = true)
    (haddr : addr % 8 = 0) (hbytes : (LoopEvent.read (.message bytes)).Admissible addr) :
    se.Turned addr bytes (se.onMessage addr bytes .start) (se.calls addr bytes) := by
  obtain ⟨request, hframe, hsized⟩ := hbytes
  obtain ⟨hheader, hdata⟩ := AnyRequest.of_tryFrom_eq_ok haddr hframe
  obtain ⟨req, hnew, hrequest⟩ :=
    RequestWithSender.new_of_tryFrom (ε := Empty) se.negotiated hframe
  have hsized' : req.request.WellSized := hrequest ▸ hsized
  have hdata' : req.request.data.addr % 8 = 0 := hrequest ▸ hdata
  have hunique : req.unique.raw = receivedUnique bytes := by
    rw [RequestWithSender.unique, hrequest]
    exact congrArg FuseInHeader.unique hheader
  simp only [onMessage, calls, hnew]
  cases hop : req.request.operation with
  | panic reason => exact absurd hop (hsized'.returns hdata' reason)
  | err e =>
      have hforgets : forgetful se.negotiated addr bytes = false := by
        simp only [forgetful, hframe, ← hrequest, hop]
      have hreq : (req.dispatchReq se).run ⟨[], []⟩ = (.err .enosys, ⟨[], []⟩) :=
        RequestWithSender.dispatchReq_of_err hop
      have hrun := RequestWithSender.run_dispatch_of_err hreq []
      rw [handled_of_err hop, dispatched, callsFor, hop]
      simp only [Looping.start, hrun]
      refine .answered hforgets ?_ (not_panicked (.inl rfl))
      rw [← hunique]
      exact answers_errno .enosys _ req.unique
  | ok op =>
      have hforgets : forgetful se.negotiated addr bytes = op.forgets := by
        simp only [forgetful, hframe, ← hrequest, hop]
      have hroom : se.room addr bytes = op.room := by
        simp only [room, hframe, ← hrequest, hop]
      obtain ⟨x, rfl, hhandled, hcalls⟩ | ⟨hhandled, hcalls⟩ :=
        se.handled_callsFor hop ⟨none, [bytes], [], []⟩
      · change se.Turned addr bytes (se.handled req ⟨none, [bytes], [], []⟩) _
        rw [hhandled, hcalls]
        exact turned_destroyed hunique hroom hforgets
      · change se.Turned addr bytes (se.handled req ⟨none, [bytes], [], []⟩) _
        obtain ⟨calls, sent, hrun, hturned⟩ := turned_dispatched hop hfs
          (hsized'.shortIoctl hdata' hop) hunique hroom hforgets
        rw [hhandled, hcalls calls sent hrun, dispatched]
        simp only [hrun]
        exact hturned

end SessionEventLoop

namespace Serving

open Ledger

variable {ι : Type} (se : SessionEventLoop) (addr : ι → Nat)

/-- What a request asks for as its answer. -/
def roomFor (request : Taken ι) : Room := se.room (addr request.thread) request.bytes

/-- The requests to be answered, those that were, to no avail or not, and those that the
filesystem has yet to answer. -/
def book (state : Serving ι) : Book (Taken ι) where
  issued := (state.received.filter fun request =>
    !forgetful se.negotiated (addr request.thread) request.bytes : List (Taken ι))
  settled := (state.log.map Exchange.request : List (Taken ι)) +
    (state.lost.map (·.waiting.request) : List (Taken ι))
  outstanding := (state.waiting.map Waiting.request : List (Taken ι))

/-- No loop has panicked, every message that was written is an answer, every call that waits
for one was handed the reply object for it, and those that were answered without a message
were given too much. -/
structure Conforms (state : Serving ι) : Prop where
  returns : ∀ thread reason, state.ended thread ≠ some (.panic reason)
  answers : ∀ exchange ∈ state.log, exchange.Conforms (roomFor se addr exchange.request)
  handed : ∀ waiting ∈ state.waiting, se.Handed (addr waiting.request.thread)
    waiting.request.bytes waiting.call waiting.object
  lost : ∀ lost ∈ state.lost,
    lost.answer.call.TooLong lost.waiting.object.unique lost.waiting.object.size

/-- The events of a kernel that keeps to the protocol. What the filesystem answers is its
own affair. -/
def Admissible : ServeEvent ι → Prop
  | .read thread (.message bytes) => (LoopEvent.read (.message bytes)).Admissible (addr thread)
  | _ => True

/-- Any number of steps, each by an event that is admissible. -/
def Runs [DecidableEq ι] : Serving ι → Serving ι → Prop :=
  Relation.ReflTransGen fun state state' =>
    ∃ event, Admissible addr event ∧ state' = state.step se addr event

variable {se addr} {state : Serving ι}

theorem Runs.step [DecidableEq ι] {state' : Serving ι} (h : Runs se addr state state')
    (event : ServeEvent ι) (hevent : Admissible addr event) :
    Runs se addr state (state'.step se addr event) :=
  Relation.ReflTransGen.tail h ⟨event, hevent, rfl⟩

/-- What using up a reply object comes to: a message, or nothing for an answer that is too
long. -/
inductive Settles (room : Room) (waiting : Waiting ι) (answer : Option Answer) :
    List (List UInt8) → Prop where
  | sent {message : List UInt8}
      (h : Exchange.Conforms room ⟨waiting.request, answer, message⟩) :
      Settles room waiting answer [message]
  | lost {a : Answer} (hanswer : answer = some a)
      (hlong : a.call.TooLong waiting.object.unique waiting.object.size) :
      Settles room waiting answer []

/-- Using up a reply object settles the request that it was made for. -/
theorem Conforms.finish (h : state.Conforms se addr) {index : Nat} {waiting : Waiting ι}
    (hwaiting : state.waiting[index]? = some waiting) {answer : Option Answer}
    {send : Method (List (List UInt8)) Empty Unit}
    (hsettles : Settles (roomFor se addr waiting.request) waiting answer (send.run []).2) :
    Entries (state.book se addr) ((state.finish index waiting answer send).book se addr) ∧
      (state.finish index waiting answer send).Conforms se addr := by
  obtain ⟨hindex, hget⟩ := List.getElem?_eq_some_iff.mp hwaiting
  have hperm := List.getElem_cons_eraseIdx_perm hindex
  rw [hget] at hperm
  let rest : List (Taken ι) := (state.waiting.eraseIdx index).map Waiting.request
  have hout : (state.book se addr).outstanding = waiting.request ::ₘ (rest : Multiset (Taken ι)) :=
    Quot.sound (hperm.map _).symm
  have hentry := (Entry.settle waiting.request hout).entries
  have hhanded : ∀ other ∈ state.waiting.eraseIdx index, _ :=
    fun other hother => h.handed other (List.mem_of_mem_eraseIdx hother)
  generalize hsent : (send.run []).2 = sent at hsettles
  cases hsettles with
  | sent hconforms =>
      constructor
      · simp only [book, Serving.finish, hsent, List.map_append, List.map_singleton,
          List.isEmpty_cons, Bool.false_eq_true, if_false, List.append_nil, coe_append_singleton,
          Multiset.cons_add]
        exact hentry
      · simp only [Serving.finish, hsent, List.isEmpty_cons, Bool.false_eq_true, if_false,
          List.append_nil, List.map_singleton]
        exact ⟨h.returns, List.forall_mem_append.mpr ⟨h.answers,
          List.forall_mem_singleton.mpr hconforms⟩, hhanded, h.lost⟩
  | @lost a hanswer hlong =>
      constructor
      · simp only [book, Serving.finish, hsent, hanswer, List.map_nil, List.append_nil,
          List.isEmpty_nil, if_true, Option.toList_some, List.map_singleton, List.map_append,
          coe_append_singleton, Multiset.add_cons]
        exact hentry
      · simp only [Serving.finish, hsent, hanswer, List.map_nil, List.append_nil,
          List.isEmpty_nil, if_true, Option.toList_some, List.map_singleton]
        exact ⟨h.returns, h.answers, hhanded, List.forall_mem_append.mpr ⟨h.lost,
          List.forall_mem_singleton.mpr hlong⟩⟩

theorem Conforms.answer (h : state.Conforms se addr) {index : Nat} {waiting : Waiting ι}
    (hwaiting : state.waiting[index]? = some waiting) {t : ReplyType} (answer : ReplyCall t)
    (ht : waiting.call.method.replyType = some t) :
    let send := answer.perform waiting.object.unique waiting.object.size
    let state' := state.finish index waiting (some ⟨t, answer⟩) send
    Entries (state.book se addr) (state'.book se addr) ∧ state'.Conforms se addr := by
  intro send state'
  obtain ⟨-, t', ht', hobject, hmade⟩ := h.handed waiting (List.mem_of_getElem? hwaiting)
  obtain rfl : t' = t := Option.some.inj (ht'.symm.trans ht)
  have hunique : waiting.object.unique = ⟨receivedUnique waiting.request.bytes⟩ := by
    rw [ReplyObject.unique, hobject, ReplyType.reply_object]
    rfl
  have hdelivered : answer.Delivered waiting.object.unique waiting.object.size
      (roomFor se addr waiting.request) [] (send.run []) :=
    answer.delivered_perform hmade []
  refine h.finish hwaiting ?_
  generalize send.run [] = result at hdelivered
  have hsuits {room : Room} : (∀ a, some (⟨t', answer⟩ : Answer) = some a → a.call.Suits room) ↔
      answer.Suits room := by
    simp only [Option.some.injEq, forall_eq']
  cases hdelivered with
  | sent hresponse hany hanswers =>
      rw [hunique] at hany hanswers
      exact .sent ⟨hunique ▸ hany, hunique ▸ hanswers.trans hsuits.symm⟩
  | refused reason hrefused =>
      rw [hunique]
      have hanswer := ReplyCall.suits_of_refused hrefused (roomFor se addr waiting.request)
      exact .sent (Exchange.conforms_errno .eio _ _ (hsuits.mpr hanswer))
  | lost htoo => exact .lost rfl htoo

theorem Conforms.drop (h : state.Conforms se addr) {index : Nat} {waiting : Waiting ι}
    (hwaiting : state.waiting[index]? = some waiting) :
    let send := waiting.object.reply.drops
    Entries (state.book se addr) ((state.finish index waiting none send).book se addr) ∧
      (state.finish index waiting none send).Conforms se addr := by
  intro send
  obtain ⟨-, t, -, hobject, -⟩ := h.handed waiting (List.mem_of_getElem? hwaiting)
  have hreply : waiting.object.reply = .new ⟨receivedUnique waiting.request.bytes⟩ := by
    rw [hobject, ReplyType.reply_object]
  have hsend : (send.run []).2 =
      [(Response.ofErrno .eio).message ⟨receivedUnique waiting.request.bytes⟩] := by
    change (waiting.object.reply.drops.run []).2 = _
    rw [hreply, ReplyRaw.run_drops, List.nil_append]
  refine h.finish hwaiting ?_
  rw [hsend]
  exact .sent (Exchange.conforms_errno .eio _ _ fun a ha => nomatch ha)

theorem filter_received (state : Serving ι) {request : Taken ι} {forgets : Bool}
    (h : forgetful se.negotiated (addr request.thread) request.bytes = forgets) :
    (((state.received ++ [request]).filter fun request =>
        !forgetful se.negotiated (addr request.thread) request.bytes : List (Taken ι)) :
      Multiset (Taken ι)) =
      if forgets then (state.book se addr).issued else request ::ₘ (state.book se addr).issued := by
  rw [List.filter_append]
  cases forgets with
  | true =>
      rw [List.filter_cons_of_neg (by rw [h]; decide), List.filter_nil, List.append_nil, if_pos rfl]
      rfl
  | false =>
      rw [List.filter_cons_of_pos (by rw [h]; rfl), List.filter_nil, coe_append_singleton,
        if_neg Bool.false_ne_true]
      rfl

theorem conforms_start : (start : Serving ι).Conforms se addr := by
  refine ⟨fun _ => not_panicked (.inl rfl), ?_, ?_, ?_⟩
  · intro exchange hexchange
    cases hexchange
  · intro waiting hwaiting
    cases hwaiting
  · intro lost hlost
    cases hlost

theorem Conforms.unused (h : state.Conforms se addr) :
    ∀ waiting ∈ state.waiting, waiting.object.reply = .new waiting.object.unique := by
  intro waiting hwaiting
  obtain ⟨-, t, -, hobject, -⟩ := h.handed waiting hwaiting
  rw [ReplyObject.unique, hobject, ReplyType.reply_object]
  rfl

section Threads

variable [DecidableEq ι]

theorem returns_update {ended : ι → Option (Outcome IoError Unit)}
    (h : ∀ thread reason, ended thread ≠ some (.panic reason)) (thread : ι)
    {next : Option (Outcome IoError Unit)} (hnext : ∀ reason, next ≠ some (.panic reason)) :
    ∀ other reason, Function.update ended thread next other ≠ some (.panic reason) := by
  intro other reason
  rw [Function.update_apply]
  split
  · exact hnext reason
  · exact h other reason

/-- A message that one of the loops has read. -/
theorem Conforms.onMessage (h : state.Conforms se addr)
    (hfs : se.filesystemPresent = true) {thread : ι} (haddr : addr thread % 8 = 0)
    {bytes : List UInt8}
    (hbytes : (LoopEvent.read (.message bytes)).Admissible (addr thread)) :
    Entries (state.book se addr) ((state.onMessage se addr thread bytes).book se addr) ∧
      (state.onMessage se addr thread bytes).Conforms se addr := by
  have hturned := SessionEventLoop.turned_onMessage hfs haddr hbytes
  generalize hturn : se.onMessage (addr thread) bytes .start = turn at hturned
  generalize hcalls : se.calls (addr thread) bytes = calls at hturned
  have hissued {forgets : Bool}
      (hforgets : forgetful se.negotiated (addr thread) bytes = forgets) :=
    state.filter_received (show forgetful se.negotiated (addr (Taken.mk thread bytes).thread)
      (Taken.mk thread bytes).bytes = forgets from hforgets)
  rw [Serving.onMessage, hturn, hcalls]
  cases hturned with
  | @answered ended message hforgets hanswers hended =>
      refine ⟨?_, returns_update h.returns thread hended, ?_, ?_, h.lost⟩
      · have hentries := entries_issue_settle (state.book se addr) ⟨thread, bytes⟩
        simp only [book, hissued hforgets, List.map_append, List.map_singleton,
          List.filterMap_nil, List.append_nil, coe_append_singleton, Multiset.cons_add]
        exact hentries
      · exact List.forall_mem_append.mpr ⟨h.answers, List.forall_mem_singleton.mpr
          (Exchange.conforms_of_answers hanswers)⟩
      · simpa only [List.filterMap_nil, List.append_nil] using h.handed
  | @called call object hforgets hhanded =>
      have hwaiting : [call].filterMap
          (fun call => call.reply.map (Waiting.mk ⟨thread, bytes⟩ call)) =
            [⟨⟨thread, bytes⟩, call, object⟩] := by
        simp only [List.filterMap_cons, hhanded.reply, Option.map_some, List.filterMap_nil]
      refine ⟨?_, returns_update h.returns thread (not_panicked (.inl rfl)), ?_, ?_, h.lost⟩
      · have hentry : Entry (state.book se addr) _ := .issue ⟨thread, bytes⟩
        simp only [book, hissued hforgets, hwaiting, List.map_append, List.map_singleton,
          List.map_nil, List.append_nil, coe_append_singleton]
        exact hentry.entries
      · simpa only [List.map_nil, List.append_nil] using h.answers
      · rw [hwaiting]
        exact List.forall_mem_append.mpr ⟨h.handed, List.forall_mem_singleton.mpr hhanded⟩
  | @forgot call hforgets hreply =>
      have hwaiting : [call].filterMap
          (fun call => call.reply.map (Waiting.mk ⟨thread, bytes⟩ call)) = [] := by
        simp only [List.filterMap_cons, hreply, Option.map_none, List.filterMap_nil]
      refine ⟨?_, returns_update h.returns thread (not_panicked (.inl rfl)), ?_, ?_, h.lost⟩
      · simp only [book, hissued hforgets, hwaiting, List.map_nil, List.append_nil]
        exact .refl _
      · simpa only [List.map_nil, List.append_nil] using h.answers
      · rw [hwaiting, List.append_nil]
        exact h.handed

theorem Conforms.onRead (h : state.Conforms se addr)
    (hfs : se.filesystemPresent = true) {thread : ι} (haddr : addr thread % 8 = 0)
    (event : ReadEvent) (hevent : Admissible addr (.read thread event)) :
    Entries (state.book se addr) ((state.onRead se addr thread event).book se addr) ∧
      (state.onRead se addr thread event).Conforms se addr := by
  cases event with
  | message bytes => exact h.onMessage hfs haddr hevent
  | error errno =>
      refine ⟨.refl _, returns_update h.returns thread ?_, h.answers, h.handed, h.lost⟩
      rw [SessionEventLoop.onRead]
      split
      · exact not_panicked (.inl rfl)
      · split
        · exact not_panicked (.inr ⟨_, rfl, Outcome.returns_ok ()⟩)
        · exact not_panicked (.inr ⟨_, rfl, Outcome.returns_err _⟩)

theorem Conforms.step (h : state.Conforms se addr) (hfs : se.filesystemPresent = true)
    (haddr : ∀ thread, addr thread % 8 = 0) (event : ServeEvent ι)
    (hevent : Admissible addr event) :
    Entries (state.book se addr) ((state.step se addr event).book se addr) ∧
      (state.step se addr event).Conforms se addr := by
  cases event with
  | read thread event =>
      rw [Serving.step]
      split
      · exact ⟨.refl _, h⟩
      · exact h.onRead hfs (haddr thread) event hevent
  | answer index answer =>
      rw [Serving.step]
      split
      · exact ⟨.refl _, h⟩
      next waiting hwaiting =>
          split
          next ht => exact h.answer hwaiting answer ht
          · exact ⟨.refl _, h⟩
  | drop index =>
      rw [Serving.step]
      split
      · exact ⟨.refl _, h⟩
      next waiting hwaiting => exact h.drop hwaiting

theorem Conforms.runs {state' : Serving ι} (h : state.Conforms se addr)
    (hfs : se.filesystemPresent = true) (haddr : ∀ thread, addr thread % 8 = 0)
    (hruns : Runs se addr state state') :
    Entries (state.book se addr) (state'.book se addr) ∧ state'.Conforms se addr := by
  induction hruns with
  | refl => exact ⟨.refl _, h⟩
  | tail _ hstep ih =>
      obtain ⟨event, hevent, rfl⟩ := hstep
      obtain ⟨hentries, hconforms⟩ := ih
      obtain ⟨hnext, hconforms'⟩ := hconforms.step hfs haddr event hevent
      exact ⟨hentries.trans hnext, hconforms'⟩

end Threads

/-- However many loops share a connection, and in whatever order the filesystem answers:
every message that is written is an answer to a request that some loop read, and of the
form that this request asks for exactly if the filesystem answered with what suits it; no
request has two of them, and those without one are still with the filesystem, or were
answered with more than a message can hold. -/
theorem serving_conforms [DecidableEq ι] (session : Session) (hsession : session.Initialized)
    (ptr : ι → Nat) (state : Serving ι)
    (hruns : Runs session.eventLoop (fun thread => FuseReadBuf.asMut (ptr thread)) start state) :
    let addr := fun thread => FuseReadBuf.asMut (ptr thread)
    (∀ exchange ∈ state.log,
      IsAnswer .any (receivedUnique exchange.request.bytes) exchange.reply ∧
      (IsAnswer (roomFor session.eventLoop addr exchange.request)
          (receivedUnique exchange.request.bytes) exchange.reply ↔
        ∀ answer, exchange.answer = some answer →
          answer.call.Suits (roomFor session.eventLoop addr exchange.request))) ∧
    (state.log.map Exchange.request ++ state.lost.map (·.waiting.request) ++
      state.waiting.map Waiting.request).Perm
      (state.received.filter fun request =>
        !forgetful session.negotiated (addr request.thread) request.bytes) ∧
    (∀ lost ∈ state.lost,
      lost.answer.call.TooLong lost.waiting.object.unique lost.waiting.object.size) ∧
    ∀ thread reason, state.ended thread ≠ some (.panic reason) := by
  intro addr
  have hstart : (start : Serving ι).Conforms session.eventLoop addr := conforms_start
  obtain ⟨hentries, hconforms⟩ := hstart.runs hsession.filesystemPresent
    (fun thread => FuseReadBuf.asMut_aligned (ptr thread)) hruns
  have hempty : Balanced ((start : Serving ι).book session.eventLoop addr) := rfl
  have hbalanced : Balanced (state.book session.eventLoop addr) := hempty.entries hentries
  refine ⟨fun exchange hexchange => ?_, ?_, hconforms.lost, hconforms.returns⟩
  · have hexchange := hconforms.answers exchange hexchange
    exact ⟨hexchange.answers, hexchange.suits⟩
  · exact (Multiset.coe_eq_coe.mp hbalanced).symm

/-- Two loops read a LOOKUP each; the later one is answered first, and the reply object of
the other is dropped. -/
def twoLoops : List (ServeEvent Bool) :=
  [.read false (.message (RequestWithSender.lookupMessage 0 0)),
    .read true (.message (RequestWithSender.lookupMessage 0 0)),
    .answer 1 (ReplyCall.error .enoent : ReplyCall .entry), .drop 0]

theorem serving_conforms_twoLoops :
    let state := run Session.idmapSession.eventLoop (fun _ => FuseReadBuf.asMut 8) twoLoops
    state.log.map Exchange.request =
      [⟨true, RequestWithSender.lookupMessage 0 0⟩, ⟨false, RequestWithSender.lookupMessage 0 0⟩] ∧
    ∀ exchange ∈ state.log,
      IsAnswer .any (receivedUnique exchange.request.bytes) exchange.reply := by
  intro state
  have hsession : Session.idmapSession.Initialized :=
    ⟨Session.idmapEnv, .all, 1000, [], [.message Session.idmapInit], rfl, rfl⟩
  have hlookup : (LoopEvent.read (.message (RequestWithSender.lookupMessage 0 0))).Admissible
      (FuseReadBuf.asMut 8) :=
    ⟨_, rfl, fun h => absurd h (by decide), fun h => absurd h (by decide)⟩
  have hruns : Runs Session.idmapSession.eventLoop (fun _ => FuseReadBuf.asMut 8) start state := by
    change Runs _ _ _ (run _ _ twoLoops)
    rw [run, twoLoops, List.foldl_cons, List.foldl_cons, List.foldl_cons, List.foldl_cons,
      List.foldl_nil]
    apply Runs.step
    · apply Runs.step
      · apply Runs.step
        · exact Runs.step .refl _ hlookup
        · exact hlookup
      · exact True.intro
    · exact True.intro
  refine ⟨by decide +kernel, fun exchange hexchange => ?_⟩
  exact ((serving_conforms Session.idmapSession hsession (fun _ => 8) state hruns).1
    exchange hexchange).1

/-- The state of a single loop, as the ledger of requests sees it. -/
def looping (state : Serving Unit) : Looping :=
  ⟨state.ended (), state.received.map Taken.bytes, state.log.map Exchange.reply,
    state.waiting.map Waiting.object⟩

section Single

variable {addr : Unit → Nat} {state : Serving Unit}

theorem looping_onMessage (hended : state.ended () = none) (bytes : List UInt8) :
    (state.onMessage se addr () bytes).looping =
      se.onMessage (addr ()) bytes state.looping := by
  obtain ⟨hreceived, hpending⟩ := se.turn_onMessage (addr ()) bytes
  have hsent (request : Taken Unit) (sent : List (List UInt8)) :
      (sent.map fun reply => Exchange.mk request none reply).map Exchange.reply = sent := by
    rw [List.map_map]
    exact List.map_id sent
  have hobjects (request : Taken Unit) (calls : List FsCall) :
      (calls.filterMap fun call => call.reply.map (Waiting.mk request call)).map Waiting.object =
        calls.filterMap FsCall.reply := by
    rw [List.map_filterMap]
    congr 1
    funext call
    rw [Option.map_map]
    exact Option.map_id'
  rw [se.onMessage_extend (addr ()) bytes hended]
  simp only [looping, Serving.onMessage, Looping.extend, Function.update_self, List.map_append,
    List.map_singleton, hsent, hobjects, hreceived, hpending]

theorem looping_onError (hended : state.ended () = none) (errno : Errno) :
    (state.onRead se addr () (.error errno)).looping =
      se.onRead (addr ()) (.error errno) state.looping := by
  simp only [Serving.onRead, looping, SessionEventLoop.onRead, Function.update_self]
  split
  · simp only [Looping.start, hended]
  · split
    · rfl
    · rfl

theorem looping_finish {index : Nat} {waiting : Waiting Unit}
    (hwaiting : state.waiting[index]? = some waiting)
    {answer : Option Answer} {send : Method (List (List UInt8)) Empty Unit}
    (use : ReplyRaw → Method (List (List UInt8)) Empty Unit)
    (h : ∀ sent, ((use waiting.object.reply).run sent).2 = sent ++ (send.run []).2) :
    (state.finish index waiting answer send).looping = state.looping.finish index use := by
  have hpending : state.looping.pending[index]? = some waiting.object := by
    rw [looping, List.getElem?_map, hwaiting]
    rfl
  rw [Looping.finish, hpending]
  simp only [h, looping, Serving.finish, List.map_append, List.map_map, List.eraseIdx_map]
  congr 2
  exact List.map_id _

/-- A single loop whose reply objects are used by their methods is a loop whose reply
objects are used or dropped. -/
theorem looping_step (h : ∀ waiting ∈ state.waiting,
      waiting.object.reply = .new waiting.object.unique) (event : ServeEvent Unit) :
    ∃ event', (state.step se addr event).looping = se.step (addr ()) state.looping event' := by
  have hnothing : state.looping = se.step (addr ()) state.looping (.drop state.waiting.length) := by
    rw [SessionEventLoop.step, Looping.finish, List.getElem?_eq_none]
    rw [looping, List.length_map]
  cases event with
  | read thread event =>
      refine ⟨.read event, ?_⟩
      rw [Serving.step, SessionEventLoop.step]
      change _ = if (state.ended ()).isSome then _ else _
      by_cases hended : (state.ended ()).isSome
      · rw [if_pos hended, if_pos hended]
      · rw [if_neg hended, if_neg hended]
        have hnone : state.ended () = none := Option.not_isSome_iff_eq_none.mp hended
        cases event with
        | message bytes => exact looping_onMessage hnone bytes
        | error errno => exact looping_onError hnone errno
  | answer index answer =>
      rw [Serving.step]
      split
      · exact ⟨_, hnothing⟩
      next waiting hwaiting =>
          split
          · have hreply := h waiting (List.mem_of_getElem? hwaiting)
            rw [ReplyCall.perform]
            cases answer.response waiting.object.unique waiting.object.size with
            | ok response =>
                refine ⟨.use index response, ?_⟩
                refine looping_finish hwaiting (·.sends response) fun sent => ?_
                rw [hreply]
                exact congrArg Prod.snd (ReplyRaw.appends_sends _ response sent)
            | err e => cases e
            | panic reason =>
                refine ⟨.drop index, looping_finish hwaiting (·.drops) fun sent => ?_⟩
                rw [hreply, ReplyRaw.run_drops,
                  Method.run_bind_of_ok _ (ReplyRaw.run_drops waiting.object.unique [])]
                rfl
          · exact ⟨_, hnothing⟩
  | drop index =>
      rw [Serving.step]
      split
      · exact ⟨_, hnothing⟩
      next waiting hwaiting =>
          exact ⟨.drop index, looping_finish hwaiting (·.drops) fun sent =>
            congrArg Prod.snd (ReplyRaw.appends_drops waiting.object.reply sent)⟩

/-- What a single loop comes to is what the ledger of requests was kept for. -/
theorem looping_runs (hfs : se.filesystemPresent = true) (haddr : addr () % 8 = 0)
    (h : Runs se addr start state) : ∃ events, state.looping = se.run (addr ()) events := by
  have hstart : (start : Serving Unit).Conforms se addr := conforms_start
  induction h with
  | refl => exact ⟨[], rfl⟩
  | @tail state state' hruns hstep ih =>
      obtain ⟨event, -, rfl⟩ := hstep
      obtain ⟨events, hevents⟩ := ih
      obtain ⟨-, hconforms⟩ := hstart.runs hfs (fun _ => haddr) hruns
      obtain ⟨event', hevent'⟩ := looping_step hconforms.unused event
      refine ⟨events ++ [event'], ?_⟩
      rw [hevent', hevents, SessionEventLoop.run, SessionEventLoop.run, List.foldl_append]
      rfl

end Single

end Serving

end Fuser
