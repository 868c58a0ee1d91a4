import Fuser.Accepted
import Fuser.Foundation.Ledger
import Fuser.Framing
import Fuser.Handshake

/-!
The event loop of a session, together with the filesystem behind it. The loop
reads requests and dispatches them; the filesystem uses or drops the reply
objects it was given whenever it likes, from any thread, while the loop goes on.

The uniques of the requests are a ledger. A request is an obligation to answer,
which is outstanding as long as the filesystem holds the reply object.
-/

namespace Fuser

open Rust Wire

/-- The loop and the filesystem: how the loop ended, if it did, the messages that
were read and written, and the reply objects that the filesystem holds. -/
structure Looping where
  ended : Option (Outcome IoError Unit)
  received : List (List UInt8)
  sent : List (List UInt8)
  pending : List ReplyObject

/-- What happens next: the loop reads, or some reply object is used or dropped. -/
inductive LoopEvent where
  | read (event : ReadEvent)
  | use (index : Nat) (response : Response)
  | drop (index : Nat)

namespace Looping

def start : Looping := ⟨none, [], [], []⟩

/-- What using up the reply object at `index` does; a panic ends the thread that
used it, which need not be the loop. -/
def finish (state : Looping) (index : Nat)
    (send : ReplyRaw → Method (List (List UInt8)) Empty Unit) : Looping :=
  match state.pending[index]? with
  | none => state
  | some object =>
      { state with
        sent := ((send object.reply).run state.sent).2
        pending := state.pending.eraseIdx index }

end Looping

namespace SessionEventLoop

variable (se : SessionEventLoop) (addr : Nat)

/-- The reply to DESTROY is sent, and the loop returns. -/
def destroyed (req : RequestWithSender) (state : Looping) : Looping :=
  match ((ReplyRaw.new req.unique).sends .empty).run state.sent with
  | (.ok (), sent) => { state with sent, ended := some (.ok ()) }
  | (.err e, _) => nomatch e
  | (.panic reason, sent) => { state with sent, ended := some (.panic reason) }

/-- The filesystem takes over the reply objects of the calls. -/
def dispatched (req : RequestWithSender) (state : Looping) : Looping :=
  match (req.dispatch se).run state.sent with
  | (.ok calls, sent) =>
      { state with sent, pending := state.pending ++ calls.filterMap FsCall.reply }
  | (.err e, _) => nomatch e
  | (.panic reason, sent) => { state with sent, ended := some (.panic reason) }

def handled (req : RequestWithSender) (state : Looping) : Looping :=
  match req.request.operation with
  | .ok (.destroy _) => destroyed req state
  | .panic reason => { state with ended := some (.panic reason) }
  | _ => se.dispatched req state

/-- One turn of the loop on a message. -/
def onMessage (bytes : List UInt8) (state : Looping) : Looping :=
  let state := { state with received := state.received ++ [bytes] }
  match (RequestWithSender.new ⟨addr, bytes⟩ se.negotiated : Outcome Empty _) with
  | .ok (some req) => se.handled req state
  | .ok none =>
      { state with ended := some (.err (.new .invalidData "Invalid request")) }
  | .err e => nomatch e
  | .panic reason => { state with ended := some (.panic reason) }

/-- One turn of the loop. -/
def onRead (event : ReadEvent) (state : Looping) : Looping :=
  match event with
  | .message bytes => se.onMessage addr bytes state
  | .error errno =>
      if Channel.retries errno then state
      else if errno = .enodev ∨ errno = .econnaborted then
        { state with ended := some (.ok ()) }
      else { state with ended := some (.err (.os errno.code)) }

/-- One step of the loop and the filesystem. A loop that has ended reads no more,
but reply objects may still be around. -/
def step (state : Looping) : LoopEvent → Looping
  | .read event => if state.ended.isSome then state else se.onRead addr event state
  | .use index response => state.finish index (·.sends response)
  | .drop index => state.finish index (·.drops)

def run (events : List LoopEvent) : Looping := events.foldl (se.step addr) .start

end SessionEventLoop

/-- A length that WRITE or IOCTL gives for its data is borne out by the body. -/
def AnyRequest.WellSized (request : AnyRequest) : Prop :=
  (FuseOpcode.tryFrom request.header.opcode = some .fuseWrite → 40 ≤ request.data.len →
    (ofBytes FuseWriteIn request.data.bytes).size.toNat = request.data.len - 40) ∧
  (FuseOpcode.tryFrom request.header.opcode = some .fuseIoctl → 32 ≤ request.data.len →
    (ofBytes FuseIoctlIn request.data.bytes).inSize.toNat ≤ request.data.len - 32)

/-- The events that a kernel and a filesystem bring about which keep their part of
the protocol. -/
def LoopEvent.Admissible (addr : Nat) : LoopEvent → Prop
  | .read (.message bytes) =>
      ∃ request, AnyRequest.tryFrom ⟨addr, bytes⟩ = .ok request ∧ request.WellSized
  | .read (.error _) => True
  | .use _ response => response.Fits
  | .drop _ => True

/-- The request that a message from the kernel is about. -/
def receivedUnique (bytes : List UInt8) : UInt64 := (ofBytes FuseInHeader bytes).unique

/-- A FORGET or a BATCH_FORGET whose body parses. -/
def forgetful (negotiated : InitFlags) (addr : Nat) (bytes : List UInt8) : Bool :=
  match AnyRequest.tryFrom ⟨addr, bytes⟩ with
  | .ok request =>
      match (request.setNegotiated negotiated).operation with
      | .ok op => op.forgets
      | _ => false
  | _ => false

namespace AnyRequest

variable {request : AnyRequest}

theorem WellSized.returns (h : request.WellSized) (haddr : request.data.addr % 8 = 0) :
    request.operation.Returns := by
  cases hop : FuseOpcode.tryFrom request.header.opcode with
  | none =>
      rw [operation, hop]
      exact Outcome.returns_err _
  | some opcode =>
      refine ((request.parsesSafely_iff opcode haddr hop).mpr ⟨?_, ?_⟩).1
      · rintro rfl
        exact h.1 hop
      · rintro rfl
        exact h.2 hop

theorem parse_of_operation {opcode : FuseOpcode} {op : Operation}
    (hop : FuseOpcode.tryFrom request.header.opcode = some opcode)
    (h : request.operation = .ok op) :
    parse request.header opcode request.data request.negotiated = .ok op := by
  rw [operation_eq hop] at h
  cases hparse : parse request.header opcode request.data request.negotiated with
  | ok op' =>
      rw [hparse] at h
      cases h
      rfl
  | err e =>
      rw [hparse] at h
      cases h
  | panic reason =>
      rw [hparse] at h
      cases h

theorem WellSized.shortIoctl (h : request.WellSized) (haddr : request.data.addr % 8 = 0)
    {op : Operation} (hparse : request.operation = .ok op) : op.shortIoctl = false := by
  cases hop : FuseOpcode.tryFrom request.header.opcode with
  | none =>
      rw [operation, hop] at hparse
      cases hparse
  | some opcode =>
      have hrecorded := recorded_of_parse haddr (fun hioctl => h.2 (hioctl ▸ hop))
        (parse_of_operation hop hparse)
      exact hrecorded.lengths.shortIoctl

end AnyRequest

theorem coe_append_singleton {α : Type} (l : List α) (a : α) :
    ((l ++ [a] : List α) : Multiset α) = a ::ₘ (l : Multiset α) :=
  Quot.sound (List.perm_append_singleton a l)

namespace Looping

/-- The requests to be answered, those that were, and those that the filesystem
has yet to answer. -/
def book (negotiated : InitFlags) (addr : Nat) (state : Looping) : Ledger.Book UInt64 where
  issued := ((state.received.filter (!forgetful negotiated addr ·)).map receivedUnique :
    List UInt64)
  settled := (state.sent.map messageUnique : List UInt64)
  outstanding := (state.pending.map (·.unique.raw) : List UInt64)

/-- The loop did not panic, and every reply object in the hands of the filesystem
is unused. -/
structure Sound (state : Looping) : Prop where
  returns : ∀ reason, state.ended ≠ some (.panic reason)
  unused : ∀ object ∈ state.pending, object.reply = .new object.unique

end Looping

open Ledger in
theorem Looping.entries_finish {negotiated : InitFlags} {addr : Nat} {state : Looping}
    (h : state.Sound) {send : ReplyRaw → Method (List (List UInt8)) Empty Unit}
    {response : Response}
    (hsend : ∀ unique sent, ((send (.new unique)).run sent).2 = sent ++ [response.message unique])
    (index : Nat) :
    Entries (state.book negotiated addr) ((state.finish index send).book negotiated addr) ∧
      (state.finish index send).Sound := by
  rw [finish]
  cases hobject : state.pending[index]? with
  | none => exact ⟨.refl _, h⟩
  | some object =>
      obtain ⟨hindex, hget⟩ := List.getElem?_eq_some_iff.mp hobject
      have hmem : object ∈ state.pending := hget ▸ List.getElem_mem hindex
      have hperm := List.getElem_cons_eraseIdx_perm hindex
      rw [hget] at hperm
      have hout : (state.book negotiated addr).outstanding = object.unique.raw ::ₘ
          (((state.pending.eraseIdx index).map (·.unique.raw) : List UInt64) : Multiset UInt64) :=
        Quot.sound (hperm.map _).symm
      refine ⟨?_, h.returns, fun other hother => h.unused other (List.mem_of_mem_eraseIdx hother)⟩
      have hsent : (state.sent ++ [response.message object.unique]).map messageUnique =
          state.sent.map messageUnique ++ [object.unique.raw] := by
        rw [List.map_append, List.map_singleton, messageUnique_message]
      have hentry := (Entry.settle object.unique.raw hout).entries
      simp only [book, h.unused object hmem, hsend, hsent, coe_append_singleton]
      exact hentry

namespace Looping

open Ledger

variable {negotiated : InitFlags} {addr : Nat} {state : Looping} {bytes : List UInt8}
variable {sent : List (List UInt8)} {pending : List ReplyObject}
variable {ended : Option (Outcome IoError Unit)}

theorem filter_received {forgets : Bool} (h : forgetful negotiated addr bytes = forgets) :
    (state.received ++ [bytes]).filter (!forgetful negotiated addr ·) =
      state.received.filter (!forgetful negotiated addr ·) ++ if forgets then [] else [bytes] := by
  rw [List.filter_append]
  cases forgets with
  | true => rw [List.filter_cons_of_neg (by rw [h]; decide), List.filter_nil, if_pos rfl]
  | false =>
      rw [List.filter_cons_of_pos (by rw [h]; rfl), List.filter_nil, if_neg Bool.false_ne_true]

/-- A message that is answered at once. -/
theorem entries_answered (h : forgetful negotiated addr bytes = false) {message : List UInt8}
    (hunique : messageUnique message = receivedUnique bytes) :
    Entries (state.book negotiated addr)
      (book negotiated addr
        ⟨ended, state.received ++ [bytes], state.sent ++ [message], state.pending⟩) := by
  have hentries := entries_issue_settle (state.book negotiated addr) (receivedUnique bytes)
  simp only [book, filter_received h, List.map_append, List.map_singleton, hunique,
    coe_append_singleton, Bool.false_eq_true, if_false]
  exact hentries

/-- A message that the filesystem is to answer. -/
theorem entries_called (h : forgetful negotiated addr bytes = false) {object : ReplyObject}
    (hunique : object.unique.raw = receivedUnique bytes) :
    Entries (state.book negotiated addr)
      (book negotiated addr
        ⟨ended, state.received ++ [bytes], state.sent, state.pending ++ [object]⟩) := by
  have hentry : Entry (state.book negotiated addr) _ := .issue (receivedUnique bytes)
  simp only [book, filter_received h, List.map_append, List.map_singleton, hunique,
    coe_append_singleton, Bool.false_eq_true, if_false]
  exact hentry.entries

/-- A message that is not to be answered. -/
theorem entries_forgot (h : forgetful negotiated addr bytes = true) :
    Entries (state.book negotiated addr)
      (book negotiated addr ⟨ended, state.received ++ [bytes], state.sent, state.pending⟩) := by
  simp only [book, filter_received h, if_true, List.append_nil]
  exact .refl _

end Looping

namespace SessionEventLoop

open Ledger Looping

variable {se : SessionEventLoop} {addr : Nat} {state : Looping} {bytes : List UInt8}
variable {req : RequestWithSender}

theorem entries_dispatched {forgets : Bool} (h : state.Sound)
    (hunique : req.unique.raw = receivedUnique bytes)
    (hforgets : forgetful se.negotiated addr bytes = forgets)
    (hdispatched : req.Dispatched forgets false state.sent ((req.dispatch se).run state.sent)) :
    Entries (state.book se.negotiated addr)
        ((se.dispatched req { state with received := state.received ++ [bytes] }).book
          se.negotiated addr) ∧
      (se.dispatched req { state with received := state.received ++ [bytes] }).Sound := by
  rw [dispatched]
  generalize hrun : (req.dispatch se).run state.sent = result at hdispatched
  cases hdispatched with
  | answered errno hforgets' =>
      subst hforgets'
      simp only [List.filterMap_nil, List.append_nil]
      refine ⟨entries_answered hforgets ?_, h.returns, h.unused⟩
      rw [messageUnique_message, hunique]
  | panicked reason hshort => cases hshort
  | called method object hobject hforgets' =>
      subst hforgets'
      have hobject' : object.unique = req.unique := congrArg ReplyRaw.unique hobject
      refine ⟨entries_called hforgets (hobject' ▸ hunique), h.returns, fun other hother => ?_⟩
      cases List.mem_append.mp hother with
      | inl hold => exact h.unused other hold
      | inr hnew =>
          rw [List.mem_singleton.mp hnew, hobject']
          exact hobject
  | forgot method hforgets' =>
      subst hforgets'
      simp only [List.filterMap_cons_none, List.filterMap_nil, List.append_nil]
      exact ⟨entries_forgot hforgets, h.returns, h.unused⟩

theorem entries_destroyed (h : state.Sound) (hunique : req.unique.raw = receivedUnique bytes)
    (hforgets : forgetful se.negotiated addr bytes = false) :
    Entries (state.book se.negotiated addr)
        ((destroyed req { state with received := state.received ++ [bytes] }).book
          se.negotiated addr) ∧
      (destroyed req { state with received := state.received ++ [bytes] }).Sound := by
  rw [destroyed, ReplyRaw.run_sends Response.fits_empty]
  refine ⟨entries_answered hforgets ?_, nofun, h.unused⟩
  rw [messageUnique_message, hunique]

theorem handled_of_err {e : RequestError} (hop : req.request.operation = .err e) :
    se.handled req state = se.dispatched req state := by
  rw [handled, hop]

theorem handled_of_ok (se : SessionEventLoop) (state : Looping) {op : Operation}
    (hop : req.request.operation = .ok op) :
    (∃ x, op = .destroy x ∧ se.handled req state = destroyed req state) ∨
      se.handled req state = se.dispatched req state := by
  rw [handled, hop]
  cases op with
  | destroy x => exact .inl ⟨x, rfl, rfl⟩
  | _ => exact .inr rfl

/-- One message of a kernel that keeps to the protocol. -/
theorem entries_onMessage (hfs : se.filesystemPresent = true) (haddr : addr % 8 = 0)
    (h : state.Sound) (hbytes : (LoopEvent.read (.message bytes)).Admissible addr) :
    Entries (state.book se.negotiated addr)
        ((se.onMessage addr bytes state).book se.negotiated addr) ∧
      (se.onMessage addr bytes state).Sound := by
  obtain ⟨request, hframe, hsized⟩ := hbytes
  obtain ⟨hheader, hdata⟩ := AnyRequest.of_tryFrom_eq_ok haddr hframe
  obtain ⟨req, hnew, hrequest⟩ :=
    RequestWithSender.new_of_tryFrom (ε := Empty) se.negotiated hframe
  have hsized' : req.request.WellSized := hrequest ▸ hsized
  have hdata' : req.request.data.addr % 8 = 0 := hrequest ▸ hdata
  have hunique : req.unique.raw = receivedUnique bytes := by
    rw [RequestWithSender.unique, hrequest]
    exact congrArg FuseInHeader.unique hheader
  have hforgetful : forgetful se.negotiated addr bytes =
      match req.request.operation with
      | .ok op => op.forgets
      | _ => false := by
    rw [forgetful, hframe, hrequest]
  simp only [onMessage, hnew]
  obtain ⟨hparsed, hunparsed⟩ := req.dispatched se hfs state.sent
  cases hop : req.request.operation with
  | panic reason => exact absurd hop (hsized'.returns hdata' reason)
  | err e =>
      rw [hop] at hforgetful
      rw [handled_of_err hop]
      exact entries_dispatched h hunique hforgetful (hunparsed e hop)
  | ok op =>
      rw [hop] at hforgetful
      obtain ⟨x, rfl, hhandled⟩ | hhandled :=
        handled_of_ok se { state with received := state.received ++ [bytes] } hop
      · rw [hhandled]
        exact entries_destroyed h hunique hforgetful
      · have hdispatched := hparsed op hop
        rw [hsized'.shortIoctl hdata' hop] at hdispatched
        rw [hhandled]
        exact entries_dispatched h hunique hforgetful hdispatched

theorem entries_step (hfs : se.filesystemPresent = true) (haddr : addr % 8 = 0) (h : state.Sound)
    (event : LoopEvent) (hevent : event.Admissible addr) :
    Entries (state.book se.negotiated addr)
        ((se.step addr state event).book se.negotiated addr) ∧
      (se.step addr state event).Sound := by
  cases event with
  | use index response =>
      exact Looping.entries_finish h
        (fun unique sent => congrArg Prod.snd (ReplyRaw.run_sends hevent unique sent)) index
  | drop index =>
      exact Looping.entries_finish h
        (fun unique sent => congrArg Prod.snd (ReplyRaw.run_drops unique sent)) index
  | read event =>
      rw [step]
      by_cases hended : state.ended.isSome
      · rw [if_pos hended]
        exact ⟨.refl _, h⟩
      · rw [if_neg hended]
        cases event with
        | message bytes => exact entries_onMessage hfs haddr h hevent
        | error errno =>
            rw [onRead]
            split
            · exact ⟨.refl _, h⟩
            · split
              · exact ⟨.refl _, nofun, h.unused⟩
              · exact ⟨.refl _, nofun, h.unused⟩

/-- Every run is a sequence of entries in the ledger. -/
theorem entries_run (se : SessionEventLoop) (hfs : se.filesystemPresent = true)
    (haddr : addr % 8 = 0) (events : List LoopEvent)
    (hevents : ∀ event ∈ events, event.Admissible addr) :
    Entries (Looping.start.book se.negotiated addr)
        ((se.run addr events).book se.negotiated addr) ∧
      (se.run addr events).Sound := by
  let invariant (state : Looping) : Prop :=
    Entries (Looping.start.book se.negotiated addr) (state.book se.negotiated addr) ∧ state.Sound
  have hstart : invariant .start := ⟨.refl _, nofun, nofun⟩
  refine List.foldlRecOn (motive := invariant) events (se.step addr) hstart ?_
  intro state hstate event hmem
  obtain ⟨hentries, hsound⟩ := hstate
  obtain ⟨hnext, hsound'⟩ := entries_step hfs haddr hsound event (hevents event hmem)
  exact ⟨hentries.trans hnext, hsound'⟩

/-- However reads, answers and dropped reply objects follow each other, no request
is answered twice and none is answered that was not received; and once the
filesystem is done with its reply objects, every request was answered that is to
be. -/
theorem run_answers_once (session : Session) (hsession : session.Initialized) (ptr : Nat)
    (events : List LoopEvent)
    (hevents : ∀ event ∈ events, event.Admissible (FuseReadBuf.asMut ptr)) :
    let state := session.eventLoop.run (FuseReadBuf.asMut ptr) events
    let answered : Multiset UInt64 := (state.sent.map messageUnique : List UInt64)
    answered ≤ ((state.received.map receivedUnique : List UInt64) : Multiset UInt64) ∧
    (state.pending = [] →
      answered = ((state.received.filter fun bytes =>
        !forgetful session.negotiated (FuseReadBuf.asMut ptr) bytes).map receivedUnique :
          List UInt64)) ∧
    ∀ reason, state.ended ≠ some (.panic reason) := by
  intro state answered
  obtain ⟨hentries, hsound⟩ := entries_run session.eventLoop hsession.filesystemPresent
    (FuseReadBuf.asMut_aligned ptr) events hevents
  have hstart : Balanced (Looping.start.book session.negotiated (FuseReadBuf.asMut ptr)) := rfl
  have hbalanced : Balanced (state.book session.negotiated (FuseReadBuf.asMut ptr)) :=
    hstart.entries hentries
  refine ⟨hbalanced.settled_le.trans ?_, fun hpending => hbalanced.settled_eq ?_, hsound.returns⟩
  · exact Multiset.coe_le.mpr ((List.filter_sublist.map receivedUnique).subperm)
  · change ((state.pending.map _ : List UInt64) : Multiset UInt64) = 0
    rw [hpending]
    rfl

/-- A LOOKUP that is answered, and another one whose reply object is dropped. -/
def twoLookups : List LoopEvent :=
  [.read (.message (RequestWithSender.lookupMessage 0 0)),
    .read (.message (RequestWithSender.lookupMessage 0 0)),
    .use 1 (.ofErrno .enoent), .drop 0]

theorem run_answers_once_lookups :
    (((Session.idmapSession.eventLoop.run (FuseReadBuf.asMut 8) twoLookups).sent.map
      messageUnique : List UInt64) : Multiset UInt64) = ([5, 5] : List UInt64) := by
  have hsession : Session.idmapSession.Initialized :=
    ⟨Session.idmapEnv, .all, 1000, [], [.message Session.idmapInit], rfl, rfl⟩
  have hlookup : (LoopEvent.read (.message (RequestWithSender.lookupMessage 0 0))).Admissible
      (FuseReadBuf.asMut 8) :=
    ⟨_, rfl, fun h => absurd h (by decide), fun h => absurd h (by decide)⟩
  have hevents : ∀ event ∈ twoLookups, event.Admissible (FuseReadBuf.asMut 8) := by
    intro event hevent
    simp only [twoLookups, List.mem_cons, List.not_mem_nil, or_false] at hevent
    obtain rfl | rfl | rfl | rfl := hevent
    · exact hlookup
    · exact hlookup
    · exact Response.fits_ofErrno _
    · exact True.intro
  have hpending : (Session.idmapSession.eventLoop.run (FuseReadBuf.asMut 8) twoLookups).pending.length
      = 0 := by decide +kernel
  have hreceived : ((Session.idmapSession.eventLoop.run (FuseReadBuf.asMut 8)
      twoLookups).received.filter fun bytes => !forgetful Session.idmapSession.negotiated
        (FuseReadBuf.asMut 8) bytes).map receivedUnique = [5, 5] := by decide +kernel
  have hrun := (run_answers_once Session.idmapSession hsession 8 twoLookups hevents).2.1
  rw [hreceived] at hrun
  exact hrun (List.eq_nil_of_length_eq_zero hpending)

end SessionEventLoop

end Fuser
