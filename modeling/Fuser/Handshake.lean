import Fuser.Init
import Fuser.Request

/-!
The handshake: the loop that a session runs until an INIT request is settled.

The device delivers a message or an error for every read. Errors that are safe
to retry, and INIT requests of a newer major version, send the loop back to the
next read; everything else ends it. A device that delivers nothing more leaves
the loop waiting.
-/

namespace Fuser

open Rust Wire

/-- What one read of the device brings. -/
inductive ReadEvent where
  | message (bytes : List UInt8)
  | error (errno : Errno)
  deriving DecidableEq

namespace FuseReadBuf

/-- Where the aligned part of a buffer at address `ptr` starts. -/
def asMut (ptr : Nat) : Nat :=
  let alignment := ReprC.align FuseInHeader
  let off := alignment - ptr % alignment
  if off = alignment then ptr else ptr + off

theorem asMut_aligned (ptr : Nat) : asMut ptr % 8 = 0 := by
  have halign : ReprC.align FuseInHeader = 8 := rfl
  rw [asMut]
  simp only [halign]
  by_cases h : 8 - ptr % 8 = 8
  · rw [if_pos h]
    omega
  · rw [if_neg h]
    omega

end FuseReadBuf

namespace Channel

/-- Errors after which `receive_retrying` reads again. -/
def retries (errno : Errno) : Bool := errno = .enoent ∨ errno = .eintr ∨ errno = .eagain

end Channel

/-- What surrounds a handshake: where its buffer was allocated, the page size of
the system, whether the program logs errors, and how the filesystem's `init` behaves,
which is the calls it makes on the configuration and how it ends. -/
structure HandshakeEnv where
  bufferPtr : Nat
  page : PageSize
  errorsLogged : Bool
  fsInit : Request → KernelConfig → List ConfigCall × Outcome IoError Unit

/-- The session, the messages it sent and the calls to `init` it made. -/
structure Handshaking where
  session : Session
  sent : List (List UInt8)
  initCalls : List (Request × KernelConfig)

/-- How a handshake ends, and what it leaves unread; `none` while it waits. -/
structure HandshakeRun where
  outcome : Option (Outcome IoError Unit)
  state : Handshaking
  rest : List ReadEvent

namespace Session

/-- Answer a request with a fresh reply object. -/
def answer (unique : RequestId) (response : Response) : Method Handshaking IoError Unit :=
  fun state =>
    match (ReplyRaw.sendLl response).run (ReplyRaw.new unique, state.sent) with
    | (.ok (), (_, sent)) => (.ok (), { state with sent })
    | (.err e, _) => nomatch e
    | (.panic reason, (_, sent)) => (.panic reason, { state with sent })

variable (env : HandshakeEnv)

/-- The part of the loop that an acceptable INIT reaches. -/
def settle (request : AnyRequest) (init : Op.Init) : Method Handshaking IoError Unit :=
  fun state =>
    let config := state.session.kernelConfig init
    if ¬ state.session.filesystemPresent then
      (.err (.new .invalidInput "Bug: filesystem must be initialized during handshake"), state)
    else
      let called := { state with initCalls := state.initCalls ++ [(⟨request.header⟩, config)] }
      match env.fsInit ⟨request.header⟩ config with
      | (_, .err error) =>
          (do
            answer request.unique (.ofErrno (.fromI32 (error.rawOsError.getD 0)))
            Method.fail error : Method Handshaking IoError Unit).run called
      | (_, .panic reason) => (.panic reason, called)
      | (calls, .ok ()) =>
          let config := ConfigCall.run config calls
          (answer request.unique (init.reply config env.page)).run
            { called with session := called.session.initialized init config }

/-- What an operation does to the handshake. `true` sends the loop back to the
next read. -/
def handshakeOperation (request : AnyRequest) : Operation → Method Handshaking IoError Bool
  | .init init =>
      if init.version.major > fuseKernelVersion then do
        answer request.unique init.replyVersionOnly
        return true
      else if init.version.lt ⟨7, 6⟩ then do
        answer request.unique (.ofErrno .eproto)
        .fail (.new .unsupported ("Unsupported FUSE ABI version " ++ init.version.display))
      else do
        settle env request init
        return false
  | _ => do
      -- the line of the log holds the whole request, which is formatted for it
      if env.errorsLogged then .ofOutcome request.fmt
      answer request.unique (.ofErrno .eio)
      .fail (.new .invalidData "Received non-init FUSE operation during handshake")

/-- One turn of the loop, after a message was read. -/
def handshakeMessage (bytes : List UInt8) : Method Handshaking IoError Bool :=
  match AnyRequest.tryFrom ⟨FuseReadBuf.asMut env.bufferPtr, bytes⟩ with
  | .panic reason => .abort reason
  | .err e => .fail (.new .invalidData e.display)
  | .ok request =>
      match request.operation with
      | .panic reason => .abort reason
      | .err _ => .fail (.new .invalidData "Failed to parse FUSE operation")
      | .ok operation => handshakeOperation env request operation

/-- The loop over what the device delivers. -/
def handshake : List ReadEvent → Handshaking → HandshakeRun
  | [], state => ⟨none, state, []⟩
  | .error errno :: rest, state =>
      if Channel.retries errno then handshake rest state
      else if errno = .enodev ∨ errno = .econnaborted then
        ⟨some (.err (.new .notConnected "FUSE device disconnected during handshake")), state, rest⟩
      else ⟨some (.err (.os errno.code)), state, rest⟩
  | .message bytes :: rest, state =>
      match (handshakeMessage env bytes).run state with
      | (.ok true, state') => handshake rest state'
      | (.ok false, state') => ⟨some (.ok ()), state', rest⟩
      | (.err e, state') => ⟨some (.err e), state', rest⟩
      | (.panic reason, state') => ⟨some (.panic reason), state', rest⟩

theorem run_answer {response : Response} (h : response.Fits) (unique : RequestId)
    (state : Handshaking) :
    (answer unique response).run state =
      (.ok (), { state with sent := state.sent ++ [response.message unique] }) := by
  have hsend := ReplyRaw.run_sendLl h unique {} state.sent
  simp only [Method.run, answer, ReplyRaw.new] at hsend ⊢
  rw [hsend]

/-- The request and the operation in a message. -/
def received (bytes : List UInt8) : Outcome RequestError (AnyRequest × Operation) := do
  let request ← AnyRequest.tryFrom ⟨FuseReadBuf.asMut env.bufferPtr, bytes⟩
  let operation ← request.operation
  return (request, operation)

/-- The versions that the filesystem is initialized for. -/
def Supports (version : Version) : Prop := version.major = 7 ∧ 6 ≤ version.minor.toNat

instance (version : Version) : Decidable (Supports version) := inferInstanceAs (Decidable (_ ∧ _))

/-- The response that a request is due while `session` is not initialized, which is none
if the filesystem's `init` panics. -/
def dueResponse (session : Session) (request : AnyRequest) : Operation → Option Response
  | .init init =>
      if 7 < init.version.major.toNat then
        let zeroed := ofBytes FuseInitOut (List.replicate 64 0)
        some (.ofData (toBytes { zeroed with major := 7, minor := 44 }))
      else if Supports init.version then
        let config := session.kernelConfig init
        match env.fsInit ⟨request.header⟩ config with
        | (calls, .ok ()) => some (init.reply (ConfigCall.run config calls) env.page)
        | (_, .err (.os code)) => some (.ofErrno (if h : 0 < code then ⟨code, h⟩ else .eio))
        | (_, .err (.new _ _)) => some (.ofErrno .eio)
        | (_, .panic _) => none
      else some (.ofErrno .eproto)
  | _ => some (.ofErrno .eio)

/-- The reply that an event is due, which is none if it brings nothing that parses. -/
def dueReply (session : Session) : ReadEvent → Option (List UInt8)
  | .error _ => none
  | .message bytes =>
      match received env bytes with
      | .ok (request, operation) =>
          (dueResponse env session request operation).map fun response =>
            response.message request.unique
      | .err _ => none
      | .panic _ => none

/-- The call to `init` that an event is due. -/
def dueCall (session : Session) : ReadEvent → Option (Request × KernelConfig)
  | .error _ => none
  | .message bytes =>
      match received env bytes with
      | .ok (request, .init init) =>
          if Supports init.version then some (⟨request.header⟩, session.kernelConfig init) else none
      | _ => none

/-- An event after which the handshake goes on. -/
def Continues : ReadEvent → Prop
  | .error errno => Channel.retries errno = true
  | .message bytes => ∃ request init,
      received env bytes = .ok (request, .init init) ∧ 7 < init.version.major.toNat

/-- A request that is refused for not being an INIT can be shown in the log. -/
def Formats : ReadEvent → Prop
  | .error _ => True
  | .message bytes => ∀ request operation,
      received env bytes = .ok (request, operation) → env.errorsLogged = true →
      operation.shortIoctl = false

/-- How an event ends the handshake of `session`: the outcome, and the session that is
left. -/
inductive Decides (session : Session) : ReadEvent → Outcome IoError Unit → Session → Prop where
  | device {errno : Errno} (error : IoError) (h : Channel.retries errno = false) :
      Decides session (.error errno) (.err error) session
  | unread {bytes : List UInt8} {reason : Panic} (h : received env bytes = .panic reason) :
      Decides session (.message bytes) (.panic reason) session
  | unparsed {bytes : List UInt8} {e : RequestError} (error : IoError)
      (h : received env bytes = .err e) :
      Decides session (.message bytes) (.err error) session
  | foreign {bytes : List UInt8} {request : AnyRequest} {operation : Operation}
      (h : received env bytes = .ok (request, operation))
      (hforeign : ∀ init, operation ≠ .init init) :
      Decides session (.message bytes)
        (.err (.new .invalidData "Received non-init FUSE operation during handshake")) session
  | old {bytes : List UInt8} {request : AnyRequest} {init : Op.Init}
      (h : received env bytes = .ok (request, .init init))
      (hnewer : ¬ 7 < init.version.major.toNat) (hold : ¬ Supports init.version) :
      Decides session (.message bytes)
        (.err (.new .unsupported ("Unsupported FUSE ABI version " ++ init.version.display))) session
  | refused {bytes : List UInt8} {request : AnyRequest} {init : Op.Init}
      {calls : List ConfigCall} {error : IoError}
      (h : received env bytes = .ok (request, .init init)) (hversion : Supports init.version)
      (hinit : env.fsInit ⟨request.header⟩ (session.kernelConfig init) = (calls, .err error)) :
      Decides session (.message bytes) (.err error) session
  | unwound {bytes : List UInt8} {request : AnyRequest} {init : Op.Init}
      {calls : List ConfigCall} {reason : Panic}
      (h : received env bytes = .ok (request, .init init)) (hversion : Supports init.version)
      (hinit : env.fsInit ⟨request.header⟩ (session.kernelConfig init) = (calls, .panic reason)) :
      Decides session (.message bytes) (.panic reason) session
  | accepted {bytes : List UInt8} {request : AnyRequest} {init : Op.Init}
      {calls : List ConfigCall}
      (h : received env bytes = .ok (request, .init init)) (hversion : Supports init.version)
      (hinit : env.fsInit ⟨request.header⟩ (session.kernelConfig init) = (calls, .ok ())) :
      Decides session (.message bytes) (.ok ()) { session with
        protoVersion := some init.version
        negotiated :=
          init.capabilities &&& (ConfigCall.run (session.kernelConfig init) calls).requested
        kernelCapabilities := init.capabilities }

/-- The end of a run that consumed the given events: all but the last one let it
go on, and the last one did not, unless the run is still waiting. -/
def Concludes (session : Session) (consumed : List ReadEvent) (run : HandshakeRun) : Prop :=
  match run.outcome with
  | none =>
      run.rest = [] ∧ (∀ event ∈ consumed, Continues env event) ∧ run.state.session = session
  | some outcome => ∃ before last,
      consumed = before ++ [last] ∧ (∀ event ∈ before, Continues env event) ∧
      ¬ Continues env last ∧ Decides env session last outcome run.state.session

/-- What one message can do. A message that the log cannot show does nothing, by the panic
that comes of it. -/
inductive Turn (state : Handshaking) (bytes : List UInt8) :
    Outcome IoError Bool × Handshaking → Prop where
  | newer {reply : List UInt8} (h : Continues env (.message bytes))
      (hreply : dueReply env state.session (.message bytes) = some reply) :
      Turn state bytes (.ok true, { state with sent := state.sent ++ [reply] })
  | decided {outcome : Outcome IoError Unit} {session : Session}
      (h : Decides env state.session (.message bytes) outcome session) :
      Turn state bytes (outcome.map fun _ => false,
        ⟨session, state.sent ++ (dueReply env state.session (.message bytes)).toList,
          state.initCalls ++ (dueCall env state.session (.message bytes)).toList⟩)
  | unshown {reason : Panic} (h : ¬ Formats env (.message bytes)) :
      Turn state bytes (.panic reason, state)

theorem newer_iff (version : Version) :
    version.major > fuseKernelVersion ↔ 7 < version.major.toNat :=
  UInt32.lt_iff_toNat_lt

theorem older_iff {version : Version} (h : ¬ 7 < version.major.toNat) :
    version.lt ⟨7, 6⟩ ↔ ¬ Supports version := by
  have hmajor : version.major < 7 ↔ version.major.toNat < 7 := UInt32.lt_iff_toNat_lt
  have hminor : version.minor < 6 ↔ version.minor.toNat < 6 := UInt32.lt_iff_toNat_lt
  have heq : version.major = 7 ↔ version.major.toNat = 7 := UInt32.toNat_inj.symm
  simp only [Version.lt, Supports, hmajor, hminor, heq]
  omega

theorem Supports.not_newer {version : Version} (h : Supports version) :
    ¬ 7 < version.major.toNat := by
  rw [h.1]
  decide

theorem fromI32_rawOsError (error : IoError) :
    Response.ofErrno (.fromI32 (error.rawOsError.getD 0)) =
      match error with
      | .os code => .ofErrno (if h : 0 < code then ⟨code, h⟩ else .eio)
      | .new _ _ => .ofErrno .eio := by
  cases error <;> rfl

theorem fits_reply (init : Op.Init) (config : KernelConfig) (page : PageSize) :
    (init.reply config page).Fits := by
  have hwhole : (toBytes (init.initOut config page)).length = 64 := length_toBytes _
  have htake (n : Nat) : ((toBytes (init.initOut config page)).take n).length ≤ 64 :=
    (List.length_take_le' n _).trans hwhole.le
  refine Response.fits_ofData (lt_of_le_of_lt (Nat.add_le_add_left (m := 64) ?_ 16) (by decide))
  split
  · exact htake _
  · split
    · exact htake _
    · exact hwhole.le

theorem fits_replyVersionOnly (init : Op.Init) : init.replyVersionOnly.Fits := by
  refine Response.fits_ofData ?_
  rw [length_toBytes]
  decide

section Due

variable {env}
variable {bytes : List UInt8} {request : AnyRequest}

theorem dueReply_of_received (session : Session) {operation : Operation}
    (h : received env bytes = .ok (request, operation)) :
    dueReply env session (.message bytes) =
      (dueResponse env session request operation).map fun response =>
        response.message request.unique := by
  rw [dueReply, h]

theorem dueReply_of_unparsed (session : Session)
    (h : ∀ parsed, received env bytes ≠ .ok parsed) :
    dueReply env session (.message bytes) = none := by
  rw [dueReply]
  split
  next hreceived => exact absurd hreceived (h _)
  next => rfl
  next => rfl

theorem dueCall_of_init (session : Session) {init : Op.Init}
    (h : received env bytes = .ok (request, .init init)) :
    dueCall env session (.message bytes) =
      if Supports init.version then some (⟨request.header⟩, session.kernelConfig init)
      else none := by
  rw [dueCall, h]

theorem dueCall_of_not_init (session : Session)
    (h : ∀ request init, received env bytes ≠ .ok (request, .init init)) :
    dueCall env session (.message bytes) = none := by
  rw [dueCall]
  split
  next hreceived => exact absurd hreceived (h _ _)
  next => rfl

theorem dueCall_of_continues (session : Session) {event : ReadEvent}
    (h : Continues env event) : dueCall env session event = none := by
  cases event with
  | error errno => rfl
  | message bytes =>
      obtain ⟨request, init, hreceived, hnewer⟩ := h
      rw [dueCall_of_init session hreceived, if_neg fun hversion => hversion.not_newer hnewer]

/-- Only an INIT of a newer version lets the handshake go on. -/
theorem not_continues {operation : Operation} (h : received env bytes = .ok (request, operation))
    (hnot : ∀ init, operation = .init init → ¬ 7 < init.version.major.toNat) :
    ¬ Continues env (.message bytes) := by
  rintro ⟨request', init, hreceived, hnewer⟩
  rw [h, Outcome.ok.injEq, Prod.mk.injEq] at hreceived
  exact hnot init hreceived.2 hnewer

theorem not_continues_init {init : Op.Init} (h : received env bytes = .ok (request, .init init))
    (hnewer : ¬ 7 < init.version.major.toNat) : ¬ Continues env (.message bytes) := by
  refine not_continues h fun init' heq => ?_
  cases heq
  exact hnewer

/-- An INIT is not shown in the log. -/
theorem formats_of_init {init : Op.Init} (h : received env bytes = .ok (request, .init init)) :
    Formats env (.message bytes) := by
  intro request' operation hreceived _
  rw [h] at hreceived
  cases hreceived
  rfl

theorem formats_of_continues {event : ReadEvent} (h : Continues env event) :
    Formats env event := by
  cases event with
  | error errno => trivial
  | message bytes =>
      obtain ⟨request, init, hreceived, -⟩ := h
      exact formats_of_init hreceived

/-- A request is due a response, unless the filesystem's `init` panics for it. -/
theorem dueResponse_of_returns {session : Session} {operation : Operation}
    (h : ∀ init calls reason, operation = .init init → Supports init.version →
      env.fsInit ⟨request.header⟩ (session.kernelConfig init) ≠ (calls, .panic reason)) :
    ∃ response, dueResponse env session request operation = some response := by
  by_cases hinit : ∃ init, operation = .init init
  · obtain ⟨init, rfl⟩ := hinit
    rw [dueResponse]
    split
    · exact ⟨_, rfl⟩
    · split
      next hversion =>
        rcases hresult : env.fsInit ⟨request.header⟩ (session.kernelConfig init) with
          ⟨calls, result⟩
        simp only [hresult]
        cases result with
        | ok value => exact ⟨_, rfl⟩
        | err error =>
            cases error with
            | os code => exact ⟨_, rfl⟩
            | new kind message => exact ⟨_, rfl⟩
        | panic reason => exact absurd hresult (h init calls reason rfl hversion)
      · exact ⟨_, rfl⟩
  · exact ⟨_, dueResponse.eq_2 env session request operation fun init heq => hinit ⟨init, heq⟩⟩

theorem Decides.not_continues {session left : Session} {event : ReadEvent}
    {outcome : Outcome IoError Unit} (h : Decides env session event outcome left) :
    ¬ Continues env event := by
  cases h with
  | device error h => exact Bool.eq_false_iff.mp h
  | unread h | unparsed error h =>
      rintro ⟨request, init, hreceived, -⟩
      rw [h] at hreceived
      cases hreceived
  | foreign h hforeign => exact Session.not_continues h fun init heq => absurd heq (hforeign init)
  | old h hnewer hold => exact not_continues_init h hnewer
  | refused h hversion | unwound h hversion | accepted h hversion =>
      exact not_continues_init h hversion.not_newer

/-- The handshake ends well on an INIT that is due it. -/
theorem Decides.ok_of_init {session left : Session} {outcome : Outcome IoError Unit}
    {init : Op.Init} {calls : List ConfigCall}
    (hdecides : Decides env session (.message bytes) outcome left)
    (h : received env bytes = .ok (request, .init init)) (hversion : Supports init.version)
    (hinit : env.fsInit ⟨request.header⟩ (session.kernelConfig init) = (calls, .ok ())) :
    outcome = .ok () := by
  cases hdecides with
  | accepted => rfl
  | unread h' | unparsed error h' =>
      rw [h] at h'
      cases h'
  | foreign h' hforeign =>
      rw [h] at h'
      cases h'
      exact absurd rfl (hforeign init)
  | old h' hnewer hold =>
      rw [h] at h'
      cases h'
      exact absurd hversion hold
  | refused h' hversion' hinit' | unwound h' hversion' hinit' =>
      rw [h] at h'
      cases h'
      rw [hinit] at hinit'
      cases hinit'

/-- No outcome takes the filesystem from the session. -/
theorem Decides.filesystemPresent {session left : Session} {event : ReadEvent}
    {outcome : Outcome IoError Unit} (h : Decides env session event outcome left) :
    left.filesystemPresent = session.filesystemPresent := by
  cases h <;> rfl

end Due

section Turn

variable {env}
variable {state : Handshaking} {bytes : List UInt8} {request : AnyRequest}

/-- An answer that comes with an error. -/
theorem run_answer_fail (unique : RequestId) (errno : Errno) (error : IoError)
    (state : Handshaking) :
    (do answer unique (.ofErrno errno); .fail error : Method Handshaking IoError Bool).run state =
      (.err error,
        { state with sent := state.sent ++ [(Response.ofErrno errno).message unique] }) := by
  rw [Method.run_bind_of_ok _ (run_answer (Response.fits_ofErrno errno) unique state)]
  rfl

theorem turn_newer {init : Op.Init} (h : received env bytes = .ok (request, .init init))
    (hnewer : 7 < init.version.major.toNat) :
    Turn env state bytes
      ((do answer request.unique init.replyVersionOnly; return true :
        Method Handshaking IoError Bool).run state) := by
  rw [Method.run_bind_of_ok _ (run_answer (fits_replyVersionOnly init) request.unique state)]
  refine .newer ⟨request, init, h, hnewer⟩ ?_
  rw [dueReply_of_received state.session h, dueResponse, if_pos hnewer]
  rfl

theorem turn_old {init : Op.Init} (h : received env bytes = .ok (request, .init init))
    (hnewer : ¬ 7 < init.version.major.toNat) (hold : ¬ Supports init.version) :
    Turn env state bytes
      ((do
        answer request.unique (.ofErrno .eproto)
        .fail (.new .unsupported ("Unsupported FUSE ABI version " ++ init.version.display)) :
        Method Handshaking IoError Bool).run state) := by
  have hturn := Turn.decided (.old h hnewer hold : Decides env state.session _ _ _)
  rw [dueReply_of_received state.session h, dueResponse, if_neg hnewer, if_neg hold,
    dueCall_of_init state.session h, if_neg hold, Option.toList_none, List.append_nil] at hturn
  rw [run_answer_fail]
  exact hturn

/-- A request that is no INIT is refused, unless showing it in the log panics. -/
theorem turn_foreign {operation : Operation} (h : received env bytes = .ok (request, operation))
    (hoperation : request.operation = .ok operation)
    (hforeign : ∀ init, operation ≠ .init init) :
    Turn env state bytes
      ((do
        if env.errorsLogged then .ofOutcome request.fmt
        answer request.unique (.ofErrno .eio)
        .fail (.new .invalidData "Received non-init FUSE operation during handshake") :
        Method Handshaking IoError Bool).run state) := by
  have hfmt : (request.fmt : Outcome IoError Unit) =
      if operation.shortIoctl then .panic .sliceIndex else .ok () := by
    rw [AnyRequest.fmt, hoperation]
    exact operation.fmt_eq
  have hturn := Turn.decided (.foreign h hforeign : Decides env state.session _ _ _)
  have hnot (request' : AnyRequest) (init : Op.Init) :
      received env bytes ≠ .ok (request', .init init) := by
    intro heq
    rw [h] at heq
    cases heq
    exact hforeign init rfl
  rw [dueReply_of_received state.session h,
    dueResponse.eq_2 env state.session request operation hforeign,
    dueCall_of_not_init state.session hnot, Option.toList_none, List.append_nil] at hturn
  by_cases hlogged : env.errorsLogged = true
  · rw [if_pos hlogged]
    by_cases hshort : operation.shortIoctl = true
    · rw [if_pos hshort] at hfmt
      have hrun : (Method.ofOutcome request.fmt : Method Handshaking IoError Unit).run state =
          (.panic .sliceIndex, state) := by
        rw [hfmt]
        rfl
      rw [Method.run_bind_of_panic _ hrun]
      refine .unshown fun hformats => ?_
      rw [hformats request operation h hlogged] at hshort
      cases hshort
    · rw [if_neg hshort] at hfmt
      have hrun : (Method.ofOutcome request.fmt : Method Handshaking IoError Unit).run state =
          (.ok (), state) := by
        rw [hfmt]
        rfl
      rw [Method.run_bind_of_ok _ hrun, run_answer_fail]
      exact hturn
  · rw [if_neg hlogged]
    beta_reduce
    rw [run_answer_fail]
    exact hturn

/-- An INIT of a version that is served gets to the filesystem. -/
theorem turn_settle {init : Op.Init} (hfs : state.session.filesystemPresent = true)
    (h : received env bytes = .ok (request, .init init)) (hversion : Supports init.version) :
    Turn env state bytes
      ((do settle env request init; return false :
        Method Handshaking IoError Bool).run state) := by
  have hreply := dueReply_of_received state.session h
  have hcall := dueCall_of_init state.session h
  rw [dueResponse, if_neg hversion.not_newer, if_pos hversion] at hreply
  rw [if_pos hversion] at hcall
  rcases hinit : env.fsInit ⟨request.header⟩ (state.session.kernelConfig init) with ⟨calls, result⟩
  simp only [hinit] at hreply
  cases result with
  | err error =>
      have hrun : (settle env request init).run state =
          (.err error, { state with
            sent := state.sent ++
              [(Response.ofErrno (.fromI32 (error.rawOsError.getD 0))).message request.unique]
            initCalls := state.initCalls ++
              [(⟨request.header⟩, state.session.kernelConfig init)] }) := by
        simp only [settle, Method.run, hfs, not_true, if_false, hinit]
        exact Method.run_bind_of_ok _ (run_answer (Response.fits_ofErrno _) request.unique _)
      have hturn := Turn.decided (.refused h hversion hinit : Decides env state.session _ _ _)
      rw [Method.run_bind_of_err _ hrun, fromI32_rawOsError]
      rw [hreply, hcall] at hturn
      cases error with
      | os code => exact hturn
      | new kind message => exact hturn
  | panic reason =>
      have hrun : (settle env request init).run state =
          (.panic reason, { state with
            initCalls := state.initCalls ++
              [(⟨request.header⟩, state.session.kernelConfig init)] }) := by
        simp only [settle, Method.run, hfs, not_true, if_false, hinit]
      have hturn := Turn.decided (.unwound h hversion hinit : Decides env state.session _ _ _)
      rw [hreply, hcall, Option.map_none, Option.toList_none, List.append_nil] at hturn
      rw [Method.run_bind_of_panic _ hrun]
      exact hturn
  | ok value =>
      have hrun : (settle env request init).run state =
          (.ok (), {
            session := state.session.initialized init
              (ConfigCall.run (state.session.kernelConfig init) calls)
            sent := state.sent ++
              [(init.reply (ConfigCall.run (state.session.kernelConfig init) calls)
                env.page).message request.unique]
            initCalls := state.initCalls ++
              [(⟨request.header⟩, state.session.kernelConfig init)] }) := by
        simp only [settle, Method.run, hfs, not_true, if_false, hinit]
        exact run_answer (fits_reply init _ env.page) request.unique _
      have hturn := Turn.decided (.accepted h hversion hinit : Decides env state.session _ _ _)
      rw [hreply, hcall] at hturn
      rw [Method.run_bind_of_ok _ hrun]
      exact hturn

theorem turn_handshakeOperation {operation : Operation}
    (hfs : state.session.filesystemPresent = true)
    (h : received env bytes = .ok (request, operation))
    (hoperation : request.operation = .ok operation) :
    Turn env state bytes ((handshakeOperation env request operation).run state) := by
  by_cases hinit : ∃ init, operation = .init init
  · obtain ⟨init, rfl⟩ := hinit
    rw [handshakeOperation]
    by_cases hnewer : 7 < init.version.major.toNat
    · rw [if_pos ((newer_iff _).mpr hnewer)]
      exact turn_newer h hnewer
    · rw [if_neg (fun hgt => hnewer ((newer_iff _).mp hgt))]
      by_cases hversion : Supports init.version
      · rw [if_neg (fun hlt => (older_iff hnewer).mp hlt hversion)]
        exact turn_settle hfs h hversion
      · rw [if_pos ((older_iff hnewer).mpr hversion)]
        exact turn_old h hnewer hversion
  · have hforeign (init : Op.Init) (heq : operation = .init init) : False := hinit ⟨init, heq⟩
    rw [handshakeOperation.eq_2 env request operation hforeign]
    exact turn_foreign h hoperation hforeign

theorem turn_handshakeMessage (env : HandshakeEnv) (bytes : List UInt8)
    (hfs : state.session.filesystemPresent = true) :
    Turn env state bytes ((handshakeMessage env bytes).run state) := by
  -- a message without a request in it ends the handshake and is answered by nothing
  have hunread {outcome : Outcome IoError Unit}
      (hreceived : ∀ parsed, received env bytes ≠ .ok parsed)
      (h : Decides env state.session (.message bytes) outcome state.session) :
      Turn env state bytes (outcome.map fun _ => false, state) := by
    have hturn := Turn.decided h
    rw [dueReply_of_unparsed _ hreceived, dueCall_of_not_init _ fun _ _ => hreceived _,
      Option.toList_none, Option.toList_none, List.append_nil, List.append_nil] at hturn
    exact hturn
  have hpanic {reason : Panic} (h : received env bytes = .panic reason) :
      Turn env state bytes (.panic reason, state) :=
    hunread (fun _ heq => by rw [h] at heq; cases heq) (.unread h)
  have herr {e : RequestError} (error : IoError) (h : received env bytes = .err e) :
      Turn env state bytes (.err error, state) :=
    hunread (fun _ heq => by rw [h] at heq; cases heq) (.unparsed error h)
  cases hframe : AnyRequest.tryFrom ⟨FuseReadBuf.asMut env.bufferPtr, bytes⟩ with
  | panic reason =>
      simp only [handshakeMessage, hframe]
      refine hpanic ?_
      rw [received, hframe, Outcome.panic_bind]
  | err e =>
      simp only [handshakeMessage, hframe]
      refine herr (e := e) _ ?_
      rw [received, hframe, Outcome.err_bind]
  | ok request =>
      have hparse : received env bytes =
          (do let operation ← request.operation; return (request, operation)) := by
        rw [received, hframe, Outcome.ok_bind]
      cases hop : request.operation with
      | panic reason =>
          simp only [handshakeMessage, hframe, hop]
          refine hpanic ?_
          rw [hparse, hop, Outcome.panic_bind]
      | err e =>
          simp only [handshakeMessage, hframe, hop]
          refine herr (e := e) _ ?_
          rw [hparse, hop, Outcome.err_bind]
      | ok operation =>
          simp only [handshakeMessage, hframe, hop]
          rw [hop, Outcome.ok_bind, Outcome.pure_eq_ok] at hparse
          exact turn_handshakeOperation hfs hparse hop

end Turn

section Run

variable {env}
variable {session : Session} {sent : List (List UInt8)} {calls : List (Request × KernelConfig)}

/-- What a run has done by the time it consumed the given events: what they are due, or
nothing for the last one of them, which the log cannot show. -/
inductive Follows (env : HandshakeEnv) (session : Session) (sent : List (List UInt8))
    (calls : List (Request × KernelConfig)) (consumed : List ReadEvent) (run : HandshakeRun) :
    Prop where
  | due (hsent : run.state.sent = sent ++ consumed.filterMap (dueReply env session))
      (hcalls : run.state.initCalls = calls ++ consumed.filterMap (dueCall env session))
      (hconcludes : Concludes env session consumed run)
  | unshown {before : List ReadEvent} {last : ReadEvent} {reason : Panic}
      (hconsumed : consumed = before ++ [last]) (hbefore : ∀ event ∈ before, Continues env event)
      (h : ¬ Formats env last) (houtcome : run.outcome = some (.panic reason))
      (hsession : run.state.session = session)

theorem Concludes.cons {event : ReadEvent} {consumed : List ReadEvent} {run : HandshakeRun}
    (hevent : Continues env event) (h : Concludes env session consumed run) :
    Concludes env session (event :: consumed) run := by
  unfold Concludes at h ⊢
  split at h
  · obtain ⟨hrest, hall, hsession⟩ := h
    exact ⟨hrest, List.forall_mem_cons.mpr ⟨hevent, hall⟩, hsession⟩
  · obtain ⟨before, last, rfl, hbefore, hlast, hdecides⟩ := h
    exact ⟨event :: before, last, rfl, List.forall_mem_cons.mpr ⟨hevent, hbefore⟩, hlast, hdecides⟩

theorem Concludes.last {event : ReadEvent} {outcome : Outcome IoError Unit} {state : Handshaking}
    {rest : List ReadEvent} (h : Decides env session event outcome state.session) :
    Concludes env session [event] ⟨some outcome, state, rest⟩ :=
  ⟨[], event, rfl, by simp, h.not_continues, h⟩

/-- At most one of the events that a handshake consumes is due a call to `init`. -/
theorem Concludes.length_dueCall {consumed : List ReadEvent} {run : HandshakeRun}
    (h : Concludes env session consumed run) :
    (consumed.filterMap (dueCall env session)).length ≤ 1 := by
  have hnone {events : List ReadEvent} (hevents : ∀ event ∈ events, Continues env event) :
      events.filterMap (dueCall env session) = [] :=
    List.filterMap_eq_nil_iff.mpr fun event hmem =>
      dueCall_of_continues session (hevents event hmem)
  unfold Concludes at h
  split at h
  · rw [hnone h.2.1]
    exact Nat.zero_le 1
  · obtain ⟨before, last, rfl, hbefore, -, -⟩ := h
    rw [List.filterMap_append, hnone hbefore]
    exact List.length_filterMap_le _ [last]

theorem Follows.cons {event : ReadEvent} {consumed : List ReadEvent} {run : HandshakeRun}
    (hevent : Continues env event)
    (h : Follows env session (sent ++ (dueReply env session event).toList) calls consumed run) :
    Follows env session sent calls (event :: consumed) run := by
  cases h with
  | due hsent hcalls hconcludes =>
      refine .due ?_ ?_ (hconcludes.cons hevent)
      · rw [hsent, List.append_assoc]
        cases hreply : dueReply env session event with
        | none => rw [List.filterMap_cons_none hreply, Option.toList_none, List.nil_append]
        | some reply => rw [List.filterMap_cons_some hreply]; rfl
      · rw [hcalls, List.filterMap_cons_none (dueCall_of_continues session hevent)]
  | unshown hconsumed hbefore h houtcome hsession =>
      exact .unshown (congrArg (event :: ·) hconsumed)
        (List.forall_mem_cons.mpr ⟨hevent, hbefore⟩) h houtcome hsession

theorem Decides.follows {event : ReadEvent} {outcome : Outcome IoError Unit} {left : Session}
    (h : Decides env session event outcome left) (sent : List (List UInt8))
    (calls : List (Request × KernelConfig)) (rest : List ReadEvent) :
    Follows env session sent calls [event] ⟨some outcome,
      ⟨left, sent ++ (dueReply env session event).toList,
        calls ++ (dueCall env session event).toList⟩, rest⟩ := by
  refine .due ?_ ?_ (.last h)
  · cases hreply : dueReply env session event with
    | none => rw [List.filterMap_cons_none hreply]; rfl
    | some reply => rw [List.filterMap_cons_some hreply]; rfl
  · cases hcall : dueCall env session event with
    | none => rw [List.filterMap_cons_none hcall]; rfl
    | some call => rw [List.filterMap_cons_some hcall]; rfl

theorem handshake_of_last {bytes : List UInt8} {rest : List ReadEvent} {state state' : Handshaking}
    {outcome : Outcome IoError Unit}
    (hrun : (handshakeMessage env bytes).run state = (outcome.map fun _ => false, state')) :
    handshake env (.message bytes :: rest) state = ⟨some outcome, state', rest⟩ := by
  rw [handshake, hrun]
  cases outcome with
  | ok value => rfl
  | err e => rfl
  | panic reason => rfl

theorem handshake_of_retry {errno : Errno} {rest : List ReadEvent} {state : Handshaking}
    (h : Channel.retries errno = true) :
    handshake env (.error errno :: rest) state = handshake env rest state := by
  rw [handshake, if_pos h]

theorem handshake_of_device (env : HandshakeEnv) {errno : Errno} (rest : List ReadEvent)
    (state : Handshaking) (h : Channel.retries errno = false) :
    ∃ error, handshake env (.error errno :: rest) state = ⟨some (.err error), state, rest⟩ := by
  rw [handshake, if_neg (Bool.eq_false_iff.mp h)]
  split
  · exact ⟨_, rfl⟩
  · exact ⟨_, rfl⟩

/-- Every run consumes a first part of the events and follows the protocol on it. -/
theorem handshake_follows (env : HandshakeEnv) (events : List ReadEvent) (state : Handshaking)
    (hfs : state.session.filesystemPresent = true) :
    ∃ consumed, events = consumed ++ (handshake env events state).rest ∧
      Follows env state.session state.sent state.initCalls consumed
        (handshake env events state) := by
  induction events generalizing state with
  | nil =>
      refine ⟨[], rfl, .due ?_ ?_ ⟨rfl, by simp, rfl⟩⟩
      · exact (List.append_nil _).symm
      · exact (List.append_nil _).symm
  | cons event rest ih =>
      cases event with
      | error errno =>
          by_cases hretry : Channel.retries errno = true
          · obtain ⟨consumed, hevents, hfollows⟩ := ih state hfs
            rw [handshake_of_retry hretry]
            refine ⟨.error errno :: consumed, congrArg _ hevents, .cons hretry ?_⟩
            rw [dueReply, Option.toList_none, List.append_nil]
            exact hfollows
          · obtain ⟨error, hrun⟩ :=
              handshake_of_device env rest state (Bool.eq_false_iff.mpr hretry)
            have hdecides : Decides env state.session (.error errno) (.err error) state.session :=
              .device error (Bool.eq_false_iff.mpr hretry)
            have hfollows := hdecides.follows state.sent state.initCalls rest
            rw [dueReply, dueCall, Option.toList_none, Option.toList_none, List.append_nil,
              List.append_nil] at hfollows
            rw [hrun]
            exact ⟨[.error errno], rfl, hfollows⟩
      | message bytes =>
          rcases hrun : (handshakeMessage env bytes).run state with ⟨outcome, state'⟩
          have hturn := turn_handshakeMessage env bytes hfs
          rw [hrun] at hturn
          cases hturn with
          | @newer reply hcontinues hreply =>
              have hstep : handshake env (.message bytes :: rest) state =
                  handshake env rest { state with sent := state.sent ++ [reply] } := by
                rw [handshake, hrun]
              obtain ⟨consumed, hevents, hfollows⟩ :=
                ih { state with sent := state.sent ++ [reply] } hfs
              rw [hstep]
              refine ⟨.message bytes :: consumed, congrArg _ hevents, .cons hcontinues ?_⟩
              rw [hreply, Option.toList_some]
              exact hfollows
          | decided hdecides =>
              rw [handshake_of_last hrun]
              exact ⟨[.message bytes], rfl, hdecides.follows state.sent state.initCalls rest⟩
          | @unshown reason hformats =>
              have hlast : handshake env (.message bytes :: rest) state =
                  ⟨some (.panic reason), state, rest⟩ := by
                rw [handshake, hrun]
              rw [hlast]
              have hconsumed : [ReadEvent.message bytes] = [] ++ [.message bytes] := rfl
              exact ⟨[.message bytes], rfl, .unshown hconsumed (by simp) hformats rfl rfl⟩

/-- Two splittings of a list at the first event that does not let the handshake go on
are one. -/
theorem split_unique {before before' after after' : List ReadEvent} {last last' : ReadEvent}
    (h : before ++ last :: after = before' ++ last' :: after')
    (hbefore : ∀ event ∈ before, Continues env event) (hlast : ¬ Continues env last)
    (hbefore' : ∀ event ∈ before', Continues env event) (hlast' : ¬ Continues env last') :
    last = last' ∧ after = after' := by
  induction before generalizing before' with
  | nil =>
      cases before' with
      | nil => exact List.cons.inj h
      | cons event before' =>
          obtain ⟨rfl, -⟩ := List.cons.inj h
          exact absurd (hbefore' last (.head _)) hlast
  | cons event before ih =>
      cases before' with
      | nil =>
          obtain ⟨rfl, -⟩ := List.cons.inj h
          exact absurd (hbefore event (.head _)) hlast'
      | cons event' before' =>
          exact ih (List.cons.inj h).2 (fun event hmem => hbefore event (.tail _ hmem))
            (fun event hmem => hbefore' event (.tail _ hmem))

/-- A run that ends took the first event that does not let it go on. -/
theorem Concludes.of_split {events before after consumed : List ReadEvent} {last : ReadEvent}
    {run : HandshakeRun} (h : Concludes env session consumed run)
    (hevents : events = consumed ++ run.rest) (hsplit : events = before ++ last :: after)
    (hbefore : ∀ event ∈ before, Continues env event) (hlast : ¬ Continues env last) :
    run.rest = after ∧ ∃ outcome, run.outcome = some outcome ∧
      Decides env session last outcome run.state.session := by
  unfold Concludes at h
  split at h
  next =>
    obtain ⟨hrest, hall, -⟩ := h
    rw [hrest, List.append_nil] at hevents
    rw [hevents] at hsplit
    exact absurd (hall last (hsplit ▸ List.mem_append_right before (.head _))) hlast
  next outcome houtcome =>
    obtain ⟨before', last', rfl, hbefore', hlast', hdecides⟩ := h
    rw [hsplit, List.append_assoc] at hevents
    obtain ⟨rfl, hafter⟩ := split_unique hevents hbefore hlast hbefore' hlast'
    exact ⟨hafter.symm, outcome, houtcome, hdecides⟩

end Run

/-- The handshake of a new session: which events it consumes, what it sends and how it calls
the filesystem's `init` for them, and which session it leaves. It is about every run whose
requests the log can show. -/
theorem handshake_decides (allowed : SessionACL) (sessionOwner : UInt32)
    (mountOptions : List MountOption) (events : List ReadEvent) :
    let session := Session.new allowed sessionOwner mountOptions
    let run := handshake env events ⟨session, [], []⟩
    (∃ consumed, events = consumed ++ run.rest ∧
      ((∀ event ∈ consumed, Formats env event) →
        run.state.sent = consumed.filterMap (dueReply env session) ∧
        run.state.initCalls = consumed.filterMap (dueCall env session) ∧
        run.state.initCalls.length ≤ 1 ∧
        match run.outcome with
        | none =>
            run.rest = [] ∧ (∀ event ∈ consumed, Continues env event) ∧
              run.state.session = session
        | some outcome => ∃ before last,
            consumed = before ++ [last] ∧ (∀ event ∈ before, Continues env event) ∧
            ¬ Continues env last ∧ Decides env session last outcome run.state.session)) ∧
    (∀ before bytes rest request init calls,
      events = before ++ .message bytes :: rest → (∀ event ∈ before, Continues env event) →
      received env bytes = .ok (request, .init init) → Supports init.version →
      env.fsInit ⟨request.header⟩ (session.kernelConfig init) = (calls, .ok ()) →
      run.outcome = some (.ok ()) ∧ run.rest = rest) ∧
    (∀ bytes request operation, received env bytes = .ok (request, operation) →
      (∀ init calls reason, operation = .init init → Supports init.version →
        env.fsInit ⟨request.header⟩ (session.kernelConfig init) ≠ (calls, .panic reason)) →
      ∃ reply, dueReply env session (.message bytes) = some reply ∧
        messageUnique reply = request.header.unique) ∧
    (∀ bytes request init calls reason, received env bytes = .ok (request, .init init) →
      Supports init.version →
      env.fsInit ⟨request.header⟩ (session.kernelConfig init) = (calls, .panic reason) →
      dueReply env session (.message bytes) = none) ∧
    (∀ bytes, (∀ parsed, received env bytes ≠ .ok parsed) →
      dueReply env session (.message bytes) = none) := by
  intro session run
  obtain ⟨consumed, hevents, hfollows⟩ := handshake_follows env events ⟨session, [], []⟩ rfl
  refine ⟨⟨consumed, hevents, fun hformats => ?_⟩, ?_, ?_, ?_, fun bytes =>
    dueReply_of_unparsed session⟩
  · cases hfollows with
    | due hsent hcalls hconcludes =>
        refine ⟨hsent, hcalls, ?_, hconcludes⟩
        rw [hcalls]
        exact hconcludes.length_dueCall
    | unshown hconsumed _ h =>
        rw [hconsumed] at hformats
        exact absurd (hformats _ (List.mem_append_right _ (.head _))) h
  · intro before bytes rest request init calls hsplit hbefore hreceived hversion hinit
    have hlast : ¬ Continues env (.message bytes) :=
      not_continues_init hreceived hversion.not_newer
    cases hfollows with
    | due hsent hcalls hconcludes =>
        obtain ⟨hrest, outcome, houtcome, hdecides⟩ :=
          hconcludes.of_split hevents hsplit hbefore hlast
        exact ⟨houtcome.trans (congrArg some (hdecides.ok_of_init hreceived hversion hinit)), hrest⟩
    | unshown hconsumed hbefore' h =>
        rw [hsplit, hconsumed, List.append_assoc] at hevents
        obtain ⟨rfl, -⟩ := split_unique hevents hbefore hlast hbefore'
          fun hcontinues => h (formats_of_continues hcontinues)
        exact absurd (formats_of_init hreceived) h
  · intro bytes request operation hreceived hinit
    rw [dueReply_of_received session hreceived]
    obtain ⟨response, hresponse⟩ := dueResponse_of_returns hinit
    rw [hresponse]
    exact ⟨_, rfl, messageUnique_message ..⟩
  · intro bytes request init calls reason hreceived hversion hinit
    rw [dueReply_of_received session hreceived, dueResponse, if_neg hversion.not_newer,
      if_pos hversion]
    simp only [hinit, Option.map_none]

/-- An INIT that offers FUSE_POSIX_ACL and FUSE_ALLOW_IDMAP. -/
def idmapInit : List UInt8 :=
  toBytes { (ofBytes FuseInHeader []) with len := 104, opcode := 26, unique := 1 } ++
  toBytes { (ofBytes FuseInitIn []) with
    major := 7, minor := 40, flags := 0x40100000, flags2 := 0x100 }

/-- A filesystem that asks for both. -/
def idmapEnv : HandshakeEnv where
  bufferPtr := 8
  page := ⟨4096, by decide⟩
  errorsLogged := true
  fsInit := fun _ _ => ([.addCapabilities (.fusePosixAcl ||| .fuseAllowIdmap)], .ok ())

/-- An INIT of the next major version. -/
def newerInit : List UInt8 :=
  toBytes { (ofBytes FuseInHeader []) with len := 104, opcode := 26, unique := 2 } ++
  toBytes { (ofBytes FuseInitIn []) with major := 8, minor := 0 }

theorem handshake_decides_retried :
    let session := Session.new .all 1000 []
    let run := handshake idmapEnv
      [.error .eintr, .message newerInit, .message idmapInit, .message newerInit] ⟨session, [], []⟩
    run.outcome = some (.ok ()) ∧ run.rest = [.message newerInit] ∧
      run.state.initCalls.length ≤ 1 ∧ run.state.sent.map messageUnique = [2, 1] := by
  intro session run
  obtain ⟨⟨consumed, hevents, hdue⟩, hok, -⟩ := handshake_decides idmapEnv .all 1000 []
    [.error .eintr, .message newerInit, .message idmapInit, .message newerInit]
  have hnewer : Continues idmapEnv (.message newerInit) := ⟨_, _, rfl, by decide⟩
  have hbefore : ∀ event ∈ [ReadEvent.error .eintr, .message newerInit],
      Continues idmapEnv event :=
    List.forall_mem_cons.mpr ⟨rfl, List.forall_mem_singleton.mpr hnewer⟩
  obtain ⟨houtcome, hrest⟩ := hok [.error .eintr, .message newerInit] idmapInit
    [.message newerInit] _ _ _ rfl hbefore rfl ⟨rfl, by decide⟩ rfl
  obtain rfl : [.error .eintr, .message newerInit, .message idmapInit] = consumed := by
    rw [hrest] at hevents
    exact List.append_cancel_right hevents
  have hinit : Formats idmapEnv (.message idmapInit) := formats_of_init rfl
  obtain ⟨hsent, -, honce, -⟩ := hdue (List.forall_mem_cons.mpr ⟨trivial,
    List.forall_mem_cons.mpr ⟨formats_of_continues hnewer, List.forall_mem_singleton.mpr hinit⟩⟩)
  refine ⟨houtcome, hrest, honce, ?_⟩
  rw [hsent]
  decide +kernel

/-- A filesystem whose `init` panics: the INIT is a request, and nothing answers it. -/
theorem handshake_unanswered :
    let env := { idmapEnv with fsInit := fun _ _ => ([], .panic (.explicit "out of disk")) }
    let run := handshake env [.message idmapInit] ⟨Session.new .all 1000 [], [], []⟩
    (∃ request operation, received env idmapInit = .ok (request, operation)) ∧
      run.outcome = some (.panic (.explicit "out of disk")) ∧ run.state.sent = [] :=
  ⟨⟨_, _, rfl⟩, rfl, rfl⟩

/-- Only what can be honored is negotiated. -/
structure Honors (session : Session) : Prop where
  offered : session.kernelCapabilities.contains session.negotiated = true
  supported : session.negotiated &&& unsupportedCapabilities = 0#64
  idmap : session.negotiated.contains .fuseAllowIdmap = true →
    session.allowed = .all ∧
      (.defaultPermissions ∈ session.mountOptions ∨
        session.negotiated.contains .fusePosixAcl = true)

/-- The intersection with what the kernel offers keeps what the configuration
promised. -/
theorem honors_initialized (self : Session) (init : Op.Init) (calls : List ConfigCall) :
    (self.initialized init (ConfigCall.run (self.kernelConfig init) calls)).Honors := by
  have hnew : (self.kernelConfig init).Honorable := KernelConfig.honorable_new ..
  have hhonorable := KernelConfig.honorable_run hnew calls
  obtain ⟨hcapabilities, hdefault, hacl⟩ :=
    KernelConfig.sameMount_run (self.kernelConfig init) calls
  refine ⟨Bitflags.contains_and_left .., ?_, fun hidmap => ?_⟩
  · change init.capabilities &&& _ &&& _ = _
    rw [BitVec.and_assoc, hhonorable.supported, BitVec.and_zero]
  · have hrequested : (ConfigCall.run (self.kernelConfig init) calls).requested.contains
        .fuseAllowIdmap = true := by
      refine Bitflags.contains_mono ?_ hidmap
      change Bitflags.contains _ (init.capabilities &&& _) = true
      rw [BitVec.and_comm]
      exact Bitflags.contains_and_left ..
    obtain ⟨hforced, hall⟩ :=
      (KernelConfig.idmapAvailable_iff ..).mp (hhonorable.idmap hrequested)
    refine ⟨hacl.symm.trans hall, hforced.imp (fun hperm => ?_) (fun hposix => ?_)⟩
    · rw [hdefault] at hperm
      exact List.contains_iff_mem.mp hperm
    · rw [BitVec.or_zero, hcapabilities, BitVec.and_comm] at hposix
      exact hposix

/-- What a successful handshake leaves behind. -/
theorem initialized_of_handshake {env : HandshakeEnv} (session : Session)
    {events : List ReadEvent} (hfs : session.filesystemPresent = true)
    (hok : (handshake env events ⟨session, [], []⟩).outcome = some (.ok ())) :
    ∃ before bytes request init calls,
      events = before ++ .message bytes :: (handshake env events ⟨session, [], []⟩).rest ∧
      received env bytes = .ok (request, .init init) ∧ Supports init.version ∧
      env.fsInit ⟨request.header⟩ (session.kernelConfig init) = (calls, .ok ()) ∧
      (handshake env events ⟨session, [], []⟩).state.session =
        session.initialized init (ConfigCall.run (session.kernelConfig init) calls) := by
  obtain ⟨consumed, hevents, hfollows⟩ := handshake_follows env events ⟨session, [], []⟩ hfs
  cases hfollows with
  | unshown _ _ _ houtcome =>
      rw [hok] at houtcome
      cases houtcome
  | due hsent hcalls hconcludes =>
      rw [Concludes, hok] at hconcludes
      obtain ⟨before, last, hconsumed, -, -, hdecides⟩ := hconcludes
      generalize hleft : (handshake env events ⟨session, [], []⟩).state.session = left
        at hdecides
      cases hdecides with
      | @accepted bytes request init calls hreceived hversion hinit =>
          refine ⟨before, bytes, request, init, calls, ?_, hreceived, hversion, hinit, rfl⟩
          rw [hconsumed, List.append_assoc] at hevents
          exact hevents

/-- Only a handshake that succeeds changes the session, and none takes the filesystem from it. -/
theorem filesystemPresent_handshake (env : HandshakeEnv) (events : List ReadEvent)
    {session : Session} (hfs : session.filesystemPresent = true) :
    (handshake env events ⟨session, [], []⟩).state.session.filesystemPresent = true := by
  obtain ⟨consumed, -, hfollows⟩ := handshake_follows env events ⟨session, [], []⟩ hfs
  cases hfollows with
  | unshown _ _ _ _ hsession =>
      rw [hsession]
      exact hfs
  | due _ _ hconcludes =>
      unfold Concludes at hconcludes
      split at hconcludes
      · rw [hconcludes.2.2]
        exact hfs
      · obtain ⟨_, _, -, -, -, hdecides⟩ := hconcludes
        rw [hdecides.filesystemPresent]
        exact hfs

/-- A session as a successful handshake leaves it. -/
def Initialized (session : Session) : Prop :=
  ∃ env allowed sessionOwner mountOptions events,
    (handshake env events ⟨.new allowed sessionOwner mountOptions, [], []⟩).outcome =
      some (.ok ()) ∧
    session = (handshake env events ⟨.new allowed sessionOwner mountOptions, [], []⟩).state.session

theorem Initialized.honors {session : Session} (h : session.Initialized) : session.Honors := by
  obtain ⟨env, allowed, sessionOwner, mountOptions, events, hok, rfl⟩ := h
  obtain ⟨-, -, -, init, calls, -, -, -, -, hleft⟩ := initialized_of_handshake _ rfl hok
  rw [hleft]
  exact honors_initialized ..

theorem Initialized.filesystemPresent {session : Session} (h : session.Initialized) :
    session.filesystemPresent = true := by
  obtain ⟨env, allowed, sessionOwner, mountOptions, events, hok, rfl⟩ := h
  obtain ⟨-, -, -, init, calls, -, -, -, -, hleft⟩ := initialized_of_handshake _ rfl hok
  rw [hleft]
  rfl

/-- Whatever the kernel offers and the filesystem asks for, a session is left with
capabilities that were offered, that the program supports, and that do not let
the callers of an idmapped mount slip past an access check. -/
theorem handshake_honors (allowed : SessionACL) (sessionOwner : UInt32)
    (mountOptions : List MountOption) (events : List ReadEvent)
    (hok : (handshake env events
      ⟨Session.new allowed sessionOwner mountOptions, [], []⟩).outcome = some (.ok ())) :
    let left := (handshake env events
      ⟨Session.new allowed sessionOwner mountOptions, [], []⟩).state.session
    (∃ before bytes request init,
      events = before ++ .message bytes :: (handshake env events
        ⟨Session.new allowed sessionOwner mountOptions, [], []⟩).rest ∧
      received env bytes = .ok (request, .init init) ∧
      left.protoVersion = some init.version ∧ left.kernelCapabilities = init.capabilities ∧
      init.capabilities.contains left.negotiated = true) ∧
    left.negotiated &&& unsupportedCapabilities = 0#64 ∧
    (left.negotiated.contains .fuseAllowIdmap = true →
      left.allowed = .all ∧ left.allowed = allowed ∧
      (.defaultPermissions ∈ mountOptions ∨ left.negotiated.contains .fusePosixAcl = true)) := by
  intro left
  obtain ⟨before, bytes, request, init, calls, hevents, hreceived, -, -, hleft⟩ :=
    initialized_of_handshake (.new allowed sessionOwner mountOptions) rfl hok
  have hhonors : left.Honors := by
    change Honors (handshake env events _).state.session
    rw [hleft]
    exact honors_initialized ..
  have hmount : left.allowed = allowed ∧ left.mountOptions = mountOptions ∧
      left.protoVersion = some init.version ∧ left.kernelCapabilities = init.capabilities := by
    change (handshake env events _).state.session.allowed = _ ∧
      (handshake env events _).state.session.mountOptions = _ ∧
      (handshake env events _).state.session.protoVersion = _ ∧
      (handshake env events _).state.session.kernelCapabilities = _
    rw [hleft]
    exact ⟨rfl, rfl, rfl, rfl⟩
  obtain ⟨hallowed, hoptions, hversion, hkernel⟩ := hmount
  refine ⟨⟨before, bytes, request, init, hevents, hreceived, hversion, hkernel,
    hkernel ▸ hhonors.offered⟩, hhonors.supported, fun hidmap => ?_⟩
  obtain ⟨hall, hforced⟩ := hhonors.idmap hidmap
  exact ⟨hall, hallowed, hoptions ▸ hforced⟩

/-- The session that a filesystem on an idmapped mount gets. -/
def idmapSession : Session :=
  (handshake idmapEnv [.message idmapInit] ⟨.new .all 1000 [], [], []⟩).state.session

theorem handshake_honors_idmap :
    let left := (handshake idmapEnv [.error .eintr, .message idmapInit]
      ⟨Session.new .all 1000 [], [], []⟩).state.session
    left.negotiated.contains .fuseAllowIdmap = true ∧ left.allowed = .all ∧
      (.defaultPermissions ∈ ([] : List MountOption) ∨
        left.negotiated.contains .fusePosixAcl = true) := by
  intro left
  have hok : (handshake idmapEnv [.error .eintr, .message idmapInit]
      ⟨Session.new .all 1000 [], [], []⟩).outcome = some (.ok ()) := rfl
  have hidmap : left.negotiated.contains .fuseAllowIdmap = true := by
    change (handshake idmapEnv _ _).state.session.negotiated.contains .fuseAllowIdmap = true
    decide +kernel
  obtain ⟨hall, -, hforced⟩ := (handshake_honors idmapEnv .all 1000 [] _ hok).2.2 hidmap
  exact ⟨hidmap, hall, hforced⟩

end Session

end Fuser
