import Fuser.Dispatch
import Fuser.Handshake
import Fuser.Notify

/-!
The version that a notifier works by.

A notifier holds the version that the kernel offered, which comes to it from the
handshake through the session, the background session or the event loop. The lower
of that version and of the session's own is taken one number at a time. For any two
versions this need not be either of them; it is here, since a handshake only ends with
a kernel of the same major version.
-/

namespace Fuser

open Rust

/-- The lower of two versions, where the major version counts first. -/
def Version.lower (v w : Version) : Version := if w.lt v then w else v

def Session.notifier (self : Session) : Notifier := ⟨self.kernelCapabilities, self.protoVersion⟩

/-- What a background session keeps for its notifiers. -/
structure BackgroundSession where
  kernelCapabilities : InitFlags
  kernelAbi : Option Version

def Session.spawn (self : Session) : BackgroundSession :=
  ⟨self.kernelCapabilities, self.protoVersion⟩

def BackgroundSession.notifier (self : BackgroundSession) : Notifier :=
  ⟨self.kernelCapabilities, self.kernelAbi⟩

/-- How a program gets at a notifier of a session. -/
inductive Session.Obtains (session : Session) : Notifier → Prop where
  | session : Obtains session session.notifier
  | background : Obtains session session.spawn.notifier
  | poll {req : RequestWithSender} {sent sent' : List (List UInt8)} {calls : List FsCall}
      {call : FsCall} {ino : INodeNo} {fh : FileHandle} {ph : PollNotifier}
      {events flags : UInt32}
      (hrun : (req.dispatch session.eventLoop).run sent = (.ok calls, sent'))
      (hcall : call ∈ calls) (hmethod : call.method = .poll ino fh ph events flags) :
      Obtains session ph.notifier

/-- The notifier among the arguments of a method. -/
def FsMethod.notifier? : FsMethod → Option Notifier
  | .poll _ _ ph _ _ => some ph.notifier
  | _ => none

namespace RequestWithSender

variable {self : RequestWithSender} {se : SessionEventLoop}

/-- The calls of a request that succeeds are those that its arm has made. -/
theorem calls_of_dispatch {sent sent' : List (List UInt8)} {calls : List FsCall}
    (h : (self.dispatch se).run sent = (.ok calls, sent')) :
    calls = ((self.dispatchReq se).run ⟨[], []⟩).2.calls := by
  rw [dispatch] at h
  obtain ⟨-, s, -, h⟩ := Method.run_bind_eq_ok h
  obtain ⟨-, s', -, h⟩ := Method.run_bind_eq_ok h
  cases h
  rfl

/-- All calls that were made satisfy `P`. -/
def Made (P : FsCall → Prop) (st : Dispatching) : Prop := ∀ call ∈ st.calls, P call

theorem preserves_call {P : FsCall → Prop} {method : FsMethod} {reply : Option ReplyObject}
    (h : P ⟨self.requestHeader, method, reply⟩) : (self.call method reply).Preserves (Made P) :=
  fun _ hst => List.forall_mem_append.mpr ⟨hst, List.forall_mem_singleton.mpr h⟩

theorem preserves_reply {P : FsCall → Prop} : self.reply.Preserves (Made P) := fun _ hst => hst

theorem preserves_callWithReply {P : FsCall → Prop} {method : FsMethod}
    (h : ∀ reply, P ⟨self.requestHeader, method, reply⟩) :
    (self.callWithReply method).Preserves (Made P) :=
  preserves_reply.bind fun _ => preserves_call (h _)

/-- A method gets a notifier of the event loop or none. -/
def HandsNotifier (se : SessionEventLoop) (call : FsCall) : Prop :=
  ∀ notifier, call.method.notifier? = some notifier →
    notifier = ⟨se.kernelCapabilities, se.kernelAbi⟩

theorem handsNotifier_of_none {call : FsCall} (h : call.method.notifier? = none) :
    HandsNotifier se call := by
  intro notifier hsome
  rw [h] at hsome
  cases hsome

theorem preserves_dispatchOperation (op : Operation) :
    (self.dispatchOperation se op).Preserves (Made (HandsNotifier se)) := by
  cases op with
  | init _ | destroy _ | interrupt _ | notifyReply _ | cuseInit _ =>
      exact Method.preserves_fail _
  | forget _ | batchForget _ => exact preserves_call (handsNotifier_of_none rfl)
  | readDir _ | readDirPlus _ =>
      exact preserves_reply.bind fun _ => preserves_call (handsNotifier_of_none rfl)
  | poll x =>
      refine preserves_callWithReply fun reply notifier hsome => ?_
      cases hsome
      rfl
  | setAttr x =>
      refine (Method.preserves_ofOutcome _).bind fun _ => ?_
      refine (Method.preserves_ofOutcome _).bind fun _ => ?_
      refine (Method.preserves_ofOutcome _).bind fun _ => ?_
      exact preserves_callWithReply fun _ => handsNotifier_of_none rfl
  | read x | write x =>
      refine (Method.preserves_ofOutcome _).bind fun _ => ?_
      exact preserves_callWithReply fun _ => handsNotifier_of_none rfl
  | fAllocate x | copyFileRange x =>
      refine (Method.preserves_ofOutcome _).bind fun _ => ?_
      refine (Method.preserves_ofOutcome _).bind fun _ => ?_
      exact preserves_callWithReply fun _ => handsNotifier_of_none rfl
  | setXAttr x =>
      rw [dispatchOperation]
      split
      · exact Method.preserves_fail _
      · exact preserves_callWithReply fun _ => handsNotifier_of_none rfl
  | ioCtl x =>
      rw [dispatchOperation]
      split
      · exact Method.preserves_fail _
      · refine (Method.preserves_ofOutcome _).bind fun _ => ?_
        exact preserves_callWithReply fun _ => handsNotifier_of_none rfl
  | _ => exact preserves_callWithReply fun _ => handsNotifier_of_none rfl

theorem preserves_dispatchReq : (self.dispatchReq se).Preserves (Made (HandsNotifier se)) := by
  rw [dispatchReq]
  refine (Method.preserves_ofOutcome _).bind fun op => ?_
  rw [dispatchAllowed]
  split
  · exact Method.preserves_fail _
  · split
    · exact Method.preserves_fail _
    · exact (preserves_dispatchOperation op).bind fun _ => Method.preserves_pure _

theorem handsNotifier_of_dispatch {sent sent' : List (List UInt8)} {calls : List FsCall}
    (h : (self.dispatch se).run sent = (.ok calls, sent')) :
    ∀ call ∈ calls, HandsNotifier se call := by
  rw [calls_of_dispatch h]
  have hnone : Made (HandsNotifier se) ⟨[], []⟩ := by
    intro call hcall
    cases hcall
  exact preserves_dispatchReq _ hnone

end RequestWithSender

/-- All of them are the same. -/
theorem Session.Obtains.eq {session : Session} {notifier : Notifier}
    (h : session.Obtains notifier) : notifier = session.notifier := by
  cases h with
  | session => rfl
  | background => rfl
  | poll hrun hcall hmethod =>
      refine RequestWithSender.handsNotifier_of_dispatch hrun _ hcall _ ?_
      rw [hmethod]
      rfl

namespace Notifier

variable {self : Notifier} {version : Version}

/-- With the major version in common, the lower minor version makes the lower version. -/
theorem negotiatedAbi_eq (habi : self.kernelAbi = some version) (hmajor : version.major = 7) :
    self.negotiatedAbi =
      some (version.lower ⟨fuseKernelVersion, fuseKernelMinorVersion⟩) := by
  obtain ⟨major, minor⟩ := version
  obtain rfl : major = 7 := hmajor
  have hlt : Version.lt ⟨fuseKernelVersion, fuseKernelMinorVersion⟩ ⟨7, minor⟩ ↔ 44 < minor := by
    simp [Version.lt, fuseKernelVersion, fuseKernelMinorVersion]
  rw [negotiatedAbi_of_major habi, Version.lower]
  by_cases hle : minor ≤ 44
  · rw [if_pos hle, if_neg (mt hlt.mp (UInt32.not_lt.mpr hle))]
  · rw [if_neg hle, if_pos (hlt.mpr (UInt32.not_le.mp hle))]
    rfl

theorem run_incEpoch {abi : Version} (habi : self.negotiatedAbi = some abi)
    (kernel : List UInt8 → Except Errno Unit) (written : List (List UInt8)) :
    if abi.lt ⟨7, 44⟩ then
      (self.incEpoch kernel).run written = (.err (.os Errno.enotsup.code), written)
    else ∃ message, ((self.incEpoch kernel).run written).2 = written ++ [message] ∧
      Conveys message .incEpoch := by
  rw [incEpoch_of_negotiatedAbi habi]
  by_cases hlt : abi.lt ⟨7, 44⟩
  · rw [if_pos hlt, if_pos hlt]
    rfl
  · rw [if_neg hlt, if_neg hlt]
    have hnotifies := Notice.built_incEpoch.notifies kernel written
    rw [if_neg (by decide)] at hnotifies
    obtain ⟨message, hwritten, -, hconveys⟩ := hnotifies
    exact ⟨message, hwritten, hconveys⟩

end Notifier

namespace Session

/-- Whatever notifier a program gets after a handshake, it works by the lower of the two
versions, and sends the epoch notification to the kernels that know it. -/
theorem notifier_negotiates (env : HandshakeEnv) (allowed : SessionACL) (sessionOwner : UInt32)
    (mountOptions : List MountOption) (events : List ReadEvent)
    (hok : (handshake env events
      ⟨Session.new allowed sessionOwner mountOptions, [], []⟩).outcome = some (.ok ())) :
    let run := handshake env events ⟨Session.new allowed sessionOwner mountOptions, [], []⟩
    ∃ before bytes request init, events = before ++ .message bytes :: run.rest ∧
      received env bytes = .ok (request, .init init) ∧
      ∀ notifier, run.state.session.Obtains notifier →
        let abi := init.version.lower ⟨fuseKernelVersion, fuseKernelMinorVersion⟩
        notifier.negotiatedAbi = some abi ∧
        ∀ kernel written,
          if abi.lt ⟨7, 44⟩ then
            (notifier.incEpoch kernel).run written = (.err (.os Errno.enotsup.code), written)
          else ∃ message, ((notifier.incEpoch kernel).run written).2 = written ++ [message] ∧
            Conveys message .incEpoch := by
  intro run
  obtain ⟨before, bytes, request, init, calls, hevents, hreceived, ⟨hmajor, -⟩, -, hleft⟩ :=
    initialized_of_handshake (.new allowed sessionOwner mountOptions) rfl hok
  refine ⟨before, bytes, request, init, hevents, hreceived, fun notifier hobtains => ?_⟩
  have hkernel : notifier.kernelAbi = some init.version := by
    rw [hobtains.eq]
    exact congrArg Session.protoVersion hleft
  have habi := Notifier.negotiatedAbi_eq hkernel hmajor
  exact ⟨habi, Notifier.run_incEpoch habi⟩

/-- A kernel of version 7.40 has no epoch notification. -/
theorem notifier_negotiates_idmap :
    (handshake idmapEnv [.message idmapInit] ⟨Session.new .all 1000 [], [], []⟩).outcome =
      some (.ok ()) ∧
    idmapSession.notifier.negotiatedAbi = some ⟨7, 40⟩ ∧
    (idmapSession.notifier.incEpoch fun _ => .ok ()).run [] =
      (.err (.os Errno.enotsup.code), []) := by
  have hok : (handshake idmapEnv [.message idmapInit]
      ⟨Session.new .all 1000 [], [], []⟩).outcome = some (.ok ()) := rfl
  obtain ⟨-, -, -, init, -, -, hobtained⟩ :=
    notifier_negotiates idmapEnv .all 1000 [] [.message idmapInit] hok
  obtain ⟨habi, hepoch⟩ := hobtained idmapSession.notifier .session
  have hlower : some (init.version.lower ⟨fuseKernelVersion, fuseKernelMinorVersion⟩) =
      some ⟨7, 40⟩ := by
    rw [← habi]
    decide +kernel
  refine ⟨hok, habi.trans hlower, ?_⟩
  have hrun := hepoch (fun _ => .ok ()) []
  rw [Option.some.inj hlower, if_pos (by decide)] at hrun
  exact hrun

end Session

end Fuser
