import Fuser.Filesystem
import Fuser.Session

/-!
The dispatcher: from a request to one call of the filesystem, or to an error.

Arguments are evaluated in the order in which they are written. An argument that
fails returns from the dispatcher, and then every reply object that was already
made for the call is dropped, which answers the request; the dispatcher's own
answer comes on top. So the reply object has to be the last argument.
-/

namespace Fuser

open Rust Wire

structure SessionEventLoop where
  filesystemPresent : Bool
  allowed : SessionACL
  sessionOwner : UInt32
  negotiated : InitFlags
  kernelCapabilities : InitFlags
  kernelAbi : Option Version
  deriving DecidableEq

/-- What `Session::run` hands to the threads it starts. -/
def Session.eventLoop (self : Session) : SessionEventLoop where
  filesystemPresent := self.filesystemPresent
  allowed := self.allowed
  sessionOwner := self.sessionOwner
  negotiated := self.negotiated
  kernelCapabilities := self.kernelCapabilities
  kernelAbi := self.protoVersion

structure RequestWithSender where
  request : AnyRequest
  /-- The header as the filesystem sees it, where that differs from the one on the wire. -/
  maskedHeader : Option FuseInHeader
  deriving DecidableEq

/-- What the dispatcher has done so far: the reply objects it made and still
holds, and the calls it made. -/
structure Dispatching where
  live : List ReplyRaw
  calls : List FsCall

/-- The operations that the kernel may issue without a uid set. -/
def Operation.exempt : Operation → Bool
  | .init _ | .destroy _ | .read _ | .readDir _ | .batchForget _ | .forget _ | .write _
  | .fSync _ | .fSyncDir _ | .release _ | .releaseDir _ => true
  | .readDirPlus _ => true
  | _ => false

/-- The operations that the kernel expects no answer to. -/
def Operation.forgets : Operation → Bool
  | .forget _ | .batchForget _ => true
  | _ => false

/-- An offset that is checked comes back as it is or as an error. -/
theorem returns_offset {α : Type} (value : UInt64) (a : α) :
    (do validateOffT value; return a : Outcome Errno α).Returns := by
  refine Outcome.Returns.bind ?_ fun _ => Outcome.returns_ok a
  rw [validateOffT]
  split
  · exact Outcome.returns_err _
  · exact Outcome.returns_ok _

namespace SessionEventLoop

/-- The session does not serve the caller. -/
def denies (se : SessionEventLoop) (uid : UInt32) : Bool :=
  (se.allowed == .rootAndOwner && uid != se.sessionOwner && uid != 0) ||
    (se.allowed == .owner && uid != se.sessionOwner)

end SessionEventLoop

namespace RequestWithSender

def maskHeader (header : FuseInHeader) : FuseInHeader :=
  { header with uid := fuseInvalidUidgid, gid := fuseInvalidUidgid }

/-- `none` if the message cannot be framed. -/
def new {ε : Type} (data : Slice) (negotiated : InitFlags) :
    Outcome ε (Option RequestWithSender) :=
  match AnyRequest.tryFrom data with
  | .panic reason => .panic reason
  | .err _ => .ok none
  | .ok request => .ok (some
      { request := request.setNegotiated negotiated
        maskedHeader :=
          if negotiated.contains .fuseAllowIdmap then some (maskHeader request.header)
          else none })

theorem new_of_tryFrom {ε : Type} {data : Slice} {request : AnyRequest} (negotiated : InitFlags)
    (h : AnyRequest.tryFrom data = .ok request) :
    ∃ req, (new data negotiated : Outcome ε _) = .ok (some req) ∧
      req.request = request.setNegotiated negotiated := by
  rw [new, h]
  exact ⟨_, rfl, rfl⟩

theorem new_eq_ok {ε : Type} {data : Slice} {negotiated : InitFlags} {req : RequestWithSender}
    (h : (new data negotiated : Outcome ε _) = .ok (some req)) :
    ∃ request, AnyRequest.tryFrom data = .ok request ∧
      req.request = request.setNegotiated negotiated ∧
      req.maskedHeader =
        if negotiated.contains .fuseAllowIdmap then some (maskHeader request.header)
        else none := by
  rw [new] at h
  split at h
  · cases h
  · cases h
  next request hframe =>
      cases h
      exact ⟨request, hframe, rfl, rfl⟩

variable (self : RequestWithSender)

def unique : RequestId := self.request.unique

def nodeid : INodeNo := self.request.nodeid

/-- The owner for an inode this request creates. -/
def owner : Owner := ⟨self.request.header.uid, self.request.header.gid⟩

/-- The owner for the inode that a `RENAME_WHITEOUT` leaves behind. -/
def whiteoutOwner (flags : UInt32) : Option Owner :=
  if ¬ hasFlag flags renameWhiteout then none
  else if self.owner.uid ≠ fuseInvalidUidgid ∧ self.owner.gid ≠ fuseInvalidUidgid then
    some self.owner
  else none

def requestHeader : Request := ⟨self.maskedHeader.getD self.request.header⟩

/-- Make a reply object for this request. -/
def reply : Method Dispatching Errno ReplyRaw := fun st =>
  (.ok (.new self.unique), { st with live := st.live ++ [.new self.unique] })

/-- Call a method, which takes over the reply object it is given. -/
def call (method : FsMethod) (reply : Option ReplyObject) : Method Dispatching Errno Unit :=
  fun st => (.ok (), {
    live := match reply with
      | some object => st.live.erase object.reply
      | none => st.live
    calls := st.calls ++ [⟨self.requestHeader, method, reply⟩] })

/-- Call a method with a reply object, the last of its arguments. -/
def callWithReply (method : FsMethod) : Method Dispatching Errno Unit := do
  let reply ← self.reply
  self.call method (some (.raw reply))

/-- One arm for each operation. -/
def dispatchOperation (se : SessionEventLoop) : Operation → Method Dispatching Errno Unit
  | .init _ => .fail .eio
  | .destroy _ => .fail .eio
  | .interrupt _ => .fail .enosys
  | .lookup x => self.callWithReply (.lookup self.nodeid x.name)
  | .forget x => self.call (.forget self.nodeid x.nlookup) none
  | .getAttr x => self.callWithReply (.getattr self.nodeid x.fileHandle)
  | .setAttr x => do
      let atime ← .ofOutcome x.atime
      let mtime ← .ofOutcome x.mtime
      let ctime ← .ofOutcome x.ctime
      self.callWithReply (.setattr self.nodeid x.mode x.uid x.gid x.size atime mtime ctime
        x.fileHandle x.crtime x.chgtime x.bkuptime x.flags x.killSuidGid)
  | .readLink _ => self.callWithReply (.readlink self.nodeid)
  | .mkNod x => self.callWithReply (.mknod self.nodeid x.name x.mode x.umask x.rdev self.owner)
  | .mkDir x => self.callWithReply (.mkdir self.nodeid x.name x.mode x.umask self.owner)
  | .unlink x => self.callWithReply (.unlink self.nodeid x.name)
  | .rmDir x => self.callWithReply (.rmdir self.nodeid x.name)
  | .symLink x => self.callWithReply (.symlink self.nodeid x.linkName x.target self.owner)
  | .rename x =>
      self.callWithReply (.rename self.nodeid x.src.name x.dest.dir x.dest.name 0
        (self.whiteoutOwner 0))
  | .link x => self.callWithReply (.link x.inodeNo self.nodeid x.dest.name)
  | .open x => self.callWithReply (.open self.nodeid x.flags x.killSuidGid)
  | .read x => do
      let offset ← .ofOutcome x.offset
      self.callWithReply (.read self.nodeid x.fileHandle offset x.size x.flags x.lockOwner)
  | .write x => do
      let offset ← .ofOutcome x.offset
      self.callWithReply (.write self.nodeid x.fileHandle offset x.data x.writeFlags x.flags
        x.lockOwner)
  | .flush x => self.callWithReply (.flush self.nodeid x.fileHandle x.lockOwner)
  | .release x =>
      self.callWithReply (.release self.nodeid x.fileHandle x.flags x.lockOwner x.flush)
  | .fSync x => self.callWithReply (.fsync self.nodeid x.fileHandle x.fdatasync)
  | .openDir x => self.callWithReply (.opendir self.nodeid x.flags)
  | .readDir x => do
      let reply ← self.reply
      self.call (.readdir self.nodeid x.fileHandle x.offset)
        (some (.directory ⟨reply, .new x.size.toNat⟩))
  | .releaseDir x => self.callWithReply (.releasedir self.nodeid x.fileHandle x.flags)
  | .fSyncDir x => self.callWithReply (.fsyncdir self.nodeid x.fileHandle x.fdatasync)
  | .statFs _ => self.callWithReply (.statfs self.nodeid)
  | .setXAttr x =>
      if x.setxattrFlags ≠ 0 then .fail .enotsup
      else self.callWithReply (.setxattr self.nodeid x.name x.value x.flags x.position)
  | .getXAttr x => self.callWithReply (.getxattr self.nodeid x.name x.sizeU32)
  | .listXAttr x => self.callWithReply (.listxattr self.nodeid x.size)
  | .removeXAttr x => self.callWithReply (.removexattr self.nodeid x.name)
  | .access x => self.callWithReply (.access self.nodeid x.mask)
  | .create x =>
      self.callWithReply (.create self.nodeid x.name x.mode x.umask x.flags x.killSuidGid
        self.owner)
  | .getLk x =>
      self.callWithReply (.getlk self.nodeid x.fileHandle x.lockOwner x.lock.range.1
        x.lock.range.2 x.lock.typ x.lock.pid)
  | .setLk x =>
      self.callWithReply (.setlk self.nodeid x.fileHandle x.lockOwner x.lock.range.1
        x.lock.range.2 x.lock.typ x.lock.pid x.sleep)
  | .bMap x => self.callWithReply (.bmap self.nodeid x.blockSize x.block)
  | .ioCtl x =>
      if x.unrestricted then .fail .enosys
      else do
        let inData ← .ofOutcome x.inData
        self.callWithReply (.ioctl self.nodeid x.fileHandle x.flags x.command inData x.outSize)
  | .poll x =>
      let ph := PollNotifier.new x.kernelHandle se.kernelCapabilities se.kernelAbi
      self.callWithReply (.poll self.nodeid x.fileHandle ph x.events x.flags)
  | .notifyReply _ => .fail .enosys
  | .batchForget x => self.call (.batchForget x.nodes) none
  | .fAllocate x => do
      let offset ← .ofOutcome x.offset
      let len ← .ofOutcome x.len
      self.callWithReply (.fallocate self.nodeid x.fileHandle offset len x.mode)
  | .readDirPlus x => do
      let reply ← self.reply
      self.call (.readdirplus self.nodeid x.fileHandle x.offset)
        (some (.directoryPlus ⟨reply, .new x.size.toNat⟩))
  | .rename2 x =>
      self.callWithReply (.rename x.from.dir x.from.name x.to.dir x.to.name x.flags
        (self.whiteoutOwner x.flags))
  | .lseek x => self.callWithReply (.lseek self.nodeid x.fileHandle x.offset x.whence)
  | .copyFileRange x => do
      let i ← .ofOutcome x.src
      let o ← .ofOutcome x.dest
      self.callWithReply (.copyFileRange i.inode i.fileHandle i.offset o.inode o.fileHandle
        o.offset x.len x.flags)
  | .syncFs _ => self.callWithReply (.syncfs self.nodeid)
  | .statX x => self.callWithReply (.statx self.nodeid x.fileHandle x.flags x.mask)
  | .tmpFile x =>
      self.callWithReply (.tmpfile self.nodeid x.mode x.umask x.flags x.killSuidGid self.owner)
  | .cuseInit _ => .fail .enosys

/-- What follows once the operation is known. -/
def dispatchAllowed (se : SessionEventLoop) (op : Operation) :
    Method Dispatching Errno (Option Response) :=
  if se.denies self.request.uid ∧ ¬ op.exempt then .fail .eacces
  else if ¬ se.filesystemPresent then .fail .eio
  else do
    self.dispatchOperation se op
    return none

def dispatchReq (se : SessionEventLoop) : Method Dispatching Errno (Option Response) := do
  let op ← .ofOutcome (self.request.operation.mapErr (fun _ => .enosys))
  self.dispatchAllowed se op

/-- Send the answer that the dispatcher itself gives. -/
def conclude : Outcome Errno (Option Response) → Method (List (List UInt8)) Empty Unit
  | .ok (some resp) => (ReplyRaw.new self.unique).sends resp
  | .ok none => return ()
  | .err errno => (ReplyRaw.new self.unique).sends (.ofErrno errno)
  | .panic reason => .abort reason

/-- The calls that a request leads to; the state is what was sent to the kernel. -/
def dispatch (se : SessionEventLoop) : Method (List (List UInt8)) Empty (List FsCall) :=
  let (outcome, st) := (self.dispatchReq se).run ⟨[], []⟩
  do
    ReplyRaw.dropAll st.live
    self.conclude outcome
    return st.calls

/-- How an arm ends when it starts without reply objects: with an error before
there is any, or with one call that takes the only one. -/
inductive Ends (self : RequestWithSender) (op : Operation) :
    Outcome Errno Unit × Dispatching → Prop where
  | failed (errno : Errno) (hforgets : op.forgets = false) :
      Ends self op (.err errno, ⟨[], []⟩)
  | panicked (reason : Panic) (hshort : op.shortIoctl = true) :
      Ends self op (.panic reason, ⟨[], []⟩)
  | called (method : FsMethod) (object : ReplyObject) (hobject : object.reply = .new self.unique)
      (hforgets : op.forgets = false) :
      Ends self op (.ok (), ⟨[], [⟨self.requestHeader, method, some object⟩]⟩)
  | forgot (method : FsMethod) (hforgets : op.forgets = true) :
      Ends self op (.ok (), ⟨[], [⟨self.requestHeader, method, none⟩]⟩)

section Ends

variable {op : Operation}

theorem run_call (method : FsMethod) {object : ReplyObject}
    (hobject : object.reply = .new self.unique) :
    (self.call method (some object)).run ⟨[.new self.unique], []⟩ =
      (.ok (), ⟨[], [⟨self.requestHeader, method, some object⟩]⟩) := by
  simp only [Method.run, call, hobject, List.erase_cons_head, List.nil_append]

theorem run_callWithReply (method : FsMethod) :
    (self.callWithReply method).run ⟨[], []⟩ =
      (.ok (), ⟨[], [⟨self.requestHeader, method, some (.raw (.new self.unique))⟩]⟩) :=
  self.run_call method rfl

theorem ends_call (method : FsMethod) {object : ReplyObject}
    (hobject : object.reply = .new self.unique) (hforgets : op.forgets = false) :
    Ends self op ((self.call method (some object)).run ⟨[.new self.unique], []⟩) := by
  rw [self.run_call method hobject]
  exact .called method object hobject hforgets

theorem ends_callWithReply (method : FsMethod) (hforgets : op.forgets = false) :
    Ends self op ((self.callWithReply method).run ⟨[], []⟩) :=
  self.ends_call method rfl hforgets

variable {self}

theorem ends_bind {α : Type} {x : Outcome Errno α} {f : α → Method Dispatching Errno Unit}
    (hx : x.Returns) (hforgets : op.forgets = false)
    (h : ∀ a, Ends self op ((f a).run ⟨[], []⟩)) :
    Ends self op ((Method.ofOutcome x >>= f).run ⟨[], []⟩) := by
  cases x with
  | ok a => exact h a
  | err errno => exact .failed errno hforgets
  | panic reason => exact absurd hx (Outcome.not_returns_panic reason)

end Ends

theorem ends_ioctl (x : Op.IoCtl) (se : SessionEventLoop) :
    Ends self (.ioCtl x) ((self.dispatchOperation se (.ioCtl x)).run ⟨[], []⟩) := by
  rw [dispatchOperation]
  by_cases hunrestricted : x.unrestricted
  · rw [if_pos hunrestricted]
    exact .failed _ rfl
  · rw [if_neg hunrestricted]
    by_cases hlen : x.arg.inSize.toNat ≤ x.data.length
    · refine ends_bind ?_ rfl fun _ => self.ends_callWithReply _ rfl
      rw [Op.IoCtl.inData, if_pos hlen]
      exact Outcome.returns_ok _
    · have hpanic : (x.inData : Outcome Errno _) = .panic .sliceIndex := if_neg hlen
      rw [hpanic]
      exact .panicked .sliceIndex (decide_eq_true (Nat.not_le.mp hlen))

theorem ends_dispatchOperation (se : SessionEventLoop) (op : Operation) :
    Ends self op ((self.dispatchOperation se op).run ⟨[], []⟩) := by
  cases op with
  | init _ | destroy _ | interrupt _ | notifyReply _ | cuseInit _ => exact .failed _ rfl
  | forget _ | batchForget _ => exact .forgot _ rfl
  | readDir _ | readDirPlus _ => exact self.ends_call _ rfl rfl
  | setAttr x =>
      refine ends_bind (.of_ok (x.timeOrNow_ok _ _ _ _)) rfl fun _ => ?_
      refine ends_bind (.of_ok (x.timeOrNow_ok _ _ _ _)) rfl fun _ => ?_
      exact ends_bind (.of_ok x.ctime_ok) rfl fun _ => self.ends_callWithReply _ rfl
  | read x | write x =>
      exact ends_bind (returns_offset _ _) rfl fun _ => self.ends_callWithReply _ rfl
  | fAllocate x | copyFileRange x =>
      refine ends_bind (returns_offset _ _) rfl fun _ => ?_
      exact ends_bind (returns_offset _ _) rfl fun _ => self.ends_callWithReply _ rfl
  | setXAttr x =>
      rw [dispatchOperation]
      by_cases hflags : x.setxattrFlags ≠ 0
      · rw [if_pos hflags]
        exact .failed _ rfl
      · rw [if_neg hflags]
        exact self.ends_callWithReply _ rfl
  | ioCtl x => exact self.ends_ioctl x se
  | _ => exact self.ends_callWithReply _ rfl

/-- What a request comes to: an error that the dispatcher answers with, a panic, or
one call. -/
inductive Dispatched (self : RequestWithSender) (forgets short : Bool)
    (sent : List (List UInt8)) : Outcome Empty (List FsCall) × List (List UInt8) → Prop where
  | answered (errno : Errno) (hforgets : forgets = false) :
      Dispatched self forgets short sent
        (.ok [], sent ++ [(Response.ofErrno errno).message self.unique])
  | panicked (reason : Panic) (hshort : short = true) :
      Dispatched self forgets short sent (.panic reason, sent)
  | called (method : FsMethod) (object : ReplyObject) (hobject : object.reply = .new self.unique)
      (hforgets : forgets = false) :
      Dispatched self forgets short sent (.ok [⟨self.requestHeader, method, some object⟩], sent)
  | forgot (method : FsMethod) (hforgets : forgets = true) :
      Dispatched self forgets short sent (.ok [⟨self.requestHeader, method, none⟩], sent)

section Run

variable {self} {se : SessionEventLoop}

theorem run_dispatch_of_err {errno : Errno}
    (h : (self.dispatchReq se).run ⟨[], []⟩ = (.err errno, ⟨[], []⟩)) (sent : List (List UInt8)) :
    (self.dispatch se).run sent =
      (.ok [], sent ++ [(Response.ofErrno errno).message self.unique]) := by
  have hsend := ReplyRaw.run_sends (Response.fits_ofErrno errno) self.unique sent
  rw [dispatch, h]
  exact Method.run_bind_of_ok (fun _ => pure []) hsend

theorem dispatchReq_of_ok {op : Operation} (hop : self.request.operation = .ok op) :
    self.dispatchReq se = self.dispatchAllowed se op := by
  rw [dispatchReq, hop]
  rfl

theorem dispatchReq_of_err {e : RequestError} (hop : self.request.operation = .err e) :
    (self.dispatchReq se).run ⟨[], []⟩ = (.err .enosys, ⟨[], []⟩) := by
  rw [dispatchReq, hop]
  rfl

theorem dispatched_of_ends {op : Operation}
    (hreq : self.dispatchReq se = do self.dispatchOperation se op; return none)
    (hends : Ends self op ((self.dispatchOperation se op).run ⟨[], []⟩))
    (sent : List (List UInt8)) :
    Dispatched self op.forgets op.shortIoctl sent ((self.dispatch se).run sent) := by
  generalize hrun : (self.dispatchOperation se op).run ⟨[], []⟩ = ending at hends
  cases hends with
  | failed errno hforgets =>
      rw [run_dispatch_of_err (by rw [hreq, Method.run_bind_of_err _ hrun]) sent]
      exact .answered errno hforgets
  | panicked reason hshort =>
      rw [dispatch, hreq, Method.run_bind_of_panic _ hrun]
      exact .panicked reason hshort
  | called method object hobject hforgets =>
      rw [dispatch, hreq, Method.run_bind_of_ok _ hrun]
      exact .called method object hobject hforgets
  | forgot method hforgets =>
      rw [dispatch, hreq, Method.run_bind_of_ok _ hrun]
      exact .forgot method hforgets

end Run

/-- The gate leaves every operation that the caller may issue to its arm. -/
theorem dispatchReq_of_allowed {se : SessionEventLoop} {op : Operation}
    (hop : self.request.operation = .ok op) (hfs : se.filesystemPresent = true)
    (hgate : ¬ (se.denies self.request.uid ∧ ¬ op.exempt)) :
    self.dispatchReq se = do self.dispatchOperation se op; return none := by
  rw [dispatchReq_of_ok hop, dispatchAllowed, if_neg hgate, if_neg (not_not.mpr hfs)]

theorem run_dispatch_of_denied {se : SessionEventLoop} {op : Operation}
    (hop : self.request.operation = .ok op)
    (hgate : se.denies self.request.uid ∧ ¬ op.exempt) (sent : List (List UInt8)) :
    (self.dispatch se).run sent =
      (.ok [], sent ++ [(Response.ofErrno .eacces).message self.unique]) := by
  refine run_dispatch_of_err ?_ sent
  rw [dispatchReq_of_ok hop, dispatchAllowed, if_pos hgate]
  rfl

/-- Every dispatch of a session that has its filesystem, whether the body parses
or not. -/
theorem dispatched (se : SessionEventLoop) (hfs : se.filesystemPresent = true)
    (sent : List (List UInt8)) :
    (∀ op, self.request.operation = .ok op →
      Dispatched self op.forgets op.shortIoctl sent ((self.dispatch se).run sent)) ∧
    (∀ e, self.request.operation = .err e →
      Dispatched self false false sent ((self.dispatch se).run sent)) := by
  refine ⟨fun op hop => ?_, fun e hop => ?_⟩
  · by_cases hgate : se.denies self.request.uid ∧ ¬ op.exempt
    · rw [self.run_dispatch_of_denied hop hgate sent]
      refine .answered .eacces ?_
      cases op with
      | forget _ | batchForget _ => exact absurd rfl hgate.2
      | _ => rfl
    · exact dispatched_of_ends (self.dispatchReq_of_allowed hop hfs hgate)
        (self.ends_dispatchOperation se op) sent
  · rw [run_dispatch_of_err (dispatchReq_of_err hop) sent]
    exact .answered .enosys rfl

/-- The access list matters to the gate only. -/
theorem dispatchOperation_allowed (se : SessionEventLoop) (op : Operation) (acl : SessionACL) :
    self.dispatchOperation { se with allowed := acl } op = self.dispatchOperation se op := by
  cases op <;> rfl

theorem denies_iff (se : SessionEventLoop) (uid : UInt32) :
    se.denies uid = true ↔
      (se.allowed = .owner ∧ uid ≠ se.sessionOwner) ∨
        (se.allowed = .rootAndOwner ∧ uid ≠ se.sessionOwner ∧ uid ≠ 0) := by
  simp only [SessionEventLoop.denies, Bool.or_eq_true, Bool.and_eq_true, beq_iff_eq, bne_iff_ne]
  exact ⟨fun h => h.symm.imp id fun h => ⟨h.1.1, h.1.2, h.2⟩,
    fun h => h.symm.imp (fun h => ⟨⟨h.1, h.2.1⟩, h.2.2⟩) id⟩

/-- A caller that the session does not serve gets nothing but EACCES, apart from
the operations that the kernel issues on its own behalf; the access list makes no
other difference. -/
theorem dispatch_gate (se : SessionEventLoop) (op : Operation)
    (hop : self.request.operation = .ok op) :
    let denied := (se.allowed = .owner ∧ self.request.header.uid ≠ se.sessionOwner) ∨
      (se.allowed = .rootAndOwner ∧ self.request.header.uid ≠ se.sessionOwner ∧
        self.request.header.uid ≠ 0)
    (denied ∧ op.exempt = false → ∀ sent,
      (self.dispatch se).run sent =
        (.ok [], sent ++ [(Response.ofErrno .eacces).message self.unique])) ∧
    (¬ (denied ∧ op.exempt = false) →
      self.dispatch se = self.dispatch { se with allowed := .all }) := by
  intro denied
  have hdenied : se.denies self.request.uid = true ↔ denied := denies_iff se self.request.uid
  have hgate : (se.denies self.request.uid ∧ ¬ op.exempt) ↔ denied ∧ op.exempt = false := by
    rw [hdenied, Bool.not_eq_true]
  refine ⟨fun h sent => self.run_dispatch_of_denied hop (hgate.mpr h) sent, fun h => ?_⟩
  have hall : ¬ (({ se with allowed := .all } : SessionEventLoop).denies self.request.uid ∧
      ¬ op.exempt) := by
    rintro ⟨hdenies, -⟩
    obtain ⟨hacl, -⟩ | ⟨hacl, -⟩ := (denies_iff ..).mp hdenies
    · cases hacl
    · cases hacl
  have hreq : self.dispatchReq se = self.dispatchReq { se with allowed := .all } := by
    rw [dispatchReq_of_ok hop, dispatchReq_of_ok hop, dispatchAllowed, dispatchAllowed,
      if_neg (fun hdeny => h (hgate.mp hdeny)), if_neg hall, dispatchOperation_allowed]
    rfl
  rw [dispatch, dispatch, hreq]

/-- A LOOKUP of the name "a". -/
def lookupFrom (uid : UInt32) : RequestWithSender where
  request := {
    header := { (ofBytes FuseInHeader []) with opcode := 1, unique := 5, uid }
    data := ⟨40, [97, 0]⟩
    negotiated := 0 }
  maskedHeader := none

theorem dispatch_gate_stranger :
    ((lookupFrom 1001).dispatch ⟨true, .owner, 1000, 0, 0, none⟩).run [] =
        (.ok [], [(Response.ofErrno .eacces).message ⟨5⟩]) ∧
    (lookupFrom 1000).dispatch ⟨true, .owner, 1000, 0, 0, none⟩ =
      (lookupFrom 1000).dispatch ⟨true, .all, 1000, 0, 0, none⟩ := by
  have hparse (uid : UInt32) : (lookupFrom uid).request.operation =
      .ok (.lookup ⟨(lookupFrom uid).request.header, [97]⟩) := rfl
  refine ⟨(dispatch_gate (lookupFrom 1001) _ _ (hparse 1001)).1 ?_ [],
    (dispatch_gate (lookupFrom 1000) _ _ (hparse 1000)).2 ?_⟩
  · decide
  · decide

/-- A LOOKUP of the name "a" with the given ids. -/
def lookupMessage (uid gid : UInt32) : List UInt8 :=
  toBytes { (ofBytes FuseInHeader []) with len := 42, opcode := 1, unique := 5, uid, gid } ++
    [97, 0]

end RequestWithSender

end Fuser
