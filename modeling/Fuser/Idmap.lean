import Fuser.Dispatch
import Fuser.Framing
import Fuser.Handshake

/-!
Callers of an idmapped mount. The ids in the header of a request are then the
mapped owner of an inode to be created and not the caller's, so that nothing but
an `Owner` argument may depend on them: two messages that differ in their ids
alone have to come to the same call.
-/

namespace Fuser

open Rust Wire ArgumentIterator

namespace Operation

/-- The same operation in a request with another header. -/
def withHeader (header : FuseInHeader) : Operation → Operation
  | .lookup x => .lookup { x with header }
  | .forget x => .forget { x with header }
  | .getAttr x => .getAttr { x with header }
  | .statX x => .statX { x with header }
  | .setAttr x => .setAttr { x with header }
  | .readLink x => .readLink { x with header }
  | .symLink x => .symLink { x with header }
  | .mkNod x => .mkNod { x with header }
  | .mkDir x => .mkDir { x with header }
  | .unlink x => .unlink { x with header }
  | .rmDir x => .rmDir { x with header }
  | .rename x => .rename { x with header }
  | .link x => .link { x with header }
  | .open x => .open { x with header }
  | .read x => .read { x with header }
  | .write x => .write { x with header }
  | .statFs x => .statFs { x with header }
  | .release x => .release { x with header }
  | .fSync x => .fSync { x with header }
  | .setXAttr x => .setXAttr { x with header }
  | .getXAttr x => .getXAttr { x with header }
  | .listXAttr x => .listXAttr { x with header }
  | .removeXAttr x => .removeXAttr { x with header }
  | .flush x => .flush { x with header }
  | .init x => .init { x with header }
  | .openDir x => .openDir { x with header }
  | .readDir x => .readDir { x with header }
  | .releaseDir x => .releaseDir { x with header }
  | .fSyncDir x => .fSyncDir { x with header }
  | .getLk x => .getLk { x with header }
  | .setLk x => .setLk { x with header }
  | .access x => .access { x with header }
  | .create x => .create { x with header }
  | .interrupt x => .interrupt { x with header }
  | .bMap x => .bMap { x with header }
  | .destroy x => .destroy { x with header }
  | .ioCtl x => .ioCtl { x with header }
  | .poll x => .poll { x with header }
  | .notifyReply x => .notifyReply { x with header }
  | .batchForget x => .batchForget { x with header }
  | .fAllocate x => .fAllocate { x with header }
  | .readDirPlus x => .readDirPlus { x with header }
  | .rename2 x => .rename2 { x with header }
  | .lseek x => .lseek { x with header }
  | .copyFileRange x => .copyFileRange { x with header }
  | .syncFs x => .syncFs { x with header }
  | .tmpFile x => .tmpFile { x with header }
  | .cuseInit x => .cuseInit { x with header }

/-- The operations that create an inode, for which an owner is passed on. -/
def creates : Operation → Bool
  | .mkNod _ | .mkDir _ | .symLink _ | .create _ | .tmpFile _ => true
  | .rename2 x => hasFlag x.flags renameWhiteout
  | _ => false

end Operation

/-- A call without what the filesystem is told of an owner. -/
def FsMethod.withoutOwner : FsMethod → FsMethod
  | .mknod parent name mode umask rdev _ => .mknod parent name mode umask rdev ⟨0, 0⟩
  | .mkdir parent name mode umask _ => .mkdir parent name mode umask ⟨0, 0⟩
  | .symlink parent linkName target _ => .symlink parent linkName target ⟨0, 0⟩
  | .rename parent name newparent newname flags _ =>
      .rename parent name newparent newname flags none
  | .create parent name mode umask flags killSuidGid _ =>
      .create parent name mode umask flags killSuidGid ⟨0, 0⟩
  | .tmpfile parent mode umask flags killSuidGid _ =>
      .tmpfile parent mode umask flags killSuidGid ⟨0, 0⟩
  | method => method

def FsCall.withoutOwner (call : FsCall) : FsCall :=
  { call with method := call.method.withoutOwner }

/-- The parser copies the header and uses nothing of it but the node. -/
theorem parseArgs_withHeader {header header' : FuseInHeader}
    (hnode : header'.nodeid = header.nodeid) (negotiated : InitFlags) (opcode : FuseOpcode) :
    parseArgs header' negotiated opcode =
      Operation.withHeader header' <$> parseArgs header negotiated opcode := by
  cases opcode with
  | fuseWrite | fuseSetxattr | fuseInit =>
      simp only [parseArgs, map_bind, apply_ite (Operation.withHeader header' <$> ·), map_pure,
        Method.map_fail, Method.map_abort, Operation.withHeader]
  | _ => simp only [parseArgs, map_bind, map_pure, Operation.withHeader, hnode]

theorem parse_withHeader {header header' : FuseInHeader} (hnode : header'.nodeid = header.nodeid)
    (opcode : FuseOpcode) (data : Slice) (negotiated : InitFlags) :
    parse header' opcode data negotiated =
      (parse header opcode data negotiated).map (Operation.withHeader header') := by
  rw [parse, parse, parseArgs_withHeader hnode, Method.run_map]

/-- Two messages with the same bytes but for the uid and the gid of the header. -/
def SameButIds (d d' : List UInt8) : Prop :=
  d.length = d'.length ∧ ∀ i, i < 24 ∨ 32 ≤ i → d[i]? = d'[i]?

namespace SameButIds

variable {d d' : List UInt8}

/-- A stretch of bytes that does not touch the ids. -/
theorem stretch (h : SameButIds d d') {start width : Nat}
    (hids : start + width ≤ 24 ∨ 32 ≤ start) :
    (d.drop start).take width = (d'.drop start).take width := by
  apply List.ext_getElem?
  intro i
  simp only [List.getElem?_take, List.getElem?_drop]
  by_cases hi : i < width
  · rw [if_pos hi, if_pos hi]
    exact h.2 (start + i) (by omega)
  · rw [if_neg hi, if_neg hi]

theorem messageLen_eq (h : SameButIds d d') :
    AnyRequest.messageLen d = AnyRequest.messageLen d' := by
  have hstretch : (d.drop 0).take 4 = (d'.drop 0).take 4 := h.stretch (by omega)
  rw [AnyRequest.messageLen, AnyRequest.messageLen]
  exact congrArg natOfBytes hstretch

theorem maskHeader_eq (h : SameButIds d d') :
    RequestWithSender.maskHeader (ofBytes FuseInHeader d) =
      RequestWithSender.maskHeader (ofBytes FuseInHeader d') := by
  have hword (start : Nat) (hids : start + 4 ≤ 24 ∨ 32 ≤ start) :
      u32.decode (d.drop start) = u32.decode (d'.drop start) :=
    congrArg (fun bs => UInt32.ofNat (natOfBytes bs)) (h.stretch hids)
  have hlong (start : Nat) (hids : start + 8 ≤ 24 ∨ 32 ≤ start) :
      u64.decode (d.drop start) = u64.decode (d'.drop start) :=
    congrArg (fun bs => UInt64.ofNat (natOfBytes bs)) (h.stretch hids)
  have hfields (bs : List UInt8) : RequestWithSender.maskHeader (ofBytes FuseInHeader bs) =
      ⟨u32.decode (bs.drop 0), u32.decode (bs.drop 4), u64.decode (bs.drop 8),
        u64.decode (bs.drop 16), fuseInvalidUidgid, fuseInvalidUidgid, u32.decode (bs.drop 32),
        u32.decode (bs.drop 36)⟩ := by
    change FuseInHeader.mk (u32.decode bs) (u32.decode (bs.drop 4))
      (u64.decode ((bs.drop 4).drop 4)) (u64.decode (((bs.drop 4).drop 4).drop 8)) _ _
      (u32.decode ((((((bs.drop 4).drop 4).drop 8).drop 8).drop 4).drop 4))
      (u32.decode (((((((bs.drop 4).drop 4).drop 8).drop 8).drop 4).drop 4).drop 4)) = _
    simp only [List.drop_drop, List.drop_zero]
  rw [hfields, hfields, hword 0 (by omega), hword 4 (by omega), hlong 8 (by omega),
    hlong 16 (by omega), hword 32 (by omega), hword 36 (by omega)]

/-- Framing takes over the ids with the header and does not look at them. -/
theorem tryFrom_eq (h : SameButIds d d') {addr : Nat} (haddr : addr % 8 = 0) :
    AnyRequest.tryFrom ⟨addr, d'⟩ =
      (AnyRequest.tryFrom ⟨addr, d⟩).map
        fun request => { request with header := ofBytes FuseInHeader d' } := by
  by_cases hlen : 40 ≤ d.length
  · have hbody : (d.drop 40).take (AnyRequest.messageLen d - 40) =
        (d'.drop 40).take (AnyRequest.messageLen d' - 40) := by
      rw [← h.messageLen_eq]
      exact h.stretch (by omega)
    rw [AnyRequest.tryFrom_of_header haddr hlen,
      AnyRequest.tryFrom_of_header haddr (h.1 ▸ hlen), ← hbody, ← h.messageLen_eq, ← h.1]
    by_cases hshort : d.length < AnyRequest.messageLen d
    · rw [if_pos hshort, if_pos hshort]
      rfl
    · rw [if_neg hshort, if_neg hshort]
      by_cases hheader : 40 ≤ AnyRequest.messageLen d
      · rw [if_pos hheader, if_pos hheader]
        rfl
      · rw [if_neg hheader, if_neg hheader]
        rfl
  · have hshort : d.length < 40 := Nat.not_le.mp hlen
    rw [AnyRequest.tryFrom_of_short haddr hshort, AnyRequest.tryFrom_of_short haddr (h.1 ▸ hshort),
      h.1]
    rfl

end SameButIds

theorem AnyRequest.operation_withHeader (request : AnyRequest) {header : FuseInHeader}
    (hopcode : header.opcode = request.header.opcode)
    (hnode : header.nodeid = request.header.nodeid) :
    ({ request with header } : AnyRequest).operation =
      request.operation.map (Operation.withHeader header) := by
  rw [operation, operation]
  simp only [hopcode]
  cases FuseOpcode.tryFrom request.header.opcode with
  | none => rfl
  | some opcode =>
      simp only [parse_withHeader hnode]
      cases parse request.header opcode request.data request.negotiated <;> rfl

namespace RequestWithSender

/-- Two requests that the dispatcher can tell apart by their ids only. -/
structure Alike (req req' : RequestWithSender) : Prop where
  unique : req'.unique = req.unique
  nodeid : req'.request.header.nodeid = req.request.header.nodeid
  requestHeader : req'.requestHeader = req.requestHeader
  operation : ∃ base : Outcome RequestError Operation,
    req.request.operation = base.map (Operation.withHeader req.request.header) ∧
    req'.request.operation = base.map (Operation.withHeader req'.request.header)

variable {req req' : RequestWithSender} {se : SessionEventLoop}

/-- The copy of the header in an operation matters for its node only. -/
theorem dispatchOperation_withHeader {header header' : FuseInHeader}
    (hnode : header'.nodeid = header.nodeid) (op : Operation) :
    req.dispatchOperation se (op.withHeader header') =
      req.dispatchOperation se (op.withHeader header) := by
  cases op with
  | copyFileRange x =>
      have hsrc : (⟨header', x.arg⟩ : Op.CopyFileRange).src =
          (⟨header, x.arg⟩ : Op.CopyFileRange).src := by
        rw [Op.CopyFileRange.src, Op.CopyFileRange.src, hnode]
      simp only [dispatchOperation, Operation.withHeader, hsrc]
      rfl
  | _ => rfl

theorem Alike.call (h : Alike req req') : req'.call = req.call := by
  funext method reply st
  simp only [RequestWithSender.call, h.requestHeader]

theorem Alike.reply (h : Alike req req') : req'.reply = req.reply := by
  funext st
  simp only [RequestWithSender.reply, h.unique]

theorem Alike.callWithReply (h : Alike req req') : req'.callWithReply = req.callWithReply := by
  funext method
  simp only [RequestWithSender.callWithReply, h.call, h.reply]

/-- An operation that creates nothing is passed on without the ids. -/
theorem Alike.dispatchOperation (h : Alike req req') {op : Operation}
    (hcreates : op.creates = false) :
    req'.dispatchOperation se op = req.dispatchOperation se op := by
  have hnode : req'.nodeid = req.nodeid := congrArg INodeNo.mk h.nodeid
  cases op with
  | mkNod x | mkDir x | symLink x | create x | tmpFile x => cases hcreates
  | rename2 x =>
      have hwhiteout (self : RequestWithSender) : self.whiteoutOwner x.flags = none :=
        if_pos (Bool.eq_false_iff.mp hcreates)
      simp only [RequestWithSender.dispatchOperation, h.callWithReply, hwhiteout]
  | rename x =>
      have hwhiteout (self : RequestWithSender) : self.whiteoutOwner 0 = none :=
        if_pos (by decide)
      simp only [RequestWithSender.dispatchOperation, h.callWithReply, hnode, hwhiteout]
  | _ =>
      simp only [RequestWithSender.dispatchOperation, h.callWithReply, h.call, h.reply, hnode]

/-- The same ending of an arm, with calls that agree in what `f` shows of them. -/
def SameEnding {α β : Type} (f : FsCall → β) (r r' : Outcome Errno α × Dispatching) : Prop :=
  r'.1 = r.1 ∧ r'.2.live = r.2.live ∧ r'.2.calls.map f = r.2.calls.map f

theorem sameEnding_callWithReply {β : Type} {f : FsCall → β} {method method' : FsMethod}
    (h : ∀ request reply, f ⟨request, method', reply⟩ = f ⟨request, method, reply⟩) :
    SameEnding f ((req.callWithReply method).run ⟨[], []⟩)
      ((req.callWithReply method').run ⟨[], []⟩) :=
  ⟨rfl, rfl, congrArg (· :: []) (h ..)⟩

/-- Any operation is passed on without the ids but for the owner. -/
theorem Alike.sameEnding_withoutOwner (h : Alike req req') (op : Operation) :
    SameEnding FsCall.withoutOwner ((req.dispatchOperation se op).run ⟨[], []⟩)
      ((req'.dispatchOperation se op).run ⟨[], []⟩) := by
  have hnode : req'.nodeid = req.nodeid := congrArg INodeNo.mk h.nodeid
  cases hcreates : op.creates with
  | false =>
      rw [h.dispatchOperation hcreates]
      exact ⟨rfl, rfl, rfl⟩
  | true =>
      cases op with
      | mkNod x | mkDir x | symLink x | create x | tmpFile x | rename2 x =>
          simp only [RequestWithSender.dispatchOperation, h.callWithReply, hnode]
          exact sameEnding_callWithReply fun _ _ => rfl
      | _ => cases hcreates

theorem denies_all {se : SessionEventLoop} (hall : se.allowed = .all) (uid : UInt32) :
    se.denies uid = false := by
  rw [SessionEventLoop.denies, hall]
  rfl

/-- Without an access list a parsed operation gets to its arm, if there is a
filesystem. -/
theorem dispatchReq_of_all {self : RequestWithSender} {op : Operation} (hall : se.allowed = .all)
    (hop : self.request.operation = .ok op) :
    self.dispatchReq se =
      if ¬ se.filesystemPresent then .fail .eio
      else do
        self.dispatchOperation se op
        return none := by
  have hgate : ¬ (se.denies self.request.uid ∧ ¬ op.exempt) := by
    rw [denies_all hall]
    rintro ⟨hdenies, -⟩
    cases hdenies
  rw [dispatchReq_of_ok hop, dispatchAllowed, if_neg hgate]

theorem SameEnding.bind {α β γ : Type} {f : FsCall → γ} {m m' : Method Dispatching Errno α}
    {st : Dispatching} {k : α → β} (h : SameEnding f (m.run st) (m'.run st)) :
    SameEnding f ((do return k (← m)).run st) ((do return k (← m')).run st) := by
  obtain ⟨hresult, hlive, hcalls⟩ := h
  have hmap (n : Method Dispatching Errno α) :
      (do return k (← n) : Method Dispatching Errno β) = k <$> n := by
    rw [map_eq_pure_bind]
  rw [hmap, hmap, Method.run_map, Method.run_map]
  exact ⟨congrArg (Outcome.map k) hresult, hlive, hcalls⟩

/-- What a dispatch does, as far as `f` shows the calls. -/
def seen {β : Type} (f : FsCall → β) (result : Outcome Empty (List FsCall) × List (List UInt8)) :
    Outcome Empty (List β) × List (List UInt8) :=
  (result.1.map (List.map f), result.2)

theorem dispatch_seen {β : Type} {f : FsCall → β} (hunique : req'.unique = req.unique)
    (h : SameEnding f ((req.dispatchReq se).run ⟨[], []⟩) ((req'.dispatchReq se).run ⟨[], []⟩))
    (sent : List (List UInt8)) :
    seen f ((req'.dispatch se).run sent) = seen f ((req.dispatch se).run sent) := by
  obtain ⟨hresult, hlive, hcalls⟩ := h
  have hdispatch (self : RequestWithSender) :
      self.dispatch se = (fun _ => ((self.dispatchReq se).run ⟨[], []⟩).2.calls) <$> (do
        ReplyRaw.dropAll ((self.dispatchReq se).run ⟨[], []⟩).2.live
        self.conclude ((self.dispatchReq se).run ⟨[], []⟩).1) := by
    rw [map_eq_pure_bind, bind_assoc]
    rfl
  have hconclude : req'.conclude = req.conclude := by
    funext outcome
    simp only [conclude, hunique]
  rw [hdispatch, hdispatch, Method.run_map, Method.run_map, hresult, hlive, hconclude]
  simp only [seen, Outcome.map_map, hcalls]

/-- Two requests that differ in their ids only come to the same end, as far as
`f` shows the calls, if the arms of their operation do. -/
theorem Alike.dispatch {β : Type} {f : FsCall → β} (h : Alike req req') (hall : se.allowed = .all)
    (hends : ∀ op, req.request.operation = .ok op →
      SameEnding f ((req.dispatchOperation se op).run ⟨[], []⟩)
        ((req'.dispatchOperation se op).run ⟨[], []⟩))
    (sent : List (List UInt8)) :
    seen f ((req'.dispatch se).run sent) = seen f ((req.dispatch se).run sent) := by
  refine dispatch_seen h.unique ?_ sent
  obtain ⟨base, hop, hop'⟩ := h.operation
  cases base with
  | err e =>
      rw [dispatchReq_of_err hop, dispatchReq_of_err hop']
      exact ⟨rfl, rfl, rfl⟩
  | panic reason =>
      rw [dispatchReq, dispatchReq, hop, hop']
      exact ⟨rfl, rfl, rfl⟩
  | ok op =>
      have hop : req.request.operation = .ok (op.withHeader req.request.header) := hop
      have hop' : req'.request.operation = .ok (op.withHeader req'.request.header) := hop'
      rw [dispatchReq_of_all hall hop, dispatchReq_of_all hall hop',
        dispatchOperation_withHeader h.nodeid]
      by_cases hfs : ¬ se.filesystemPresent
      · rw [if_pos hfs, if_pos hfs]
        exact ⟨rfl, rfl, rfl⟩
      · rw [if_neg hfs, if_neg hfs]
        exact (hends _ hop).bind

section Messages

variable {d d' : List UInt8} {addr : Nat} {negotiated : InitFlags}

/-- On an idmapped mount, messages that differ in their ids only are told apart by
nothing but the raw header. -/
theorem alike_of_sameButIds {ε : Type} (h : SameButIds d d') (haddr : addr % 8 = 0)
    (hidmap : negotiated.contains .fuseAllowIdmap = true)
    (hnew : (new ⟨addr, d⟩ negotiated : Outcome ε _) = .ok (some req))
    (hnew' : (new ⟨addr, d'⟩ negotiated : Outcome ε _) = .ok (some req')) : Alike req req' := by
  obtain ⟨request, hframe, hrequest, hmasked⟩ := new_eq_ok hnew
  obtain ⟨request', hframe', hrequest', hmasked'⟩ := new_eq_ok hnew'
  have hheader : request.header = ofBytes FuseInHeader d :=
    (AnyRequest.of_tryFrom_eq_ok haddr hframe).1
  have hsame : request' = { request with header := ofBytes FuseInHeader d' } := by
    have heq := h.tryFrom_eq haddr
    rw [hframe, hframe'] at heq
    exact Outcome.ok.inj heq
  have hmask : maskHeader (ofBytes FuseInHeader d') = maskHeader request.header := by
    rw [hheader, h.maskHeader_eq]
  have hfield {β : Type} (field : FuseInHeader → β) :
      field (maskHeader (ofBytes FuseInHeader d')) = field (maskHeader request.header) :=
    congrArg field hmask
  have hopcode : (ofBytes FuseInHeader d').opcode = request.header.opcode :=
    hfield FuseInHeader.opcode
  have hnode : (ofBytes FuseInHeader d').nodeid = request.header.nodeid :=
    hfield FuseInHeader.nodeid
  have hunique : (ofBytes FuseInHeader d').unique = request.header.unique :=
    hfield FuseInHeader.unique
  refine ⟨?_, ?_, ?_, req.request.operation, ?_, ?_⟩
  · rw [unique, unique, hrequest, hrequest', hsame]
    exact congrArg RequestId.mk hunique
  · rw [hrequest, hrequest', hsame]
    exact hnode
  · rw [requestHeader, requestHeader, hmasked, hmasked', hsame, if_pos hidmap, if_pos hidmap, hmask]
    rfl
  · exact req.request.operation_withHeader rfl rfl
  · rw [hrequest, hrequest', hsame]
    exact (request.setNegotiated negotiated).operation_withHeader hopcode hnode

end Messages

/-- A dispatched call shows the header of `request_header`. -/
theorem Dispatched.request_eq {self : RequestWithSender} {forgets short : Bool}
    {sent sent' : List (List UInt8)} {calls : List FsCall}
    (h : Dispatched self forgets short sent (.ok calls, sent')) {call : FsCall} (hcall : call ∈ calls) :
    call.request = self.requestHeader := by
  cases h with
  | answered => cases hcall
  | called | forgot => rw [List.mem_singleton.mp hcall]

theorem seen_id (result : Outcome Empty (List FsCall) × List (List UInt8)) :
    seen id result = result := by
  rw [seen, List.map_id_fun, Outcome.map_id]

theorem dispatch_of_panic {reason : Panic} (hop : req.request.operation = .panic reason)
    (sent : List (List UInt8)) : (req.dispatch se).run sent = (.panic reason, sent) := by
  rw [dispatch, dispatchReq, hop]
  rfl

theorem request_of_dispatch (hfs : se.filesystemPresent = true) {sent sent' : List (List UInt8)}
    {calls : List FsCall} (h : (req.dispatch se).run sent = (.ok calls, sent')) {call : FsCall}
    (hcall : call ∈ calls) : call.request = req.requestHeader := by
  obtain ⟨hparsed, hunparsed⟩ := req.dispatched se hfs sent
  rw [h] at hparsed hunparsed
  cases hop : req.request.operation with
  | ok op => exact (hparsed op hop).request_eq hcall
  | err e => exact (hunparsed e hop).request_eq hcall
  | panic reason =>
      rw [dispatch_of_panic hop] at h
      cases h

/-- On an idmapped mount the ids of a request decide nothing: they do not show in
the request that the filesystem sees, and they make no difference to the call
other than the owner of an inode that it creates. -/
theorem dispatch_ignores_ids (session : Session) (hsession : session.Initialized)
    (hidmap : session.negotiated.contains .fuseAllowIdmap = true) (ptr : Nat) :
    let se := session.eventLoop
    (∀ d d' req req', SameButIds d d' →
      (new ⟨FuseReadBuf.asMut ptr, d⟩ se.negotiated : Outcome Empty _) = .ok (some req) →
      (new ⟨FuseReadBuf.asMut ptr, d'⟩ se.negotiated : Outcome Empty _) = .ok (some req') →
      ((∀ op, req.request.operation = .ok op → op.creates = false) →
        ∀ sent, (req'.dispatch se).run sent = (req.dispatch se).run sent) ∧
      ∀ sent, seen FsCall.withoutOwner ((req'.dispatch se).run sent) =
        seen FsCall.withoutOwner ((req.dispatch se).run sent)) ∧
    (∀ d req,
      (new ⟨FuseReadBuf.asMut ptr, d⟩ se.negotiated : Outcome Empty _) = .ok (some req) →
      ∀ sent calls sent', (req.dispatch se).run sent = (.ok calls, sent') →
      ∀ call ∈ calls, call.request.uid = none ∧ call.request.gid = none) := by
  intro se
  have hall : se.allowed = .all := (hsession.honors.idmap hidmap).1
  have haddr := FuseReadBuf.asMut_aligned ptr
  have hidmap : se.negotiated.contains .fuseAllowIdmap = true := hidmap
  refine ⟨fun d d' req req' hsame hnew hnew' => ?_, fun d req hnew sent calls sent' hrun => ?_⟩
  · have halike := alike_of_sameButIds hsame haddr hidmap hnew hnew'
    refine ⟨fun hcreates sent => ?_, ?_⟩
    · have hseen := halike.dispatch (f := id) hall (fun op hop => by
        rw [halike.dispatchOperation (hcreates op hop)]
        exact ⟨rfl, rfl, rfl⟩) sent
      rw [seen_id, seen_id] at hseen
      exact hseen
    · exact halike.dispatch hall fun op _ => halike.sameEnding_withoutOwner op
  · intro call hcall
    rw [request_of_dispatch hsession.filesystemPresent hrun hcall]
    obtain ⟨request, -, -, hmasked⟩ := new_eq_ok hnew
    rw [requestHeader, hmasked, if_pos hidmap]
    exact ⟨rfl, rfl⟩

def lookupRequest (uid gid : UInt32) : RequestWithSender where
  request := {
    header := { (ofBytes FuseInHeader []) with len := 42, opcode := 1, unique := 5, uid, gid }
    data := ⟨48, [97, 0]⟩
    negotiated := Session.idmapSession.negotiated }
  maskedHeader := some (maskHeader
    { (ofBytes FuseInHeader []) with len := 42, opcode := 1, unique := 5, uid, gid })

theorem dispatch_ignores_ids_lookup :
    ((lookupRequest 0 0).dispatch Session.idmapSession.eventLoop).run [] =
      ((lookupRequest 1000 100).dispatch Session.idmapSession.eventLoop).run [] := by
  have hsession : Session.idmapSession.Initialized :=
    ⟨Session.idmapEnv, .all, 1000, [], [.message Session.idmapInit], rfl, rfl⟩
  have hidmap : Session.idmapSession.negotiated.contains .fuseAllowIdmap = true := by decide +kernel
  have hsame : SameButIds (lookupMessage 1000 100) (lookupMessage 0 0) := by
    have hbytes : ∀ i < 42, i < 24 ∨ 32 ≤ i →
        (lookupMessage 1000 100)[i]? = (lookupMessage 0 0)[i]? := by decide +kernel
    refine ⟨rfl, fun i hi => ?_⟩
    by_cases hlen : i < 42
    · exact hbytes i hlen hi
    · rw [List.getElem?_eq_none (Nat.not_lt.mp hlen), List.getElem?_eq_none (Nat.not_lt.mp hlen)]
  have hnew : (new ⟨FuseReadBuf.asMut 8, lookupMessage 1000 100⟩ Session.idmapSession.negotiated :
      Outcome Empty _) = .ok (some (lookupRequest 1000 100)) := by decide +kernel
  have hnew' : (new ⟨FuseReadBuf.asMut 8, lookupMessage 0 0⟩ Session.idmapSession.negotiated :
      Outcome Empty _) = .ok (some (lookupRequest 0 0)) := by decide +kernel
  have hparse : (lookupRequest 1000 100).request.operation =
      .ok (.lookup ⟨(lookupRequest 1000 100).request.header, [97]⟩) := rfl
  refine ((dispatch_ignores_ids Session.idmapSession hsession hidmap 8).1 _ _ _ _ hsame hnew
    hnew').1 (fun op hop => ?_) []
  rw [hparse] at hop
  cases hop
  rfl

end RequestWithSender

end Fuser
