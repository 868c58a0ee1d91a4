import Fuser.Dispatch
import Fuser.Encode
import Fuser.Handshake

/-!
Two layouts of one request. A capability decides how a SETXATTR is laid out, and
several opcodes have a later one that says more. A layout that is read as the other
one must not reach the filesystem; the old and the new way to say the same thing
must.
-/

namespace Fuser

open Rust Wire ArgumentIterator

namespace SessionEventLoop

/-- A message that leads to a call of the filesystem, and to nothing else. -/
def Calls (se : SessionEventLoop) (data : Slice) (call : FsCall) : Prop :=
  ∃ req, (RequestWithSender.new data se.negotiated : Outcome Empty _) = .ok (some req) ∧
    ∀ sent, (req.dispatch se).run sent = (.ok [call], sent)

/-- A message that is answered with an error, without a call. -/
def Refuses (se : SessionEventLoop) (data : Slice) (errno : Errno) : Prop :=
  ∃ req, (RequestWithSender.new data se.negotiated : Outcome Empty _) = .ok (some req) ∧
    ∀ sent, (req.dispatch se).run sent =
      (.ok [], sent ++ [(Response.ofErrno errno).message req.unique])

end SessionEventLoop

theorem run_fetchSetxattrFlags_eq_ok {negotiated : InitFlags} {data : Slice} {flags : UInt32}
    {rest : ArgumentIterator} (hlen : 8 ≤ data.len)
    (h : (fetchSetxattrFlags negotiated).run ⟨data.drop 8⟩ = (.ok flags, rest)) :
    flags = (if negotiated.contains .fuseSetxattrExt then
        (ofBytes FuseSetxattrInExt (data.bytes.drop 8)).setxattrFlags else 0) ∧
      setxattrFixed negotiated ≤ data.len ∧ rest = ⟨data.drop (setxattrFixed negotiated)⟩ := by
  rw [fetchSetxattrFlags] at h
  rw [setxattrFixed]
  by_cases hext : negotiated.contains .fuseSetxattrExt
  · simp only [if_pos hext] at h ⊢
    obtain ⟨ext, afterExt, hfetch, hrun⟩ := Method.run_bind_eq_ok h
    obtain ⟨hfits, rfl, rfl⟩ := run_fetch_eq_ok hfetch
    have hfits8 : 8 ≤ data.len - 8 := hfits.trans_eq List.length_drop
    have hdrop : (data.drop 8).drop 8 = data.drop 16 := by
      simp only [Slice.drop, List.drop_drop, Nat.add_assoc, Nat.reduceAdd]
    cases hrun
    refine ⟨rfl, by omega, ?_⟩
    exact congrArg ArgumentIterator.mk hdrop
  · simp only [if_neg hext] at h ⊢
    cases h
    exact ⟨rfl, hlen, rfl⟩

/-- What is known of a SETXATTR that was parsed. -/
theorem parse_setxattr_eq_ok {header : FuseInHeader} {negotiated : InitFlags} {data : Slice}
    {op : Operation} (h : parse header .fuseSetxattr data negotiated = .ok op) :
    ∃ x : Op.SetXAttr, op = .setXAttr x ∧
      x.setxattrFlags = (if negotiated.contains .fuseSetxattrExt then
        (ofBytes FuseSetxattrInExt (data.bytes.drop 8)).setxattrFlags else 0) ∧
      setxattrFixed negotiated ≤ data.len ∧
      data.bytes.drop (setxattrFixed negotiated) = x.name ++ 0 :: x.value ∧ 0 ∉ x.name ∧
      x.value.length = (ofBytes FuseSetxattrIn data.bytes).size.toNat := by
  rw [parse] at h
  rcases hrun : (parseArgs header negotiated .fuseSetxattr).run (.new data) with ⟨outcome, final⟩
  rw [hrun] at h
  cases h
  obtain ⟨arg, afterArg, harg, hrun⟩ := Method.run_bind_eq_ok hrun
  obtain ⟨hlen, rfl, rfl⟩ := run_fetch_eq_ok harg
  obtain ⟨flags, afterFlags, hflags, hrun⟩ := Method.run_bind_eq_ok hrun
  obtain ⟨name, afterName, hname, hrun⟩ := Method.run_bind_eq_ok hrun
  obtain ⟨value, afterValue, hvalue, hrun⟩ := Method.run_bind_eq_ok hrun
  obtain ⟨rfl, hfixed, rfl⟩ := run_fetchSetxattrFlags_eq_ok hlen hflags
  obtain ⟨hnul, hbytes⟩ := run_fetchStr_eq_ok hname
  cases hvalue
  split at hrun
  · cases hrun
  next hsize =>
      cases hrun
      exact ⟨_, rfl, rfl, hfixed, hbytes, hnul, not_not.mp hsize⟩

/-- Up to the first NUL there is no more than up to any NUL. -/
theorem length_le_of_append_nul {a a' b b' : List UInt8} (ha : 0 ∉ a)
    (h : a ++ 0 :: b = a' ++ 0 :: b') : a.length ≤ a'.length := by
  by_contra hlt
  have hlt' : a'.length < a.length := Nat.not_le.mp hlt
  have hget := congrArg (·[a'.length]?) h
  simp only [List.getElem?_append_left hlt', List.getElem?_append_right (Nat.le_refl _),
    Nat.sub_self, List.getElem?_cons_zero] at hget
  exact ha (List.mem_of_getElem? hget)

theorem u32_decode_ne_zero {b : UInt8} (hb : b ≠ 0) (bs : List UInt8) :
    u32.decode (b :: bs) ≠ 0 := by
  intro hzero
  have hnat := congrArg UInt32.toNat hzero
  rw [u32_decode_toNat, natOfBytes, UInt32.toNat_zero] at hnat
  have hbyte : b.toNat = 0 := by
    have hlt := b.toNat_lt
    omega
  exact hb (UInt8.toNat_inj.mp hbyte)

/-- A body that does not pass for a SETXATTR without flags. -/
def Misread (header : FuseInHeader) (negotiated : InitFlags) (data : Slice) : Prop :=
  ∀ op, parse header .fuseSetxattr data negotiated = .ok op →
    ∃ x : Op.SetXAttr, op = .setXAttr x ∧ x.setxattrFlags ≠ 0

section Misread

variable (header : FuseInHeader) {negotiated : InitFlags} {addr : Nat} {arg : FuseSetxattrIn}
variable {name : OsStr} {value : List UInt8}

/-- The padding of the extension is zero, so that the name is found in the flags of
the extension and too much is left for the value. -/
theorem misread_extended (hext : negotiated.contains .fuseSetxattrExt = false) (flags : UInt32)
    (hsize : arg.size.toNat = value.length) :
    Misread header negotiated
      ⟨addr, toBytes arg ++ (toBytes (FuseSetxattrInExt.mk flags 0) ++
        (KernelArgs.cstr name ++ value))⟩ := by
  intro op hop
  obtain ⟨x, -, -, -, hbytes, hname, hvalue⟩ := parse_setxattr_eq_ok hop
  have hfixed : setxattrFixed negotiated = 8 := if_neg (Bool.eq_false_iff.mp hext)
  have harg : (toBytes arg).length = 8 := length_toBytes arg
  rw [ofBytes_toBytes_append, hsize] at hvalue
  rw [hfixed, List.drop_left' harg] at hbytes
  have hflags : (u32.encode flags).length = 4 := u32.length_encode flags
  have hnul : u32.encode flags ++ 0 :: (0 :: 0 :: 0 :: (KernelArgs.cstr name ++ value)) =
      x.name ++ 0 :: x.value := by
    have hext : toBytes (FuseSetxattrInExt.mk flags 0) = u32.encode flags ++ u32.encode 0 := rfl
    have hpadding : u32.encode 0 = [0, 0, 0, 0] := by decide
    rw [← hbytes, hext, hpadding]
    exact (List.append_assoc _ [0, 0, 0, 0] _).symm
  have hshort := length_le_of_append_nul hname hnul.symm
  have htotal := congrArg List.length hnul
  simp only [List.length_append, List.length_cons] at htotal
  omega

/-- The extension is read from the name, and a value of the right length is left only
if it lies in the name as a whole. -/
theorem misread_compat (hext : negotiated.contains .fuseSetxattrExt = true) (hnul : 0 ∉ name)
    (hsize : arg.size.toNat = value.length) :
    Misread header negotiated ⟨addr, toBytes arg ++ (KernelArgs.cstr name ++ value)⟩ := by
  intro op hop
  obtain ⟨x, rfl, hflags, hlen, hbytes, hname, hvalue⟩ := parse_setxattr_eq_ok hop
  have hfixed : setxattrFixed negotiated = 16 := if_pos hext
  have harg : (toBytes arg).length = 8 := length_toBytes arg
  have hdrop : (toBytes arg ++ (KernelArgs.cstr name ++ value)).drop 16 =
      (KernelArgs.cstr name ++ value).drop 8 := by
    rw [List.drop_append, harg, List.drop_eq_nil_of_le (by omega), List.nil_append]
  have hcstr : (KernelArgs.cstr name ++ value).length = name.length + 1 + value.length := by
    simp only [KernelArgs.cstr, List.length_append, List.length_singleton]
  rw [ofBytes_toBytes_append, hsize] at hvalue
  rw [hfixed, Slice.len, List.length_append, harg, hcstr] at hlen
  rw [hfixed, hdrop] at hbytes
  have htotal := congrArg List.length hbytes
  rw [List.length_drop, hcstr, List.length_append, List.length_cons, hvalue] at htotal
  have hlong : 8 ≤ name.length := by omega
  refine ⟨x, rfl, ?_⟩
  cases name with
  | nil => cases hlong
  | cons b bs =>
      have hb : b ≠ 0 := fun hzero => hnul (hzero ▸ List.mem_cons_self)
      rw [hflags, if_pos hext, List.drop_left' harg]
      exact u32_decode_ne_zero hb _

end Misread

namespace KernelArgs

variable (args : KernelArgs) (header : FuseInHeader) (layout : InitFlags)

/-- The request that a session makes of a message of the kernel. -/
def received (addr : Nat) (negotiated : InitFlags) : RequestWithSender where
  request := ⟨args.sentHeader header layout, ⟨addr + 40, args.body layout⟩, negotiated⟩
  maskedHeader :=
    if negotiated.contains .fuseAllowIdmap then
      some (RequestWithSender.maskHeader (args.sentHeader header layout))
    else none

theorem new_encode {ε : Type} {addr : Nat} (haddr : addr % 8 = 0)
    (hlen : 40 + (args.body layout).length < 2 ^ 32) (negotiated : InitFlags) :
    (RequestWithSender.new ⟨addr, args.encode header layout⟩ negotiated : Outcome ε _) =
      .ok (some (args.received header layout addr negotiated)) := by
  have hframe := tryFrom_encode header layout args haddr hlen []
  rw [List.append_nil] at hframe
  rw [RequestWithSender.new, hframe]
  rfl

theorem unique_received (addr : Nat) (negotiated : InitFlags) :
    (args.received header layout addr negotiated).unique = ⟨header.unique⟩ := rfl

theorem nodeid_received (addr : Nat) (negotiated : InitFlags) :
    (args.received header layout addr negotiated).nodeid = ⟨header.nodeid⟩ := rfl

theorem operation_received (addr : Nat) (negotiated : InitFlags) :
    (args.received header layout addr negotiated).request.operation =
      (parse (args.sentHeader header layout) args.opcode ⟨addr + 40, args.body layout⟩
        negotiated).mapErr (fun _ => .insufficientData) :=
  AnyRequest.operation_eq (FuseOpcode.tryFrom_code args.opcode)

end KernelArgs

namespace SessionEventLoop

variable {se : SessionEventLoop} {addr : Nat}

/-- The errors that a misread SETXATTR may be answered with. -/
def Answers (se : SessionEventLoop) (uid : UInt32) (errno : Errno) : Prop :=
  errno = .enosys ∨ errno = .enotsup ∨ errno = .eacces ∧ se.denies uid = true

theorem refuses_of_misread (hfs : se.filesystemPresent = true) (haddr : addr % 8 = 0)
    {args : KernelArgs} {layout : InitFlags} (header : FuseInHeader)
    (hlen : 40 + (args.body layout).length < 2 ^ 32) (hop : args.opcode = .fuseSetxattr)
    (hmisread : Misread (args.sentHeader header layout) se.negotiated
      ⟨addr + 40, args.body layout⟩) :
    ∃ errno, se.Refuses ⟨addr, args.encode header layout⟩ errno ∧
      se.Answers header.uid errno := by
  have hnew := args.new_encode (ε := Empty) header layout haddr hlen se.negotiated
  have hoperation := args.operation_received header layout addr se.negotiated
  generalize hreq : args.received header layout addr se.negotiated = req at hnew hoperation
  have huid : req.request.uid = header.uid := hreq ▸ rfl
  have hbody : (addr + 40) % 8 = 0 := by omega
  have hreturns : (parse (args.sentHeader header layout) .fuseSetxattr
      ⟨addr + 40, args.body layout⟩ se.negotiated).Returns := parse_returns hbody (by decide)
  rw [hop] at hoperation
  cases hparse : parse (args.sentHeader header layout) .fuseSetxattr
      ⟨addr + 40, args.body layout⟩ se.negotiated with
  | panic reason => exact absurd hparse (hreturns reason)
  | err e =>
      rw [hparse] at hoperation
      refine ⟨.enosys, ⟨req, hnew, ?_⟩, .inl rfl⟩
      exact RequestWithSender.run_dispatch_of_err (RequestWithSender.dispatchReq_of_err hoperation)
  | ok op =>
      obtain ⟨x, rfl, hflags⟩ := hmisread op hparse
      rw [hparse] at hoperation
      by_cases hdenied : se.denies req.request.uid
      · refine ⟨.eacces, ⟨req, hnew, ?_⟩, .inr (.inr ⟨rfl, huid ▸ hdenied⟩)⟩
        exact req.run_dispatch_of_denied hoperation ⟨hdenied, Bool.false_ne_true⟩
      · refine ⟨.enotsup, ⟨req, hnew, ?_⟩, .inr (.inl rfl)⟩
        refine RequestWithSender.run_dispatch_of_err ?_
        rw [req.dispatchReq_of_allowed hoperation hfs fun h => hdenied h.1,
          RequestWithSender.dispatchOperation, if_pos hflags]
        rfl

/-- A SETXATTR in the layout that was not agreed on is answered with an error and does
not reach the filesystem. -/
theorem setxattr_mismatch_refused (hfs : se.filesystemPresent = true) (ptr : Nat)
    (header : FuseInHeader) (name : OsStr) (value : List UInt8) (size : UInt32) (flags : Int32)
    (setxattrFlags : UInt32) (hname : 0 ∉ name)
    (hsize : size.toNat = value.length) (hlen : 57 + name.length + value.length < 2 ^ 32) :
    let args : KernelArgs := .setxattr ⟨size, flags⟩ ⟨setxattrFlags, 0⟩ name value
    (se.negotiated.contains .fuseSetxattrExt = false → ∃ errno,
      se.Refuses ⟨FuseReadBuf.asMut ptr, args.encode header .fuseSetxattrExt⟩ errno ∧
      se.Answers header.uid errno) ∧
    (se.negotiated.contains .fuseSetxattrExt = true → ∃ errno,
      se.Refuses ⟨FuseReadBuf.asMut ptr, args.encode header 0⟩ errno ∧
      se.Answers header.uid errno) := by
  intro args
  have haddr := FuseReadBuf.asMut_aligned ptr
  have hcstr : (KernelArgs.cstr name ++ value).length = name.length + 1 + value.length := by
    simp only [KernelArgs.cstr, List.length_append, List.length_singleton]
  have harg : (toBytes (FuseSetxattrIn.mk size flags)).length = 8 := length_toBytes _
  have hext : (toBytes (FuseSetxattrInExt.mk setxattrFlags 0)).length = 8 := length_toBytes _
  refine ⟨fun hcompat => ?_, fun hextended => ?_⟩
  · have hbody : args.body .fuseSetxattrExt = toBytes (FuseSetxattrIn.mk size flags) ++
        (toBytes (FuseSetxattrInExt.mk setxattrFlags 0) ++ (KernelArgs.cstr name ++ value)) := rfl
    refine refuses_of_misread hfs haddr header ?_ rfl ?_
    · rw [hbody, List.length_append, List.length_append, hcstr, harg, hext]
      omega
    · rw [hbody]
      exact misread_extended _ hcompat setxattrFlags hsize
  · have hbody : args.body 0 = toBytes (FuseSetxattrIn.mk size flags) ++
        (KernelArgs.cstr name ++ value) := rfl
    refine refuses_of_misread hfs haddr header ?_ rfl ?_
    · rw [hbody, List.length_append, hcstr, harg]
      omega
    · rw [hbody]
      exact misread_compat _ hextended hname hsize

theorem setxattr_mismatch_refused_user :
    ∃ errno, (⟨true, .all, 1000, .fuseSetxattrExt, 0, none⟩ : SessionEventLoop).Refuses
        ⟨FuseReadBuf.asMut 8, (KernelArgs.setxattr ⟨3, 0⟩ ⟨0, 0⟩
          [117, 115, 101, 114, 46, 102, 111, 111] [98, 97, 114]).encode (ofBytes FuseInHeader []) 0⟩
        errno ∧
      (⟨true, .all, 1000, .fuseSetxattrExt, 0, none⟩ : SessionEventLoop).Answers 0 errno :=
  (setxattr_mismatch_refused rfl 8 (ofBytes FuseInHeader []) _ _ 3 0 0 (by decide) rfl
    (by decide)).2 (by decide)

end SessionEventLoop

/-- What a filesystem can tell of a request. -/
structure Request.SameAs (request request' : Request) : Prop where
  unique : request.unique = request'.unique
  uid : request.uid = request'.uid
  gid : request.gid = request'.gid
  pid : request.pid = request'.pid

/-- What a filesystem can tell two calls apart by. -/
structure FsCall.SameAs (call call' : FsCall) : Prop where
  request : call.request.SameAs call'.request
  method : call.method = call'.method
  reply : call.reply = call'.reply

/-- A request shows no more of its header than this. -/
theorem Request.sameAs_of_header {header header' : FuseInHeader}
    (hunique : header.unique = header'.unique) (huid : header.uid = header'.uid)
    (hgid : header.gid = header'.gid) (hpid : header.pid = header'.pid) :
    (Request.mk header).SameAs (Request.mk header') := by
  refine ⟨?_, ?_, ?_, ?_⟩
  · simp only [Request.unique, hunique]
  · simp only [Request.uid, huid]
  · simp only [Request.gid, hgid]
  · simp only [Request.pid, hpid]

/-- Only the ids of a header show in the request. -/
theorem KernelArgs.sameRequest_received (args args' : KernelArgs) {header header' : FuseInHeader}
    (layout layout' : InitFlags) (addr : Nat) {negotiated negotiated' : InitFlags}
    (hheader : ∃ nodeid, header' = { header with nodeid })
    (hidmap : negotiated'.contains .fuseAllowIdmap = negotiated.contains .fuseAllowIdmap) :
    (args.received header layout addr negotiated).requestHeader.SameAs
      (args'.received header' layout' addr negotiated').requestHeader := by
  obtain ⟨nodeid, rfl⟩ := hheader
  have hunique (args : KernelArgs) (header : FuseInHeader) (layout : InitFlags) :
      (args.sentHeader header layout).unique = header.unique := rfl
  have hpid (args : KernelArgs) (header : FuseInHeader) (layout : InitFlags) :
      (args.sentHeader header layout).pid = header.pid := rfl
  have huid (args : KernelArgs) (header : FuseInHeader) (layout : InitFlags) :
      (args.sentHeader header layout).uid = header.uid := rfl
  have hgid (args : KernelArgs) (header : FuseInHeader) (layout : InitFlags) :
      (args.sentHeader header layout).gid = header.gid := rfl
  simp only [RequestWithSender.requestHeader, KernelArgs.received, hidmap]
  by_cases hmask : negotiated.contains .fuseAllowIdmap
  · rw [if_pos hmask, if_pos hmask]
    refine Request.sameAs_of_header ?_ ?_ ?_ ?_ <;>
      simp only [Option.getD_some, RequestWithSender.maskHeader, hunique, hpid]
  · rw [if_neg hmask, if_neg hmask]
    refine Request.sameAs_of_header ?_ ?_ ?_ ?_ <;>
      simp only [Option.getD_none, hunique, huid, hgid, hpid]

namespace SessionEventLoop

variable {se se' : SessionEventLoop} {addr : Nat} {header : FuseInHeader}

/-- A message of the kernel whose arm makes one call. -/
theorem calls_encode (args : KernelArgs) (hfs : se.filesystemPresent = true)
    (haddr : addr % 8 = 0)
    (hwf : args.WellFormed) (hlen : 40 + (args.body se.negotiated).length < 2 ^ 32)
    (hallowed : se.denies header.uid = false ∨
      (args.operation (args.sentHeader header se.negotiated) se.negotiated).exempt = true)
    {call : FsCall}
    (hrun : ((args.received header se.negotiated addr se.negotiated).dispatchOperation se
      (args.operation (args.sentHeader header se.negotiated) se.negotiated)).run ⟨[], []⟩ =
        (.ok (), ⟨[], [call]⟩)) :
    se.Calls ⟨addr, args.encode header se.negotiated⟩ call := by
  have hbody : (addr + 40) % 8 = 0 := by omega
  have hoperation := args.operation_received header se.negotiated addr se.negotiated
  rw [parse_body _ se.negotiated hbody args hwf] at hoperation
  refine ⟨_, args.new_encode header se.negotiated haddr hlen se.negotiated, fun sent => ?_⟩
  have hgate : ¬ (se.denies (args.received header se.negotiated addr se.negotiated).request.uid ∧
      ¬ (args.operation (args.sentHeader header se.negotiated) se.negotiated).exempt) := by
    rintro ⟨hdenied, hexempt⟩
    cases hallowed with
    | inl h => exact Bool.eq_false_iff.mp h hdenied
    | inr h => exact hexempt h
  rw [RequestWithSender.dispatch, RequestWithSender.dispatchReq_of_allowed _ hoperation hfs hgate,
    Method.run_bind_of_ok _ hrun]
  rfl

theorem refuses_encode (args : KernelArgs) (haddr : addr % 8 = 0) (hwf : args.WellFormed)
    (hlen : 40 + (args.body se.negotiated).length < 2 ^ 32)
    (hexempt : (args.operation (args.sentHeader header se.negotiated) se.negotiated).exempt = false)
    (hdenied : se.denies header.uid = true) :
    se.Refuses ⟨addr, args.encode header se.negotiated⟩ .eacces := by
  have hbody : (addr + 40) % 8 = 0 := by omega
  have hoperation := args.operation_received header se.negotiated addr se.negotiated
  rw [parse_body _ se.negotiated hbody args hwf] at hoperation
  refine ⟨_, args.new_encode header se.negotiated haddr hlen se.negotiated, fun sent => ?_⟩
  exact RequestWithSender.run_dispatch_of_denied _ hoperation
    ⟨hdenied, Bool.eq_false_iff.mp hexempt⟩ sent

/-- Two messages that are both denied, or lead to calls that `same` relates. -/
def Alike (se se' : SessionEventLoop) (uid : UInt32) (data data' : Slice)
    (same : FsCall → FsCall → Prop) : Prop :=
  (se.denies uid = true → se.Refuses data .eacces ∧ se'.Refuses data' .eacces) ∧
  (se.denies uid = false → ∃ call call', se.Calls data call ∧ se'.Calls data' call' ∧
    same call call')

theorem Alike.imp {uid : UInt32} {data data' : Slice} {same same' : FsCall → FsCall → Prop}
    (h : Alike se se' uid data data' same)
    (himp : ∀ call call', same call call' → same' call call') :
    Alike se se' uid data data' same' := by
  refine ⟨h.1, fun hallowed => ?_⟩
  obtain ⟨call, call', hcall, hcall', hsame⟩ := h.2 hallowed
  exact ⟨call, call', hcall, hcall', himp call call' hsame⟩

/-- Two messages whose arms call a method with a reply object. -/
theorem alike_encode (args args' : KernelArgs) (hfs : se.filesystemPresent = true)
    (hfs' : se'.filesystemPresent = true)
    (hdenies : se'.denies header.uid = se.denies header.uid)
    (hidmap : se'.negotiated.contains .fuseAllowIdmap = se.negotiated.contains .fuseAllowIdmap)
    (haddr : addr % 8 = 0)
    (hwf : args.WellFormed) (hwf' : args'.WellFormed)
    (hlen : 40 + (args.body se.negotiated).length < 2 ^ 32)
    (hlen' : 40 + (args'.body se'.negotiated).length < 2 ^ 32)
    (hexempt : (args.operation (args.sentHeader header se.negotiated) se.negotiated).exempt = false)
    (hexempt' :
      (args'.operation (args'.sentHeader header se'.negotiated) se'.negotiated).exempt = false)
    {method method' : FsMethod}
    (hrun : (args.received header se.negotiated addr se.negotiated).dispatchOperation se
        (args.operation (args.sentHeader header se.negotiated) se.negotiated) =
      (args.received header se.negotiated addr se.negotiated).callWithReply method)
    (hrun' : (args'.received header se'.negotiated addr se'.negotiated).dispatchOperation se'
        (args'.operation (args'.sentHeader header se'.negotiated) se'.negotiated) =
      (args'.received header se'.negotiated addr se'.negotiated).callWithReply method') :
    Alike se se' header.uid ⟨addr, args.encode header se.negotiated⟩
      ⟨addr, args'.encode header se'.negotiated⟩ fun call call' =>
        call.request.SameAs call'.request ∧ call.reply = call'.reply ∧
        call.method = method ∧ call'.method = method' := by
  refine ⟨fun hdenied => ⟨?_, ?_⟩, fun hallowed => ?_⟩
  · exact refuses_encode args haddr hwf hlen hexempt hdenied
  · exact refuses_encode args' haddr hwf' hlen' hexempt' (hdenies.trans hdenied)
  · have hcalls := calls_encode args hfs haddr hwf hlen (.inl hallowed)
      (hrun ▸ RequestWithSender.run_callWithReply _ method)
    have hcalls' := calls_encode args' hfs' haddr hwf' hlen' (.inl (hdenies.trans hallowed))
      (hrun' ▸ RequestWithSender.run_callWithReply _ method')
    refine ⟨_, _, hcalls, hcalls', ?_, ?_, rfl, rfl⟩
    · exact args.sameRequest_received args' _ _ addr ⟨header.nodeid, rfl⟩ hidmap
    · simp only [KernelArgs.unique_received]

theorem rename_alike (hfs : se.filesystemPresent = true) (haddr : addr % 8 = 0)
    (newdir : UInt64) (padding : UInt32) {oldName newName : OsStr} (hold : 0 ∉ oldName)
    (hnew : 0 ∉ newName) (hlen : 58 + oldName.length + newName.length < 2 ^ 32) :
    Alike se se header.uid
      ⟨addr, (KernelArgs.rename ⟨newdir⟩ oldName newName).encode header se.negotiated⟩
      ⟨addr, (KernelArgs.rename2 ⟨newdir, 0, padding⟩ oldName newName).encode header se.negotiated⟩
      fun call call' => call.SameAs call' ∧
        call.method = .rename ⟨header.nodeid⟩ oldName ⟨newdir⟩ newName 0 none := by
  have harg : (toBytes (FuseRenameIn.mk newdir)).length = 8 := length_toBytes _
  have harg2 : (toBytes (FuseRename2In.mk newdir 0 padding)).length = 16 := length_toBytes _
  have hnames : (KernelArgs.cstr oldName ++ KernelArgs.cstr newName).length =
      oldName.length + 1 + (newName.length + 1) := by
    simp only [KernelArgs.cstr, List.length_append, List.length_singleton]
  refine (alike_encode (.rename ⟨newdir⟩ oldName newName)
    (.rename2 ⟨newdir, 0, padding⟩ oldName newName) hfs hfs rfl rfl haddr ⟨hold, hnew⟩
    ⟨hold, hnew⟩ ?_ ?_ rfl rfl rfl rfl).imp ?_
  · rw [KernelArgs.body, List.length_append, hnames, harg]
    omega
  · rw [KernelArgs.body, List.length_append, hnames, harg2]
    omega
  · rintro call call' ⟨hrequest, hreply, hmethod, hmethod'⟩
    exact ⟨⟨hrequest, hmethod.trans hmethod'.symm, hreply⟩, hmethod⟩

theorem length_body_setxattr (layout : InitFlags) (arg : FuseSetxattrIn) (ext : FuseSetxattrInExt)
    (name : OsStr) (value : List UInt8) :
    ((KernelArgs.setxattr arg ext name value).body layout).length ≤
      17 + name.length + value.length := by
  have harg : (toBytes arg).length = 8 := length_toBytes arg
  have hext : (toBytes ext).length = 8 := length_toBytes ext
  rw [KernelArgs.body]
  by_cases hlayout : layout.contains .fuseSetxattrExt
  · simp only [if_pos hlayout, KernelArgs.cstr, List.length_append, List.length_singleton, harg,
      hext]
    omega
  · simp only [if_neg hlayout, KernelArgs.cstr, List.length_append, List.length_singleton, harg,
      List.length_nil]
    omega

/-- Without flags in its extension, a SETXATTR reaches the filesystem in either
layout. -/
theorem dispatchOperation_setxattr (self : RequestWithSender) (se : SessionEventLoop)
    (header : FuseInHeader) (layout : InitFlags) (arg : FuseSetxattrIn) (padding : UInt32)
    (name : OsStr) (value : List UInt8) :
    self.dispatchOperation se
        ((KernelArgs.setxattr arg ⟨0, padding⟩ name value).operation header layout) =
      self.callWithReply (.setxattr self.nodeid name value arg.flags 0) := by
  rw [KernelArgs.operation, RequestWithSender.dispatchOperation, if_neg]
  · rfl
  · simp only [ite_self, ne_eq, not_true_eq_false, not_false_eq_true]

theorem setxattr_alike (hfs : se.filesystemPresent = true) (haddr : addr % 8 = 0)
    {size : UInt32} (padding : UInt32) (flags : Int32) {name : OsStr} {value : List UInt8}
    (hname : 0 ∉ name) (hsize : size.toNat = value.length)
    (hlen : 57 + name.length + value.length < 2 ^ 32) :
    let se' := { se with negotiated := se.negotiated ||| .fuseSetxattrExt }
    let args : KernelArgs := .setxattr ⟨size, flags⟩ ⟨0, padding⟩ name value
    Alike se se' header.uid ⟨addr, args.encode header se.negotiated⟩
      ⟨addr, args.encode header se'.negotiated⟩ fun call call' => call.SameAs call' ∧
        call.method = .setxattr ⟨header.nodeid⟩ name value flags 0 := by
  intro se' args
  have hidmap : se'.negotiated.contains .fuseAllowIdmap =
      se.negotiated.contains .fuseAllowIdmap := by
    simp only [se', InitFlags.contains, InitFlags.fuseAllowIdmap, InitFlags.fuseSetxattrExt,
      Bitflags.contains_twoPow _ (by decide : 40 < 64), BitVec.getLsbD_or, BitVec.getLsbD_twoPow]
    simp
  have hbody (layout : InitFlags) : 40 + (args.body layout).length < 2 ^ 32 := by
    have hle : (args.body layout).length ≤ 17 + name.length + value.length :=
      length_body_setxattr layout ⟨size, flags⟩ ⟨0, padding⟩ name value
    omega
  have hfs' : se'.filesystemPresent = true := hfs
  have hdenies : se'.denies header.uid = se.denies header.uid := rfl
  have hrun (se : SessionEventLoop) := dispatchOperation_setxattr
    (args.received header se.negotiated addr se.negotiated) se
    (args.sentHeader header se.negotiated) se.negotiated ⟨size, flags⟩ padding name value
  simp only [KernelArgs.nodeid_received] at hrun
  refine (alike_encode args args hfs hfs' hdenies hidmap haddr ⟨hname, hsize⟩ ⟨hname, hsize⟩
    (hbody _) (hbody _) rfl rfl (hrun se) (hrun se')).imp ?_
  rintro call call' ⟨hrequest, hreply, hmethod, hmethod'⟩
  exact ⟨⟨hrequest, hmethod.trans hmethod'.symm, hreply⟩, hmethod⟩

/-- The trait's `batch_forget` makes one call for each node. -/
theorem defaultBatchForget_eq_map (req : Request) (nodes : List FuseForgetOne) :
    defaultBatchForget req nodes =
      nodes.map fun node => ⟨req, .forget ⟨node.nodeid⟩ node.nlookup, none⟩ := by
  induction nodes with
  | nil => rfl
  | cons node nodes ih => rw [defaultBatchForget, List.map_cons, ih]

/-- The call that a batch of nodes to forget leads to, and the calls for the nodes one
by one. -/
theorem forget_alike (hfs : se.filesystemPresent = true) (haddr : addr % 8 = 0)
    (arg : FuseBatchForgetIn) (nodes : List FuseForgetOne)
    (hcount : arg.count.toNat = nodes.length) (hlen : 48 + 16 * nodes.length < 2 ^ 32) :
    ∃ call calls,
      se.Calls ⟨addr, (KernelArgs.batchForget arg nodes).encode header se.negotiated⟩ call ∧
      call.method = .batchForget nodes ∧ call.reply = none ∧
      List.Forall₂ (fun node call' => se.Calls
        ⟨addr, (KernelArgs.forget ⟨node.nlookup⟩).encode { header with nodeid := node.nodeid }
          se.negotiated⟩ call') nodes calls ∧
      List.Forall₂ FsCall.SameAs (defaultBatchForget call.request nodes) calls := by
  have harg : (toBytes arg).length = 8 := length_toBytes arg
  have hnodes : (listToBytes nodes).length = nodes.length * 16 := length_listToBytes nodes
  have hbatch : 40 + ((KernelArgs.batchForget arg nodes).body se.negotiated).length < 2 ^ 32 := by
    rw [KernelArgs.body, List.length_append, harg, hnodes]
    omega
  have hforget (node : FuseForgetOne) : 40 +
      ((KernelArgs.forget ⟨node.nlookup⟩).body se.negotiated).length < 2 ^ 32 := by
    rw [KernelArgs.body, length_toBytes]
    decide
  have hcalls : se.Calls
      ⟨addr, (KernelArgs.batchForget arg nodes).encode header se.negotiated⟩ _ :=
    calls_encode (.batchForget arg nodes) hfs haddr hcount hbatch (.inr rfl) rfl
  refine ⟨_, nodes.map fun node => ⟨((KernelArgs.forget ⟨node.nlookup⟩).received
    { header with nodeid := node.nodeid } se.negotiated addr se.negotiated).requestHeader,
    .forget ⟨node.nodeid⟩ node.nlookup, none⟩, hcalls, rfl, rfl, ?_, ?_⟩
  · rw [List.forall₂_map_right_iff, List.forall₂_same]
    intro node _
    exact calls_encode (.forget ⟨node.nlookup⟩) hfs haddr trivial (hforget node) (.inr rfl) rfl
  · rw [defaultBatchForget_eq_map, List.forall₂_map_left_iff, List.forall₂_map_right_iff,
      List.forall₂_same]
    intro node _
    exact ⟨KernelArgs.sameRequest_received _ _ _ _ addr ⟨node.nodeid, rfl⟩ rfl, rfl, rfl⟩

/-- The old and the new way to say the same thing lead to the same calls: RENAME and
RENAME2, the two layouts of SETXATTR, BATCH_FORGET and FORGET, SETLK and SETLKW. -/
theorem legacy_agrees (hfs : se.filesystemPresent = true) (ptr : Nat) (header : FuseInHeader) :
    let addr := FuseReadBuf.asMut ptr
    (∀ (newdir : UInt64) (padding : UInt32) (oldName newName : OsStr),
      0 ∉ oldName → 0 ∉ newName → 58 + oldName.length + newName.length < 2 ^ 32 →
      Alike se se header.uid
        ⟨addr, (KernelArgs.rename ⟨newdir⟩ oldName newName).encode header se.negotiated⟩
        ⟨addr, (KernelArgs.rename2 ⟨newdir, 0, padding⟩ oldName newName).encode header
          se.negotiated⟩
        fun call call' => call.SameAs call' ∧
          call.method = .rename ⟨header.nodeid⟩ oldName ⟨newdir⟩ newName 0 none) ∧
    (se.negotiated.contains .fuseSetxattrExt = false →
      ∀ (size padding : UInt32) (flags : Int32) (name : OsStr) (value : List UInt8), 0 ∉ name →
      size.toNat = value.length → 57 + name.length + value.length < 2 ^ 32 →
      let se' := { se with negotiated := se.negotiated ||| .fuseSetxattrExt }
      let args : KernelArgs := .setxattr ⟨size, flags⟩ ⟨0, padding⟩ name value
      Alike se se' header.uid ⟨addr, args.encode header se.negotiated⟩
        ⟨addr, args.encode header se'.negotiated⟩
        fun call call' => call.SameAs call' ∧
          call.method = .setxattr ⟨header.nodeid⟩ name value flags 0) ∧
    (∀ (arg : FuseBatchForgetIn) (nodes : List FuseForgetOne), arg.count.toNat = nodes.length →
      48 + 16 * nodes.length < 2 ^ 32 → ∃ call calls,
      se.Calls ⟨addr, (KernelArgs.batchForget arg nodes).encode header se.negotiated⟩ call ∧
      call.method = .batchForget nodes ∧ call.reply = none ∧
      List.Forall₂ (fun node call' => se.Calls
        ⟨addr, (KernelArgs.forget ⟨node.nlookup⟩).encode { header with nodeid := node.nodeid }
          se.negotiated⟩ call') nodes calls ∧
      List.Forall₂ FsCall.SameAs (defaultBatchForget call.request nodes) calls) ∧
    (∀ arg : FuseLkIn,
      Alike se se header.uid ⟨addr, (KernelArgs.setlk arg).encode header se.negotiated⟩
        ⟨addr, (KernelArgs.setlkw arg).encode header se.negotiated⟩
        fun call call' => call.request.SameAs call'.request ∧ call.reply = call'.reply ∧
          call.method = .setlk ⟨header.nodeid⟩ ⟨arg.fh⟩ ⟨arg.owner⟩ arg.lk.start arg.lk.stop
            arg.lk.typ arg.lk.pid false ∧
          call'.method = .setlk ⟨header.nodeid⟩ ⟨arg.fh⟩ ⟨arg.owner⟩ arg.lk.start arg.lk.stop
            arg.lk.typ arg.lk.pid true) := by
  intro addr
  have haddr : addr % 8 = 0 := FuseReadBuf.asMut_aligned ptr
  refine ⟨?_, ?_, ?_, fun arg => ?_⟩
  · intro newdir padding oldName newName hold hnew hlen
    exact rename_alike hfs haddr newdir padding hold hnew hlen
  · intro _ size padding flags name value hname hsize hlen
    exact setxattr_alike hfs haddr padding flags hname hsize hlen
  · intro arg nodes hcount hlen
    exact forget_alike hfs haddr arg nodes hcount hlen
  · have hlen : 40 + (toBytes arg).length < 2 ^ 32 := by
      rw [length_toBytes]
      decide
    exact alike_encode (.setlk arg) (.setlkw arg) hfs hfs rfl rfl haddr trivial trivial hlen hlen
      rfl rfl rfl rfl

/-- A session that serves everyone and agreed on nothing. -/
def plain : SessionEventLoop := ⟨true, .all, 1000, 0, 0, none⟩

theorem legacy_agrees_forget :
    ∃ call calls,
      plain.Calls ⟨FuseReadBuf.asMut 8, (KernelArgs.batchForget ⟨2, 0⟩ [⟨7, 1⟩, ⟨9, 4⟩]).encode
        (ofBytes FuseInHeader []) 0⟩ call ∧
      List.Forall₂ FsCall.SameAs (defaultBatchForget call.request [⟨7, 1⟩, ⟨9, 4⟩]) calls := by
  have hfs : plain.filesystemPresent = true := rfl
  obtain ⟨call, calls, hcall, -, -, -, hsame⟩ :=
    (legacy_agrees hfs 8 (ofBytes FuseInHeader [])).2.2.1 ⟨2, 0⟩ [⟨7, 1⟩, ⟨9, 4⟩] rfl (by decide)
  exact ⟨call, calls, hcall, hsame⟩

end SessionEventLoop

end Fuser
