import Fuser.Dispatch
import Fuser.Parsing
import Mathlib.Data.UInt

/-!
What the dispatcher refuses on its own. An operation is refused before there is
a reply object for it, or it leads to one call of the filesystem. Offsets that do
not fit the signed `off_t` are refused, so that the filesystem is handed the number
that was on the wire.
-/

namespace Fuser

open Rust Wire

namespace Operation

/-- The numbers on the wire that the filesystem is handed as file offsets. -/
def wireOffsets : Operation → List UInt64
  | .read x => [x.arg.offset]
  | .write x => [x.arg.offset.toUInt64]
  | .fAllocate x => [x.arg.offset, x.arg.length]
  | .copyFileRange x => [x.arg.offIn.toUInt64, x.arg.offOut.toUInt64]
  | _ => []

/-- The error that an operation is refused with. -/
def refusal : Operation → Option Errno
  | .init _ | .destroy _ => some .eio
  | .interrupt _ | .notifyReply _ | .cuseInit _ => some .enosys
  | .ioCtl x => if x.unrestricted then some .enosys else none
  | .setXAttr x => if x.setxattrFlags ≠ 0 then some .enotsup else none
  | op => if op.wireOffsets.all (·.toNat ≤ 2 ^ 63 - 1) then none else some .einval

end Operation

/-- The arguments of a method that are file offsets. -/
def FsMethod.offsets : FsMethod → List UInt64
  | .read _ _ offset _ _ _ => [offset]
  | .write _ _ offset _ _ _ _ => [offset]
  | .fallocate _ _ offset length _ => [offset, length]
  | .copyFileRange _ _ offsetIn _ _ offsetOut _ _ => [offsetIn, offsetOut]
  | _ => []

/-- How an arm decides on an operation. -/
inductive Decided (op : Operation) : Outcome Errno Unit × Dispatching → Prop where
  | refused (errno : Errno) (h : op.refusal = some errno) : Decided op (.err errno, ⟨[], []⟩)
  | called (call : FsCall) (h : op.refusal = none) (hoffsets : call.method.offsets = op.wireOffsets) :
      Decided op (.ok (), ⟨[], [call]⟩)

namespace Operation

/-- An operation that is refused for its offsets only. -/
def ChecksOffsets (op : Operation) : Prop :=
  op.refusal = if op.wireOffsets.all (·.toNat ≤ 2 ^ 63 - 1) then none else some .einval

variable {op : Operation}

theorem ChecksOffsets.refused (hop : op.ChecksOffsets) {offset : UInt64}
    (hmem : offset ∈ op.wireOffsets) (h : ¬ offset.toNat ≤ 2 ^ 63 - 1) :
    op.refusal = some .einval :=
  hop.trans (if_neg fun hall => h (of_decide_eq_true (List.all_eq_true.mp hall offset hmem)))

theorem ChecksOffsets.allowed (hop : op.ChecksOffsets)
    (h : ∀ offset ∈ op.wireOffsets, offset.toNat ≤ 2 ^ 63 - 1) : op.refusal = none :=
  hop.trans (if_pos (List.all_eq_true.mpr fun offset hmem => decide_eq_true (h offset hmem)))

/-- Whatever is not refused has good offsets. -/
theorem offsets_le_of_refusal (h : op.refusal = none) :
    ∀ offset ∈ op.wireOffsets, offset.toNat ≤ 2 ^ 63 - 1 := by
  have hchecked (hop : op.ChecksOffsets) :
      ∀ offset ∈ op.wireOffsets, offset.toNat ≤ 2 ^ 63 - 1 := by
    intro offset hmem
    by_contra hlarge
    rw [hop.refused hmem hlarge] at h
    cases h
  cases op with
  | read x | write x | fAllocate x | copyFileRange x => exact hchecked rfl
  | _ => exact nofun

end Operation

/-- An argument that is checked: the arm returns, or goes on with it. -/
theorem decided_offset {α : Type} {op : Operation} (hop : op.ChecksOffsets) {value : UInt64}
    (hmem : value ∈ op.wireOffsets) {a : α} {f : α → Method Dispatching Errno Unit}
    (h : value.toNat ≤ 2 ^ 63 - 1 → Decided op ((f a).run ⟨[], []⟩)) :
    Decided op ((Method.ofOutcome (do validateOffT value; return a) >>= f).run ⟨[], []⟩) := by
  rw [validateOffT]
  by_cases hle : value.toNat ≤ 2 ^ 63 - 1
  · rw [if_neg (Nat.not_lt.mpr hle)]
    exact h hle
  · rw [if_pos (Nat.not_le.mp hle)]
    exact .refused _ (hop.refused hmem hle)

namespace RequestWithSender

variable (self : RequestWithSender)

theorem decided_call {op : Operation} (method : FsMethod) {object : ReplyObject}
    (hobject : object.reply = .new self.unique) (h : op.refusal = none)
    (hoffsets : method.offsets = op.wireOffsets) :
    Decided op ((self.call method (some object)).run ⟨[.new self.unique], []⟩) := by
  rw [self.run_call method hobject]
  exact .called _ h hoffsets

theorem decided_callWithReply {op : Operation} (method : FsMethod) (h : op.refusal = none)
    (hoffsets : method.offsets = op.wireOffsets) :
    Decided op ((self.callWithReply method).run ⟨[], []⟩) := by
  rw [self.run_callWithReply method]
  exact .called _ h hoffsets

theorem decided_setattr (se : SessionEventLoop) (x : Op.SetAttr) :
    Decided (.setAttr x) ((self.dispatchOperation se (.setAttr x)).run ⟨[], []⟩) := by
  obtain ⟨atime, hatime⟩ := x.timeOrNow_ok (ε := Errno) fattrAtime fattrAtimeNow x.arg.atime
    x.arg.atimensec
  obtain ⟨mtime, hmtime⟩ := x.timeOrNow_ok (ε := Errno) fattrMtime fattrMtimeNow x.arg.mtime
    x.arg.mtimensec
  obtain ⟨ctime, hctime⟩ := x.ctime_ok (ε := Errno)
  rw [dispatchOperation, Op.SetAttr.atime, hatime, Op.SetAttr.mtime, hmtime, hctime]
  exact self.decided_callWithReply _ rfl rfl

theorem decided_ioctl (se : SessionEventLoop) (x : Op.IoCtl)
    (hdata : x.arg.inSize.toNat ≤ x.data.length) :
    Decided (.ioCtl x) ((self.dispatchOperation se (.ioCtl x)).run ⟨[], []⟩) := by
  rw [dispatchOperation]
  by_cases hunrestricted : x.unrestricted
  · rw [if_pos hunrestricted]
    exact .refused _ (if_pos hunrestricted)
  · rw [if_neg hunrestricted, Op.IoCtl.inData, if_pos hdata]
    exact self.decided_callWithReply _ (if_neg hunrestricted) rfl

theorem decided_dispatchOperation (se : SessionEventLoop) (op : Operation)
    (hioctl : op.shortIoctl = false) :
    Decided op ((self.dispatchOperation se op).run ⟨[], []⟩) := by
  cases op with
  | init _ | destroy _ | interrupt _ | notifyReply _ | cuseInit _ => exact .refused _ rfl
  | forget _ | batchForget _ => exact .called _ rfl rfl
  | readDir x | readDirPlus x => exact self.decided_call _ rfl rfl rfl
  | setAttr x => exact self.decided_setattr se x
  | ioCtl x => exact self.decided_ioctl se x (Nat.not_lt.mp (of_decide_eq_false hioctl))
  | setXAttr x =>
      rw [dispatchOperation]
      by_cases hflags : x.setxattrFlags ≠ 0
      · rw [if_pos hflags]
        exact .refused _ (if_pos hflags)
      · rw [if_neg hflags]
        exact self.decided_callWithReply _ (if_neg hflags) rfl
  | read x =>
      have hop : (Operation.read x).ChecksOffsets := rfl
      refine decided_offset hop (.head _) fun hle => ?_
      exact self.decided_callWithReply _ (hop.allowed (List.forall_mem_singleton.mpr hle)) rfl
  | write x =>
      have hop : (Operation.write x).ChecksOffsets := rfl
      refine decided_offset hop (.head _) fun hle => ?_
      exact self.decided_callWithReply _ (hop.allowed (List.forall_mem_singleton.mpr hle)) rfl
  | fAllocate x =>
      have hop : (Operation.fAllocate x).ChecksOffsets := rfl
      refine decided_offset hop (.head _) fun hoffset => ?_
      refine decided_offset hop (.tail _ (.head _)) fun hlen => ?_
      refine self.decided_callWithReply _ (hop.allowed (List.forall_mem_cons.mpr ?_)) rfl
      exact ⟨hoffset, List.forall_mem_singleton.mpr hlen⟩
  | copyFileRange x =>
      have hop : (Operation.copyFileRange x).ChecksOffsets := rfl
      refine decided_offset hop (.head _) fun hin => ?_
      refine decided_offset hop (.tail _ (.head _)) fun hout => ?_
      refine self.decided_callWithReply _ (hop.allowed (List.forall_mem_cons.mpr ?_)) rfl
      exact ⟨hin, List.forall_mem_singleton.mpr hout⟩
  | _ => exact self.decided_callWithReply _ rfl rfl

/-- The dispatcher refuses an operation with an error of its own before there is
any reply object, or makes one call, with the offsets that were on the wire. -/
theorem dispatchReq_decides (se : SessionEventLoop) (hfs : se.filesystemPresent = true)
    (op : Operation) (hop : self.request.operation = .ok op)
    (hallowed : ¬ (se.denies self.request.uid = true ∧ op.exempt = false))
    (hioctl : op.shortIoctl = false) :
    (∀ errno, op.refusal = some errno →
      (self.dispatchReq se).run ⟨[], []⟩ = (.err errno, ⟨[], []⟩)) ∧
    (op.refusal = none → ∃ call,
      (self.dispatchReq se).run ⟨[], []⟩ = (.ok none, ⟨[], [call]⟩) ∧
      call.method.offsets = op.wireOffsets ∧
      ∀ offset ∈ call.method.offsets, offset.toNat ≤ 2 ^ 63 - 1) := by
  have hgate : ¬ (se.denies self.request.uid ∧ ¬ op.exempt) := by
    rwa [Bool.not_eq_true]
  have hdecided := self.decided_dispatchOperation se op hioctl
  rw [self.dispatchReq_of_allowed hop hfs hgate]
  generalize hrun : (self.dispatchOperation se op).run ⟨[], []⟩ = result at hdecided
  cases hdecided with
  | refused errno hrefusal =>
      refine ⟨fun errno' h => ?_, fun h => ?_⟩
      · rw [Method.run_bind_of_err _ hrun]
        cases hrefusal.symm.trans h
        rfl
      · cases hrefusal.symm.trans h
  | called call hrefusal hoffsets =>
      refine ⟨fun errno' h => ?_, fun h => ⟨call, ?_, hoffsets, ?_⟩⟩
      · cases hrefusal.symm.trans h
      · rw [Method.run_bind_of_ok _ hrun]
        rfl
      · rw [hoffsets]
        exact Operation.offsets_le_of_refusal hrefusal

/-- A READ at the given offset. -/
def readAt (offset : UInt64) : RequestWithSender where
  request := {
    header := { (ofBytes FuseInHeader []) with opcode := FuseOpcode.code .fuseRead }
    data := ⟨40, toBytes { (ofBytes FuseReadIn []) with offset }⟩
    negotiated := 0 }
  maskedHeader := none

theorem dispatchReq_decides_read :
    ((readAt (2 ^ 63)).dispatchReq ⟨true, .all, 1000, 0, 0, none⟩).run ⟨[], []⟩ =
        (.err .einval, ⟨[], []⟩) ∧
      ∃ call, ((readAt 4096).dispatchReq ⟨true, .all, 1000, 0, 0, none⟩).run ⟨[], []⟩ =
        (.ok none, ⟨[], [call]⟩) ∧ call.method.offsets = [4096] := by
  have hop (offset : UInt64) : (readAt offset).request.operation =
      .ok (.read ⟨(readAt offset).request.header, { (ofBytes FuseReadIn []) with offset }⟩) := by
    have hfetch := ArgumentIterator.run_fetch_toBytes 40
      { (ofBytes FuseReadIn []) with offset } [] rfl
    rw [List.append_nil] at hfetch
    have hread : FuseOpcode.tryFrom (readAt offset).request.header.opcode = some .fuseRead := rfl
    rw [AnyRequest.operation_eq hread, parse, parseArgs]
    exact congrArg (fun result => Outcome.mapErr _ result.1) (Method.run_bind_of_ok _ hfetch)
  have hlarge := dispatchReq_decides (readAt (2 ^ 63)) ⟨true, .all, 1000, 0, 0, none⟩ rfl _
    (hop (2 ^ 63)) (by decide) rfl
  obtain ⟨call, hrun, hoffsets, -⟩ :=
    (dispatchReq_decides (readAt 4096) ⟨true, .all, 1000, 0, 0, none⟩ rfl _ (hop 4096)
      (by decide) rfl).2 (by decide)
  exact ⟨hlarge.1 .einval (by decide +kernel), call, hrun, hoffsets⟩

end RequestWithSender

end Fuser
