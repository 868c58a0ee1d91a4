import Fuser.Dispatch
import Fuser.Parsing

/-!
What an operation that was parsed can be relied on for. Its names hold no NUL, and
the lengths it records are those of the data it records, so that no accessor reads
past the end; the one exception is the data of an IOCTL, whose length is not looked
at until the accessor indexes by it.
-/

namespace Fuser

open Rust Wire ArgumentIterator

namespace Operation

def names : Operation → List OsStr
  | .lookup x => [x.name]
  | .symLink x => [x.linkName, x.target]
  | .mkNod x => [x.name]
  | .mkDir x => [x.name]
  | .unlink x => [x.name]
  | .rmDir x => [x.name]
  | .rename x => [x.name, x.newname]
  | .link x => [x.name]
  | .setXAttr x => [x.name]
  | .getXAttr x => [x.name]
  | .removeXAttr x => [x.name]
  | .create x => [x.name]
  | .rename2 x => [x.name, x.newname]
  | .tmpFile x => [x.name]
  | _ => []

/-- The lengths agree with the data. -/
def LengthsAgree : Operation → Prop
  | .write x => x.data.length = x.arg.size.toNat
  | .setXAttr x => x.value.length = x.arg.size.toNat
  | .batchForget x => x.nodes.length = x.arg.count.toNat
  | .ioCtl x => x.arg.inSize.toNat ≤ x.data.length
  | _ => True

/-- The results of the accessors that could fail to return; the dispatcher and the
log call all of them, every other accessor reads a field. -/
def accessed : Operation → List (Outcome Errno Unit)
  | .setAttr x =>
      [x.atime.map fun _ => (), x.mtime.map fun _ => (), x.ctime.map fun _ => ()]
  | .read x => [x.offset.map fun _ => ()]
  | .write x => [x.offset.map fun _ => ()]
  | .ioCtl x => [x.inData.map fun _ => ()]
  | .fAllocate x => [x.offset.map fun _ => (), x.len.map fun _ => ()]
  | .copyFileRange x => [x.src.map fun _ => (), x.dest.map fun _ => ()]
  | _ => []

/-- A well-formed operation: nothing in it misleads an accessor. -/
structure Recorded (op : Operation) : Prop where
  names : ∀ name ∈ op.names, 0 ∉ name
  lengths : op.LengthsAgree

end Operation

section Yields

variable {α : Type} [ReprC α]

theorem yields_name {f : OsStr → Operation} {Q : Operation → Prop} (h : ∀ name, 0 ∉ name → Q (f name)) :
    (do return f (← fetchStr) : Method ArgumentIterator Unit Operation).Yields Q :=
  yields_fetchStr.bind fun name hname => Method.yields_pure (h name hname)

theorem yields_names {f : OsStr → OsStr → Operation} {Q : Operation → Prop}
    (h : ∀ name name', 0 ∉ name → 0 ∉ name' → Q (f name name')) :
    (do return f (← fetchStr) (← fetchStr) : Method ArgumentIterator Unit Operation).Yields Q :=
  yields_fetchStr.bind fun name hname => yields_name fun name' hname' => h name name' hname hname'

theorem yields_arg {f : α → Method ArgumentIterator Unit Operation} {Q : Operation → Prop}
    (h : ∀ arg, (f arg).Yields Q) :
    (fetch α >>= f : Method ArgumentIterator Unit Operation).Yields Q :=
  (Method.yields_true (fetch α)).bind fun arg _ => h arg

end Yields

/-- Whatever opcode a body is parsed as, apart from IOCTL. -/
theorem yields_parseArgs (header : FuseInHeader) (negotiated : InitFlags) {opcode : FuseOpcode}
    (hioctl : opcode ≠ .fuseIoctl) :
    (parseArgs header negotiated opcode).Yields Operation.Recorded := by
  cases opcode with
  | fuseIoctl => exact absurd rfl hioctl
  | fuseReadlink | fuseStatfs | fuseDestroy => exact Method.yields_pure ⟨nofun, trivial⟩
  | fuseLookup | fuseUnlink | fuseRmdir | fuseRemovexattr =>
      exact yields_name fun name hname => ⟨List.forall_mem_singleton.mpr hname, trivial⟩
  | fuseSymlink =>
      refine yields_fetchStr.bind fun linkName hlink => yields_name fun target htarget => ?_
      exact ⟨List.forall_mem_cons.mpr ⟨hlink, List.forall_mem_singleton.mpr htarget⟩, trivial⟩
  | fuseMknod | fuseMkdir | fuseLink | fuseGetxattr | fuseCreate | fuseTmpfile =>
      exact yields_arg fun arg =>
        yields_name fun name hname => ⟨List.forall_mem_singleton.mpr hname, trivial⟩
  | fuseRename | fuseRename2 =>
      exact yields_arg fun arg => yields_names fun name name' hname hname' =>
        ⟨List.forall_mem_cons.mpr ⟨hname, List.forall_mem_singleton.mpr hname'⟩, trivial⟩
  | fuseSetxattr =>
      refine yields_arg fun arg => ?_
      refine (Method.yields_true (fetchSetxattrFlags negotiated)).bind fun flags _ => ?_
      refine yields_fetchStr.bind fun name hname => ?_
      refine (Method.yields_true fetchAll).bind fun value _ => ?_
      by_cases hsize : value.length ≠ arg.size.toNat
      · rw [if_pos hsize]
        exact Method.yields_fail
      · rw [if_neg hsize]
        exact Method.yields_pure ⟨List.forall_mem_singleton.mpr hname, not_not.mp hsize⟩
  | fuseWrite =>
      refine yields_arg fun arg => ?_
      refine (Method.yields_true fetchAll).bind fun data _ => ?_
      by_cases hsize : data.length = arg.size.toNat
      · rw [if_pos hsize]
        exact Method.yields_pure ⟨nofun, hsize⟩
      · rw [if_neg hsize]
        exact Method.yields_abort
  | fuseInit =>
      refine (Method.yields_true fetchAll).bind fun data _ => ?_
      by_cases hshort : data.length < offsetOfFlags2
      · rw [if_pos hshort]
        exact Method.yields_fail
      · rw [if_neg hshort]
        exact Method.yields_pure ⟨nofun, trivial⟩
  | fuseNotifyReply =>
      exact (Method.yields_true fetchAll).bind fun data _ => Method.yields_pure ⟨nofun, trivial⟩
  | fuseBatchForget =>
      refine yields_arg fun arg => ?_
      exact (yields_fetchSlice _).bind fun nodes hnodes => Method.yields_pure ⟨nofun, hnodes⟩
  | _ => exact yields_arg fun arg => Method.yields_pure ⟨nofun, trivial⟩

namespace Operation

variable {op : Operation}

theorem LengthsAgree.shortIoctl (h : op.LengthsAgree) : op.shortIoctl = false := by
  cases op with
  | ioCtl x => exact decide_eq_false (Nat.not_lt.mpr h)
  | _ => rfl

theorem LengthsAgree.accessed (h : op.LengthsAgree) :
    ∀ result ∈ op.accessed, result.Returns := by
  cases op with
  | setAttr x =>
      refine List.forall_mem_cons.mpr ⟨?_, List.forall_mem_cons.mpr ⟨?_, ?_⟩⟩
      · exact (Outcome.Returns.of_ok (x.timeOrNow_ok ..)).map _
      · exact (Outcome.Returns.of_ok (x.timeOrNow_ok ..)).map _
      · exact List.forall_mem_singleton.mpr ((Outcome.Returns.of_ok x.ctime_ok).map _)
  | read x => exact List.forall_mem_singleton.mpr ((returns_offset _ _).map _)
  | write x => exact List.forall_mem_singleton.mpr ((returns_offset _ _).map _)
  | fAllocate x | copyFileRange x =>
      refine List.forall_mem_cons.mpr ⟨(returns_offset _ _).map _, ?_⟩
      exact List.forall_mem_singleton.mpr ((returns_offset _ _).map _)
  | ioCtl x =>
      have hdata : x.arg.inSize.toNat ≤ x.data.length := h
      refine List.forall_mem_singleton.mpr (Outcome.Returns.map ?_ _)
      rw [Op.IoCtl.inData, if_pos hdata]
      exact Outcome.returns_ok _
  | _ => exact List.forall_mem_nil _

end Operation

/-- The dispatcher comes back from an operation that it can rely on. -/
theorem RequestWithSender.returns_dispatchOperation (self : RequestWithSender)
    (se : SessionEventLoop) {op : Operation} (h : op.LengthsAgree) :
    ((self.dispatchOperation se op).run ⟨[], []⟩).1.Returns := by
  have hends := self.ends_dispatchOperation se op
  generalize (self.dispatchOperation se op).run ⟨[], []⟩ = result at hends
  cases hends with
  | failed errno => exact Outcome.returns_err errno
  | panicked reason hshort =>
      rw [h.shortIoctl] at hshort
      cases hshort
  | called method object => exact Outcome.returns_ok ()
  | forgot method => exact Outcome.returns_ok ()

theorem recorded_of_parse {header : FuseInHeader} {opcode : FuseOpcode} {data : Slice}
    {negotiated : InitFlags} {op : Operation} (haddr : data.addr % 8 = 0)
    (hdata : opcode = .fuseIoctl → 32 ≤ data.len →
      (ofBytes FuseIoctlIn data.bytes).inSize.toNat ≤ data.len - 32)
    (hop : parse header opcode data negotiated = .ok op) : op.Recorded := by
  by_cases hioctl : opcode = .fuseIoctl
  · subst hioctl
    by_cases hlen : 32 ≤ data.len
    · rw [parse_ioctl header negotiated haddr hlen] at hop
      cases hop
      have hdrop : (data.bytes.drop 32).length = data.len - 32 := List.length_drop
      exact ⟨nofun, (hdata rfl hlen).trans_eq hdrop.symm⟩
    · rw [parse_ioctl_of_short header negotiated haddr (Nat.not_le.mp hlen)] at hop
      cases hop
  · rw [parse] at hop
    rcases hrun : (parseArgs header negotiated opcode).run (.new data) with ⟨outcome, rest⟩
    rw [hrun] at hop
    cases hop
    exact yields_parseArgs header negotiated hioctl _ _ _ hrun

/-- What is accepted is well formed, every accessor of it returns, and so does the
dispatcher that calls them. -/
def AcceptsSoundly (header : FuseInHeader) (opcode : FuseOpcode) (data : Slice)
    (negotiated : InitFlags) : Prop :=
  ∀ op, parse header opcode data negotiated = .ok op →
    op.Recorded ∧ (∀ result ∈ op.accessed, result.Returns) ∧
    ∀ (self : RequestWithSender) (se : SessionEventLoop),
      ((self.dispatchOperation se op).run ⟨[], []⟩).1.Returns

/-- Bodies are accepted soundly but for one kind: an IOCTL whose `in_size` exceeds
the number of bytes after its struct. -/
theorem acceptsSoundly_iff (header : FuseInHeader) (opcode : FuseOpcode) (data : Slice)
    (negotiated : InitFlags) (haddr : data.addr % 8 = 0) :
    AcceptsSoundly header opcode data negotiated ↔
      (opcode = .fuseIoctl → 32 ≤ data.len →
        (ofBytes FuseIoctlIn data.bytes).inSize.toNat ≤ data.len - 32) := by
  constructor
  · rintro h rfl hlen
    have hdrop : (data.bytes.drop 32).length = data.len - 32 := List.length_drop
    exact (h _ (parse_ioctl header negotiated haddr hlen)).1.lengths.trans_eq hdrop
  · intro hdata op hop
    have hrecorded := recorded_of_parse haddr hdata hop
    exact ⟨hrecorded, hrecorded.lengths.accessed, fun self se =>
      self.returns_dispatchOperation se hrecorded.lengths⟩

/-- An IOCTL body of a struct only, which claims the given number of data bytes. -/
def ioctlWithoutData (inSize : UInt32) : Slice :=
  ⟨48, toBytes { (ofBytes FuseIoctlIn []) with inSize }⟩

theorem acceptsSoundly_ioctl_empty :
    AcceptsSoundly (ofBytes FuseInHeader []) .fuseIoctl (ioctlWithoutData 0) 0 :=
  (acceptsSoundly_iff _ _ (ioctlWithoutData 0) 0 (by decide)).mpr fun _ _ => by decide

/-- One byte is claimed and none is there. -/
theorem not_acceptsSoundly_ioctl :
    ¬ AcceptsSoundly (ofBytes FuseInHeader []) .fuseIoctl (ioctlWithoutData 1) 0 := by
  intro h
  have hparse := parse_ioctl (ofBytes FuseInHeader []) 0
    (by decide : (ioctlWithoutData 1).addr % 8 = 0) (by decide)
  exact absurd (h _ hparse).1.lengths (Nat.not_le.mpr (by decide))

end Fuser
