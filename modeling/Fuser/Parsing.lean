import Fuser.Fetching

/-!
What `op::parse` does with an arbitrary body. The body starts at an address that
is a multiple of eight, since the framing step cuts it off after the 40 bytes of
the header.

Only four operations carry a length of their own. SETXATTR and BATCH_FORGET
turn one that the body does not bear out into an error. WRITE asserts it, and
IOCTL leaves it to an accessor that the dispatcher calls later.
-/

namespace Fuser

open Rust Wire ArgumentIterator

/-- An address good for the widest scalar is good for any type. -/
theorem align_of_body {α : Type} [ReprC α] {addr : Nat} (haddr : addr % 8 = 0)
    (h : ReprC.align α ∣ 8) : addr % ReprC.align α = 0 :=
  Nat.mod_eq_zero_of_dvd (Nat.dvd_trans h (Nat.dvd_of_mod_eq_zero haddr))

/-- No opcode but WRITE can make the parser panic. -/
theorem parse_returns {header : FuseInHeader} {negotiated : InitFlags} {opcode : FuseOpcode}
    {data : Slice} (haddr : data.addr % 8 = 0) (hwrite : opcode ≠ .fuseWrite) :
    (parse header opcode data negotiated).Returns := by
  have haligned : (Fetching.parseArgs header negotiated opcode).Aligned (.new data) :=
    Fetching.aligned_parseArgs header negotiated opcode haddr
  exact (haligned.safe (Fetching.assertFree_parseArgs header negotiated hwrite)).returns

section Bodies

variable (header : FuseInHeader) (negotiated : InitFlags) {data : Slice}

theorem parse_write_of_short (haddr : data.addr % 8 = 0) (h : data.len < 40) :
    parse header .fuseWrite data negotiated = .err () := by
  have hfetch : (fetch FuseWriteIn).run (.new data) = (.err (), .new data) :=
    run_fetch_of_short haddr h
  rw [parse, parseArgs, Method.run_bind_of_err _ hfetch]

theorem parse_write (haddr : data.addr % 8 = 0) (h : 40 ≤ data.len) :
    parse header .fuseWrite data negotiated =
      if data.len - 40 = (ofBytes FuseWriteIn data.bytes).size.toNat then
        .ok (.write ⟨header, ofBytes FuseWriteIn data.bytes, data.bytes.drop 40⟩)
      else .panic .assertion := by
  have hfetch : (fetch FuseWriteIn).run (.new data) =
      (.ok (ofBytes FuseWriteIn data.bytes), ⟨data.drop 40⟩) := run_fetch_of_le haddr h
  have hlen : (data.bytes.drop 40).length = data.len - 40 := List.length_drop
  rw [parse, parseArgs, Method.run_bind_of_ok _ hfetch,
    Method.run_bind_of_ok _ (run_fetchAll _)]
  simp only [Slice.drop, hlen]
  by_cases hsize : data.len - 40 = (ofBytes FuseWriteIn data.bytes).size.toNat
  · rw [if_pos hsize, if_pos hsize]
    rfl
  · rw [if_neg hsize, if_neg hsize]
    rfl

theorem parse_ne_unaligned (opcode : FuseOpcode) (haddr : data.addr % 8 = 0) :
    parse header opcode data negotiated ≠ .panic (.explicit "Data unaligned") := by
  by_cases hwrite : opcode = .fuseWrite
  · rw [hwrite]
    by_cases hlen : 40 ≤ data.len
    · rw [parse_write header negotiated haddr hlen]
      split <;> exact nofun
    · rw [parse_write_of_short header negotiated haddr (Nat.not_le.mp hlen)]
      exact nofun
  · exact parse_returns haddr hwrite _

theorem parse_ioctl_of_short (haddr : data.addr % 8 = 0) (h : data.len < 32) :
    parse header .fuseIoctl data negotiated = .err () := by
  have hfetch : (fetch FuseIoctlIn).run (.new data) = (.err (), .new data) :=
    run_fetch_of_short haddr h
  rw [parse, parseArgs, Method.run_bind_of_err _ hfetch]

/-- The length of the data that IOCTL claims is not looked at. -/
theorem parse_ioctl (haddr : data.addr % 8 = 0) (h : 32 ≤ data.len) :
    parse header .fuseIoctl data negotiated =
      .ok (.ioCtl ⟨header, ofBytes FuseIoctlIn data.bytes, data.bytes.drop 32⟩) := by
  have hfetch : (fetch FuseIoctlIn).run (.new data) =
      (.ok (ofBytes FuseIoctlIn data.bytes), ⟨data.drop 32⟩) := run_fetch_of_le haddr h
  rw [parse, parseArgs, Method.run_bind_of_ok _ hfetch,
    Method.run_bind_of_ok _ (run_fetchAll _)]
  rfl

theorem parse_batchForget_of_short (haddr : data.addr % 8 = 0) (h : 8 ≤ data.len)
    (hnodes : data.len - 8 < (ofBytes FuseBatchForgetIn data.bytes).count.toNat * 16) :
    parse header .fuseBatchForget data negotiated = .err () := by
  have halign : data.addr % ReprC.align FuseBatchForgetIn = 0 :=
    align_of_body haddr (by decide)
  have hfetch : (fetch FuseBatchForgetIn).run (.new data) =
      (.ok (ofBytes FuseBatchForgetIn data.bytes), ⟨data.drop 8⟩) := run_fetch_of_le halign h
  have hrest : (ArgumentIterator.mk (data.drop 8)).len = data.len - 8 := List.length_drop
  have hslice : (fetchSlice FuseForgetOne
      (ofBytes FuseBatchForgetIn data.bytes).count.toNat).run ⟨data.drop 8⟩ =
      (.err (), ⟨data.drop 8⟩) := by
    rw [Method.run, fetchSlice, hrest]
    exact if_pos hnodes
  rw [parse, parseArgs, Method.run_bind_of_ok _ hfetch, Method.run_bind_of_err _ hslice]

/-- The bytes of a SETXATTR before the name of the attribute. -/
def setxattrFixed : Nat := if negotiated.contains .fuseSetxattrExt then 16 else 8

theorem run_fetchSetxattrFlags (haddr : data.addr % 8 = 0)
    (h : setxattrFixed negotiated ≤ data.len) :
    ∃ flags, (fetchSetxattrFlags negotiated).run ⟨data.drop 8⟩ =
      (.ok flags, ⟨data.drop (setxattrFixed negotiated)⟩) := by
  rw [setxattrFixed] at h ⊢
  rw [fetchSetxattrFlags]
  by_cases hext : negotiated.contains .fuseSetxattrExt
  · rw [if_pos hext] at h
    rw [if_pos hext, if_pos hext]
    have haddr8 : (data.addr + 8) % 8 = 0 := by omega
    have halign : (data.drop 8).addr % ReprC.align FuseSetxattrInExt = 0 :=
      align_of_body haddr8 (by decide)
    have hrest : (ArgumentIterator.mk (data.drop 8)).len = data.len - 8 := List.length_drop
    have hlen : ReprC.size FuseSetxattrInExt ≤ (ArgumentIterator.mk (data.drop 8)).len := by
      rw [hrest]
      change 8 ≤ _
      omega
    have hfetch : (fetch FuseSetxattrInExt).run ⟨data.drop 8⟩ =
        (.ok (ofBytes FuseSetxattrInExt (data.drop 8).bytes), ⟨(data.drop 8).drop 8⟩) :=
      run_fetch_of_le halign hlen
    have hdrop : (data.drop 8).drop 8 = data.drop 16 := by
      simp only [Slice.drop, List.drop_drop, Nat.add_assoc, Nat.reduceAdd]
    refine ⟨(ofBytes FuseSetxattrInExt (data.drop 8).bytes).setxattrFlags, ?_⟩
    rw [Method.run_bind_of_ok _ hfetch, Method.run_pure, hdrop]
  · rw [if_neg hext, if_neg hext]
    exact ⟨0, rfl⟩

theorem parse_setxattr_of_length {name value : List UInt8} (haddr : data.addr % 8 = 0)
    (h : setxattrFixed negotiated ≤ data.len) (hname : 0 ∉ name)
    (hbytes : data.bytes.drop (setxattrFixed negotiated) = name ++ 0 :: value)
    (hsize : value.length ≠ (ofBytes FuseSetxattrIn data.bytes).size.toNat) :
    parse header .fuseSetxattr data negotiated = .err () := by
  have halign : data.addr % ReprC.align FuseSetxattrIn = 0 := align_of_body haddr (by decide)
  have hfixed : 8 ≤ data.len := by
    have hle : 8 ≤ setxattrFixed negotiated := by
      rw [setxattrFixed]
      by_cases hext : negotiated.contains .fuseSetxattrExt <;> simp [hext]
    omega
  have hfetch : (fetch FuseSetxattrIn).run (.new data) =
      (.ok (ofBytes FuseSetxattrIn data.bytes), ⟨data.drop 8⟩) := run_fetch_of_le halign hfixed
  obtain ⟨flags, hflags⟩ := run_fetchSetxattrFlags negotiated haddr h
  have hstr : fetchStr.run ⟨data.drop (setxattrFixed negotiated)⟩ =
      (.ok name, ⟨⟨data.addr + setxattrFixed negotiated + (name.length + 1), value⟩⟩) := by
    rw [Slice.drop, hbytes]
    exact run_fetchStr_append _ name value hname
  rw [parse, parseArgs, Method.run_bind_of_ok _ hfetch, Method.run_bind_of_ok _ hflags,
    Method.run_bind_of_ok _ hstr, Method.run_bind_of_ok _ (run_fetchAll _), if_pos hsize,
    Method.run_fail]

end Bodies

/-- A length that the body gives for a part of itself, and that the bytes after
it do not bear out. -/
def LengthDisagrees (negotiated : InitFlags) (bytes : List UInt8) : FuseOpcode → Prop
  | .fuseWrite =>
      40 ≤ bytes.length ∧ bytes.length - 40 ≠ (ofBytes FuseWriteIn bytes).size.toNat
  | .fuseIoctl =>
      32 ≤ bytes.length ∧ bytes.length - 32 < (ofBytes FuseIoctlIn bytes).inSize.toNat
  | .fuseBatchForget =>
      8 ≤ bytes.length ∧ bytes.length - 8 < (ofBytes FuseBatchForgetIn bytes).count.toNat * 16
  | .fuseSetxattr =>
      setxattrFixed negotiated ≤ bytes.length ∧
        ∃ name value, 0 ∉ name ∧
          bytes.drop (setxattrFixed negotiated) = name ++ 0 :: value ∧
          value.length ≠ (ofBytes FuseSetxattrIn bytes).size.toNat
  | _ => False

namespace AnyRequest

/-- The body is parsed or rejected, and it is rejected if a length in it is wrong. -/
def ParsesSafely (request : AnyRequest) (opcode : FuseOpcode) : Prop :=
  request.operation.Returns ∧
  (LengthDisagrees request.negotiated request.data.bytes opcode →
    ∃ e, request.operation = .err e)

theorem operation_eq {request : AnyRequest} {opcode : FuseOpcode}
    (hop : FuseOpcode.tryFrom request.header.opcode = some opcode) :
    request.operation =
      (parse request.header opcode request.data request.negotiated).mapErr
        (fun _ => .insufficientData) := by
  rw [operation, hop]

theorem operation_of_err {request : AnyRequest} {opcode : FuseOpcode}
    (hop : FuseOpcode.tryFrom request.header.opcode = some opcode)
    (herr : parse request.header opcode request.data request.negotiated = .err ()) :
    request.operation = .err .insufficientData := by
  rw [operation_eq hop, herr]
  rfl

theorem parsesSafely_write {request : AnyRequest} (haddr : request.data.addr % 8 = 0)
    (hop : FuseOpcode.tryFrom request.header.opcode = some .fuseWrite) :
    request.ParsesSafely .fuseWrite ↔
      ¬ LengthDisagrees request.negotiated request.data.bytes .fuseWrite := by
  by_cases hlen : request.data.len < 40
  · have hagree : ¬ LengthDisagrees request.negotiated request.data.bytes .fuseWrite :=
      fun h => absurd h.1 (Nat.not_le.mpr hlen)
    have herr := operation_of_err hop (parse_write_of_short _ _ haddr hlen)
    refine ⟨fun _ => hagree, fun _ => ⟨?_, fun _ => ⟨_, herr⟩⟩⟩
    simp [herr]
  · have hle : 40 ≤ request.data.len := Nat.not_lt.mp hlen
    have hparse := parse_write request.header request.negotiated haddr hle
    refine ⟨fun hsafe hwrong => ?_, fun hagree => ⟨?_, fun h => absurd h hagree⟩⟩
    · have hsize : ¬ request.data.len - 40 =
          (ofBytes FuseWriteIn request.data.bytes).size.toNat := hwrong.2
      rw [if_neg hsize] at hparse
      apply hsafe.1 .assertion
      rw [operation_eq hop, hparse]
      rfl
    · have hsize : request.data.len - 40 =
          (ofBytes FuseWriteIn request.data.bytes).size.toNat :=
        Classical.byContradiction (fun h => hagree ⟨hle, h⟩)
      rw [if_pos hsize] at hparse
      simp [operation_eq hop, hparse, Outcome.mapErr]

theorem parsesSafely_ioctl {request : AnyRequest} (haddr : request.data.addr % 8 = 0)
    (hop : FuseOpcode.tryFrom request.header.opcode = some .fuseIoctl) :
    request.ParsesSafely .fuseIoctl ↔
      ¬ LengthDisagrees request.negotiated request.data.bytes .fuseIoctl := by
  refine ⟨fun hsafe hwrong => ?_, fun hagree => ⟨?_, fun h => absurd h hagree⟩⟩
  · obtain ⟨e, herr⟩ := hsafe.2 hwrong
    rw [operation_eq hop, parse_ioctl _ _ haddr hwrong.1] at herr
    cases herr
  · rw [operation_eq hop, Outcome.returns_mapErr]
    exact parse_returns haddr (by decide)

theorem parsesSafely_of_ne {request : AnyRequest} {opcode : FuseOpcode}
    (haddr : request.data.addr % 8 = 0)
    (hop : FuseOpcode.tryFrom request.header.opcode = some opcode)
    (hwrite : opcode ≠ .fuseWrite) (hioctl : opcode ≠ .fuseIoctl) :
    request.ParsesSafely opcode := by
  refine ⟨?_, fun hwrong => ⟨.insufficientData, ?_⟩⟩
  · rw [operation_eq hop, Outcome.returns_mapErr]
    exact parse_returns haddr hwrite
  · apply operation_of_err hop
    cases opcode with
    | fuseWrite => exact absurd rfl hwrite
    | fuseIoctl => exact absurd rfl hioctl
    | fuseBatchForget => exact parse_batchForget_of_short _ _ haddr hwrong.1 hwrong.2
    | fuseSetxattr =>
        obtain ⟨hfixed, name, value, hname, hbytes, hsize⟩ := hwrong
        exact parse_setxattr_of_length _ _ haddr hfixed hname hbytes hsize
    | _ => exact hwrong.elim

/-- Bodies are parsed safely but for two kinds: a WRITE whose `size` is not the
number of bytes after its struct, and an IOCTL whose `in_size` exceeds it. -/
theorem parsesSafely_iff (request : AnyRequest) (opcode : FuseOpcode)
    (haddr : request.data.addr % 8 = 0)
    (hop : FuseOpcode.tryFrom request.header.opcode = some opcode) :
    request.ParsesSafely opcode ↔
      (opcode = .fuseWrite → 40 ≤ request.data.len →
        (ofBytes FuseWriteIn request.data.bytes).size.toNat = request.data.len - 40) ∧
      (opcode = .fuseIoctl → 32 ≤ request.data.len →
        (ofBytes FuseIoctlIn request.data.bytes).inSize.toNat ≤ request.data.len - 32) := by
  by_cases hwrite : opcode = .fuseWrite
  · subst hwrite
    rw [parsesSafely_write haddr hop]
    refine ⟨fun hagree => ⟨fun _ hle => ?_, nofun⟩, fun h hwrong => ?_⟩
    · exact Classical.byContradiction (fun hne => hagree ⟨hle, fun heq => hne heq.symm⟩)
    · exact hwrong.2 (h.1 rfl hwrong.1).symm
  · by_cases hioctl : opcode = .fuseIoctl
    · subst hioctl
      rw [parsesSafely_ioctl haddr hop]
      refine ⟨fun hagree => ⟨nofun, fun _ hle => ?_⟩, fun h hwrong => ?_⟩
      · exact Nat.not_lt.mp (fun hlt => hagree ⟨hle, hlt⟩)
      · exact absurd hwrong.2 (Nat.not_lt.mpr (h.2 rfl hwrong.1))
    · refine ⟨fun _ => ⟨fun h => absurd h hwrite, fun h => absurd h hioctl⟩, fun _ => ?_⟩
      exact parsesSafely_of_ne haddr hop hwrite hioctl

/-- A WRITE body of a struct only, which claims the given number of data bytes. -/
def writeWithoutData (size : UInt32) : AnyRequest where
  header := { (ofBytes FuseInHeader []) with len := 80, opcode := FuseOpcode.code .fuseWrite }
  data := ⟨48, toBytes { (ofBytes FuseWriteIn []) with size }⟩
  negotiated := 0

theorem parsesSafely_write_empty : (writeWithoutData 0).ParsesSafely .fuseWrite :=
  (parsesSafely_iff (writeWithoutData 0) .fuseWrite (by decide) (by decide)).mpr
    ⟨fun _ _ => by decide, nofun⟩

/-- A WRITE that claims one byte of data and carries none takes the thread down. -/
theorem not_parsesSafely_write : ¬ (writeWithoutData 1).ParsesSafely .fuseWrite := by
  intro h
  have hpanic : (writeWithoutData 1).operation = .panic .assertion := by decide
  exact h.1 _ hpanic

end AnyRequest

end Fuser
