import Fuser.Session
import Fuser.Reply

/-!
The answer to an INIT request. What the kernel reads out of it has to agree with
what the session takes to be negotiated: the session intersects two flag sets,
while the kernel puts one together from two words of which it reads the second
only if the first says so, and of which an old kernel does not get the second.
-/

namespace Fuser

open Rust Wire

/-- `FUSE_COMPAT_INIT_OUT_SIZE`. -/
def fuseCompatInitOutSize : Nat := 8

/-- `FUSE_COMPAT_22_INIT_OUT_SIZE`. -/
def fuseCompat22InitOutSize : Nat := 24

namespace Op.Init

/-- What is requested and offered; the extension of the flags is always requested. -/
def replyFlags (self : Init) (config : KernelConfig) : InitFlags :=
  (config.requested ||| .fuseInitExt) &&& self.capabilities

def initOut (self : Init) (config : KernelConfig) (page : PageSize) : FuseInitOut where
  major := fuseKernelVersion
  minor := fuseKernelMinorVersion
  maxReadahead := config.maxReadahead
  flags := (self.replyFlags config).pair.1
  maxBackground := config.maxBackground
  congestionThreshold := config.congestionLimit
  maxWrite := config.maxWrite
  timeGran := UInt32.ofNat config.timeGran.toNanos
  maxPages := config.maxPages page
  unused2 := 0
  flags2 := (self.replyFlags config).pair.2
  maxStackDepth :=
    if (self.replyFlags config).contains .fusePassthrough then config.maxStackDepth else 0
  reserved := List.Vector.replicate 6 0

/-- An old kernel gets as much of the answer as it knows. -/
def reply (self : Init) (config : KernelConfig) (page : PageSize) : Response :=
  let init := toBytes (self.initOut config page)
  .ofData (
    if self.arg.minor < 5 then init.take fuseCompatInitOutSize
    else if self.arg.minor < 23 then init.take fuseCompat22InitOutSize
    else init)

/-- The answer to a kernel of a newer major version, which then tries again. -/
def replyVersionOnly (_self : Init) : Response :=
  .ofData (toBytes ({
    major := fuseKernelVersion
    minor := fuseKernelMinorVersion
    maxReadahead := 0
    flags := 0
    maxBackground := 0
    congestionThreshold := 0
    maxWrite := 0
    timeGran := 0
    maxPages := 0
    unused2 := 0
    flags2 := 0
    maxStackDepth := 0
    reserved := List.Vector.replicate 6 0 } : FuseInitOut))

end Op.Init

/-- What the kernel makes of the answer: fields it did not get are zero. -/
def kernelInitOut (payload : List UInt8) : FuseInitOut :=
  ofBytes FuseInitOut (payload ++ List.replicate (ReprC.size FuseInitOut - payload.length) 0)

/-- The capabilities the kernel takes to be negotiated. -/
def kernelNegotiated (out : FuseInitOut) : InitFlags :=
  if out.flags.toNat.testBit 30 then
    out.flags.toBitVec.setWidth 64 ||| out.flags2.toBitVec.setWidth 64 <<< 32
  else out.flags.toBitVec.setWidth 64

/-- Two words hold a whole flag set, or its lower half if it has no upper one. -/
theorem pair_join (flags : InitFlags) (flags2 : UInt32)
    (h : flags.getLsbD 30 = true → flags2 = flags.pair.2)
    (hlow : flags.getLsbD 30 = false → ∀ i, 32 ≤ i → flags.getLsbD i = false) :
    (if flags.pair.1.toNat.testBit 30 then
      flags.pair.1.toBitVec.setWidth 64 ||| flags2.toBitVec.setWidth 64 <<< 32
    else flags.pair.1.toBitVec.setWidth 64) = flags := by
  have hbit : flags.pair.1.toNat.testBit 30 = flags.getLsbD 30 := by
    change (flags.setWidth 32).getLsbD 30 = _
    simp
  rw [hbit]
  cases hext : flags.getLsbD 30 with
  | true =>
      rw [if_pos rfl, h hext]
      apply BitVec.eq_of_getLsbD_eq
      intro i hi
      simp only [InitFlags.pair, BitVec.getLsbD_or, BitVec.getLsbD_shiftLeft,
        BitVec.getLsbD_setWidth, BitVec.getLsbD_ushiftRight]
      by_cases hlt : i < 32
      · simp [hi, hlt]
      · simp [hi, hlt, show i - 32 < 32 by omega, show i - 32 < 64 by omega,
          show 32 + (i - 32) = i by omega]
  | false =>
      rw [if_neg (by decide)]
      apply BitVec.eq_of_getLsbD_eq
      intro i hi
      simp only [InitFlags.pair, BitVec.getLsbD_setWidth]
      by_cases hlt : i < 32
      · simp [hi, hlt]
      · rw [hlow hext i (by omega)]
        simp [hlt]

/-- The fields a kernel before 7.23 gets. -/
theorem kernelInitOut_take (out : FuseInitOut) :
    (kernelInitOut ((toBytes out).take 24)).major = out.major ∧
    (kernelInitOut ((toBytes out).take 24)).minor = out.minor ∧
    (kernelInitOut ((toBytes out).take 24)).maxReadahead = out.maxReadahead ∧
    (kernelInitOut ((toBytes out).take 24)).flags = out.flags ∧
    (kernelInitOut ((toBytes out).take 24)).maxBackground = out.maxBackground ∧
    (kernelInitOut ((toBytes out).take 24)).congestionThreshold = out.congestionThreshold ∧
    (kernelInitOut ((toBytes out).take 24)).maxWrite = out.maxWrite ∧
    (kernelInitOut ((toBytes out).take 24)).maxStackDepth = 0 := by
  let seven := u32.encode out.major ++ (u32.encode out.minor ++ (u32.encode out.maxReadahead ++
    (u32.encode out.flags ++ (u16.encode out.maxBackground ++
      (u16.encode out.congestionThreshold ++ u32.encode out.maxWrite)))))
  have hseven : seven.length = 24 := by
    simp only [seven, List.length_append, u32.length_encode, u16.length_encode]
    rfl
  have htake : (toBytes out).take 24 = seven := by
    have hbytes : ∃ rest, toBytes out = seven ++ rest := by
      refine ⟨u32.encode out.timeGran ++ (u16.encode out.maxPages ++ (u16.encode out.unused2 ++
        (u32.encode out.flags2 ++ (u32.encode out.maxStackDepth ++
          (u32.vector 6).encode out.reserved)))), ?_⟩
      simp only [seven, List.append_assoc]
      rfl
    obtain ⟨rest, hrest⟩ := hbytes
    rw [hrest, List.take_left' hseven]
  have hout : kernelInitOut ((toBytes out).take 24) =
      ofBytes FuseInitOut (seven ++ List.replicate 40 0) := by
    rw [htake, kernelInitOut, hseven]
    rfl
  have hcodec (bs : List UInt8) : ofBytes FuseInitOut bs = FuseInitOut.codec.decode bs := rfl
  rw [hout, hcodec]
  simp only [FuseInitOut.codec, Codec.decode_map, seven, List.append_assoc,
    Codec.decode_prod_encode, true_and]
  decide

theorem kernelInitOut_whole (out : FuseInitOut) : kernelInitOut (toBytes out) = out := by
  rw [kernelInitOut, ofBytes_toBytes_append]

namespace Op.Init

/-- Without the extension word the kernel offers nothing in the upper half. -/
theorem capabilities_low {self : Init} (h : self.capabilities.getLsbD 30 = false) (i : Nat)
    (hi : 32 ≤ i) : self.capabilities.getLsbD i = false := by
  have hbit : self.arg.flags.toNat.testBit 30 = false := by
    cases hext : self.arg.flags.toNat.testBit 30 with
    | false => rfl
    | true =>
        rw [capabilities] at h
        simp only [contains_initExt, if_pos hext] at h
        have hflag : (self.arg.flags.toBitVec.setWidth 64).getLsbD 30 = true := by
          rw [BitVec.getLsbD_setWidth]
          exact hext
        rw [BitVec.getLsbD_or, hflag, Bool.true_or] at h
        exact absurd h (by decide)
  rw [capabilities]
  simp only [contains_initExt, hbit]
  rw [if_neg (by decide), BitVec.getLsbD_setWidth]
  simp [BitVec.getLsbD_of_ge _ i hi]

theorem replyFlags_getLsbD (self : Init) (config : KernelConfig) (i : Nat) :
    (self.replyFlags config).getLsbD i =
      ((config.requested.getLsbD i || decide (i = 30)) && self.capabilities.getLsbD i) := by
  rw [replyFlags, BitVec.getLsbD_and, BitVec.getLsbD_or, InitFlags.fuseInitExt,
    BitVec.getLsbD_twoPow]
  by_cases hi : i = 30
  · simp [hi]
  · have hne : ¬ 30 = i := fun h => hi h.symm
    simp [hi, hne]

/-- Whatever the kernel puts together from the words of the reply is what the
session sent. -/
theorem kernelNegotiated_eq {self : Init} {config : KernelConfig} {out : FuseInitOut}
    (hflags : out.flags = (self.replyFlags config).pair.1)
    (hflags2 : self.capabilities.getLsbD 30 = true →
      out.flags2 = (self.replyFlags config).pair.2) :
    kernelNegotiated out = self.replyFlags config := by
  have hbit : (self.replyFlags config).getLsbD 30 = self.capabilities.getLsbD 30 := by
    rw [replyFlags_getLsbD, decide_eq_true rfl, Bool.or_true, Bool.true_and]
  rw [kernelNegotiated, hflags]
  refine pair_join (self.replyFlags config) out.flags2 (fun h => ?_) (fun h i hi => ?_)
  · exact hflags2 (hbit ▸ h)
  · rw [replyFlags_getLsbD, capabilities_low (hbit ▸ h) i hi, Bool.and_false]

/-- From 7.6 on a kernel gets 24 bytes, and from 7.23 on all of them. -/
theorem reply_payload (self : Init) (config : KernelConfig) (page : PageSize)
    (hminor : 6 ≤ self.arg.minor.toNat) :
    (self.reply config page).payload.flatten =
      if self.arg.minor.toNat < 23 then (toBytes (self.initOut config page)).take 24
      else toBytes (self.initOut config page) := by
  have hold : ¬ self.arg.minor < 5 := by
    rw [UInt32.lt_iff_toNat_lt]
    change ¬ _ < 5
    omega
  have hnew : self.arg.minor < 23 ↔ self.arg.minor.toNat < 23 := UInt32.lt_iff_toNat_lt
  rw [reply, Response.payload_ofData, if_neg hold]
  simp only [hnew, fuseCompat22InitOutSize]

/-- What the kernel reads out of the reply. -/
theorem kernelInitOut_reply (self : Init) (config : KernelConfig) (page : PageSize)
    (hminor : 6 ≤ self.arg.minor.toNat) :
    let out := kernelInitOut (self.reply config page).payload.flatten
    (out.major = fuseKernelVersion ∧ out.minor = fuseKernelMinorVersion ∧
      out.maxReadahead = config.maxReadahead ∧ out.flags = (self.replyFlags config).pair.1 ∧
      out.maxBackground = config.maxBackground ∧
      out.congestionThreshold = config.congestionLimit ∧ out.maxWrite = config.maxWrite) ∧
    (self.arg.minor.toNat < 23 → out.maxStackDepth = 0) ∧
    (23 ≤ self.arg.minor.toNat → out = self.initOut config page) := by
  intro out
  have hout : out = kernelInitOut (self.reply config page).payload.flatten := rfl
  rw [reply_payload self config page hminor] at hout
  by_cases hold : self.arg.minor.toNat < 23
  · rw [if_pos hold] at hout
    obtain ⟨hmajor, hminor', hread, hflags, hback, hcong, hwrite, hdepth⟩ :=
      kernelInitOut_take (self.initOut config page)
    rw [hout]
    exact ⟨⟨hmajor, hminor', hread, hflags, hback, hcong, hwrite⟩, fun _ => hdepth,
      fun hnew => absurd hold (Nat.not_lt.mpr hnew)⟩
  · rw [if_neg hold, kernelInitOut_whole] at hout
    rw [hout]
    exact ⟨⟨rfl, rfl, rfl, rfl, rfl, rfl, rfl⟩, fun h => absurd h hold, fun _ => rfl⟩

theorem contains_initExt_replyFlags (self : Init) (config : KernelConfig) :
    (self.replyFlags config).contains .fuseInitExt =
      self.capabilities.contains .fuseInitExt := by
  simp only [InitFlags.contains, InitFlags.fuseInitExt,
    Bitflags.contains_twoPow _ (by decide : 30 < 64), replyFlags_getLsbD, decide_true,
    Bool.or_true, Bool.true_and]

/-- Apart from the extension flag itself, the reply carries what is negotiated. -/
theorem replyFlags_without_initExt (self : Init) (session : Session) (config : KernelConfig) :
    self.replyFlags config &&& ~~~InitFlags.fuseInitExt =
      (session.initialized self config).negotiated &&& ~~~InitFlags.fuseInitExt := by
  apply BitVec.eq_of_getLsbD_eq
  intro i hi
  simp only [Session.initialized, BitVec.getLsbD_and, BitVec.getLsbD_not, replyFlags_getLsbD,
    InitFlags.fuseInitExt, BitVec.getLsbD_twoPow]
  by_cases h30 : i = 30
  · simp [h30]
  · have hne : ¬ 30 = i := fun h => h30 h.symm
    simp only [h30, hne, decide_false, Bool.or_false, Bool.and_comm]

theorem contains_passthrough_replyFlags (self : Init) (session : Session)
    (config : KernelConfig) :
    (self.replyFlags config).contains .fusePassthrough =
      (session.initialized self config).negotiated.contains .fusePassthrough := by
  simp only [InitFlags.contains, InitFlags.fusePassthrough,
    Bitflags.contains_twoPow _ (by decide : 37 < 64), replyFlags_getLsbD, Session.initialized,
    BitVec.getLsbD_and]
  rw [decide_eq_false (by decide), Bool.or_false, Bool.and_comm]

theorem sendable_kernelConfig (session : Session) (self : Init) (calls : List ConfigCall) :
    (ConfigCall.run (session.kernelConfig self) calls).Sendable :=
  KernelConfig.sendable_run (KernelConfig.sendable_new ..) calls

/-- What the kernel is told is what the session believes. -/
theorem reply_agrees (self : Init) (session : Session) (calls : List ConfigCall)
    (page : PageSize) (hminor : 6 ≤ self.version.minor.toNat)
    (hext : self.capabilities.contains .fuseInitExt = true → 23 ≤ self.version.minor.toNat) :
    let config := ConfigCall.run (session.kernelConfig self) calls
    let negotiated := (session.initialized self config).negotiated
    let payload := (self.reply config page).payload.flatten
    let out := kernelInitOut payload
    (payload.length = if self.version.minor.toNat < 23 then 24 else 64) ∧
    (out.major = fuseKernelVersion ∧ out.minor = fuseKernelMinorVersion ∧
      out.maxReadahead = config.maxReadahead ∧ out.maxBackground = config.maxBackground ∧
      out.congestionThreshold = config.congestionLimit ∧ out.maxWrite = config.maxWrite) ∧
    (23 ≤ self.version.minor.toNat →
      out.timeGran.toNat = config.timeGran.toNanos ∧
      out.maxPages = config.maxPages page ∧
      ((max config.maxWrite.toNat config.maxReadahead.toNat - 1) / page.bytes.toNat + 1 < 2 ^ 16 →
        out.maxPages.toNat =
          (max config.maxWrite.toNat config.maxReadahead.toNat - 1) / page.bytes.toNat + 1) ∧
      out.maxStackDepth =
        if negotiated.contains .fusePassthrough then config.maxStackDepth else 0) ∧
    kernelNegotiated out &&& ~~~InitFlags.fuseInitExt =
      negotiated &&& ~~~InitFlags.fuseInitExt ∧
    (kernelNegotiated out).contains .fuseInitExt = self.capabilities.contains .fuseInitExt ∧
    (out.maxStackDepth ≠ 0 → (kernelNegotiated out).contains .fusePassthrough = true) := by
  intro config negotiated payload out
  have hsendable : config.Sendable := sendable_kernelConfig session self calls
  obtain ⟨⟨hmajor, hminor', hread, hflags, hback, hcong, hwrite⟩, hdepth, hwhole⟩ :=
    kernelInitOut_reply self config page hminor
  have hkernel : kernelNegotiated out = self.replyFlags config := by
    refine kernelNegotiated_eq hflags (fun hbit => ?_)
    have hcontains : self.capabilities.contains .fuseInitExt = true :=
      (Bitflags.contains_twoPow _ (by decide)).trans hbit
    exact congrArg FuseInitOut.flags2 (hwhole (hext hcontains))
  refine ⟨?_, ⟨hmajor, hminor', hread, hback, hcong, hwrite⟩, fun hnew => ?_, ?_, ?_, ?_⟩
  · have hsize : (toBytes (self.initOut config page)).length = 64 := length_toBytes _
    change (self.reply config page).payload.flatten.length = _
    rw [reply_payload self config page hminor, version]
    by_cases hold : self.arg.minor.toNat < 23
    · rw [if_pos hold, if_pos hold, List.length_take, hsize]
      rfl
    · rw [if_neg hold, if_neg hold, hsize]
  · have hout : out = self.initOut config page := hwhole hnew
    rw [hout]
    refine ⟨?_, rfl, KernelConfig.maxPages_toNat hsendable page, ?_⟩
    · have hgran : config.timeGran.toNanos ≤ 1000000000 := hsendable.timeGran
      exact Nat.mod_eq_of_lt (by omega)
    · rw [initOut, contains_passthrough_replyFlags self session config]
  · rw [hkernel, replyFlags_without_initExt self session config]
  · rw [hkernel, contains_initExt_replyFlags]
  · intro hnonzero
    by_cases hold : self.version.minor.toNat < 23
    · exact absurd (hdepth hold) hnonzero
    · have hout : out = self.initOut config page := hwhole (Nat.not_lt.mp hold)
      rw [hkernel]
      cases hpass : (self.replyFlags config).contains .fusePassthrough with
      | true => rfl
      | false =>
          have hzero : (self.initOut config page).maxStackDepth = 0 := by
            rw [initOut, hpass]
            rfl
          exact absurd (hout ▸ hzero) hnonzero

/-- An INIT of version 7.31 that offers the extension word and passthrough. -/
def passthroughInit : Init where
  header := ofBytes FuseInHeader []
  arg := { (ofBytes FuseInitIn []) with
    major := 7, minor := 31, maxReadahead := 131072, flags := 0x40000000, flags2 := 0x20 }

theorem reply_agrees_passthrough :
    passthroughInit.version = ⟨7, 31⟩ ∧
    let session := Session.new .owner 1000 []
    let config := ConfigCall.run (session.kernelConfig passthroughInit)
      [.addCapabilities .fusePassthrough, .setMaxStackDepth 2]
    let page : PageSize := ⟨4096, by decide⟩
    let out := kernelInitOut (passthroughInit.reply config page).payload.flatten
    let negotiated := (session.initialized passthroughInit config).negotiated
    negotiated.contains .fusePassthrough = true ∧ out.maxStackDepth = 2 ∧
    kernelNegotiated out &&& ~~~InitFlags.fuseInitExt = negotiated &&& ~~~InitFlags.fuseInitExt ∧
    (kernelNegotiated out).contains .fusePassthrough = true := by
  refine ⟨by decide, ?_⟩
  intro session config page out negotiated
  obtain ⟨-, -, hnew, hnegotiated, -, hpassthrough⟩ :=
    reply_agrees passthroughInit session [.addCapabilities .fusePassthrough, .setMaxStackDepth 2]
      page (by decide) (by decide)
  have hcontains : negotiated.contains .fusePassthrough = true := by decide +kernel
  have hdepth : out.maxStackDepth = 2 := by
    rw [(hnew (by decide)).2.2.2, if_pos hcontains]
    decide +kernel
  refine ⟨hcontains, hdepth, hnegotiated, hpassthrough ?_⟩
  rw [hdepth]
  decide

end Op.Init

end Fuser
