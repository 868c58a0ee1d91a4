import Fuser.Operation

/-!
The configuration that a filesystem adjusts in its `init` before the session
answers the INIT request.

A configuration starts from what the kernel offers and is changed only through
its methods, each of which either takes effect or reports the nearest value that
would have, and then changes nothing. Integer arithmetic is that of a build
without overflow checks.
-/

namespace Fuser

open Rust

/-- Which callers a session serves. -/
inductive SessionACL where
  | all
  | rootAndOwner
  | owner
  deriving DecidableEq

def maxWriteSize : UInt32 := 16777216

def minWriteSize : UInt32 := 4096

/-- The page size of the system. -/
structure PageSize where
  bytes : UInt32
  positive : 0 < bytes.toNat

def initFlags : InitFlags := .fuseAsyncRead ||| .fuseBigWrites

def defaultInitFlags (capabilities : InitFlags) : InitFlags :=
  if capabilities.contains .fuseMaxPages then initFlags ||| .fuseMaxPages else initFlags

/-- Capabilities that nothing in the program implements. -/
def unsupportedCapabilities : InitFlags :=
  .fuseSubmounts ||| .fuseMapAlignment ||| .fuseSecurityCtx ||| .fuseCreateSuppGroup |||
    .fuseHasInodeDax ||| .fuseOverIoUring ||| .fuseHasResend ||| .fuseRequestTimeout

structure KernelConfig where
  capabilities : InitFlags
  requested : InitFlags
  maxReadahead : UInt32
  maxMaxReadahead : UInt32
  maxBackground : UInt16
  congestionThreshold : Option UInt16
  maxWrite : UInt32
  timeGran : Duration
  maxStackDepth : UInt32
  kernelAbi : Version
  defaultPermissions : Bool
  acl : SessionACL
  deriving DecidableEq

/-- The search for a power of ten: the largest one below a value that is none. -/
def granularityLoop (nanos powerOf10 : Nat) (positive : 0 < powerOf10) : Option Nat :=
  if powerOf10 < nanos then
    if nanos < powerOf10 * 10 then some powerOf10
    else granularityLoop nanos (powerOf10 * 10) (by omega)
  else none
termination_by nanos - powerOf10
decreasing_by omega

namespace KernelConfig

def new (capabilities : InitFlags) (maxReadahead : UInt32) (kernelAbi : Version)
    (defaultPermissions : Bool) (acl : SessionACL) : KernelConfig where
  capabilities := capabilities
  requested := defaultInitFlags capabilities
  maxReadahead := maxReadahead
  maxMaxReadahead := maxReadahead
  maxBackground := 16
  congestionThreshold := none
  maxWrite := maxWriteSize
  timeGran := ⟨0, 1, one_lt_nanosPerSec⟩
  maxStackDepth := 0
  kernelAbi := kernelAbi
  defaultPermissions := defaultPermissions
  acl := acl

/-- Whether FUSE_ALLOW_IDMAP can be honored: access is checked by the kernel,
and no caller is told apart by the session. -/
def idmapAvailable (self : KernelConfig) (alsoAdding : InitFlags) : Bool :=
  let aclForcesDefaultPermissions :=
    InitFlags.contains ((self.requested ||| alsoAdding) &&& self.capabilities) .fusePosixAcl
  (self.defaultPermissions || aclForcesDefaultPermissions) && self.acl == .all

def setMaxStackDepth (value : UInt32) : Method KernelConfig UInt32 UInt32 := fun self =>
  if value > 2 then (.err 2, self)
  else (.ok self.maxStackDepth, { self with maxStackDepth := value })

def setTimeGranularity (value : Duration) : Method KernelConfig Duration Duration := fun self =>
  if value.toNanos = 0 then (.err ⟨0, 1, one_lt_nanosPerSec⟩, self)
  else if value.secs > 1 ∨ value.secs = 1 ∧ value.nanos > 0 then
    (.err ⟨1, 0, zero_lt_nanosPerSec⟩, self)
  else match granularityLoop value.toNanos 1 Nat.one_pos with
    | some powerOf10 => (do .err (← Duration.new 0 (UInt32.ofNat powerOf10)), self)
    | none => (.ok self.timeGran, { self with timeGran := value })

def setMaxWrite (value : UInt32) : Method KernelConfig UInt32 UInt32 := fun self =>
  if value < minWriteSize then (.err minWriteSize, self)
  else if value > maxWriteSize then (.err maxWriteSize, self)
  else (.ok self.maxWrite, { self with maxWrite := value })

def setMaxReadahead (value : UInt32) : Method KernelConfig UInt32 UInt32 := fun self =>
  if value = 0 then (.err 1, self)
  else if value > self.maxMaxReadahead then (.err self.maxMaxReadahead, self)
  else (.ok self.maxReadahead, { self with maxReadahead := value })

/-- What of `capabilitiesToAdd` cannot be had. -/
def refused (self : KernelConfig) (capabilitiesToAdd : InitFlags) : InitFlags :=
  let conditional : InitFlags :=
    if self.idmapAvailable capabilitiesToAdd then 0 else .fuseAllowIdmap
  capabilitiesToAdd &&& (self.capabilities.not ||| unsupportedCapabilities ||| conditional)

def addCapabilities (capabilitiesToAdd : InitFlags) : Method KernelConfig InitFlags Unit :=
  fun self =>
    if Bitflags.isEmpty (self.refused capabilitiesToAdd) then
      (.ok (), { self with requested := self.requested ||| capabilitiesToAdd })
    else (.err (self.refused capabilitiesToAdd), self)

def setMaxBackground (value : UInt16) : Method KernelConfig UInt16 UInt16 := fun self =>
  if value = 0 then (.err 1, self)
  else (.ok self.maxBackground, { self with maxBackground := value })

/-- Three quarters of the background requests unless set, and never more than
all of them. -/
def congestionLimit (self : KernelConfig) : UInt16 :=
  match self.congestionThreshold with
  | none => UInt16.ofNat (self.maxBackground.toNat * 3 / 4)
  | some value => min value self.maxBackground

def setCongestionThreshold (value : UInt16) : Method KernelConfig UInt16 UInt16 := fun self =>
  if value = 0 then (.err 1, self)
  else (.ok self.congestionLimit, { self with congestionThreshold := some value })

/-- The pages that the larger of a write and a readahead takes, less one, before
they are cut to 16 bits. -/
def pagesLessOne (self : KernelConfig) (page : PageSize) : UInt32 :=
  (max self.maxWrite self.maxReadahead - 1) / page.bytes

def maxPages (self : KernelConfig) (page : PageSize) : UInt16 :=
  (self.pagesLessOne page).toUInt16 + 1

end KernelConfig

/-- A call that a filesystem's `init` may make on the configuration. -/
inductive ConfigCall where
  | setMaxStackDepth (value : UInt32)
  | setTimeGranularity (value : Duration)
  | setMaxWrite (value : UInt32)
  | setMaxReadahead (value : UInt32)
  | addCapabilities (capabilitiesToAdd : InitFlags)
  | setMaxBackground (value : UInt16)
  | setCongestionThreshold (value : UInt16)
  | capabilities
  | kernelAbi

namespace ConfigCall

/-- The configuration after the call, whatever the call returned. -/
def apply (config : KernelConfig) : ConfigCall → KernelConfig
  | .setMaxStackDepth value => ((KernelConfig.setMaxStackDepth value).run config).2
  | .setTimeGranularity value => ((KernelConfig.setTimeGranularity value).run config).2
  | .setMaxWrite value => ((KernelConfig.setMaxWrite value).run config).2
  | .setMaxReadahead value => ((KernelConfig.setMaxReadahead value).run config).2
  | .addCapabilities flags => ((KernelConfig.addCapabilities flags).run config).2
  | .setMaxBackground value => ((KernelConfig.setMaxBackground value).run config).2
  | .setCongestionThreshold value => ((KernelConfig.setCongestionThreshold value).run config).2
  | .capabilities | .kernelAbi => config

/-- The configuration after a sequence of calls. -/
def run (config : KernelConfig) (calls : List ConfigCall) : KernelConfig :=
  calls.foldl apply config

/-- What one call can do: nothing, or set one field to a value that passed the
checks of its method. -/
inductive Step (config : KernelConfig) : KernelConfig → Prop where
  | unchanged : Step config config
  | maxStackDepth (value : UInt32) (h : value ≤ 2) :
      Step config { config with maxStackDepth := value }
  | timeGran (value : Duration) (h : value.toNanos ≤ nanosPerSec) :
      Step config { config with timeGran := value }
  | maxWrite (value : UInt32) (h : minWriteSize ≤ value ∧ value ≤ maxWriteSize) :
      Step config { config with maxWrite := value }
  | maxReadahead (value : UInt32) (h : value ≤ config.maxMaxReadahead) :
      Step config { config with maxReadahead := value }
  | requested (flags : InitFlags) (h : config.refused flags = 0#64) :
      Step config { config with requested := config.requested ||| flags }
  | maxBackground (value : UInt16) (h : value ≠ 0) :
      Step config { config with maxBackground := value }
  | congestionThreshold (value : UInt16) (h : value ≠ 0) :
      Step config { config with congestionThreshold := some value }

theorem toNanos_le_of_granularity {value : Duration}
    (h : ¬ (value.secs > 1 ∨ value.secs = 1 ∧ value.nanos > 0)) :
    value.toNanos ≤ nanosPerSec := by
  have hnanos := value.valid
  have hsecs : ¬ value.secs.toNat > 1 := fun hlt => h (.inl (UInt64.lt_iff_toNat_lt.mpr hlt))
  rw [Duration.toNanos]
  by_cases hone : value.secs.toNat = 1
  · have hzero : ¬ value.nanos.toNat > 0 := by
      intro hpos
      exact h (.inr ⟨UInt64.toNat_inj.mp hone, UInt32.lt_iff_toNat_lt.mpr hpos⟩)
    rw [hone]
    omega
  · have hzero : value.secs.toNat = 0 := by omega
    rw [hzero]
    omega

theorem step_setTimeGranularity (config : KernelConfig) (value : Duration) :
    Step config ((KernelConfig.setTimeGranularity value).run config).2 := by
  rw [Method.run, KernelConfig.setTimeGranularity]
  by_cases hzero : value.toNanos = 0
  · rw [if_pos hzero]
    exact .unchanged
  · rw [if_neg hzero]
    by_cases hlarge : value.secs > 1 ∨ value.secs = 1 ∧ value.nanos > 0
    · rw [if_pos hlarge]
      exact .unchanged
    · rw [if_neg hlarge]
      split
      · exact .unchanged
      · exact .timeGran value (toNanos_le_of_granularity hlarge)

theorem step_addCapabilities (config : KernelConfig) (flags : InitFlags) :
    Step config ((KernelConfig.addCapabilities flags).run config).2 := by
  rw [Method.run, KernelConfig.addCapabilities]
  by_cases hempty : Bitflags.isEmpty (config.refused flags)
  · rw [if_pos hempty]
    exact .requested flags (beq_iff_eq.mp hempty)
  · rw [if_neg hempty]
    exact .unchanged

theorem step_apply (config : KernelConfig) (call : ConfigCall) :
    Step config (call.apply config) := by
  cases call with
  | setTimeGranularity value => exact step_setTimeGranularity config value
  | addCapabilities flags => exact step_addCapabilities config flags
  | capabilities | kernelAbi => exact .unchanged
  | setMaxStackDepth value =>
      rw [apply, Method.run, KernelConfig.setMaxStackDepth]
      by_cases hlarge : value > 2
      · rw [if_pos hlarge]
        exact .unchanged
      · rw [if_neg hlarge]
        exact .maxStackDepth value (UInt32.not_lt.mp hlarge)
  | setMaxWrite value =>
      rw [apply, Method.run, KernelConfig.setMaxWrite]
      by_cases hsmall : value < minWriteSize
      · rw [if_pos hsmall]
        exact .unchanged
      · rw [if_neg hsmall]
        by_cases hlarge : value > maxWriteSize
        · rw [if_pos hlarge]
          exact .unchanged
        · rw [if_neg hlarge]
          exact .maxWrite value ⟨UInt32.not_lt.mp hsmall, UInt32.not_lt.mp hlarge⟩
  | setMaxReadahead value =>
      rw [apply, Method.run, KernelConfig.setMaxReadahead]
      by_cases hzero : value = 0
      · rw [if_pos hzero]
        exact .unchanged
      · rw [if_neg hzero]
        by_cases hlarge : value > config.maxMaxReadahead
        · rw [if_pos hlarge]
          exact .unchanged
        · rw [if_neg hlarge]
          exact .maxReadahead value (UInt32.not_lt.mp hlarge)
  | setMaxBackground value =>
      rw [apply, Method.run, KernelConfig.setMaxBackground]
      by_cases hzero : value = 0
      · rw [if_pos hzero]
        exact .unchanged
      · rw [if_neg hzero]
        exact .maxBackground value hzero
  | setCongestionThreshold value =>
      rw [apply, Method.run, KernelConfig.setCongestionThreshold]
      by_cases hzero : value = 0
      · rw [if_pos hzero]
        exact .unchanged
      · rw [if_neg hzero]
        exact .congestionThreshold value hzero

/-- What every step keeps holds after any sequence of calls. -/
theorem run_induction {P : KernelConfig → Prop} {config : KernelConfig} (hinit : P config)
    (hstep : ∀ c c', P c → Step c c' → P c') (calls : List ConfigCall) :
    P (run config calls) := by
  induction calls generalizing config with
  | nil => exact hinit
  | cons call calls ih => exact ih (hstep _ _ hinit (step_apply config call))

end ConfigCall

namespace KernelConfig

/-- What a sequence of calls cannot change. -/
def SameMount (config config' : KernelConfig) : Prop :=
  config'.capabilities = config.capabilities ∧
  config'.defaultPermissions = config.defaultPermissions ∧ config'.acl = config.acl

theorem sameMount_run (config : KernelConfig) (calls : List ConfigCall) :
    config.SameMount (ConfigCall.run config calls) := by
  refine ConfigCall.run_induction (P := config.SameMount) ⟨rfl, rfl, rfl⟩ ?_ calls
  intro c c' hc hstep
  cases hstep <;> exact hc

/-- The bound on what a filesystem can ask for. -/
structure Honorable (config : KernelConfig) : Prop where
  supported : config.requested &&& unsupportedCapabilities = 0#64
  idmap : config.requested.contains .fuseAllowIdmap = true →
    config.idmapAvailable 0#64 = true

theorem defaultInitFlags_cases (capabilities : InitFlags) :
    defaultInitFlags capabilities = initFlags ||| .fuseMaxPages ∨
      defaultInitFlags capabilities = initFlags := by
  rw [defaultInitFlags]
  by_cases hpages : capabilities.contains .fuseMaxPages
  · exact .inl (if_pos hpages)
  · exact .inr (if_neg hpages)

theorem honorable_new (capabilities : InitFlags) (maxReadahead : UInt32) (kernelAbi : Version)
    (defaultPermissions : Bool) (acl : SessionACL) :
    (new capabilities maxReadahead kernelAbi defaultPermissions acl).Honorable := by
  have hdefault : defaultInitFlags capabilities &&& unsupportedCapabilities = 0#64 ∧
      (defaultInitFlags capabilities).contains .fuseAllowIdmap = false := by
    cases defaultInitFlags_cases capabilities with
    | inl h =>
        rw [h]
        exact ⟨by decide, by decide⟩
    | inr h =>
        rw [h]
        exact ⟨by decide, by decide⟩
  exact ⟨hdefault.1, fun hidmap => absurd hidmap (Bool.eq_false_iff.mp hdefault.2)⟩

theorem idmapAvailable_iff (config : KernelConfig) (flags : InitFlags) :
    config.idmapAvailable flags = true ↔
      (config.defaultPermissions = true ∨
        InitFlags.contains ((config.requested ||| flags) &&& config.capabilities)
          .fusePosixAcl = true) ∧
      config.acl = .all := by
  simp only [idmapAvailable, Bool.and_eq_true, Bool.or_eq_true, beq_iff_eq]

/-- Capabilities that are not refused are supported, and FUSE_ALLOW_IDMAP is
among them only where it is available. -/
theorem of_refused_eq_zero {config : KernelConfig} {flags : InitFlags}
    (h : config.refused flags = 0#64) :
    flags &&& unsupportedCapabilities = 0#64 ∧
    (flags.contains .fuseAllowIdmap = true → config.idmapAvailable flags = true) := by
  rw [refused, Bitflags.and_or_eq_zero, Bitflags.and_or_eq_zero] at h
  refine ⟨h.1.2, fun hidmap => ?_⟩
  cases havailable : config.idmapAvailable flags with
  | true => rfl
  | false =>
      have hnone := h.2
      rw [havailable] at hnone
      have hself : flags &&& .fuseAllowIdmap = .fuseAllowIdmap := beq_iff_eq.mp hidmap
      exact absurd (hself.symm.trans hnone) (by decide)

theorem honorable_step {config config' : KernelConfig} (h : config.Honorable)
    (hstep : ConfigCall.Step config config') : config'.Honorable := by
  cases hstep with
  | requested flags hrefused =>
      obtain ⟨hsupported, hidmap⟩ := of_refused_eq_zero hrefused
      refine ⟨?_, fun hcontains => ?_⟩
      · have hboth := (Bitflags.and_or_eq_zero unsupportedCapabilities config.requested flags).mpr
          ⟨(BitVec.and_comm ..).trans h.supported, (BitVec.and_comm ..).trans hsupported⟩
        exact (BitVec.and_comm ..).trans hboth
      · have hbit : config.requested.contains .fuseAllowIdmap = true ∨
            flags.contains .fuseAllowIdmap = true := by
          simp only [InitFlags.contains, InitFlags.fuseAllowIdmap,
            Bitflags.contains_twoPow _ (by decide : 40 < 64), BitVec.getLsbD_or,
            Bool.or_eq_true] at hcontains ⊢
          exact hcontains
        have havailable : config.idmapAvailable flags = true := by
          cases hbit with
          | inl hold =>
              rw [idmapAvailable_iff]
              obtain ⟨hforced, hacl⟩ := (idmapAvailable_iff ..).mp (h.idmap hold)
              refine ⟨hforced.imp id (fun hposix => ?_), hacl⟩
              refine Bitflags.contains_mono ?_ hposix
              rw [Bitflags.contains_iff]
              intro i hi
              simp only [BitVec.or_zero, BitVec.getLsbD_and, BitVec.getLsbD_or, Bool.and_eq_true,
                Bool.or_eq_true] at hi ⊢
              exact ⟨.inl hi.1, hi.2⟩
          | inr hnew => exact hidmap hnew
        rw [idmapAvailable_iff] at havailable ⊢
        simpa only [BitVec.or_zero] using havailable
  | unchanged => exact h
  | maxStackDepth value => exact ⟨h.supported, h.idmap⟩
  | timeGran value => exact ⟨h.supported, h.idmap⟩
  | maxWrite value => exact ⟨h.supported, h.idmap⟩
  | maxReadahead value => exact ⟨h.supported, h.idmap⟩
  | maxBackground value => exact ⟨h.supported, h.idmap⟩
  | congestionThreshold value => exact ⟨h.supported, h.idmap⟩

/-- No sequence of calls gets at a capability that cannot be honored. -/
theorem honorable_run {config : KernelConfig} (h : config.Honorable) (calls : List ConfigCall) :
    (ConfigCall.run config calls).Honorable :=
  ConfigCall.run_induction h (fun _ _ hc hstep => honorable_step hc hstep) calls

/-- The bits of an argument that cannot be granted: what the kernel did not offer,
what the program does not support, and FUSE_ALLOW_IDMAP where it is not available. -/
def ungranted (config : KernelConfig) (flags : InitFlags) : InitFlags :=
  let conditional : InitFlags := if config.idmapAvailable flags then 0 else .fuseAllowIdmap
  flags &&& (~~~config.capabilities ||| unsupportedCapabilities ||| conditional)

/-- Capabilities are granted together, or else refused with the bits that cannot be
granted and without a trace. -/
def AddsExactly (config : KernelConfig) (flags : InitFlags) : Prop :=
  (addCapabilities flags).run config =
    if config.ungranted flags = 0#64 then
      (.ok (), { config with requested := config.requested ||| flags })
    else (.err (config.ungranted flags), config)

/-- The refusals that do not depend on the kernel are of named bits. -/
theorem unsupported_named (idmapAvailable : Bool) :
    (unsupportedCapabilities ||| if idmapAvailable then 0 else InitFlags.fuseAllowIdmap) &&&
      ~~~InitFlags.all = 0#64 := by
  cases idmapAvailable with
  | true => decide
  | false => decide

/-- What the code refuses is what cannot be granted, cut to the bits that have a
name. -/
theorem refused_eq (config : KernelConfig) (flags : InitFlags) :
    config.refused flags = config.ungranted flags &&& InitFlags.all := by
  have hnamed := (Bitflags.and_eq_self_iff _ _).mpr
    (unsupported_named (config.idmapAvailable flags))
  rw [refused, ungranted, BitVec.or_assoc, BitVec.or_assoc, BitVec.and_assoc,
    BitVec.and_or_distrib_right, hnamed]
  rfl

theorem ungranted_unnamed (config : KernelConfig) (flags : InitFlags) :
    config.ungranted flags &&& ~~~InitFlags.all =
      flags &&& ~~~config.capabilities &&& ~~~InitFlags.all := by
  rw [ungranted, BitVec.or_assoc, BitVec.and_assoc, BitVec.and_or_distrib_right,
    unsupported_named (config.idmapAvailable flags), BitVec.or_zero, BitVec.and_assoc]

theorem run_addCapabilities (config : KernelConfig) (flags : InitFlags) :
    (addCapabilities flags).run config =
      if config.refused flags = 0#64 then
        (.ok (), { config with requested := config.requested ||| flags })
      else (.err (config.refused flags), config) := by
  simp only [Method.run, addCapabilities, Bitflags.isEmpty, beq_iff_eq]

theorem addsExactly_iff_refused (config : KernelConfig) (flags : InitFlags) :
    config.AddsExactly flags ↔ config.refused flags = config.ungranted flags := by
  constructor
  · intro h
    rw [AddsExactly, run_addCapabilities] at h
    by_cases hungranted : config.ungranted flags = 0#64
    · rw [refused_eq, hungranted, BitVec.zero_and]
    · rw [if_neg hungranted] at h
      by_cases hrefused : config.refused flags = 0#64
      · rw [if_pos hrefused] at h
        cases congrArg Prod.fst h
      · rw [if_neg hrefused] at h
        exact Outcome.err.inj (congrArg Prod.fst h)
  · intro h
    rw [AddsExactly, run_addCapabilities, h]

/-- Adding capabilities is exact but for bits that have no name and that the kernel
did not offer: complementing what it offers loses them. -/
theorem addsExactly_iff (capabilities : InitFlags) (maxReadahead : UInt32) (kernelAbi : Version)
    (defaultPermissions : Bool) (acl : SessionACL) (calls : List ConfigCall) (flags : InitFlags) :
    (ConfigCall.run (new capabilities maxReadahead kernelAbi defaultPermissions acl)
      calls).AddsExactly flags ↔ flags &&& ~~~capabilities &&& ~~~InitFlags.all = 0#64 := by
  have hcapabilities := (sameMount_run
    (new capabilities maxReadahead kernelAbi defaultPermissions acl) calls).1
  generalize ConfigCall.run (new capabilities maxReadahead kernelAbi defaultPermissions acl)
    calls = config at hcapabilities
  rw [addsExactly_iff_refused, refused_eq, Bitflags.and_eq_self_iff, ungranted_unnamed,
    hcapabilities]
  rfl

/-- A kernel that offers nothing, and a filesystem that asks for the highest bit. -/
theorem not_addsExactly_unnamed :
    ¬ (new 0 0 ⟨7, 31⟩ false .all).AddsExactly (.twoPow 64 63) := by
  rw [AddsExactly]
  decide

/-- Bounds on what the INIT reply carries. -/
structure Sendable (config : KernelConfig) : Prop where
  timeGran : config.timeGran.toNanos ≤ nanosPerSec
  maxWrite : minWriteSize ≤ config.maxWrite

theorem sendable_new (capabilities : InitFlags) (maxReadahead : UInt32) (kernelAbi : Version)
    (defaultPermissions : Bool) (acl : SessionACL) :
    (new capabilities maxReadahead kernelAbi defaultPermissions acl).Sendable :=
  ⟨by change Duration.toNanos ⟨0, 1, _⟩ ≤ nanosPerSec; decide, by
    change minWriteSize ≤ maxWriteSize
    decide⟩

theorem sendable_run {config : KernelConfig} (h : config.Sendable) (calls : List ConfigCall) :
    (ConfigCall.run config calls).Sendable := by
  refine ConfigCall.run_induction h (fun c c' hc hstep => ?_) calls
  cases hstep with
  | timeGran value hvalue => exact ⟨hvalue, hc.maxWrite⟩
  | maxWrite value hvalue => exact ⟨hc.timeGran, hvalue.1⟩
  | unchanged => exact hc
  | maxStackDepth value => exact ⟨hc.timeGran, hc.maxWrite⟩
  | maxReadahead value => exact ⟨hc.timeGran, hc.maxWrite⟩
  | requested flags => exact ⟨hc.timeGran, hc.maxWrite⟩
  | maxBackground value => exact ⟨hc.timeGran, hc.maxWrite⟩
  | congestionThreshold value => exact ⟨hc.timeGran, hc.maxWrite⟩

theorem toNat_max (a b : UInt32) : (max a b).toNat = max a.toNat b.toNat := by
  change (if a ≤ b then b else a).toNat = _
  by_cases h : a ≤ b
  · rw [if_pos h, Nat.max_eq_right (UInt32.le_iff_toNat_le.mp h)]
  · have hle := UInt32.le_iff_toNat_le.not.mp h
    rw [if_neg h, Nat.max_eq_left (by omega)]

theorem pagesLessOne_toNat {config : KernelConfig} (h : config.Sendable) (page : PageSize) :
    (config.pagesLessOne page).toNat =
      (max config.maxWrite.toNat config.maxReadahead.toNat - 1) / page.bytes.toNat := by
  have hwrite : 4096 ≤ config.maxWrite.toNat := UInt32.le_iff_toNat_le.mp h.maxWrite
  have hone : (1 : UInt32) ≤ max config.maxWrite config.maxReadahead := by
    rw [UInt32.le_iff_toNat_le, toNat_max]
    change 1 ≤ _
    omega
  rw [pagesLessOne, UInt32.toNat_div, UInt32.toNat_sub_of_le _ _ hone, toNat_max]
  rfl

/-- The number of pages, unless it overflows its 16 bits. -/
theorem maxPages_toNat {config : KernelConfig} (h : config.Sendable) (page : PageSize)
    (hfits : (max config.maxWrite.toNat config.maxReadahead.toNat - 1) / page.bytes.toNat + 1 <
      2 ^ 16) :
    (config.maxPages page).toNat =
      (max config.maxWrite.toNat config.maxReadahead.toNat - 1) / page.bytes.toNat + 1 := by
  rw [maxPages, UInt16.toNat_add, UInt32.toNat_toUInt16, pagesLessOne_toNat h]
  change (_ % 2 ^ 16 + 1) % 2 ^ 16 = _
  generalize (max config.maxWrite.toNat config.maxReadahead.toNat - 1) / page.bytes.toNat =
    pages at hfits ⊢
  omega

end KernelConfig

end Fuser
