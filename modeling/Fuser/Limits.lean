import Fuser.Foundation.Setter
import Fuser.Framing
import Fuser.Handshake
import Fuser.Parsing

/-!
What a filesystem can make of the limits that the session advertises.

The limits are set one at a time, in any order and with any values, from what the
kernel offered; the reply narrows some of them and derives others. What comes out
decides which requests the kernel sends afterwards, and these have to fit the
buffer of the session.
-/

namespace Fuser

open Rust Wire

namespace KernelConfig

/-- What the methods keep the fields within, for a kernel that offers `offered` bytes
of readahead. -/
structure WithinLimits (offered : UInt32) (config : KernelConfig) : Prop extends
    config.Sendable where
  maxMaxReadahead : config.maxMaxReadahead = offered
  maxReadahead : config.maxReadahead ≤ offered
  maxWriteSize : config.maxWrite ≤ maxWriteSize
  maxStackDepth : config.maxStackDepth ≤ 2
  maxBackground : config.maxBackground ≠ 0
  congestionThreshold : config.congestionThreshold ≠ some 0

theorem withinLimits_new (capabilities : InitFlags) (offered : UInt32) (kernelAbi : Version)
    (defaultPermissions : Bool) (acl : SessionACL) :
    (new capabilities offered kernelAbi defaultPermissions acl).WithinLimits offered where
  toSendable := sendable_new capabilities offered kernelAbi defaultPermissions acl
  maxMaxReadahead := rfl
  maxReadahead := UInt32.le_refl offered
  maxWriteSize := UInt32.le_refl _
  maxStackDepth := UInt32.le_iff_toNat_le.mpr (Nat.zero_le _)
  maxBackground := by
    change (16 : UInt16) ≠ 0
    decide
  congestionThreshold := nofun

theorem withinLimits_step {offered : UInt32} {config config' : KernelConfig}
    (h : config.WithinLimits offered) (hstep : ConfigCall.Step config config') :
    config'.WithinLimits offered := by
  cases hstep with
  | unchanged => exact h
  | maxStackDepth value hvalue => exact { h with maxStackDepth := hvalue }
  | timeGran value hvalue => exact { h with timeGran := hvalue }
  | maxWrite value hvalue => exact { h with maxWrite := hvalue.1, maxWriteSize := hvalue.2 }
  | maxReadahead value hvalue => exact { h with maxReadahead := h.maxMaxReadahead ▸ hvalue }
  | requested flags hflags => exact { h with }
  | maxBackground value hvalue => exact { h with maxBackground := hvalue }
  | congestionThreshold value hvalue =>
      exact { h with congestionThreshold := fun hzero => hvalue (Option.some.inj hzero) }

theorem withinLimits_run {offered : UInt32} {config : KernelConfig}
    (h : config.WithinLimits offered) (calls : List ConfigCall) :
    (ConfigCall.run config calls).WithinLimits offered :=
  ConfigCall.run_induction h (fun _ _ hc hstep => withinLimits_step hc hstep) calls

theorem takesRange_maxStackDepth (config : KernelConfig) :
    Setter.TakesRange setMaxStackDepth UInt32.toNat config 0 2 := by
  intro value
  by_cases hlarge : value > 2
  · exact .inr ⟨2, if_pos hlarge, .inr ⟨UInt32.lt_iff_toNat_lt.mp hlarge, rfl⟩⟩
  · have hle : value.toNat ≤ 2 := UInt32.le_iff_toNat_le.mp (UInt32.not_lt.mp hlarge)
    exact .inl ⟨Nat.zero_le _, hle, _, congrArg Prod.fst (if_neg hlarge)⟩

theorem takesRange_maxWrite (config : KernelConfig) :
    Setter.TakesRange setMaxWrite UInt32.toNat config 4096 16777216 := by
  intro value
  by_cases hsmall : value < minWriteSize
  · exact .inr ⟨minWriteSize, if_pos hsmall, .inl ⟨UInt32.lt_iff_toNat_lt.mp hsmall, rfl⟩⟩
  · have hlo : 4096 ≤ value.toNat := UInt32.le_iff_toNat_le.mp (UInt32.not_lt.mp hsmall)
    by_cases hlarge : value > maxWriteSize
    · refine .inr ⟨maxWriteSize, ?_, .inr ⟨UInt32.lt_iff_toNat_lt.mp hlarge, rfl⟩⟩
      rw [Method.run, setMaxWrite, if_neg hsmall, if_pos hlarge]
    · have hhi : value.toNat ≤ 16777216 := UInt32.le_iff_toNat_le.mp (UInt32.not_lt.mp hlarge)
      refine .inl ⟨hlo, hhi, config.maxWrite, ?_⟩
      rw [Method.run, setMaxWrite, if_neg hsmall, if_neg hlarge]

theorem takesRange_maxReadahead (config : KernelConfig) :
    Setter.TakesRange setMaxReadahead UInt32.toNat config 1 config.maxMaxReadahead.toNat := by
  intro value
  by_cases hzero : value = 0
  · exact .inr ⟨1, if_pos hzero, .inl ⟨by rw [hzero]; decide, rfl⟩⟩
  · have hlo : value.toNat ≠ 0 := fun h => hzero (UInt32.toNat_inj.mp h)
    by_cases hlarge : value > config.maxMaxReadahead
    · refine .inr ⟨config.maxMaxReadahead, ?_, .inr ⟨UInt32.lt_iff_toNat_lt.mp hlarge, rfl⟩⟩
      rw [Method.run, setMaxReadahead, if_neg hzero, if_pos hlarge]
    · have hhi := UInt32.le_iff_toNat_le.mp (UInt32.not_lt.mp hlarge)
      refine .inl ⟨Nat.pos_of_ne_zero hlo, hhi, config.maxReadahead, ?_⟩
      rw [Method.run, setMaxReadahead, if_neg hzero, if_neg hlarge]

theorem takesRange_of_nonzero {set : Setter KernelConfig UInt16} {config : KernelConfig}
    (hzero : (set 0).run config = (.err 1, config))
    (hother : ∀ value, value ≠ 0 → set.Accepts config value) :
    set.TakesRange UInt16.toNat config 1 65535 := by
  intro value
  by_cases h : value = 0
  · exact .inr ⟨1, by rw [h]; exact hzero, .inl ⟨by rw [h]; decide, rfl⟩⟩
  · have hlo : value.toNat ≠ 0 := fun hvalue => h (UInt16.toNat_inj.mp hvalue)
    have hhi : value.toNat ≤ 65535 := Nat.le_of_lt_succ value.toNat_lt
    exact .inl ⟨Nat.pos_of_ne_zero hlo, hhi, hother value h⟩

theorem takesRange_maxBackground (config : KernelConfig) :
    Setter.TakesRange setMaxBackground UInt16.toNat config 1 65535 :=
  takesRange_of_nonzero rfl (fun _ h => ⟨_, congrArg Prod.fst (if_neg h)⟩)

theorem takesRange_congestionThreshold (config : KernelConfig) :
    Setter.TakesRange setCongestionThreshold UInt16.toNat config 1 65535 :=
  takesRange_of_nonzero rfl (fun _ h => ⟨_, congrArg Prod.fst (if_neg h)⟩)

end KernelConfig

/-- The loop finds the power of ten below a value that lies between two of them,
and none for a value that is one or that it starts above. -/
theorem granularityLoop_spec (nanos powerOf10 : Nat) (positive : 0 < powerOf10) :
    match granularityLoop nanos powerOf10 positive with
    | some found => ∃ k, found = powerOf10 * 10 ^ k ∧ found < nanos ∧ nanos < found * 10
    | none => nanos ≤ powerOf10 ∨ ∃ k, nanos = powerOf10 * 10 ^ k := by
  fun_induction granularityLoop nanos powerOf10 positive with
  | case1 powerOf10 positive hlt hnext => exact ⟨0, by simp, hlt, hnext⟩
  | case2 powerOf10 positive hlt hnext ih =>
      generalize granularityLoop nanos (powerOf10 * 10) _ = found at ih ⊢
      cases found with
      | some found =>
          obtain ⟨k, hfound, hbelow, habove⟩ := ih
          refine ⟨k + 1, ?_, hbelow, habove⟩
          rw [hfound, Nat.pow_succ', Nat.mul_assoc]
      | none =>
          refine .inr ?_
          obtain hle | ⟨k, hk⟩ := ih
          · exact ⟨1, by rw [Nat.pow_one]; exact Nat.le_antisymm hle (Nat.not_lt.mp hnext)⟩
          · exact ⟨k + 1, by rw [hk, Nat.pow_succ', Nat.mul_assoc]⟩
  | case3 powerOf10 positive hge => exact .inl (Nat.not_lt.mp hge)

namespace KernelConfig

theorem toNanos_le_iff_granularity (value : Duration) :
    ¬ (value.secs > 1 ∨ value.secs = 1 ∧ value.nanos > 0) ↔ value.toNanos ≤ 10 ^ 9 := by
  refine ⟨ConfigCall.toNanos_le_of_granularity, fun hle hlarge => ?_⟩
  have hvalue : value.toNanos = 1000000000 * value.secs.toNat + value.nanos.toNat := rfl
  obtain hsecs | ⟨hsecs, hnanos⟩ := hlarge
  · have hlt : 1 < value.secs.toNat := UInt64.lt_iff_toNat_lt.mp hsecs
    omega
  · have hone : value.secs.toNat = 1 := congrArg UInt64.toNat hsecs
    have hpos : 0 < value.nanos.toNat := UInt32.lt_iff_toNat_lt.mp hnanos
    omega

theorem new_subsecond {ε : Type} (nanos : Nat) (h : nanos < 10 ^ 9) :
    ∃ d : Duration, (Duration.new 0 (UInt32.ofNat nanos) : Outcome ε Duration) = .ok d ∧
      d.toNanos = nanos := by
  have hcast : (UInt32.ofNat nanos).toNat = nanos := by
    rw [UInt32.toNat_ofNat']
    omega
  have hvalid : (UInt32.ofNat nanos).toNat < nanosPerSec := by
    rw [hcast]
    exact h
  refine ⟨_, Duration.new_eq _ _ hvalid, ?_⟩
  change nanosPerSec * 0 + (UInt32.ofNat nanos).toNat = nanos
  rw [hcast, Nat.mul_zero, Nat.zero_add]

/-- A granularity is a power of ten that is taken, or is refused with one: the first,
the last, or the one below. -/
theorem setTimeGranularity_cases (config : KernelConfig) (value : Duration) :
    (∃ k ≤ 9, value.toNanos = 10 ^ k ∧ (setTimeGranularity value).run config =
      (.ok config.timeGran, { config with timeGran := value })) ∨
    ∃ named k, (setTimeGranularity value).run config = (.err named, config) ∧ k ≤ 9 ∧
      named.toNanos = 10 ^ k ∧
      (value.toNanos = 0 ∧ k = 0 ∨ 10 ^ 9 < value.toNanos ∧ k = 9 ∨
        k < 9 ∧ 10 ^ k < value.toNanos ∧ value.toNanos < 10 ^ (k + 1)) := by
  by_cases hzero : value.toNanos = 0
  · exact .inr ⟨_, 0, if_pos hzero, Nat.zero_le 9, rfl, .inl ⟨hzero, rfl⟩⟩
  · by_cases hlarge : value.secs > 1 ∨ value.secs = 1 ∧ value.nanos > 0
    · refine .inr ⟨⟨1, 0, zero_lt_nanosPerSec⟩, 9, ?_, Nat.le_refl 9, rfl, .inr (.inl ⟨?_, rfl⟩)⟩
      · rw [Method.run, setTimeGranularity, if_neg hzero, if_pos hlarge]
      · exact Nat.not_le.mp fun hle => (toNanos_le_iff_granularity value).mpr hle hlarge
    · have hle := (toNanos_le_iff_granularity value).mp hlarge
      have hspec := granularityLoop_spec value.toNanos 1 Nat.one_pos
      cases hloop : granularityLoop value.toNanos 1 Nat.one_pos with
      | some found =>
          rw [hloop] at hspec
          obtain ⟨k, hfound, hbelow, habove⟩ := hspec
          rw [Nat.one_mul] at hfound
          have hk : k < 9 := (Nat.pow_lt_pow_iff_right (by decide : 1 < 10)).mp (by omega)
          obtain ⟨named, hnew, hnamed⟩ := new_subsecond (ε := Duration) found (by omega)
          refine .inr ⟨named, k, ?_, Nat.le_of_lt hk, hnamed.trans hfound,
            .inr (.inr ⟨hk, hfound ▸ hbelow, ?_⟩)⟩
          · rw [Method.run, setTimeGranularity, if_neg hzero, if_neg hlarge]
            simp only [hloop]
            rw [hnew, Outcome.ok_bind]
          · rw [Nat.pow_succ, ← hfound]
            exact habove
      | none =>
          rw [hloop] at hspec
          have hpower : ∃ k, value.toNanos = 10 ^ k := by
            obtain hone | ⟨k, hk⟩ := hspec
            · exact ⟨0, by omega⟩
            · exact ⟨k, by rw [hk, Nat.one_mul]⟩
          obtain ⟨k, hk⟩ := hpower
          refine .inl ⟨k, ?_, hk, ?_⟩
          · exact (Nat.pow_le_pow_iff_right (by decide : 1 < 10)).mp (hk ▸ hle)
          · rw [Method.run, setTimeGranularity, if_neg hzero, if_neg hlarge]
            simp only [hloop]

theorem accepts_timeGranularity (config : KernelConfig) (value : Duration) :
    Setter.Accepts setTimeGranularity config value ↔ ∃ k ≤ 9, value.toNanos = 10 ^ k := by
  constructor
  · rintro ⟨previous, hprevious⟩
    obtain ⟨k, hk, hvalue, -⟩ | ⟨named, k, hrun, -⟩ := setTimeGranularity_cases config value
    · exact ⟨k, hk, hvalue⟩
    · rw [hrun] at hprevious
      cases hprevious
  · rintro ⟨k, hk, hvalue⟩
    obtain ⟨-, -, -, hrun⟩ | ⟨named, j, -, -, -, hcases⟩ := setTimeGranularity_cases config value
    · exact ⟨_, congrArg Prod.fst hrun⟩
    · have hlt {a b : Nat} : 10 ^ a < 10 ^ b ↔ a < b :=
        Nat.pow_lt_pow_iff_right (by decide)
      have hpos : 0 < 10 ^ k := Nat.pow_pos (by decide)
      rw [hvalue, hlt, hlt, hlt] at hcases
      omega

/-- The granularities that can be set are the powers of ten up to a second. What is
refused is answered with one of them, which only for zero is larger. -/
theorem setTimeGranularity_spec (config : KernelConfig) (value : Duration) :
    ((∃ previous config', (setTimeGranularity value).run config = (.ok previous, config')) ↔
      ∃ k ≤ 9, value.toNanos = 10 ^ k) ∧
    ((∃ k ≤ 9, value.toNanos = 10 ^ k) → (setTimeGranularity value).run config =
      (.ok config.timeGran, { config with timeGran := value })) ∧
    ((¬ ∃ k ≤ 9, value.toNanos = 10 ^ k) → ∃ named : Duration,
      (setTimeGranularity value).run config = (.err named, config) ∧
      (∃ k ≤ 9, named.toNanos = 10 ^ k) ∧
      (value.toNanos ≠ 0 → named.toNanos ≤ value.toNanos)) := by
  have haccepts := accepts_timeGranularity config value
  refine ⟨⟨?_, ?_⟩, fun hpower => ?_, fun hpower => ?_⟩
  · rintro ⟨previous, config', hrun⟩
    exact haccepts.mp ⟨previous, congrArg Prod.fst hrun⟩
  · intro hpower
    obtain ⟨previous, hprevious⟩ := haccepts.mpr hpower
    exact ⟨previous, _, Method.run_eq_mk hprevious⟩
  · obtain ⟨-, -, -, hrun⟩ | ⟨named, -, hrun, -⟩ := setTimeGranularity_cases config value
    · exact hrun
    · obtain ⟨previous, hprevious⟩ := haccepts.mpr hpower
      rw [hrun] at hprevious
      cases hprevious
  · obtain ⟨k, hk, hvalue, -⟩ | ⟨named, k, hrun, hk, hnamed, hcases⟩ :=
      setTimeGranularity_cases config value
    · exact absurd ⟨k, hk, hvalue⟩ hpower
    · refine ⟨named, hrun, ⟨k, hk, hnamed⟩, fun hzero => ?_⟩
      rw [hnamed]
      obtain ⟨h, -⟩ | ⟨hlarge, rfl⟩ | ⟨-, hbelow, -⟩ := hcases
      · exact absurd h hzero
      · exact Nat.le_of_lt hlarge
      · exact Nat.le_of_lt hbelow

theorem exists_granularity (k : Nat) (h : k ≤ 9) : ∃ d : Duration, d.toNanos = 10 ^ k := by
  by_cases hlast : k = 9
  · exact ⟨⟨1, 0, zero_lt_nanosPerSec⟩, by rw [hlast]; rfl⟩
  · have hlt : 10 ^ k < 10 ^ 9 := Nat.pow_lt_pow_right (by decide) (by omega)
    obtain ⟨d, -, hd⟩ := new_subsecond (ε := Unit) (10 ^ k) hlt
    exact ⟨d, hd⟩

/-- Between two powers of ten the lower one is named, so the value must not be nearer
to the upper one. -/
theorem refusesWithNearest_timeGranularity (config : KernelConfig) (value : Duration) :
    Setter.RefusesWithNearest setTimeGranularity Duration.toNanos config value ↔
      ∀ k < 9, 10 ^ k < value.toNanos → value.toNanos < 10 ^ (k + 1) →
        2 * value.toNanos ≤ 11 * 10 ^ k := by
  have hlt {a b : Nat} : 10 ^ a < 10 ^ b ↔ a < b := Nat.pow_lt_pow_iff_right (by decide)
  have hle {a b : Nat} (h : a ≤ b) : 10 ^ a ≤ 10 ^ b := Nat.pow_le_pow_right (by decide) h
  obtain ⟨j, hj, hvalue, hrun⟩ | ⟨named, j, hrun, hj, hnamed, hcases⟩ :=
    setTimeGranularity_cases config value
  · have haccepts : Setter.Accepts setTimeGranularity config value := ⟨_, congrArg Prod.fst hrun⟩
    refine ⟨fun _ k hk hbelow habove => ?_, fun _ => Setter.refusesWithNearest_of_accepts haccepts⟩
    rw [hvalue, hlt] at hbelow habove
    omega
  · rw [Setter.refusesWithNearest_iff_of_err hrun, hnamed]
    constructor
    · rintro ⟨-, hnearest⟩ k hk hbelow habove
      have hsame : j = k := by
        have htop := hle (Nat.succ_le_of_lt hk)
        obtain ⟨hzero, -⟩ | ⟨hlarge, -⟩ | ⟨-, hbelow', habove'⟩ := hcases
        · omega
        · omega
        · have hkj := hlt.mp (Nat.lt_trans hbelow habove')
          have hjk := hlt.mp (Nat.lt_trans hbelow' habove)
          omega
      obtain ⟨upper, hupper⟩ := exists_granularity (k + 1) hk
      have hfarther := hnearest upper
        ((accepts_timeGranularity config upper).mpr ⟨k + 1, hk, hupper⟩)
      rw [hupper, hsame, Nat.dist, Nat.dist] at hfarther
      rw [Nat.pow_succ] at habove hfarther
      omega
    · intro hcond
      refine ⟨(accepts_timeGranularity config named).mpr ⟨j, hj, hnamed⟩, fun other hother => ?_⟩
      obtain ⟨i, hi, hvalue⟩ := (accepts_timeGranularity config other).mp hother
      rw [hvalue, Nat.dist, Nat.dist]
      obtain ⟨hzero, rfl⟩ | ⟨hlarge, rfl⟩ | ⟨hj', hbelow, habove⟩ := hcases
      · have hfirst := hle (Nat.zero_le i)
        omega
      · have hlast := hle hi
        omega
      · have hnear := hcond j hj' hbelow habove
        by_cases hij : i ≤ j
        · have hpower := hle hij
          omega
        · have hpower := hle (Nat.not_le.mp hij)
          rw [Nat.succ_eq_add_one, Nat.pow_succ] at hpower
          omega

end KernelConfig

namespace ConfigCall

/-- What the methods that set a limit promise of a refusal. -/
def RefusesWithNearest (config : KernelConfig) : ConfigCall → Prop
  | .setMaxStackDepth value =>
      Setter.RefusesWithNearest KernelConfig.setMaxStackDepth UInt32.toNat config value
  | .setTimeGranularity value =>
      Setter.RefusesWithNearest KernelConfig.setTimeGranularity Duration.toNanos config value
  | .setMaxWrite value =>
      Setter.RefusesWithNearest KernelConfig.setMaxWrite UInt32.toNat config value
  | .setMaxReadahead value =>
      Setter.RefusesWithNearest KernelConfig.setMaxReadahead UInt32.toNat config value
  | .setMaxBackground value =>
      Setter.RefusesWithNearest KernelConfig.setMaxBackground UInt16.toNat config value
  | .setCongestionThreshold value =>
      Setter.RefusesWithNearest KernelConfig.setCongestionThreshold UInt16.toNat config value
  | .addCapabilities _ | .capabilities | .kernelAbi => True

/-- The kernel offers some readahead, and a granularity between two powers of ten is
not nearer to the upper one. -/
def Answerable (maxReadahead : UInt32) : ConfigCall → Prop
  | .setMaxReadahead _ => 0 < maxReadahead.toNat
  | .setTimeGranularity value =>
      ∀ k < 9, 10 ^ k < value.toNanos → value.toNanos < 10 ^ (k + 1) →
        2 * value.toNanos ≤ 11 * 10 ^ k
  | .setMaxStackDepth _ | .setMaxWrite _ | .setMaxBackground _ | .setCongestionThreshold _
  | .addCapabilities _ | .capabilities | .kernelAbi => True

/-- Whatever was called before, a refusal names the nearest value but in two cases:
with no readahead to be had there is no value to name, and a granularity is always
rounded down. -/
theorem refusesWithNearest_iff (capabilities : InitFlags) (maxReadahead : UInt32)
    (kernelAbi : Version) (defaultPermissions : Bool) (acl : SessionACL)
    (calls : List ConfigCall) (call : ConfigCall) :
    call.RefusesWithNearest
        (run (.new capabilities maxReadahead kernelAbi defaultPermissions acl) calls) ↔
      call.Answerable maxReadahead := by
  have hlimits := KernelConfig.withinLimits_run (KernelConfig.withinLimits_new capabilities
    maxReadahead kernelAbi defaultPermissions acl) calls
  generalize run (.new capabilities maxReadahead kernelAbi defaultPermissions acl) calls =
    config at hlimits
  cases call with
  | setMaxStackDepth value =>
      have hrange := (config.takesRange_maxStackDepth).refusesWithNearest_iff_le value
      exact ⟨fun _ => trivial, fun _ => hrange.mpr (by decide)⟩
  | setTimeGranularity value => exact config.refusesWithNearest_timeGranularity value
  | setMaxWrite value =>
      have hrange := (config.takesRange_maxWrite).refusesWithNearest_iff_le value
      exact ⟨fun _ => trivial, fun _ => hrange.mpr (by decide)⟩
  | setMaxReadahead value =>
      have hrange := (config.takesRange_maxReadahead).refusesWithNearest_iff_le value
      rw [hlimits.maxMaxReadahead] at hrange
      exact hrange
  | setMaxBackground value =>
      have hrange := (config.takesRange_maxBackground).refusesWithNearest_iff_le value
      exact ⟨fun _ => trivial, fun _ => hrange.mpr (by decide)⟩
  | setCongestionThreshold value =>
      have hrange := (config.takesRange_congestionThreshold).refusesWithNearest_iff_le value
      exact ⟨fun _ => trivial, fun _ => hrange.mpr (by decide)⟩
  | addCapabilities flags => exact Iff.rfl
  | capabilities | kernelAbi => exact Iff.rfl

/-- Nine nanoseconds are answered with one although ten are nearer, and a kernel that
offers no readahead gets one byte named, which is refused in turn. -/
theorem not_refusesWithNearest :
    ¬ (setTimeGranularity ⟨0, 9, by decide⟩).RefusesWithNearest
        (.new 0 65536 ⟨7, 31⟩ true .all) ∧
    ¬ (setMaxReadahead 0).RefusesWithNearest (.new 0 0 ⟨7, 31⟩ true .all) := by
  constructor
  · intro h
    rw [RefusesWithNearest, KernelConfig.refusesWithNearest_timeGranularity] at h
    exact absurd (h 0 (by decide) (by decide) (by decide)) (by decide)
  · intro h
    have hrange := (KernelConfig.takesRange_maxReadahead
      (.new 0 0 ⟨7, 31⟩ true .all)).refusesWithNearest_iff_le 0
    exact absurd (hrange.mp h) (by decide)

end ConfigCall

namespace KernelConfig

/-- `max_pages` in a build with overflow checks. -/
def maxPagesChecked {ε : Type} (self : KernelConfig) (page : PageSize) : Outcome ε UInt16 := do
  let larger ← Checked.subU32 (max self.maxWrite self.maxReadahead) 1
  Checked.addU16 (larger / page.bytes).toUInt16 1

/-- The pages are as many as the larger of a write and a readahead takes, and counting
them overflows nowhere. -/
def CountsPages (config : KernelConfig) (page : PageSize) : Prop :=
  (config.maxPagesChecked page : Outcome Empty UInt16) = .ok (config.maxPages page) ∧
  max config.maxWrite.toNat config.maxReadahead.toNat ≤
    (config.maxPages page).toNat * page.bytes.toNat ∧
  ((config.maxPages page).toNat - 1) * page.bytes.toNat <
    max config.maxWrite.toNat config.maxReadahead.toNat

theorem maxPagesChecked_eq {config : KernelConfig} (h : config.Sendable) {page : PageSize}
    (hpages : (config.pagesLessOne page).toNat + 1 < 2 ^ 16) :
    (config.maxPagesChecked page : Outcome Empty UInt16) = .ok (config.maxPages page) := by
  have hwrite : 4096 ≤ config.maxWrite.toNat := UInt32.le_iff_toNat_le.mp h.maxWrite
  have hone : (1 : UInt32) ≤ max config.maxWrite config.maxReadahead := by
    rw [UInt32.le_iff_toNat_le, toNat_max]
    change 1 ≤ _
    omega
  have hfits : (config.pagesLessOne page).toUInt16.toNat + (1 : UInt16).toNat < 2 ^ 16 := by
    rw [UInt32.toNat_toUInt16]
    change _ % 2 ^ 16 + 1 < 2 ^ 16
    omega
  rw [maxPagesChecked, Checked.subU32_eq hone, Outcome.ok_bind]
  exact Checked.addU16_eq hfits

theorem countsPages_iff {config : KernelConfig} {offered : UInt32}
    (h : config.WithinLimits offered) {page : PageSize} (hpage : 4096 ≤ page.bytes.toNat) :
    config.CountsPages page ↔ config.maxReadahead.toNat ≤ 65535 * page.bytes.toNat := by
  have hpages := pagesLessOne_toNat h.toSendable page
  have hcount := maxPages_toNat h.toSendable page
  have hwrite : config.maxWrite.toNat ≤ 16777216 := UInt32.le_iff_toNat_le.mp h.maxWriteSize
  have hmin : 4096 ≤ config.maxWrite.toNat := UInt32.le_iff_toNat_le.mp h.maxWrite
  rw [CountsPages]
  constructor
  · rintro ⟨-, henough, -⟩
    have hle : (config.maxPages page).toNat ≤ 65535 := Nat.le_of_lt_succ (UInt16.toNat_lt _)
    calc config.maxReadahead.toNat
        ≤ max config.maxWrite.toNat config.maxReadahead.toNat := Nat.le_max_right _ _
      _ ≤ (config.maxPages page).toNat * page.bytes.toNat := henough
      _ ≤ 65535 * page.bytes.toNat := Nat.mul_le_mul_right _ hle
  · intro hread
    have hmax : max config.maxWrite.toNat config.maxReadahead.toNat ≤ 65535 * page.bytes.toNat ∧
        4096 ≤ max config.maxWrite.toNat config.maxReadahead.toNat := by omega
    generalize max config.maxWrite.toNat config.maxReadahead.toNat = larger at hpages hcount hmax ⊢
    have hquotient : (larger - 1) / page.bytes.toNat < 65535 :=
      Nat.div_lt_of_lt_mul (by rw [Nat.mul_comm]; omega)
    rw [hcount (by omega)]
    refine ⟨maxPagesChecked_eq h.toSendable (by omega), ?_, ?_⟩
    · have hlt := Nat.lt_mul_div_succ (larger - 1) (by omega : 0 < page.bytes.toNat)
      rw [Nat.mul_comm] at hlt
      omega
    · have hle := Nat.div_mul_le_self (larger - 1) page.bytes.toNat
      rw [Nat.add_sub_cancel]
      omega

/-- The quotient is cut to 16 bits, which loses pages of a readahead that takes more
than 65535 of them. -/
theorem countsPages_run_iff (capabilities : InitFlags) (offered : UInt32) (kernelAbi : Version)
    (defaultPermissions : Bool) (acl : SessionACL) (page : PageSize)
    (hpage : 4096 ≤ page.bytes.toNat) :
    (∀ calls, CountsPages
        (ConfigCall.run (new capabilities offered kernelAbi defaultPermissions acl) calls) page ↔
      (ConfigCall.run (new capabilities offered kernelAbi defaultPermissions acl)
        calls).maxReadahead.toNat ≤ 65535 * page.bytes.toNat) ∧
    ((∀ calls, CountsPages
        (ConfigCall.run (new capabilities offered kernelAbi defaultPermissions acl) calls) page) ↔
      offered.toNat ≤ 65535 * page.bytes.toNat) := by
  have hlimits (calls : List ConfigCall) := withinLimits_run
    (withinLimits_new capabilities offered kernelAbi defaultPermissions acl) calls
  refine ⟨fun calls => countsPages_iff (hlimits calls) hpage, fun hall => ?_, fun hle calls => ?_⟩
  · exact (countsPages_iff (hlimits []) hpage).mp (hall [])
  · rw [countsPages_iff (hlimits calls) hpage]
    exact Nat.le_trans (UInt32.le_iff_toNat_le.mp (hlimits calls).maxReadahead) hle

theorem countsPages_run_iff_default :
    (4096 : UInt32).toNat = 4096 ∧
    ∀ calls, CountsPages (ConfigCall.run (new 0 131072 ⟨7, 31⟩ true .all) calls)
      ⟨4096, by decide⟩ :=
  ⟨rfl, (countsPages_run_iff 0 131072 ⟨7, 31⟩ true .all ⟨4096, by decide⟩ (by decide)).2.mpr
    (by decide)⟩

/-- A readahead of 256 MiB takes 65536 pages, and none are counted. -/
theorem not_countsPages : ¬ CountsPages (new 0 268435456 ⟨7, 31⟩ true .all) ⟨4096, by decide⟩ := by
  rintro ⟨-, henough, -⟩
  exact absurd henough (by decide +kernel)

end KernelConfig

namespace ConfigCall

/-- The limit on background requests that a call gets accepted. -/
def background? : ConfigCall → Option UInt16
  | .setMaxBackground value => if value = 0 then none else some value
  | _ => none

/-- The congestion threshold that a call gets accepted. -/
def threshold? : ConfigCall → Option UInt16
  | .setCongestionThreshold value => if value = 0 then none else some value
  | _ => none

theorem apply_setMaxBackground (config : KernelConfig) (value : UInt16) :
    apply config (.setMaxBackground value) =
      if value = 0 then config else { config with maxBackground := value } := by
  rw [apply, Method.run, KernelConfig.setMaxBackground]
  split <;> rfl

theorem apply_setCongestionThreshold (config : KernelConfig) (value : UInt16) :
    apply config (.setCongestionThreshold value) =
      if value = 0 then config else { config with congestionThreshold := some value } := by
  rw [apply, Method.run, KernelConfig.setCongestionThreshold]
  split <;> rfl

/-- What one call does to the two fields of which the threshold is made. -/
theorem apply_background (config : KernelConfig) (call : ConfigCall) :
    (call.apply config).maxBackground = call.background?.getD config.maxBackground ∧
    (call.apply config).congestionThreshold =
      call.threshold?.or config.congestionThreshold := by
  cases call with
  | setMaxBackground value =>
      rw [apply_setMaxBackground, background?]
      split <;> exact ⟨rfl, rfl⟩
  | setCongestionThreshold value =>
      rw [apply_setCongestionThreshold, threshold?]
      split <;> exact ⟨rfl, rfl⟩
  | capabilities | kernelAbi => exact ⟨rfl, rfl⟩
  | setMaxStackDepth value =>
      rw [apply, Method.run, KernelConfig.setMaxStackDepth]
      split <;> exact ⟨rfl, rfl⟩
  | addCapabilities flags =>
      rw [apply, Method.run, KernelConfig.addCapabilities]
      split <;> exact ⟨rfl, rfl⟩
  | setMaxWrite value =>
      rw [apply, Method.run, KernelConfig.setMaxWrite]
      split
      · exact ⟨rfl, rfl⟩
      · split <;> exact ⟨rfl, rfl⟩
  | setMaxReadahead value =>
      rw [apply, Method.run, KernelConfig.setMaxReadahead]
      split
      · exact ⟨rfl, rfl⟩
      · split <;> exact ⟨rfl, rfl⟩
  | setTimeGranularity value =>
      rw [apply, Method.run, KernelConfig.setTimeGranularity]
      split
      · exact ⟨rfl, rfl⟩
      · split
        · exact ⟨rfl, rfl⟩
        · split <;> exact ⟨rfl, rfl⟩

/-- After a run the two fields hold what was accepted last. -/
theorem run_background (config : KernelConfig) (calls : List ConfigCall) :
    (run config calls).maxBackground =
      (calls.filterMap background?).getLast?.getD config.maxBackground ∧
    (run config calls).congestionThreshold =
      (calls.filterMap threshold?).getLast?.or config.congestionThreshold := by
  induction calls generalizing config with
  | nil => exact ⟨rfl, rfl⟩
  | cons call calls ih =>
      obtain ⟨hbackground, hthreshold⟩ := ih (call.apply config)
      obtain ⟨hbackground', hthreshold'⟩ := apply_background config call
      change (run (call.apply config) calls).maxBackground = _ ∧
        (run (call.apply config) calls).congestionThreshold = _
      rw [hbackground, hthreshold, hbackground', hthreshold', List.filterMap_cons,
        List.filterMap_cons]
      constructor
      · cases call.background? with
        | none => rfl
        | some value => rw [List.getLast?_cons]; rfl
      · cases call.threshold? with
        | none => rfl
        | some value =>
            rw [List.getLast?_cons]
            cases (calls.filterMap threshold?).getLast? <;> rfl

end ConfigCall

namespace KernelConfig

/-- The threshold is in its range unless it is three quarters of a single request. -/
theorem congestionLimit_bounds_iff {config : KernelConfig} {offered : UInt32}
    (h : config.WithinLimits offered) :
    (1 ≤ config.congestionLimit.toNat ∧
      config.congestionLimit.toNat ≤ config.maxBackground.toNat) ↔
      (config.congestionThreshold ≠ none ∨ config.maxBackground ≠ 1) := by
  have hbackground : config.maxBackground.toNat ≠ 0 :=
    fun hzero => h.maxBackground (UInt16.toNat_inj.mp hzero)
  have hone : config.maxBackground = 1 ↔ config.maxBackground.toNat = 1 :=
    UInt16.toNat_inj.symm
  have hlt := config.maxBackground.toNat_lt
  rw [congestionLimit]
  cases hset : config.congestionThreshold with
  | none =>
      have hfits : config.maxBackground.toNat * 3 / 4 % 2 ^ 16 =
          config.maxBackground.toNat * 3 / 4 := Nat.mod_eq_of_lt (by omega)
      simp only [UInt16.toNat_ofNat', hfits, ne_eq, not_true_eq_false, false_or, hone]
      omega
  | some value =>
      have hvalue : value.toNat ≠ 0 := fun hzero =>
        h.congestionThreshold (hset.trans (congrArg some (UInt16.toNat_inj.mp hzero)))
      have hmin : (min value config.maxBackground).toNat =
          min value.toNat config.maxBackground.toNat := by
        change (if value ≤ config.maxBackground then value else config.maxBackground).toNat = _
        by_cases hle : value ≤ config.maxBackground
        · rw [if_pos hle, Nat.min_eq_left (UInt16.le_iff_toNat_le.mp hle)]
        · have hge := UInt16.le_iff_toNat_le.not.mp hle
          rw [if_neg hle, Nat.min_eq_right (by omega)]
      simp only [hmin, ne_eq, reduceCtorEq, not_false_eq_true, true_or, iff_true]
      omega

end KernelConfig

namespace Op.Init

theorem withinLimits_kernelConfig (self : Init) (session : Session) (calls : List ConfigCall) :
    (ConfigCall.run (session.kernelConfig self) calls).WithinLimits self.maxReadahead :=
  KernelConfig.withinLimits_run (KernelConfig.withinLimits_new ..) calls

/-- The pair in the reply is in order just when a threshold was set or the limit was
not left at one. -/
theorem congestion_bounds_iff (self : Init) (session : Session) (page : PageSize)
    (calls : List ConfigCall) :
    let out := self.initOut (ConfigCall.run (session.kernelConfig self) calls) page
    (1 ≤ out.congestionThreshold.toNat ∧
      out.congestionThreshold.toNat ≤ out.maxBackground.toNat) ↔
      (calls.filterMap ConfigCall.threshold? ≠ [] ∨
        (calls.filterMap ConfigCall.background?).getLast? ≠ some 1) := by
  intro out
  have hbounds := KernelConfig.congestionLimit_bounds_iff
    (self.withinLimits_kernelConfig session calls)
  obtain ⟨hbackground, hthreshold⟩ :=
    ConfigCall.run_background (session.kernelConfig self) calls
  have hfresh : (session.kernelConfig self).congestionThreshold = none ∧
      (session.kernelConfig self).maxBackground = 16 := ⟨rfl, rfl⟩
  refine hbounds.trans (or_congr ?_ ?_)
  · rw [hthreshold, hfresh.1, Option.or_none, ne_eq, List.getLast?_eq_none_iff]
  · rw [hbackground, hfresh.2]
    cases (calls.filterMap ConfigCall.background?).getLast? with
    | none => decide
    | some value => rw [Option.getD_some, ne_eq, ne_eq, Option.some.injEq]

/-- With room for one request and no threshold, the threshold is sent as zero. -/
theorem not_congestion_bounds :
    let out := passthroughInit.initOut
      (ConfigCall.run ((Session.new .owner 1000 []).kernelConfig passthroughInit)
        [.setMaxBackground 1]) ⟨4096, by decide⟩
    ¬ (1 ≤ out.congestionThreshold.toNat ∧
      out.congestionThreshold.toNat ≤ out.maxBackground.toNat) := by
  intro out hbounds
  have hzero : out.congestionThreshold = 0 := by decide +kernel
  rw [hzero] at hbounds
  exact absurd hbounds.1 (by decide)

end Op.Init

/-- The buffer that requests are read into, and where it was allocated. -/
structure FuseReadBuf where
  buffer : Slice

namespace FuseReadBuf

def bufferSize : Nat := maxWriteSize.toNat + 4096

def new (ptr : Nat) : FuseReadBuf := ⟨ptr, List.replicate bufferSize 0⟩

/-- The part of the buffer from the first aligned address on. -/
def asMutSlice {ε : Type} (self : FuseReadBuf) : Outcome ε Slice :=
  let alignment := ReprC.align FuseInHeader
  let off := alignment - self.buffer.addr % alignment
  if off = alignment then .ok self.buffer else self.buffer.range off self.buffer.len

/-- At most seven bytes are lost to the alignment. -/
theorem asMutSlice_new {ε : Type} (ptr : Nat) :
    ∃ slice, (asMutSlice (new ptr) : Outcome ε Slice) = .ok slice ∧
      slice.addr = asMut ptr ∧ bufferSize ≤ slice.len + 7 := by
  have hlen : (new ptr).buffer.len = bufferSize := List.length_replicate
  have hsize : bufferSize = 16781312 := rfl
  have haddr : (new ptr).buffer.addr = ptr := rfl
  have halign : ReprC.align FuseInHeader = 8 := rfl
  rw [asMutSlice, asMut, halign, haddr]
  by_cases hoff : 8 - ptr % 8 = 8
  · simp only [if_pos hoff]
    exact ⟨_, rfl, haddr, by omega⟩
  · have hle : 8 - ptr % 8 ≤ (new ptr).buffer.len ∧ (new ptr).buffer.len ≤ (new ptr).buffer.len :=
      ⟨by omega, Nat.le_refl _⟩
    simp only [if_neg hoff, Slice.range, if_pos hle]
    refine ⟨_, rfl, by rw [haddr], ?_⟩
    rw [Slice.len] at hlen
    simp only [Slice.len, List.length_take, List.length_drop, hlen]
    omega

/-- Wherever the buffer was allocated and whatever message was read into it, the header
and the arguments of every opcode are fetched at addresses that suit them. -/
theorem fetches_aligned (ptr : Nat) :
    ∃ slice, (asMutSlice (new ptr) : Outcome Empty Slice) = .ok slice ∧
      ∀ bytes : List UInt8, bytes.length ≤ slice.len →
        AlignedAt FuseInHeader (.new ⟨slice.addr, bytes⟩) ∧
        AnyRequest.tryFrom ⟨slice.addr, bytes⟩ ≠ .panic (.explicit "Data unaligned") ∧
        ∀ request, AnyRequest.tryFrom ⟨slice.addr, bytes⟩ = .ok request →
          ∀ opcode negotiated,
            (Fetching.parseArgs request.header negotiated opcode).Aligned (.new request.data) ∧
            parse request.header opcode request.data negotiated ≠
              .panic (.explicit "Data unaligned") := by
  obtain ⟨slice, hslice, hstart, -⟩ := asMutSlice_new (ε := Empty) ptr
  have haddr : slice.addr % 8 = 0 := hstart ▸ asMut_aligned ptr
  refine ⟨slice, hslice, fun bytes _ => ⟨alignedAt_of_body haddr (by decide), ?_, ?_⟩⟩
  · exact AnyRequest.tryFrom_ne_unaligned haddr bytes
  · intro request hrequest opcode negotiated
    have hbody := (AnyRequest.of_tryFrom_eq_ok haddr hrequest).2
    exact ⟨Fetching.aligned_parseArgs request.header negotiated opcode hbody,
      parse_ne_unaligned request.header negotiated opcode hbody⟩

end FuseReadBuf

namespace Op.Init

/-- Whatever a filesystem sets, what the reply advertises is in the range that the
kernel and the session can handle: in particular the header of a write, its argument
and as many bytes as the kernel may send fit what the alignment leaves of the buffer. -/
theorem advertised_safe (self : Init) (session : Session) (page : PageSize)
    (calls : List ConfigCall) :
    let config := ConfigCall.run (session.kernelConfig self) calls
    let out := self.initOut config page
    out.maxReadahead ≤ self.maxReadahead ∧
    (4096 ≤ out.maxWrite.toNat ∧ out.maxWrite.toNat ≤ 16777216) ∧
    out.maxStackDepth.toNat ≤ 2 ∧ 1 ≤ out.maxBackground.toNat ∧
    out.timeGran.toNat = config.timeGran.toNanos ∧
    ∀ ptr, ∃ slice, (FuseReadBuf.asMutSlice (.new ptr) : Outcome Empty Slice) = .ok slice ∧
      slice.addr % 8 = 0 ∧ 40 + 40 + out.maxWrite.toNat ≤ slice.len := by
  intro config out
  have hlimits : config.WithinLimits self.maxReadahead :=
    self.withinLimits_kernelConfig session calls
  have hwrite : config.maxWrite.toNat ≤ 16777216 :=
    UInt32.le_iff_toNat_le.mp hlimits.maxWriteSize
  have hdepth : out.maxStackDepth.toNat ≤ 2 := by
    change (if (self.replyFlags config).contains .fusePassthrough then config.maxStackDepth
      else 0).toNat ≤ 2
    split
    · exact UInt32.le_iff_toNat_le.mp hlimits.maxStackDepth
    · exact Nat.zero_le 2
  have hbackground : 1 ≤ config.maxBackground.toNat := Nat.pos_of_ne_zero
    fun hzero => hlimits.maxBackground (UInt16.toNat_inj.mp hzero)
  have hgran : config.timeGran.toNanos ≤ 1000000000 := hlimits.timeGran
  refine ⟨hlimits.maxReadahead, ⟨UInt32.le_iff_toNat_le.mp hlimits.maxWrite, hwrite⟩, hdepth,
    hbackground, Nat.mod_eq_of_lt (by omega), fun ptr => ?_⟩
  obtain ⟨slice, hslice, haddr, hlen⟩ := FuseReadBuf.asMutSlice_new (ε := Empty) ptr
  have hsize : FuseReadBuf.bufferSize = 16781312 := rfl
  refine ⟨slice, hslice, haddr ▸ FuseReadBuf.asMut_aligned ptr, ?_⟩
  change 40 + 40 + config.maxWrite.toNat ≤ slice.len
  omega

end Op.Init

end Fuser
