import Fuser.Foundation.Checked
import Mathlib.Data.Int.Order.Basic
import Mathlib.Tactic.Linarith
import Mathlib.Tactic.NormNum

/-!
Conversion between the timestamps of the wire, a signed count of seconds and
the nanoseconds after it, and `SystemTime`.

The standard library's `SystemTime` on Unix is a signed second count with
nanoseconds below one second. Its arithmetic is exact on the nanoseconds since
the epoch and panics when the sum leaves that range.
-/

namespace Fuser

open Rust

def nanosPerSec : Nat := 1000000000

structure Duration where
  secs : UInt64
  nanos : UInt32
  valid : nanos.toNat < nanosPerSec
  deriving DecidableEq

theorem zero_lt_nanosPerSec : (0 : UInt32).toNat < nanosPerSec := by decide

theorem one_lt_nanosPerSec : (1 : UInt32).toNat < nanosPerSec := by decide

namespace Duration

/-- Whole seconds among the nanoseconds are carried. -/
def new {ε : Type} (secs : UInt64) (nanos : UInt32) : Outcome ε Duration :=
  if h : nanos.toNat < nanosPerSec then .ok ⟨secs, nanos, h⟩
  else if secs.toNat + nanos.toNat / nanosPerSec < 2 ^ 64 then
    .ok ⟨UInt64.ofNat (secs.toNat + nanos.toNat / nanosPerSec),
      UInt32.ofNat (nanos.toNat % nanosPerSec), by
        simp only [nanosPerSec, UInt32.toNat_ofNat']
        omega⟩
  else .panic (.expect "overflow in Duration::new")

theorem new_eq {ε : Type} (secs : UInt64) (nanos : UInt32) (h : nanos.toNat < nanosPerSec) :
    (new secs nanos : Outcome ε Duration) = .ok ⟨secs, nanos, h⟩ := dif_pos h

def toNanos (d : Duration) : Nat := nanosPerSec * d.secs.toNat + d.nanos.toNat

end Duration

structure SystemTime where
  tvSec : Int64
  tvNsec : UInt32
  valid : tvNsec.toNat < nanosPerSec
  deriving DecidableEq

namespace SystemTime

def unixEpoch : SystemTime := ⟨0, 0, by decide⟩

/-- Nanoseconds since the epoch. -/
def toNanos (t : SystemTime) : Int := t.tvSec.toInt * nanosPerSec + t.tvNsec.toNat

instance : LT SystemTime := ⟨fun t t' => t.toNanos < t'.toNanos⟩

/-- The time that many nanoseconds after the epoch, if it is representable. -/
def ofNanos (n : Int) : Option SystemTime :=
  if -(2 ^ 63) ≤ n / nanosPerSec ∧ n / nanosPerSec < 2 ^ 63 then
    some ⟨Int64.ofInt (n / nanosPerSec), UInt32.ofNat (n % nanosPerSec).toNat, by
      simp only [nanosPerSec, UInt32.toNat_ofNat']
      omega⟩
  else none

def add {ε : Type} (t : SystemTime) (d : Duration) : Outcome ε SystemTime :=
  match ofNanos (t.toNanos + d.toNanos) with
  | some t' => .ok t'
  | none => .panic (.expect "overflow when adding duration to instant")

def sub {ε : Type} (t : SystemTime) (d : Duration) : Outcome ε SystemTime :=
  match ofNanos (t.toNanos - d.toNanos) with
  | some t' => .ok t'
  | none => .panic (.expect "overflow when subtracting duration from instant")

/-- The time since the epoch, or the time until it. -/
def durationSinceEpoch (t : SystemTime) : Except Duration Duration :=
  let magnitude := t.toNanos.natAbs
  let d : Duration := ⟨UInt64.ofNat (magnitude / nanosPerSec),
    UInt32.ofNat (magnitude % nanosPerSec), by
      simp only [nanosPerSec, UInt32.toNat_ofNat']
      omega⟩
  if 0 ≤ t.toNanos then .ok d else .error d

theorem ofNanos_eq (t : SystemTime) (n : Int)
    (h : n = t.tvSec.toInt * nanosPerSec + t.tvNsec.toNat) : ofNanos n = some t := by
  have hv := t.valid
  have hlo := t.tvSec.minValue_le_toInt
  have hhi := t.tvSec.toInt_lt
  have hmin : Int64.minValue.toInt = -(2 ^ 63) := by decide
  simp only [nanosPerSec] at hv h
  have hdiv : n / ((nanosPerSec : Nat) : Int) = t.tvSec.toInt := by
    simp only [nanosPerSec]; omega
  have hmod : n % ((nanosPerSec : Nat) : Int) = t.tvNsec.toNat := by
    simp only [nanosPerSec]; omega
  have hrange : -(2 ^ 63) ≤ t.tvSec.toInt ∧ t.tvSec.toInt < 2 ^ 63 := ⟨by omega, by omega⟩
  rw [ofNanos]
  simp only [hdiv, hmod, if_pos hrange, Int.toNat_natCast, Int64.ofInt_toInt, UInt32.ofNat_toNat]

end SystemTime

/-- A timestamp of the wire, from a `SystemTime`. -/
def timeFromSystemTime (systemTime : SystemTime) : Int64 × UInt32 :=
  match systemTime.durationSinceEpoch with
  | .ok duration =>
      if duration.secs.toNat < 2 ^ 63 then (duration.secs.toInt64, duration.nanos)
      else (Int64.maxValue, 999999999)
  | .error d =>
      if d.secs.toNat > 2 ^ 63 ∨ d.secs.toNat = 2 ^ 63 ∧ d.nanos ≥ 0 then (Int64.minValue, 0)
      else if d.nanos = 0 then (-d.secs.toInt64, 0)
      else (-d.secs.toInt64 - 1, 1000000000 - d.nanos)

/-- Nanoseconds of a malformed timestamp are brought below one second. -/
def clampNanos (nsecs : UInt32) : UInt32 := min nsecs 999999999

/-- The three ranges of `system_time_from_time`, for clamped nanoseconds. -/
def systemTimeOfClamped {ε : Type} (secs : Int64) (nsecs : UInt32) : Outcome ε SystemTime :=
  if 0 ≤ secs then Duration.new secs.toUInt64 nsecs >>= SystemTime.unixEpoch.add
  else if nsecs = 0 then
    Duration.new (UInt64.ofNat secs.toInt.natAbs) 0 >>= SystemTime.unixEpoch.sub
  else
    Duration.new (UInt64.ofNat secs.toInt.natAbs - 1) (1000000000 - nsecs) >>=
      SystemTime.unixEpoch.sub

/-- A `SystemTime`, from a timestamp of the wire. -/
def systemTimeFromTime {ε : Type} (secs : Int64) (nsecs : UInt32) : Outcome ε SystemTime :=
  systemTimeOfClamped secs (clampNanos nsecs)

/-- `time_from_system_time` in a build with overflow checks. -/
def timeFromSystemTimeChecked {ε : Type} (systemTime : SystemTime) : Outcome ε (Int64 × UInt32) :=
  match systemTime.durationSinceEpoch with
  | .ok duration =>
      if duration.secs.toNat < 2 ^ 63 then .ok (duration.secs.toInt64, duration.nanos)
      else .ok (Int64.maxValue, 999999999)
  | .error d =>
      if d.secs.toNat > 2 ^ 63 ∨ d.secs.toNat = 2 ^ 63 ∧ d.nanos ≥ 0 then .ok (Int64.minValue, 0)
      else if d.nanos = 0 then do
        let secs ← Checked.neg64 d.secs.toInt64
        return (secs, 0)
      else do
        let whole ← Checked.neg64 d.secs.toInt64
        let secs ← Checked.sub64 whole 1
        let nanos ← Checked.subU32 1000000000 d.nanos
        return (secs, nanos)

/-- `system_time_from_time` in a build with overflow checks. -/
def systemTimeFromTimeChecked {ε : Type} (secs : Int64) (nsecs : UInt32) :
    Outcome ε SystemTime := do
  let nsecs := clampNanos nsecs
  if 0 ≤ secs then Duration.new secs.toUInt64 nsecs >>= SystemTime.unixEpoch.add
  else if nsecs = 0 then
    Duration.new (UInt64.ofNat secs.toInt.natAbs) 0 >>= SystemTime.unixEpoch.sub
  else
    let whole ← Checked.subU64 (UInt64.ofNat secs.toInt.natAbs) 1
    let part ← Checked.subU32 1000000000 nsecs
    Duration.new whole part >>= SystemTime.unixEpoch.sub

theorem clampNanos_lt (nsecs : UInt32) : (clampNanos nsecs).toNat < nanosPerSec := by
  change (if nsecs ≤ 999999999 then nsecs else 999999999).toNat < nanosPerSec
  by_cases h : nsecs ≤ 999999999
  · have hle : nsecs.toNat ≤ 999999999 := UInt32.le_iff_toNat_le.mp h
    simp only [if_pos h, nanosPerSec]
    omega
  · simp only [if_neg h, nanosPerSec]
    decide

theorem unixEpoch_add {ε : Type} (secs : Int64) (nanos : UInt32)
    (hn : nanos.toNat < nanosPerSec) (d : Duration)
    (hd : (d.toNanos : Int) = secs.toInt * nanosPerSec + nanos.toNat) :
    (SystemTime.unixEpoch.add d : Outcome ε SystemTime) = .ok ⟨secs, nanos, hn⟩ := by
  have hepoch : SystemTime.unixEpoch.toNanos = 0 := by decide
  rw [SystemTime.add, hepoch, Int.zero_add, SystemTime.ofNanos_eq ⟨secs, nanos, hn⟩ _ hd]

theorem unixEpoch_sub {ε : Type} (secs : Int64) (nanos : UInt32)
    (hn : nanos.toNat < nanosPerSec) (d : Duration)
    (hd : -(d.toNanos : Int) = secs.toInt * nanosPerSec + nanos.toNat) :
    (SystemTime.unixEpoch.sub d : Outcome ε SystemTime) = .ok ⟨secs, nanos, hn⟩ := by
  have hepoch : SystemTime.unixEpoch.toNanos = 0 := by decide
  rw [SystemTime.sub, hepoch, Int.zero_sub, SystemTime.ofNanos_eq ⟨secs, nanos, hn⟩ _ hd]

theorem toNat_natAbs (secs : Int64) :
    (UInt64.ofNat secs.toInt.natAbs).toNat = secs.toInt.natAbs := by
  have hlo := secs.minValue_le_toInt
  have hhi := secs.toInt_lt
  have hmin : Int64.minValue.toInt = -(2 ^ 63) := by decide
  rw [UInt64.toNat_ofNat']
  omega

theorem unixEpoch_add_secs {ε : Type} (secs : Int64) (nanos : UInt32) (hn : nanos.toNat < nanosPerSec)
    (hsecs : 0 ≤ secs) :
    (Duration.new secs.toUInt64 nanos >>= SystemTime.unixEpoch.add : Outcome ε SystemTime) =
      .ok ⟨secs, nanos, hn⟩ := by
  have hpos : 0 ≤ secs.toInt := Int64.le_iff_toInt_le.mp hsecs
  have hcast : (secs.toUInt64.toNat : Int) = secs.toInt := by
    rw [Int64.toNat_toUInt64_of_le hsecs, Int64.toNatClampNeg, Int.toNat_of_nonneg hpos]
  rw [Duration.new_eq _ _ hn, Outcome.ok_bind]
  apply unixEpoch_add
  simp only [Duration.toNanos, Int.natCast_add, Int.natCast_mul, hcast, Int.mul_comm]

theorem unixEpoch_sub_secs {ε : Type} (secs : Int64) (hneg : secs.toInt < 0) :
    (Duration.new (UInt64.ofNat secs.toInt.natAbs) 0 >>= SystemTime.unixEpoch.sub :
      Outcome ε SystemTime) = .ok ⟨secs, 0, by decide⟩ := by
  have hz : (0 : UInt32).toNat < nanosPerSec := by decide
  rw [Duration.new_eq _ _ hz, Outcome.ok_bind]
  apply unixEpoch_sub
  simp only [Duration.toNanos, toNat_natAbs, UInt32.toNat_zero, nanosPerSec]
  omega

theorem unixEpoch_sub_part {ε : Type} (secs : Int64) (nanos : UInt32)
    (hn : nanos.toNat < nanosPerSec) (hneg : secs.toInt < 0) (hpos : 0 < nanos.toNat) :
    (Duration.new (UInt64.ofNat secs.toInt.natAbs - 1) (1000000000 - nanos) >>=
      SystemTime.unixEpoch.sub : Outcome ε SystemTime) = .ok ⟨secs, nanos, hn⟩ := by
  have hsec : (1000000000 : UInt32).toNat = nanosPerSec := by decide
  have hrest : (1000000000 - nanos).toNat = nanosPerSec - nanos.toNat := by
    rw [UInt32.toNat_sub_of_le, hsec]
    rw [UInt32.le_iff_toNat_le, hsec]
    omega
  have hlast : (UInt64.ofNat secs.toInt.natAbs - 1).toNat = secs.toInt.natAbs - 1 := by
    rw [UInt64.toNat_sub_of_le, toNat_natAbs]
    · rfl
    · rw [UInt64.le_iff_toNat_le, toNat_natAbs]
      change 1 ≤ _
      omega
  have hbound : (1000000000 - nanos).toNat < nanosPerSec := by
    rw [hrest]; omega
  rw [Duration.new_eq _ _ hbound, Outcome.ok_bind]
  apply unixEpoch_sub
  simp only [nanosPerSec] at hn ⊢
  simp only [Duration.toNanos, hrest, hlast, nanosPerSec]
  omega

theorem systemTimeOfClamped_eq {ε : Type} (secs : Int64) (nanos : UInt32)
    (hn : nanos.toNat < nanosPerSec) :
    (systemTimeOfClamped secs nanos : Outcome ε SystemTime) = .ok ⟨secs, nanos, hn⟩ := by
  rw [systemTimeOfClamped]
  by_cases hsecs : 0 ≤ secs
  · rw [if_pos hsecs]
    exact unixEpoch_add_secs secs _ hn hsecs
  · have hneg : secs.toInt < 0 := by
      simpa [Int64.le_iff_toInt_le] using hsecs
    rw [if_neg hsecs]
    by_cases hzero : nanos = 0
    · rw [if_pos hzero, unixEpoch_sub_secs secs hneg]
      cases hzero
      rfl
    · have hpos : 0 < nanos.toNat := by
        rw [Nat.pos_iff_ne_zero]
        intro h
        exact hzero (UInt32.toNat_inj.mp h)
      rw [if_neg hzero]
      exact unixEpoch_sub_part secs _ hn hneg hpos

/-- The nanoseconds count forward from the second, before the epoch as well,
and none of the three ranges of the code reaches an overflow. -/
theorem systemTimeFromTime_eq {ε : Type} (secs : Int64) (nsecs : UInt32) :
    (systemTimeFromTime secs nsecs : Outcome ε SystemTime) =
      .ok ⟨secs, clampNanos nsecs, clampNanos_lt nsecs⟩ :=
  systemTimeOfClamped_eq secs (clampNanos nsecs) (clampNanos_lt nsecs)

/-- Only the range before the epoch does arithmetic that could overflow. -/
theorem systemTimeFromTimeChecked_eq {ε : Type} (secs : Int64) (nsecs : UInt32) :
    (systemTimeFromTimeChecked secs nsecs : Outcome ε SystemTime) =
      systemTimeFromTime secs nsecs := by
  rw [systemTimeFromTimeChecked, systemTimeFromTime, systemTimeOfClamped]
  by_cases hsecs : 0 ≤ secs
  · rw [if_pos hsecs, if_pos hsecs]
  · have hneg : secs.toInt < 0 := by
      simpa [Int64.le_iff_toInt_le] using hsecs
    have hwhole : 1 ≤ UInt64.ofNat secs.toInt.natAbs := by
      rw [UInt64.le_iff_toNat_le, toNat_natAbs]
      change 1 ≤ _
      omega
    have hpart : clampNanos nsecs ≤ 1000000000 := by
      have hlt := clampNanos_lt nsecs
      rw [UInt32.le_iff_toNat_le]
      exact Nat.le_of_lt hlt
    rw [if_neg hsecs, if_neg hsecs]
    by_cases hzero : clampNanos nsecs = 0
    · rw [if_pos hzero, if_pos hzero]
    · rw [if_neg hzero, if_neg hzero, Checked.subU64_eq hwhole, Outcome.ok_bind,
        Checked.subU32_eq hpart, Outcome.ok_bind]

namespace SystemTime

/-- The duration whose nanoseconds `n` counts. -/
theorem durationSinceEpoch_eq {t : SystemTime} {n : Nat} {d : Duration}
    (hn : t.toNanos.natAbs = n) (hd : d.toNanos = n) :
    t.durationSinceEpoch = if 0 ≤ t.toNanos then .ok d else .error d := by
  have hv := d.valid
  have hrange : n / nanosPerSec = d.secs.toNat ∧ n % nanosPerSec = d.nanos.toNat := by
    rw [← hd]
    simp only [Duration.toNanos, nanosPerSec] at hv ⊢
    omega
  rw [durationSinceEpoch]
  simp only [hn, hrange, UInt64.ofNat_toNat, UInt32.ofNat_toNat]

end SystemTime

theorem toNat_toUInt64 {secs : Int64} (h : 0 ≤ secs.toInt) :
    (secs.toUInt64.toNat : Int) = secs.toInt := by
  rw [Int64.toNat_toUInt64_of_le (Int64.le_iff_toInt_le.mpr h), Int64.toNatClampNeg,
    Int.toNat_of_nonneg h]

theorem timeFromSystemTime_of_nonneg {ε : Type} (t : SystemTime) (h : 0 ≤ t.tvSec.toInt) :
    (timeFromSystemTimeChecked t : Outcome ε _) = .ok (t.tvSec, t.tvNsec) ∧
      timeFromSystemTime t = (t.tvSec, t.tvNsec) := by
  have hcast := toNat_toUInt64 h
  have hlt : t.tvSec.toUInt64.toNat < 2 ^ 63 := by
    have hrange := Checked.toInt_range t.tvSec
    omega
  have hnonneg : 0 ≤ t.toNanos := by
    simp only [SystemTime.toNanos, nanosPerSec]
    omega
  have hduration : t.durationSinceEpoch = .ok ⟨t.tvSec.toUInt64, t.tvNsec, t.valid⟩ := by
    rw [SystemTime.durationSinceEpoch_eq rfl, if_pos hnonneg]
    simp only [Duration.toNanos, SystemTime.toNanos, nanosPerSec] at hnonneg ⊢
    omega
  rw [timeFromSystemTimeChecked, timeFromSystemTime, hduration]
  simp only [if_pos hlt, Int64.toInt64_toUInt64]
  exact ⟨trivial, trivial⟩

/-- A second before the epoch and its distance from it. -/
theorem neg_toInt64_ofNat {secs : Int64} {n : Nat} (hn : n < 2 ^ 63) (h : secs.toInt = -n) :
    -(UInt64.ofNat n).toInt64 = secs := by
  rw [UInt64.toInt64_ofNat', ← Int64.toInt_inj, Checked.toInt_neg, Int64.toInt_ofNat_of_lt hn, h]
  rw [Int64.toInt_ofNat_of_lt hn]
  omega

/-- A whole second before the epoch. The first representable one is where the code
saturates, which gives the right value. -/
theorem timeFromSystemTime_of_whole {ε : Type} (t : SystemTime) (h : t.tvSec.toInt < 0)
    (hzero : t.tvNsec = 0) :
    (timeFromSystemTimeChecked t : Outcome ε _) = .ok (t.tvSec, t.tvNsec) ∧
      timeFromSystemTime t = (t.tvSec, t.tvNsec) := by
  have hrange := Checked.toInt_range t.tvSec
  have hsecs := toNat_natAbs t.tvSec
  have hneg : ¬ 0 ≤ t.toNanos := by
    simp only [SystemTime.toNanos, hzero, UInt32.toNat_zero, nanosPerSec]
    omega
  have hduration : t.durationSinceEpoch =
      .error ⟨UInt64.ofNat t.tvSec.toInt.natAbs, 0, by decide⟩ := by
    rw [SystemTime.durationSinceEpoch_eq rfl, if_neg hneg]
    simp only [Duration.toNanos, SystemTime.toNanos, hzero, UInt32.toNat_zero, hsecs, nanosPerSec]
    omega
  rw [timeFromSystemTimeChecked, timeFromSystemTime, hduration]
  simp only [hsecs, hzero]
  by_cases hmin : t.tvSec.toInt.natAbs = 2 ^ 63
  · have hsaturate : t.tvSec.toInt.natAbs > 2 ^ 63 ∨
        t.tvSec.toInt.natAbs = 2 ^ 63 ∧ (0 : UInt32) ≥ 0 := .inr ⟨hmin, by decide⟩
    have hvalue : t.tvSec = Int64.minValue := by
      rw [← Int64.toInt_inj]
      change t.tvSec.toInt = -(2 ^ 63)
      omega
    rw [if_pos hsaturate, if_pos hsaturate, hvalue]
    exact ⟨rfl, rfl⟩
  · have hlt : t.tvSec.toInt.natAbs < 2 ^ 63 := by omega
    have hsaturate : ¬ (t.tvSec.toInt.natAbs > 2 ^ 63 ∨
        t.tvSec.toInt.natAbs = 2 ^ 63 ∧ (0 : UInt32) ≥ 0) := by
      rintro (hgt | ⟨heq, -⟩)
      · omega
      · omega
    have hsec : t.tvSec.toInt = -(t.tvSec.toInt.natAbs : Int) := by omega
    have hback := neg_toInt64_ofNat hlt hsec
    have hchecked : (Checked.neg64 (UInt64.ofNat t.tvSec.toInt.natAbs).toInt64 :
        Outcome ε Int64) = .ok t.tvSec := by
      rw [Checked.neg64_eq, hback]
      rw [UInt64.toInt64_ofNat', Int64.toInt_ofNat_of_lt hlt]
      omega
    rw [if_neg hsaturate, if_neg hsaturate, if_pos trivial, if_pos trivial, hchecked, hback]
    exact ⟨rfl, rfl⟩

/-- A time before the epoch with a part of a second: the whole seconds up to the
epoch are one less, and the part is what is left of the last one. -/
theorem timeFromSystemTime_of_part {ε : Type} (t : SystemTime) (h : t.tvSec.toInt < 0)
    (hpos : 0 < t.tvNsec.toNat) :
    (timeFromSystemTimeChecked t : Outcome ε _) = .ok (t.tvSec, t.tvNsec) ∧
      timeFromSystemTime t = (t.tvSec, t.tvNsec) := by
  have hrange := Checked.toInt_range t.tvSec
  have hvalid : t.tvNsec.toNat < 1000000000 := t.valid
  have hlt : t.tvSec.toInt.natAbs - 1 < 2 ^ 63 := by omega
  have hsecs : (UInt64.ofNat (t.tvSec.toInt.natAbs - 1)).toNat = t.tvSec.toInt.natAbs - 1 := by
    rw [UInt64.toNat_ofNat']
    omega
  have hle : t.tvNsec ≤ 1000000000 := UInt32.le_iff_toNat_le.mpr (Nat.le_of_lt t.valid)
  have hnanos : (1000000000 - t.tvNsec).toNat = 1000000000 - t.tvNsec.toNat :=
    UInt32.toNat_sub_of_le _ _ hle
  have hneg : ¬ 0 ≤ t.toNanos := by
    simp only [SystemTime.toNanos, nanosPerSec]
    omega
  have hduration : t.durationSinceEpoch =
      .error ⟨UInt64.ofNat (t.tvSec.toInt.natAbs - 1), 1000000000 - t.tvNsec, by
        rw [hnanos, nanosPerSec]
        omega⟩ := by
    rw [SystemTime.durationSinceEpoch_eq rfl, if_neg hneg]
    simp only [Duration.toNanos, SystemTime.toNanos, hnanos, hsecs, nanosPerSec]
    omega
  have hsaturate : ¬ (t.tvSec.toInt.natAbs - 1 > 2 ^ 63 ∨
      t.tvSec.toInt.natAbs - 1 = 2 ^ 63 ∧ 1000000000 - t.tvNsec ≥ 0) := by
    rintro (hgt | ⟨heq, -⟩)
    · omega
    · omega
  have hpart : 1000000000 - t.tvNsec ≠ 0 := by
    intro hzero
    have hcast := congrArg UInt32.toNat hzero
    rw [hnanos, UInt32.toNat_zero] at hcast
    omega
  have hcast : (UInt64.ofNat (t.tvSec.toInt.natAbs - 1)).toInt64.toInt =
      (t.tvSec.toInt.natAbs - 1 : Nat) := by
    rw [UInt64.toInt64_ofNat', Int64.toInt_ofNat_of_lt hlt]
  have hwhole := Checked.toInt_neg (a := (UInt64.ofNat (t.tvSec.toInt.natAbs - 1)).toInt64)
    (by omega)
  have hone : (1 : Int64).toInt = 1 := rfl
  have hsub : -(2 ^ 63) ≤ (-(UInt64.ofNat (t.tvSec.toInt.natAbs - 1)).toInt64).toInt -
        (1 : Int64).toInt ∧
      (-(UInt64.ofNat (t.tvSec.toInt.natAbs - 1)).toInt64).toInt - (1 : Int64).toInt < 2 ^ 63 := by
    omega
  have hback : -(UInt64.ofNat (t.tvSec.toInt.natAbs - 1)).toInt64 - 1 = t.tvSec := by
    rw [← Int64.toInt_inj, Checked.toInt_sub hsub]
    omega
  have hless : 1000000000 - t.tvNsec ≤ 1000000000 := by
    rw [UInt32.le_iff_toNat_le, hnanos]
    exact Nat.sub_le _ _
  have hrest : 1000000000 - (1000000000 - t.tvNsec) = t.tvNsec := by
    rw [← UInt32.toNat_inj, UInt32.toNat_sub_of_le _ _ hless, hnanos]
    exact Nat.sub_sub_self (Nat.le_of_lt t.valid)
  rw [timeFromSystemTimeChecked, timeFromSystemTime, hduration]
  simp only [hsecs]
  rw [if_neg hsaturate, if_neg hsaturate, if_neg hpart, if_neg hpart, hback, hrest,
    Checked.neg64_eq (by omega), Outcome.ok_bind, Checked.sub64_eq hsub, Outcome.ok_bind,
    Checked.subU32_eq hless, Outcome.ok_bind, hback, hrest]
  exact ⟨rfl, rfl⟩

/-- The fields of a `SystemTime` are the timestamp, and computing it overflows
nowhere. -/
theorem timeFromSystemTime_eq {ε : Type} (t : SystemTime) :
    (timeFromSystemTimeChecked t : Outcome ε _) = .ok (t.tvSec, t.tvNsec) ∧
      timeFromSystemTime t = (t.tvSec, t.tvNsec) := by
  by_cases hsecs : 0 ≤ t.tvSec.toInt
  · exact timeFromSystemTime_of_nonneg t hsecs
  · by_cases hnanos : t.tvNsec = 0
    · exact timeFromSystemTime_of_whole t (Int.not_le.mp hsecs) hnanos
    · refine timeFromSystemTime_of_part t (Int.not_le.mp hsecs) (Nat.pos_iff_ne_zero.mpr ?_)
      exact fun hzero => hnanos (UInt32.toNat_inj.mp hzero)

theorem systemTime_lt_iff (t t' : SystemTime) :
    t < t' ↔ t.tvSec < t'.tvSec ∨ t.tvSec = t'.tvSec ∧ t.tvNsec < t'.tvNsec := by
  have hv := t.valid
  have hv' := t'.valid
  change t.toNanos < t'.toNanos ↔ _
  rw [Int64.lt_iff_toInt_lt, UInt32.lt_iff_toNat_lt, ← Int64.toInt_inj]
  simp only [SystemTime.toNanos, nanosPerSec] at hv hv' ⊢
  omega

/-- The timestamps of the wire with nanoseconds below one second are the times that
`SystemTime` can say, in the same order; other nanoseconds are read as the last one
of their second. -/
theorem timestamps_bijective {ε : Type} :
    (∀ secs nsecs, ∃ t : SystemTime,
      (systemTimeFromTimeChecked secs nsecs : Outcome ε _) = .ok t ∧
      (systemTimeFromTime secs nsecs : Outcome ε _) = .ok t ∧
      timeFromSystemTime t = (secs, min nsecs 999999999)) ∧
    (∀ t : SystemTime,
      (timeFromSystemTimeChecked t : Outcome ε _) = .ok (timeFromSystemTime t) ∧
      (timeFromSystemTime t).2.toNat < 1000000000 ∧
      (systemTimeFromTime (timeFromSystemTime t).1 (timeFromSystemTime t).2 : Outcome ε _) =
        .ok t) ∧
    (∀ t t' : SystemTime, t < t' ↔
      Prod.Lex (· < ·) (· < ·) (timeFromSystemTime t) (timeFromSystemTime t')) := by
  refine ⟨fun secs nsecs => ?_, fun t => ?_, fun t t' => ?_⟩
  · have hback := systemTimeFromTime_eq (ε := ε) secs nsecs
    refine ⟨_, (systemTimeFromTimeChecked_eq secs nsecs).trans hback, hback, ?_⟩
    exact (timeFromSystemTime_eq (ε := ε) _).2
  · obtain ⟨hchecked, htime⟩ := timeFromSystemTime_eq (ε := ε) t
    have hclamp : clampNanos t.tvNsec = t.tvNsec := by
      have hv := t.valid
      refine if_pos (UInt32.le_iff_toNat_le.mpr ?_)
      exact Nat.le_of_lt_succ hv
    rw [htime, systemTimeFromTime_eq]
    refine ⟨hchecked, t.valid, ?_⟩
    simp only [hclamp]
  · rw [(timeFromSystemTime_eq (ε := ε) t).2, (timeFromSystemTime_eq (ε := ε) t').2, Prod.lex_def]
    exact systemTime_lt_iff t t'

end Fuser
