import Fuser.Attr
import Fuser.Response

/-!
The times that only macOS has: when a file was created, backed up and last changed.

They are sent as the signed seconds of any other time, put into an unsigned word.
The accessors that read them back add an unsigned duration to the epoch instead,
which has no place for a time before it.
-/

namespace Fuser.Macos

open Rust Wire ResponseImpl

def fattrCrtime : UInt32 := 0x10000000

def fattrChgtime : UInt32 := 0x20000000

def fattrBkuptime : UInt32 := 0x40000000

structure FileAttr extends Fuser.FileAttr where
  crtime : SystemTime
  flags : UInt32
  deriving DecidableEq

structure FuseAttr extends Fuser.FuseAttr where
  crtime : UInt64
  crtimensec : UInt32
  flags : UInt32
  deriving DecidableEq

structure FuseGetxtimesOut where
  bkuptime : UInt64
  crtime : UInt64
  bkuptimensec : UInt32
  crtimensec : UInt32
  deriving DecidableEq

def FuseGetxtimesOut.codec : Codec FuseGetxtimesOut :=
  (u64.prod <| u64.prod <| u32.prod u32).map
    (fun ⟨bkuptime, crtime, bkuptimensec, crtimensec⟩ =>
      (bkuptime, crtime, bkuptimensec, crtimensec))
    (fun (bkuptime, crtime, bkuptimensec, crtimensec) =>
      ⟨bkuptime, crtime, bkuptimensec, crtimensec⟩)
    (fun _ => rfl) (fun _ => rfl)

instance : ReprC FuseGetxtimesOut := ⟨FuseGetxtimesOut.codec, by decide⟩

structure FuseSetattrIn extends Fuser.FuseSetattrIn where
  bkuptime : UInt64
  chgtime : UInt64
  crtime : UInt64
  bkuptimensec : UInt32
  chgtimensec : UInt32
  crtimensec : UInt32
  flags : UInt32
  deriving DecidableEq

def fuseAttrFromAttr (attr : FileAttr) : FuseAttr :=
  let (crtimeSecs, crtimeNanos) := timeFromSystemTime attr.crtime
  { Fuser.fuseAttrFromAttr attr.toFileAttr with
    crtime := crtimeSecs.toUInt64
    crtimensec := crtimeNanos
    flags := attr.flags }

def newXtimes (bkuptime crtime : SystemTime) : FuseGetxtimesOut :=
  let (bkuptimeSecs, bkuptimeNanos) := timeFromSystemTime bkuptime
  let (crtimeSecs, crtimeNanos) := timeFromSystemTime crtime
  { bkuptime := bkuptimeSecs.toUInt64
    crtime := crtimeSecs.toUInt64
    bkuptimensec := bkuptimeNanos
    crtimensec := crtimeNanos }

/-- The seconds from 1970 back to 1904, where the epoch of macOS was. Some helpers of
the system send them for want of a time. -/
def macEpoch : UInt64 := 0xffffffff83da4f80

structure SetAttr where
  arg : FuseSetattrIn
  deriving DecidableEq

namespace SetAttr

variable {ε : Type}

/-- `SystemTime::UNIX_EPOCH + Duration::new(secs, nanos)`. -/
def sinceEpoch (secs : UInt64) (nanos : UInt32) : Outcome ε SystemTime :=
  Duration.new secs nanos >>= SystemTime.unixEpoch.add

/-- A time of the request that counts only if the kernel marked it valid. -/
def timeWhenValid (self : SetAttr) (flag : UInt32) (secs : UInt64) (nanos : UInt32) :
    Outcome ε (Option SystemTime) :=
  if hasFlag self.arg.valid flag then do return some (← sinceEpoch secs nanos)
  else .ok none

def crtime (self : SetAttr) : Outcome ε (Option SystemTime) :=
  if hasFlag self.arg.valid fattrCrtime then
    if self.arg.crtime = macEpoch then .ok none
    else do return some (← sinceEpoch self.arg.crtime self.arg.crtimensec)
  else .ok none

def chgtime (self : SetAttr) : Outcome ε (Option SystemTime) :=
  self.timeWhenValid fattrChgtime self.arg.chgtime self.arg.chgtimensec

def bkuptime (self : SetAttr) : Outcome ε (Option SystemTime) :=
  self.timeWhenValid fattrBkuptime self.arg.bkuptime self.arg.bkuptimensec

/-- A duration is added to the epoch if the seconds of the sum have their place. -/
theorem returns_unixEpoch_add (d : Duration) :
    (SystemTime.unixEpoch.add d : Outcome ε SystemTime).Returns ↔ d.secs.toNat < 2 ^ 63 := by
  have hvalid := d.valid
  have hepoch : SystemTime.unixEpoch.toNanos + d.toNanos = d.toNanos := by
    have hzero : SystemTime.unixEpoch.toNanos = 0 := by decide
    rw [hzero, Int.zero_add]
  have hsecs : (d.toNanos : Int) / nanosPerSec = d.secs.toNat := by
    simp only [Duration.toNanos, nanosPerSec] at hvalid ⊢
    omega
  have hrange : -(2 ^ 63) ≤ (d.toNanos : Int) / nanosPerSec ∧
      (d.toNanos : Int) / nanosPerSec < 2 ^ 63 ↔ d.secs.toNat < 2 ^ 63 := by
    rw [hsecs]
    omega
  rw [SystemTime.add, hepoch, SystemTime.ofNanos]
  by_cases h : d.secs.toNat < 2 ^ 63
  · simp only [if_pos (hrange.mpr h), Outcome.returns_ok, h]
  · simp only [if_neg (hrange.not.mpr h), Outcome.not_returns_panic, h]

theorem returns_sinceEpoch (secs : UInt64) (nanos : UInt32) :
    (sinceEpoch secs nanos : Outcome ε SystemTime).Returns ↔
      secs.toNat + nanos.toNat / 1000000000 < 2 ^ 63 := by
  have hsecs := secs.toNat_lt
  rw [sinceEpoch, Duration.new]
  by_cases hnanos : nanos.toNat < nanosPerSec
  · rw [dif_pos hnanos, Outcome.ok_bind, returns_unixEpoch_add]
    change secs.toNat < 2 ^ 63 ↔ _
    rw [nanosPerSec] at hnanos
    omega
  · rw [dif_neg hnanos]
    by_cases hcarry : secs.toNat + nanos.toNat / nanosPerSec < 2 ^ 64
    · rw [if_pos hcarry, Outcome.ok_bind, returns_unixEpoch_add, UInt64.toNat_ofNat',
        Nat.mod_eq_of_lt hcarry, nanosPerSec]
    · rw [if_neg hcarry, Outcome.panic_bind]
      rw [nanosPerSec] at hcarry
      simp only [Outcome.not_returns_panic, false_iff]
      omega

theorem returns_some_iff (x : Outcome ε SystemTime) :
    (do return some (← x) : Outcome ε (Option SystemTime)).Returns ↔ x.Returns := by
  cases x with
  | ok t => exact iff_of_true (Outcome.returns_ok _) (Outcome.returns_ok _)
  | err e => exact iff_of_true (Outcome.returns_err _) (Outcome.returns_err _)
  | panic p => exact iff_of_false (Outcome.not_returns_panic p) (Outcome.not_returns_panic p)

theorem returns_timeWhenValid (self : SetAttr) (flag : UInt32) (secs : UInt64) (nanos : UInt32) :
    (self.timeWhenValid flag secs nanos : Outcome ε _).Returns ↔
      (hasFlag self.arg.valid flag = true → secs.toNat + nanos.toNat / 1000000000 < 2 ^ 63) := by
  rw [timeWhenValid]
  by_cases hflag : hasFlag self.arg.valid flag = true
  · rw [if_pos hflag, returns_some_iff, returns_sinceEpoch]
    exact ⟨fun h _ => h, fun h => h hflag⟩
  · rw [if_neg hflag]
    exact iff_of_true (Outcome.returns_ok _) (fun h => absurd h hflag)

theorem returns_crtime (self : SetAttr) :
    (self.crtime : Outcome ε _).Returns ↔
      (hasFlag self.arg.valid fattrCrtime = true → self.arg.crtime ≠ macEpoch →
        self.arg.crtime.toNat + self.arg.crtimensec.toNat / 1000000000 < 2 ^ 63) := by
  rw [crtime]
  by_cases hsentinel : self.arg.crtime = macEpoch
  · rw [if_pos hsentinel]
    refine iff_of_true ?_ (fun _ h => absurd hsentinel h)
    split <;> exact Outcome.returns_ok _
  · rw [if_neg hsentinel]
    refine (returns_timeWhenValid self fattrCrtime _ _).trans ?_
    exact ⟨fun h hflag _ => h hflag, fun h hflag => h hflag hsentinel⟩

/-- The seconds before the epoch are the upper half of the unsigned word. -/
theorem le_toUInt64_of_neg {secs : Int64} (h : secs.toInt < 0) : 2 ^ 63 ≤ secs.toUInt64.toNat := by
  have hcond : secs.toInt =
      if 2 * secs.toUInt64.toNat < 2 ^ 64 then (secs.toUInt64.toNat : Int)
      else (secs.toUInt64.toNat : Int) - (2 ^ 64 : Nat) := BitVec.toInt_eq_toNat_cond _
  split at hcond <;> omega

theorem lt_unixEpoch_iff (t : SystemTime) : t < .unixEpoch ↔ t.tvSec.toInt < 0 := by
  have hvalid := t.valid
  have hepoch : SystemTime.unixEpoch.toNanos = 0 := by decide
  change t.toNanos < SystemTime.unixEpoch.toNanos ↔ _
  rw [hepoch]
  simp only [SystemTime.toNanos, nanosPerSec] at hvalid ⊢
  omega

/-- The encoding of a time is read back if it is not before the epoch; otherwise the
sum has no place for it. -/
theorem sinceEpoch_eq_ok_iff (t : SystemTime) :
    (sinceEpoch t.tvSec.toUInt64 t.tvNsec : Outcome ε SystemTime) = .ok t ↔ ¬ t < .unixEpoch := by
  rw [lt_unixEpoch_iff, Int.not_lt]
  constructor
  · intro hok
    have hreturns := (returns_sinceEpoch (ε := ε) t.tvSec.toUInt64 t.tvNsec).mp (.of_ok ⟨t, hok⟩)
    by_contra hneg
    have hle := le_toUInt64_of_neg (Int.not_le.mp hneg)
    omega
  · intro hnonneg
    exact unixEpoch_add_secs t.tvSec t.tvNsec t.valid (Int64.le_iff_toInt_le.mpr hnonneg)

theorem some_eq_ok_iff (x : Outcome ε SystemTime) (t : SystemTime) :
    (do return some (← x) : Outcome ε (Option SystemTime)) = .ok (some t) ↔ x = .ok t := by
  cases x with
  | ok t' => exact ⟨fun h => by cases h; rfl, fun h => by cases h; rfl⟩
  | err e => exact iff_of_false nofun nofun
  | panic p => exact iff_of_false nofun nofun

theorem crtime_eq_iff {self : SetAttr} {t : SystemTime}
    (hvalid : hasFlag self.arg.valid fattrCrtime = true)
    (htime : (self.arg.crtime, self.arg.crtimensec) = (t.tvSec.toUInt64, t.tvNsec)) :
    (self.crtime : Outcome ε _) = .ok (some t) ↔ ¬ t < .unixEpoch := by
  obtain ⟨hsecs, hnanos⟩ := Prod.mk.inj htime
  rw [crtime, if_pos hvalid, hsecs, hnanos]
  by_cases hsentinel : t.tvSec.toUInt64 = macEpoch
  · have hbefore : t < .unixEpoch := by
      by_contra hnot
      rw [lt_unixEpoch_iff, Int.not_lt] at hnot
      have hcast := toNat_toUInt64 hnot
      have hrange := Checked.toInt_range t.tvSec
      have hvalue : macEpoch.toNat = 18446744071626706816 := by decide
      rw [hsentinel, hvalue] at hcast
      omega
    rw [if_pos hsentinel]
    exact iff_of_false nofun (not_not.mpr hbefore)
  · rw [if_neg hsentinel, some_eq_ok_iff, sinceEpoch_eq_ok_iff]

theorem bkuptime_eq_iff {self : SetAttr} {t : SystemTime}
    (hvalid : hasFlag self.arg.valid fattrBkuptime = true)
    (htime : (self.arg.bkuptime, self.arg.bkuptimensec) = (t.tvSec.toUInt64, t.tvNsec)) :
    (self.bkuptime : Outcome ε _) = .ok (some t) ↔ ¬ t < .unixEpoch := by
  obtain ⟨hsecs, hnanos⟩ := Prod.mk.inj htime
  rw [bkuptime, timeWhenValid, if_pos hvalid, hsecs, hnanos, some_eq_ok_iff, sinceEpoch_eq_ok_iff]

theorem fuseAttrFromAttr_crtime (attr : FileAttr) :
    ((fuseAttrFromAttr attr).crtime, (fuseAttrFromAttr attr).crtimensec) =
      (attr.crtime.tvSec.toUInt64, attr.crtime.tvNsec) := by
  rw [fuseAttrFromAttr, (timeFromSystemTime_eq (ε := Empty) attr.crtime).2]

theorem newXtimes_eq (bkuptime crtime : SystemTime) :
    newXtimes bkuptime crtime =
      ⟨bkuptime.tvSec.toUInt64, crtime.tvSec.toUInt64, bkuptime.tvNsec, crtime.tvNsec⟩ := by
  rw [newXtimes, (timeFromSystemTime_eq (ε := Empty) bkuptime).2,
    (timeFromSystemTime_eq (ε := Empty) crtime).2]

/-- The answer to a GETXTIMES is framed as every other response is. -/
theorem framed_newXtimes (bkuptime crtime : SystemTime) (unique : RequestId) :
    ∃ (slices : List IoSlice) (header : FuseOutHeader),
      (∀ {ε τ : Type} (f : List IoSlice → τ),
        (withIovec (ResponseStruct.mk (newXtimes bkuptime crtime)) unique f : Outcome ε τ) =
          .ok (f slices)) ∧
      Framed slices unique none (toBytes (newXtimes bkuptime crtime)) header := by
  refine framed_of_carries ⟨rfl, payload_struct _⟩ (fun h => absurd rfl h) ?_ unique
  rw [length_toBytes]
  decide

/-- What the session sent for a time comes back if the time is not before the epoch, and
the accessors come back if the seconds they are given have their place in a signed word
or do not count. -/
theorem times_iff (self : SetAttr) :
    (∀ attr : FileAttr, hasFlag self.arg.valid fattrCrtime = true →
      (self.arg.crtime, self.arg.crtimensec) =
        ((fuseAttrFromAttr attr).crtime, (fuseAttrFromAttr attr).crtimensec) →
      ((self.crtime : Outcome ε _) = .ok (some attr.crtime) ↔ ¬ attr.crtime < .unixEpoch)) ∧
    (∀ bkuptime crtime : SystemTime,
      (hasFlag self.arg.valid fattrCrtime = true →
        (self.arg.crtime, self.arg.crtimensec) =
          ((newXtimes bkuptime crtime).crtime, (newXtimes bkuptime crtime).crtimensec) →
        ((self.crtime : Outcome ε _) = .ok (some crtime) ↔ ¬ crtime < .unixEpoch)) ∧
      (hasFlag self.arg.valid fattrBkuptime = true →
        (self.arg.bkuptime, self.arg.bkuptimensec) =
          ((newXtimes bkuptime crtime).bkuptime, (newXtimes bkuptime crtime).bkuptimensec) →
        ((self.bkuptime : Outcome ε _) = .ok (some bkuptime) ↔ ¬ bkuptime < .unixEpoch))) ∧
    ((self.crtime : Outcome ε _).Returns ↔
      (hasFlag self.arg.valid fattrCrtime = true → self.arg.crtime ≠ macEpoch →
        self.arg.crtime.toNat + self.arg.crtimensec.toNat / 1000000000 < 2 ^ 63)) ∧
    ((self.chgtime : Outcome ε _).Returns ↔
      (hasFlag self.arg.valid fattrChgtime = true →
        self.arg.chgtime.toNat + self.arg.chgtimensec.toNat / 1000000000 < 2 ^ 63)) ∧
    ((self.bkuptime : Outcome ε _).Returns ↔
      (hasFlag self.arg.valid fattrBkuptime = true →
        self.arg.bkuptime.toNat + self.arg.bkuptimensec.toNat / 1000000000 < 2 ^ 63)) := by
  refine ⟨fun attr hvalid htime => ?_, fun bkuptime crtime => ⟨?_, ?_⟩, returns_crtime self,
    returns_timeWhenValid .., returns_timeWhenValid ..⟩
  · exact crtime_eq_iff hvalid (htime.trans (fuseAttrFromAttr_crtime attr))
  · rw [newXtimes_eq]
    exact crtime_eq_iff
  · rw [newXtimes_eq]
    exact bkuptime_eq_iff

/-- A SETATTR that sets the time of creation to what the session sent for `t`. -/
def ofCrtime (t : SystemTime) : SetAttr where
  arg := {
    Wire.ofBytes Fuser.FuseSetattrIn [] with
    valid := fattrCrtime
    bkuptime := 0
    chgtime := 0
    crtime := (newXtimes t t).crtime
    bkuptimensec := 0
    chgtimensec := 0
    crtimensec := (newXtimes t t).crtimensec
    flags := 0 }

theorem times_iff_second :
    ((ofCrtime ⟨1, 0, zero_lt_nanosPerSec⟩).crtime : Outcome Empty _) =
      .ok (some ⟨1, 0, zero_lt_nanosPerSec⟩) := by
  have htimes := (times_iff (ε := Empty) (ofCrtime ⟨1, 0, zero_lt_nanosPerSec⟩)).2.1
    ⟨1, 0, zero_lt_nanosPerSec⟩ ⟨1, 0, zero_lt_nanosPerSec⟩
  refine (htimes.1 (by decide) rfl).mpr ?_
  rw [lt_unixEpoch_iff]
  decide

/-- A second before the epoch is not read back: the accessor panics. -/
theorem not_times :
    let self := ofCrtime ⟨-1, 0, zero_lt_nanosPerSec⟩
    (self.crtime : Outcome Empty _) ≠ .ok (some ⟨-1, 0, zero_lt_nanosPerSec⟩) ∧
    ¬ (self.crtime : Outcome Empty _).Returns := by
  intro self
  have hpanic : (self.crtime : Outcome Empty _) =
      .panic (.expect "overflow when adding duration to instant") := by
    decide +kernel
  rw [hpanic]
  exact ⟨nofun, Outcome.not_returns_panic _⟩

end SetAttr

end Fuser.Macos
