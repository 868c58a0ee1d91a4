import Fuser.Operation

/-!
File attributes, and how they are put on the wire. The mode of a file holds its
type in the bits above its permissions, with the values they have on Linux.
-/

namespace Fuser

open Wire

inductive FileType where
  | namedPipe
  | charDevice
  | blockDevice
  | directory
  | regularFile
  | symlink
  | socket
  deriving DecidableEq

structure Generation where
  raw : UInt64
  deriving DecidableEq

/-- File attributes, without those that only macOS has. -/
structure FileAttr where
  ino : INodeNo
  size : UInt64
  blocks : UInt64
  atime : SystemTime
  mtime : SystemTime
  ctime : SystemTime
  kind : FileType
  perm : UInt16
  nlink : UInt32
  uid : UInt32
  gid : UInt32
  rdev : UInt32
  blksize : UInt32
  deriving DecidableEq

/-- The `S_IF` constant of a file type. -/
def FileType.mode : FileType → UInt32
  | .namedPipe => 0o010000
  | .charDevice => 0o020000
  | .blockDevice => 0o060000
  | .directory => 0o040000
  | .regularFile => 0o100000
  | .symlink => 0o120000
  | .socket => 0o140000

def modeFromKindAndPerm (kind : FileType) (perm : UInt16) : UInt32 :=
  kind.mode ||| perm.toUInt32

def fuseAttrFromAttr (attr : FileAttr) : FuseAttr :=
  let (atimeSecs, atimeNanos) := timeFromSystemTime attr.atime
  let (mtimeSecs, mtimeNanos) := timeFromSystemTime attr.mtime
  let (ctimeSecs, ctimeNanos) := timeFromSystemTime attr.ctime
  { ino := attr.ino.raw
    size := attr.size
    blocks := attr.blocks
    atime := atimeSecs
    mtime := mtimeSecs
    ctime := ctimeSecs
    atimensec := atimeNanos
    mtimensec := mtimeNanos
    ctimensec := ctimeNanos
    mode := modeFromKindAndPerm attr.kind attr.perm
    nlink := attr.nlink
    uid := attr.uid
    gid := attr.gid
    rdev := attr.rdev
    blksize := attr.blksize
    padding := 0 }

/-- Attributes with what only `statx` reports. -/
structure StatxAttr where
  attr : FileAttr
  btime : Option SystemTime
  attributes : StatxAttributes
  attributesMask : StatxAttributes
  deriving DecidableEq

def majorMinor (rdev : UInt32) : UInt32 × UInt32 :=
  let major : UInt32 := (rdev &&& 0x000fff00) >>> 8
  let low : UInt32 := rdev &&& 0xff
  let high : UInt32 := (rdev >>> 12) &&& 0x000fff00
  (major, low ||| high)

def sxTime (time : SystemTime) : FuseSxTime :=
  let (secs, nanos) := timeFromSystemTime time
  ⟨secs, nanos, 0⟩

def fuseStatxFromAttr (attr : StatxAttr) : FuseStatx :=
  let (rdevMajor, rdevMinor) := majorMinor attr.attr.rdev
  let mode := modeFromKindAndPerm attr.attr.kind attr.attr.perm
  let mask : StatxMask :=
    if attr.btime.isSome then ⟨StatxMask.basicStats.bits ||| StatxMask.btime.bits⟩
    else .basicStats
  { mask := mask.bits
    blksize := attr.attr.blksize
    attributes := attr.attributes.bits
    nlink := attr.attr.nlink
    uid := attr.attr.uid
    gid := attr.attr.gid
    mode := mode.toUInt16
    spare0 := .replicate 1 0
    ino := attr.attr.ino.raw
    size := attr.attr.size
    blocks := attr.attr.blocks
    attributesMask := attr.attributesMask.bits
    atime := sxTime attr.attr.atime
    btime := (attr.btime.map sxTime).getD ⟨0, 0, 0⟩
    ctime := sxTime attr.attr.ctime
    mtime := sxTime attr.attr.mtime
    rdevMajor := rdevMajor
    rdevMinor := rdevMinor
    devMajor := 0
    devMinor := 0
    spare2 := .replicate 14 0 }

/-- The file type a directory entry gives, as the kernel reads it. -/
def FileType.ofTyp (typ : UInt32) : Option FileType :=
  if typ = 1 then some .namedPipe
  else if typ = 2 then some .charDevice
  else if typ = 4 then some .directory
  else if typ = 6 then some .blockDevice
  else if typ = 8 then some .regularFile
  else if typ = 10 then some .symlink
  else if typ = 12 then some .socket
  else none

theorem mode_shiftRight_or (kind : FileType) (perm : UInt16) :
    modeFromKindAndPerm kind perm >>> 12 = kind.mode >>> 12 ||| perm.toUInt32 >>> 12 := by
  rw [modeFromKindAndPerm, UInt32.shiftRight_or]

/-- Permissions do not reach into the bits of the type. -/
theorem mode_shiftRight (kind : FileType) (perm : UInt16) (h : perm.toNat ≤ 0o7777) :
    modeFromKindAndPerm kind perm >>> 12 = kind.mode >>> 12 := by
  have hperm : perm.toUInt32 >>> 12 = 0 := by
    apply UInt32.toNat_inj.mp
    have hshift : (perm.toUInt32 >>> 12).toNat = perm.toNat >>> 12 := by
      rw [UInt32.toNat_shiftRight, UInt16.toNat_toUInt32]
      rfl
    rw [hshift, Nat.shiftRight_eq_div_pow]
    change _ = 0
    omega
  rw [mode_shiftRight_or, hperm, UInt32.or_zero]

/-- The kernel's `new_encode_dev`. -/
def newEncodeDev (major minor : UInt32) : UInt32 :=
  let low : UInt32 := minor &&& 0xff
  let middle : UInt32 := major <<< 8
  let high : UInt32 := (minor &&& ~~~0xff) <<< 12
  low ||| middle ||| high

/-- Bits 0 to 7 and 20 to 31 of a device number go to its minor, bits 8 to 19 to its
major, and from there back to where they were. -/
theorem newEncodeDev_majorMinor (rdev : UInt32) :
    newEncodeDev (majorMinor rdev).1 (majorMinor rdev).2 = rdev := by
  have hlow : ∀ i < 32, (0xff#32).getLsbD i = decide (i < 8) := by decide
  have hmiddle : ∀ i < 32, (0x000fff00#32).getLsbD i = decide (8 ≤ i ∧ i < 20) := by decide
  have height : (8#32 % 32).toNat = 8 := rfl
  have htwelve : (12#32 % 32).toNat = 12 := rfl
  apply UInt32.toBitVec_inj.mp
  apply BitVec.eq_of_getLsbD_eq
  intro i hi
  simp only [newEncodeDev, majorMinor, UInt32.toBitVec_or, UInt32.toBitVec_and, UInt32.toBitVec_not,
    UInt32.toBitVec_shiftLeft, UInt32.toBitVec_shiftRight, UInt32.toBitVec_ofNat,
    BitVec.shiftLeft_eq', BitVec.ushiftRight_eq', height, htwelve, BitVec.getLsbD_or,
    BitVec.getLsbD_and, BitVec.getLsbD_not, BitVec.getLsbD_shiftLeft, BitVec.getLsbD_ushiftRight]
  by_cases h8 : i < 8
  · simp [hlow i hi, hmiddle i hi, h8, show i < 12 by omega, show ¬ 8 ≤ i by omega]
  · have hback : 8 + (i - 8) = i := by omega
    rw [hback, hlow i hi, hmiddle i hi]
    by_cases h20 : i < 20
    · simp only [hlow (i - 12) (by omega), show i - 12 < 8 by omega]
      simp [h8, h20, hi, show 8 ≤ i by omega]
    · have hback' : 12 + (i - 12) = i := by omega
      rw [hback', hlow (i - 12) (by omega), hmiddle (i - 12) (by omega)]
      simp [h8, h20, hi, show ¬ i < 12 by omega, show ¬ i - 12 < 8 by omega,
        show 8 ≤ i - 12 by omega, show i - 12 < 20 by omega, show i - 12 < 32 by omega]

/-- Every type and every permission bit fits 16 bits. -/
theorem toUInt16_mode (kind : FileType) (perm : UInt16) :
    (modeFromKindAndPerm kind perm).toUInt16.toUInt32 = modeFromKindAndPerm kind perm := by
  have hkind : kind.mode.toNat < 2 ^ 16 := by
    cases kind <;> decide
  have hmode : (modeFromKindAndPerm kind perm).toNat < 2 ^ 16 := by
    rw [modeFromKindAndPerm, UInt32.toNat_or, UInt16.toNat_toUInt32]
    exact Nat.or_lt_two_pow hkind perm.toNat_lt
  apply UInt32.toNat_inj.mp
  rw [UInt16.toNat_toUInt32, UInt32.toNat_toUInt16]
  exact Nat.mod_eq_of_lt hmode

/-- Both ways to ask for attributes give the same answer, and the mask tells whether
there is a time of birth in it. -/
theorem fuseStatx_agrees (attr : StatxAttr) :
    let stat := fuseStatxFromAttr attr
    let base := fuseAttrFromAttr attr.attr
    (stat.ino = base.ino ∧ stat.size = base.size ∧ stat.blocks = base.blocks ∧
      stat.nlink = base.nlink ∧ stat.uid = base.uid ∧ stat.gid = base.gid ∧
      stat.blksize = base.blksize ∧ stat.mode.toUInt32 = base.mode) ∧
    ((stat.atime.tvSec, stat.atime.tvNsec) = (base.atime, base.atimensec) ∧
      (stat.mtime.tvSec, stat.mtime.tvNsec) = (base.mtime, base.mtimensec) ∧
      (stat.ctime.tvSec, stat.ctime.tvNsec) = (base.ctime, base.ctimensec)) ∧
    newEncodeDev stat.rdevMajor stat.rdevMinor = base.rdev ∧
    (match attr.btime with
      | some time =>
          stat.mask = StatxMask.basicStats.bits ||| StatxMask.btime.bits ∧
          stat.btime = ⟨(timeFromSystemTime time).1, (timeFromSystemTime time).2, 0⟩
      | none => stat.mask = StatxMask.basicStats.bits ∧ stat.btime = ⟨0, 0, 0⟩) := by
  intro stat base
  refine ⟨⟨rfl, rfl, rfl, rfl, rfl, rfl, rfl, toUInt16_mode _ _⟩, ⟨rfl, rfl, rfl⟩,
    newEncodeDev_majorMinor attr.attr.rdev, ?_⟩
  have hmask : stat.mask = (if attr.btime.isSome then
      (⟨StatxMask.basicStats.bits ||| StatxMask.btime.bits⟩ : StatxMask)
    else .basicStats).bits := rfl
  have hbtime : stat.btime = (attr.btime.map sxTime).getD ⟨0, 0, 0⟩ := rfl
  rw [hmask, hbtime]
  cases attr.btime with
  | some time => exact ⟨rfl, rfl⟩
  | none => exact ⟨rfl, rfl⟩

theorem ofTyp_mode (kind : FileType) (perm : UInt16) (h : perm.toNat ≤ 0o7777) :
    FileType.ofTyp (modeFromKindAndPerm kind perm >>> 12) = some kind := by
  rw [mode_shiftRight kind perm h]
  cases kind <;> rfl

end Fuser
