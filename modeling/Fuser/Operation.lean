import Fuser.Abi
import Fuser.Errno
import Fuser.Flags
import Fuser.Time

/-!
The operations a request may ask for, each with its arguments as they were sent
and with the accessors the rest of the program reads them through.

An offset of the wire is unsigned where a file offset is signed; the accessors
that promise a file offset reject the upper half of the range with `EINVAL`.
-/

namespace Fuser

open Rust Wire

structure RequestId where
  raw : UInt64
  deriving DecidableEq

structure INodeNo where
  raw : UInt64
  deriving DecidableEq

structure FileHandle where
  raw : UInt64
  deriving DecidableEq

structure LockOwner where
  raw : UInt64
  deriving DecidableEq

structure PollHandle where
  raw : UInt64
  deriving DecidableEq

structure OpenFlags where
  raw : Int32
  deriving DecidableEq

/-- A file name: bytes, in no particular encoding. -/
abbrev OsStr := List UInt8

structure Lock where
  range : UInt64 × UInt64
  typ : Int32
  pid : UInt32
  deriving DecidableEq

def Lock.fromAbi (x : FuseFileLock) : Lock := ⟨(x.start, x.stop), x.typ, x.pid⟩

structure Version where
  major : UInt32
  minor : UInt32
  deriving DecidableEq

namespace Version

/-- The derived order: by the major version first. -/
def lt (v w : Version) : Prop := v.major < w.major ∨ v.major = w.major ∧ v.minor < w.minor

instance (v w : Version) : Decidable (v.lt w) := inferInstanceAs (Decidable (_ ∨ _))

def display (v : Version) : String := toString v.major ++ "." ++ toString v.minor

end Version

structure FilenameInDir where
  dir : INodeNo
  name : OsStr
  deriving DecidableEq

inductive TimeOrNow where
  | specificTime (time : SystemTime)
  | now
  deriving DecidableEq

/-- Rejects what does not fit the signed `off_t`. -/
def validateOffT (value : UInt64) : Outcome Errno Unit :=
  if value.toNat > 2 ^ 63 - 1 then .err .einval else .ok ()

namespace Op

structure Lookup where
  header : FuseInHeader
  name : OsStr
  deriving DecidableEq

structure Forget where
  header : FuseInHeader
  arg : FuseForgetIn
  deriving DecidableEq

def Forget.nlookup (self : Forget) : UInt64 := self.arg.nlookup

structure GetAttr where
  header : FuseInHeader
  arg : FuseGetattrIn
  deriving DecidableEq

namespace GetAttr

def getattrFlags (self : GetAttr) : UInt32 := self.arg.getattrFlags

def fileHandle (self : GetAttr) : Option FileHandle :=
  if hasFlag self.getattrFlags fuseGetattrFh then some ⟨self.arg.fh⟩ else none

end GetAttr

structure StatX where
  header : FuseInHeader
  arg : FuseStatxIn
  deriving DecidableEq

namespace StatX

def fileHandle (self : StatX) : Option FileHandle :=
  if hasFlag self.arg.getattrFlags fuseGetattrFh then some ⟨self.arg.fh⟩ else none

def flags (self : StatX) : UInt32 := self.arg.sxFlags

def mask (self : StatX) : UInt32 := self.arg.sxMask

end StatX

structure SetAttr where
  header : FuseInHeader
  arg : FuseSetattrIn
  deriving DecidableEq

namespace SetAttr

variable (self : SetAttr)

/-- A field of the request that counts only if the kernel marked it valid. -/
def whenValid {α : Type} (flag : UInt32) (value : α) : Option α :=
  if hasFlag self.arg.valid flag then some value else none

def mode : Option UInt32 := self.whenValid fattrMode self.arg.mode

def uid : Option UInt32 := self.whenValid fattrUid self.arg.uid

def gid : Option UInt32 := self.whenValid fattrGid self.arg.gid

def size : Option UInt64 := self.whenValid fattrSize self.arg.size

def fileHandle : Option FileHandle := self.whenValid fattrFh ⟨self.arg.fh⟩

def killSuidGid : Bool := hasFlag self.arg.valid fattrKillSuidgid

/-- A time that is the current one when the kernel says so. -/
def timeOrNow {ε : Type} (flag nowFlag : UInt32) (secs : Int64) (nsecs : UInt32) :
    Outcome ε (Option TimeOrNow) :=
  if hasFlag self.arg.valid flag then
    if hasFlag self.arg.valid nowFlag then .ok (some .now)
    else do return some (.specificTime (← systemTimeFromTime secs nsecs))
  else .ok none

def atime {ε : Type} : Outcome ε (Option TimeOrNow) :=
  self.timeOrNow fattrAtime fattrAtimeNow self.arg.atime self.arg.atimensec

def mtime {ε : Type} : Outcome ε (Option TimeOrNow) :=
  self.timeOrNow fattrMtime fattrMtimeNow self.arg.mtime self.arg.mtimensec

def ctime {ε : Type} : Outcome ε (Option SystemTime) :=
  if hasFlag self.arg.valid fattrCtime then do
    return some (← systemTimeFromTime self.arg.ctime self.arg.ctimensec)
  else .ok none

/-! The four attributes that only macOS sends. -/

def crtime (_self : SetAttr) : Option SystemTime := none

def chgtime (_self : SetAttr) : Option SystemTime := none

def bkuptime (_self : SetAttr) : Option SystemTime := none

def flags (_self : SetAttr) : Option UInt32 := none

end SetAttr

structure ReadLink where
  header : FuseInHeader
  deriving DecidableEq

structure SymLink where
  header : FuseInHeader
  target : OsStr
  linkName : OsStr
  deriving DecidableEq

structure MkNod where
  header : FuseInHeader
  arg : FuseMknodIn
  name : OsStr
  deriving DecidableEq

namespace MkNod

def mode (self : MkNod) : UInt32 := self.arg.mode

def umask (self : MkNod) : UInt32 := self.arg.umask

def rdev (self : MkNod) : UInt32 := self.arg.rdev

end MkNod

structure MkDir where
  header : FuseInHeader
  arg : FuseMkdirIn
  name : OsStr
  deriving DecidableEq

namespace MkDir

def mode (self : MkDir) : UInt32 := self.arg.mode

def umask (self : MkDir) : UInt32 := self.arg.umask

end MkDir

structure Unlink where
  header : FuseInHeader
  name : OsStr
  deriving DecidableEq

structure RmDir where
  header : FuseInHeader
  name : OsStr
  deriving DecidableEq

structure Rename where
  header : FuseInHeader
  arg : FuseRenameIn
  name : OsStr
  newname : OsStr
  deriving DecidableEq

namespace Rename

def src (self : Rename) : FilenameInDir := ⟨⟨self.header.nodeid⟩, self.name⟩

def dest (self : Rename) : FilenameInDir := ⟨⟨self.arg.newdir⟩, self.newname⟩

end Rename

structure Link where
  header : FuseInHeader
  arg : FuseLinkIn
  name : OsStr
  deriving DecidableEq

namespace Link

/-- The file to link; the header has the directory to link it into. -/
def inodeNo (self : Link) : INodeNo := ⟨self.arg.oldnodeid⟩

def dest (self : Link) : FilenameInDir := ⟨⟨self.header.nodeid⟩, self.name⟩

end Link

structure Open where
  header : FuseInHeader
  arg : FuseOpenIn
  deriving DecidableEq

namespace Open

def flags (self : Open) : OpenFlags := ⟨self.arg.flags⟩

def killSuidGid (self : Open) : Bool := hasFlag self.arg.openFlags fuseOpenKillSuidgid

end Open

structure Read where
  header : FuseInHeader
  arg : FuseReadIn
  deriving DecidableEq

namespace Read

def fileHandle (self : Read) : FileHandle := ⟨self.arg.fh⟩

def offset (self : Read) : Outcome Errno UInt64 := do
  validateOffT self.arg.offset
  return self.arg.offset

def size (self : Read) : UInt32 := self.arg.size

def readFlags (self : Read) : UInt32 := self.arg.readFlags

def lockOwner (self : Read) : Option LockOwner :=
  if hasFlag self.readFlags fuseReadLockowner then some ⟨self.arg.lockOwner⟩ else none

def flags (self : Read) : OpenFlags := ⟨self.arg.flags⟩

end Read

structure Write where
  header : FuseInHeader
  arg : FuseWriteIn
  data : List UInt8
  deriving DecidableEq

namespace Write

def fileHandle (self : Write) : FileHandle := ⟨self.arg.fh⟩

def offset (self : Write) : Outcome Errno UInt64 := do
  validateOffT self.arg.offset.toUInt64
  return self.arg.offset.toUInt64

def writeFlags (self : Write) : UInt32 := self.arg.writeFlags

def lockOwner (self : Write) : Option LockOwner :=
  if hasFlag self.arg.writeFlags fuseWriteLockowner then some ⟨self.arg.lockOwner⟩ else none

def flags (self : Write) : OpenFlags := ⟨self.arg.flags⟩

end Write

structure StatFs where
  header : FuseInHeader
  deriving DecidableEq

structure Release where
  header : FuseInHeader
  arg : FuseReleaseIn
  deriving DecidableEq

namespace Release

def releaseFlags (self : Release) : UInt32 := self.arg.releaseFlags

def flush (self : Release) : Bool := hasFlag self.releaseFlags fuseReleaseFlush

def fileHandle (self : Release) : FileHandle := ⟨self.arg.fh⟩

def flags (self : Release) : OpenFlags := ⟨self.arg.flags⟩

def lockOwner (self : Release) : Option LockOwner :=
  if hasFlag self.releaseFlags fuseReleaseFlockUnlock then some ⟨self.arg.lockOwner⟩
  else none

end Release

structure FSync where
  header : FuseInHeader
  arg : FuseFsyncIn
  deriving DecidableEq

namespace FSync

def fileHandle (self : FSync) : FileHandle := ⟨self.arg.fh⟩

def fdatasync (self : FSync) : Bool := hasFlag self.arg.fsyncFlags fuseFsyncFdatasync

end FSync

structure SetXAttr where
  header : FuseInHeader
  arg : FuseSetxattrIn
  setxattrFlags : UInt32
  name : OsStr
  value : List UInt8
  deriving DecidableEq

namespace SetXAttr

def flags (self : SetXAttr) : Int32 := self.arg.flags

def position (_self : SetXAttr) : UInt32 := 0

end SetXAttr

structure GetXAttr where
  header : FuseInHeader
  arg : FuseGetxattrIn
  name : OsStr
  deriving DecidableEq

/-- What a GETXATTR asks for: the size of the value, or the value if it fits. -/
inductive GetXAttrSizeEnum where
  | getSize
  | size (bytes : {n : UInt32 // n ≠ 0})
  deriving DecidableEq

namespace GetXAttr

def size (self : GetXAttr) : GetXAttrSizeEnum :=
  if h : self.arg.size = 0 then .getSize else .size ⟨self.arg.size, h⟩

def sizeU32 (self : GetXAttr) : UInt32 := self.arg.size

end GetXAttr

structure ListXAttr where
  header : FuseInHeader
  arg : FuseGetxattrIn
  deriving DecidableEq

def ListXAttr.size (self : ListXAttr) : UInt32 := self.arg.size

structure RemoveXAttr where
  header : FuseInHeader
  name : OsStr
  deriving DecidableEq

structure Flush where
  header : FuseInHeader
  arg : FuseFlushIn
  deriving DecidableEq

namespace Flush

def fileHandle (self : Flush) : FileHandle := ⟨self.arg.fh⟩

def lockOwner (self : Flush) : LockOwner := ⟨self.arg.lockOwner⟩

end Flush

structure Init where
  header : FuseInHeader
  arg : FuseInitIn
  deriving DecidableEq

namespace Init

/-- The second flag word counts only when the first one announces it. -/
def capabilities (self : Init) : InitFlags :=
  let flags : InitFlags := self.arg.flags.toBitVec.setWidth 64
  if flags.contains .fuseInitExt then
    self.arg.flags.toBitVec.setWidth 64 ||| self.arg.flags2.toBitVec.setWidth 64 <<< 32
  else flags

def maxReadahead (self : Init) : UInt32 := self.arg.maxReadahead

def version (self : Init) : Version := ⟨self.arg.major, self.arg.minor⟩

theorem contains_initExt (self : Init) :
    InitFlags.contains (self.arg.flags.toBitVec.setWidth 64) .fuseInitExt =
      self.arg.flags.toNat.testBit 30 := by
  rw [InitFlags.contains, InitFlags.fuseInitExt, Bitflags.contains_twoPow _ (by decide)]
  simp [BitVec.getLsbD]

/-- The capabilities as a number: the second word is the upper half. -/
theorem capabilities_toNat (self : Init) :
    self.capabilities.toNat =
      if self.arg.flags.toNat.testBit 30 then
        self.arg.flags.toNat + self.arg.flags2.toNat * 2 ^ 32
      else self.arg.flags.toNat := by
  have hflags := self.arg.flags.toNat_lt
  have hflags2 := self.arg.flags2.toNat_lt
  rw [capabilities]
  simp only [contains_initExt]
  by_cases hext : self.arg.flags.toNat.testBit 30
  · rw [if_pos hext, if_pos hext, BitVec.toNat_or, BitVec.toNat_shiftLeft,
      BitVec.toNat_setWidth, BitVec.toNat_setWidth]
    simp only [UInt32.toNat_toBitVec]
    rw [Nat.mod_eq_of_lt (show self.arg.flags.toNat < 2 ^ 64 by omega),
      Nat.mod_eq_of_lt (show self.arg.flags2.toNat < 2 ^ 64 by omega),
      Nat.shiftLeft_eq, Nat.mod_eq_of_lt (by omega), Nat.or_comm,
      ← Nat.shiftLeft_eq, ← Nat.shiftLeft_add_eq_or_of_lt hflags, Nat.add_comm]
  · rw [if_neg hext, if_neg hext, BitVec.toNat_setWidth]
    simp only [UInt32.toNat_toBitVec]
    exact Nat.mod_eq_of_lt (by omega)

end Init

structure OpenDir where
  header : FuseInHeader
  arg : FuseOpenIn
  deriving DecidableEq

def OpenDir.flags (self : OpenDir) : OpenFlags := ⟨self.arg.flags⟩

structure ReadDir where
  header : FuseInHeader
  arg : FuseReadIn
  deriving DecidableEq

namespace ReadDir

def fileHandle (self : ReadDir) : FileHandle := ⟨self.arg.fh⟩

def offset (self : ReadDir) : UInt64 := self.arg.offset

def size (self : ReadDir) : UInt32 := self.arg.size

end ReadDir

structure ReleaseDir where
  header : FuseInHeader
  arg : FuseReleaseIn
  deriving DecidableEq

namespace ReleaseDir

def fileHandle (self : ReleaseDir) : FileHandle := ⟨self.arg.fh⟩

def releaseFlags (self : ReleaseDir) : UInt32 := self.arg.releaseFlags

def flush (self : ReleaseDir) : Bool := hasFlag self.releaseFlags fuseReleaseFlush

def lockOwner (self : ReleaseDir) : Option LockOwner :=
  if hasFlag self.releaseFlags fuseReleaseFlockUnlock then some ⟨self.arg.lockOwner⟩
  else none

def flags (self : ReleaseDir) : OpenFlags := ⟨self.arg.flags⟩

end ReleaseDir

structure FSyncDir where
  header : FuseInHeader
  arg : FuseFsyncIn
  deriving DecidableEq

namespace FSyncDir

def fileHandle (self : FSyncDir) : FileHandle := ⟨self.arg.fh⟩

def fdatasync (self : FSyncDir) : Bool := hasFlag self.arg.fsyncFlags fuseFsyncFdatasync

end FSyncDir

structure GetLk where
  header : FuseInHeader
  arg : FuseLkIn
  deriving DecidableEq

namespace GetLk

def fileHandle (self : GetLk) : FileHandle := ⟨self.arg.fh⟩

def lock (self : GetLk) : Lock := .fromAbi self.arg.lk

def lockOwner (self : GetLk) : LockOwner := ⟨self.arg.owner⟩

end GetLk

structure SetLk where
  header : FuseInHeader
  arg : FuseLkIn
  wait : Bool
  deriving DecidableEq

namespace SetLk

def fileHandle (self : SetLk) : FileHandle := ⟨self.arg.fh⟩

def lock (self : SetLk) : Lock := .fromAbi self.arg.lk

def lockOwner (self : SetLk) : LockOwner := ⟨self.arg.owner⟩

def sleep (self : SetLk) : Bool := self.wait

end SetLk

structure Access where
  header : FuseInHeader
  arg : FuseAccessIn
  deriving DecidableEq

def Access.mask (self : Access) : Int32 := self.arg.mask

structure Create where
  header : FuseInHeader
  arg : FuseCreateIn
  name : OsStr
  deriving DecidableEq

namespace Create

def mode (self : Create) : UInt32 := self.arg.mode

def flags (self : Create) : Int32 := self.arg.flags

def umask (self : Create) : UInt32 := self.arg.umask

def killSuidGid (self : Create) : Bool := hasFlag self.arg.openFlags fuseOpenKillSuidgid

end Create

structure TmpFile where
  header : FuseInHeader
  arg : FuseCreateIn
  name : OsStr
  deriving DecidableEq

namespace TmpFile

def mode (self : TmpFile) : UInt32 := self.arg.mode

def flags (self : TmpFile) : Int32 := self.arg.flags

def umask (self : TmpFile) : UInt32 := self.arg.umask

def killSuidGid (self : TmpFile) : Bool := hasFlag self.arg.openFlags fuseOpenKillSuidgid

end TmpFile

structure Interrupt where
  header : FuseInHeader
  arg : FuseInterruptIn
  deriving DecidableEq

def Interrupt.unique (self : Interrupt) : RequestId := ⟨self.arg.unique⟩

structure BMap where
  header : FuseInHeader
  arg : FuseBmapIn
  deriving DecidableEq

namespace BMap

def blockSize (self : BMap) : UInt32 := self.arg.blocksize

def block (self : BMap) : UInt64 := self.arg.block

end BMap

structure Destroy where
  header : FuseInHeader
  deriving DecidableEq

structure IoCtl where
  header : FuseInHeader
  arg : FuseIoctlIn
  data : List UInt8
  deriving DecidableEq

namespace IoCtl

/-- Indexing by the length the request claims, which panics if fewer bytes came. -/
def inData {ε : Type} (self : IoCtl) : Outcome ε (List UInt8) :=
  if self.arg.inSize.toNat ≤ self.data.length then .ok (self.data.take self.arg.inSize.toNat)
  else .panic .sliceIndex

def unrestricted (self : IoCtl) : Bool := hasFlag self.arg.flags fuseIoctlUnrestricted

def fileHandle (self : IoCtl) : FileHandle := ⟨self.arg.fh⟩

def flags (self : IoCtl) : UInt32 := self.arg.flags

def command (self : IoCtl) : UInt32 := self.arg.cmd

def outSize (self : IoCtl) : UInt32 := self.arg.outSize

end IoCtl

structure Poll where
  header : FuseInHeader
  arg : FusePollIn
  deriving DecidableEq

namespace Poll

def fileHandle (self : Poll) : FileHandle := ⟨self.arg.fh⟩

def kernelHandle (self : Poll) : PollHandle := ⟨self.arg.kh⟩

def events (self : Poll) : UInt32 := self.arg.events

def flags (self : Poll) : UInt32 := self.arg.flags

end Poll

structure NotifyReply where
  header : FuseInHeader
  arg : List UInt8
  deriving DecidableEq

structure BatchForget where
  header : FuseInHeader
  arg : FuseBatchForgetIn
  nodes : List FuseForgetOne
  deriving DecidableEq

structure FAllocate where
  header : FuseInHeader
  arg : FuseFallocateIn
  deriving DecidableEq

namespace FAllocate

def fileHandle (self : FAllocate) : FileHandle := ⟨self.arg.fh⟩

def offset (self : FAllocate) : Outcome Errno UInt64 := do
  validateOffT self.arg.offset
  return self.arg.offset

def len (self : FAllocate) : Outcome Errno UInt64 := do
  validateOffT self.arg.length
  return self.arg.length

def mode (self : FAllocate) : Int32 := self.arg.mode

end FAllocate

structure ReadDirPlus where
  header : FuseInHeader
  arg : FuseReadIn
  deriving DecidableEq

namespace ReadDirPlus

def fileHandle (self : ReadDirPlus) : FileHandle := ⟨self.arg.fh⟩

def offset (self : ReadDirPlus) : UInt64 := self.arg.offset

def size (self : ReadDirPlus) : UInt32 := self.arg.size

end ReadDirPlus

structure Rename2 where
  header : FuseInHeader
  arg : FuseRename2In
  name : OsStr
  newname : OsStr
  oldParent : INodeNo
  deriving DecidableEq

namespace Rename2

def «from» (self : Rename2) : FilenameInDir := ⟨self.oldParent, self.name⟩

def «to» (self : Rename2) : FilenameInDir := ⟨⟨self.arg.newdir⟩, self.newname⟩

def flags (self : Rename2) : UInt32 := self.arg.flags

end Rename2

structure Lseek where
  header : FuseInHeader
  arg : FuseLseekIn
  deriving DecidableEq

namespace Lseek

def fileHandle (self : Lseek) : FileHandle := ⟨self.arg.fh⟩

def offset (self : Lseek) : Int64 := self.arg.offset

def whence (self : Lseek) : Int32 := self.arg.whence

end Lseek

structure CopyFileRangeFile where
  inode : INodeNo
  fileHandle : FileHandle
  offset : UInt64
  deriving DecidableEq

structure CopyFileRange where
  header : FuseInHeader
  arg : FuseCopyFileRangeIn
  deriving DecidableEq

namespace CopyFileRange

def src (self : CopyFileRange) : Outcome Errno CopyFileRangeFile := do
  let offset := self.arg.offIn.toUInt64
  validateOffT offset
  return ⟨⟨self.header.nodeid⟩, ⟨self.arg.fhIn⟩, offset⟩

def dest (self : CopyFileRange) : Outcome Errno CopyFileRangeFile := do
  let offset := self.arg.offOut.toUInt64
  validateOffT offset
  return ⟨⟨self.arg.nodeidOut⟩, ⟨self.arg.fhOut⟩, offset⟩

def len (self : CopyFileRange) : UInt64 := self.arg.len

def flags (self : CopyFileRange) : UInt64 := self.arg.flags

end CopyFileRange

structure SyncFs where
  header : FuseInHeader
  arg : FuseSyncfsIn
  deriving DecidableEq

structure CuseInit where
  header : FuseInHeader
  arg : FuseInitIn
  deriving DecidableEq

end Op

inductive Operation where
  | lookup (x : Op.Lookup)
  | forget (x : Op.Forget)
  | getAttr (x : Op.GetAttr)
  | statX (x : Op.StatX)
  | setAttr (x : Op.SetAttr)
  | readLink (x : Op.ReadLink)
  | symLink (x : Op.SymLink)
  | mkNod (x : Op.MkNod)
  | mkDir (x : Op.MkDir)
  | unlink (x : Op.Unlink)
  | rmDir (x : Op.RmDir)
  | rename (x : Op.Rename)
  | link (x : Op.Link)
  | «open» (x : Op.Open)
  | read (x : Op.Read)
  | write (x : Op.Write)
  | statFs (x : Op.StatFs)
  | release (x : Op.Release)
  | fSync (x : Op.FSync)
  | setXAttr (x : Op.SetXAttr)
  | getXAttr (x : Op.GetXAttr)
  | listXAttr (x : Op.ListXAttr)
  | removeXAttr (x : Op.RemoveXAttr)
  | flush (x : Op.Flush)
  | init (x : Op.Init)
  | openDir (x : Op.OpenDir)
  | readDir (x : Op.ReadDir)
  | releaseDir (x : Op.ReleaseDir)
  | fSyncDir (x : Op.FSyncDir)
  | getLk (x : Op.GetLk)
  | setLk (x : Op.SetLk)
  | access (x : Op.Access)
  | create (x : Op.Create)
  | interrupt (x : Op.Interrupt)
  | bMap (x : Op.BMap)
  | destroy (x : Op.Destroy)
  | ioCtl (x : Op.IoCtl)
  | poll (x : Op.Poll)
  | notifyReply (x : Op.NotifyReply)
  | batchForget (x : Op.BatchForget)
  | fAllocate (x : Op.FAllocate)
  | readDirPlus (x : Op.ReadDirPlus)
  | rename2 (x : Op.Rename2)
  | lseek (x : Op.Lseek)
  | copyFileRange (x : Op.CopyFileRange)
  | syncFs (x : Op.SyncFs)
  | tmpFile (x : Op.TmpFile)
  | cuseInit (x : Op.CuseInit)
  deriving DecidableEq

namespace Op.SetAttr

theorem timeOrNow_ok {ε : Type} (x : SetAttr) (flag nowFlag : UInt32) (secs : Int64)
    (nsecs : UInt32) : ∃ time, (x.timeOrNow flag nowFlag secs nsecs : Outcome ε _) = .ok time := by
  rw [timeOrNow, systemTimeFromTime_eq]
  split
  · split
    · exact ⟨_, rfl⟩
    · exact ⟨_, rfl⟩
  · exact ⟨_, rfl⟩

theorem ctime_ok {ε : Type} (x : SetAttr) : ∃ time, (x.ctime : Outcome ε _) = .ok time := by
  rw [ctime, systemTimeFromTime_eq]
  split
  · exact ⟨_, rfl⟩
  · exact ⟨_, rfl⟩

end Op.SetAttr

namespace Operation

/-- An IOCTL with less data than it says. -/
def shortIoctl : Operation → Bool
  | .ioCtl x => x.data.length < x.arg.inSize.toNat
  | _ => false

/-- `Display for Operation`, for whether it comes back: the accessors that it calls
and that could panic. An offset is printed as the result that its accessor returns,
and every other accessor reads a field. -/
def fmt {ε : Type} : Operation → Outcome ε Unit
  | .setAttr x => do
      let _ ← x.atime
      let _ ← x.mtime
      let _ ← x.ctime
  | .ioCtl x => do let _ ← x.inData
  | _ => return ()

/-- Every operation can be formatted but an IOCTL whose data is short. -/
theorem fmt_eq {ε : Type} (op : Operation) :
    (op.fmt : Outcome ε Unit) = if op.shortIoctl then .panic .sliceIndex else .ok () := by
  cases op with
  | setAttr x =>
      obtain ⟨atime, hatime⟩ : ∃ time, (x.atime : Outcome ε _) = .ok time := x.timeOrNow_ok ..
      obtain ⟨mtime, hmtime⟩ : ∃ time, (x.mtime : Outcome ε _) = .ok time := x.timeOrNow_ok ..
      obtain ⟨ctime, hctime⟩ := x.ctime_ok (ε := ε)
      rw [fmt, hatime, hmtime, hctime]
      rfl
  | ioCtl x =>
      rw [fmt, Op.IoCtl.inData]
      by_cases hdata : x.arg.inSize.toNat ≤ x.data.length
      · have hshort : (ioCtl x).shortIoctl = false := decide_eq_false (Nat.not_lt.mpr hdata)
        rw [if_pos hdata, hshort]
        rfl
      · have hshort : (ioCtl x).shortIoctl = true := decide_eq_true (Nat.not_le.mp hdata)
        rw [if_neg hdata, hshort]
        rfl
  | _ => rfl

end Operation

end Fuser
