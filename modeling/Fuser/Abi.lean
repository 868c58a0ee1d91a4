import Fuser.Foundation.Layout

/-!
The kernel interface: opcodes, and the structs of requests and replies in
declaration order, as `ll/fuse_abi.rs` has them when the target is not macOS.
Reply structs that no modelled function builds are left out.
-/

namespace Fuser

open Wire

def fuseKernelVersion : UInt32 := 7

def fuseKernelMinorVersion : UInt32 := 44

inductive FuseOpcode where
  | fuseLookup
  | fuseForget
  | fuseGetattr
  | fuseSetattr
  | fuseReadlink
  | fuseSymlink
  | fuseMknod
  | fuseMkdir
  | fuseUnlink
  | fuseRmdir
  | fuseRename
  | fuseLink
  | fuseOpen
  | fuseRead
  | fuseWrite
  | fuseStatfs
  | fuseRelease
  | fuseFsync
  | fuseSetxattr
  | fuseGetxattr
  | fuseListxattr
  | fuseRemovexattr
  | fuseFlush
  | fuseInit
  | fuseOpendir
  | fuseReaddir
  | fuseReleasedir
  | fuseFsyncdir
  | fuseGetlk
  | fuseSetlk
  | fuseSetlkw
  | fuseAccess
  | fuseCreate
  | fuseInterrupt
  | fuseBmap
  | fuseDestroy
  | fuseIoctl
  | fusePoll
  | fuseNotifyReply
  | fuseBatchForget
  | fuseFallocate
  | fuseReaddirplus
  | fuseRename2
  | fuseLseek
  | fuseCopyFileRange
  | fuseSyncfs
  | fuseTmpfile
  | fuseStatx
  | cuseInit
  deriving DecidableEq

namespace FuseOpcode

/-- The number the kernel sends for the opcode. -/
def code : FuseOpcode → UInt32
  | .fuseLookup => 1
  | .fuseForget => 2
  | .fuseGetattr => 3
  | .fuseSetattr => 4
  | .fuseReadlink => 5
  | .fuseSymlink => 6
  | .fuseMknod => 8
  | .fuseMkdir => 9
  | .fuseUnlink => 10
  | .fuseRmdir => 11
  | .fuseRename => 12
  | .fuseLink => 13
  | .fuseOpen => 14
  | .fuseRead => 15
  | .fuseWrite => 16
  | .fuseStatfs => 17
  | .fuseRelease => 18
  | .fuseFsync => 20
  | .fuseSetxattr => 21
  | .fuseGetxattr => 22
  | .fuseListxattr => 23
  | .fuseRemovexattr => 24
  | .fuseFlush => 25
  | .fuseInit => 26
  | .fuseOpendir => 27
  | .fuseReaddir => 28
  | .fuseReleasedir => 29
  | .fuseFsyncdir => 30
  | .fuseGetlk => 31
  | .fuseSetlk => 32
  | .fuseSetlkw => 33
  | .fuseAccess => 34
  | .fuseCreate => 35
  | .fuseInterrupt => 36
  | .fuseBmap => 37
  | .fuseDestroy => 38
  | .fuseIoctl => 39
  | .fusePoll => 40
  | .fuseNotifyReply => 41
  | .fuseBatchForget => 42
  | .fuseFallocate => 43
  | .fuseReaddirplus => 44
  | .fuseRename2 => 45
  | .fuseLseek => 46
  | .fuseCopyFileRange => 47
  | .fuseSyncfs => 50
  | .fuseTmpfile => 51
  | .fuseStatx => 52
  | .cuseInit => 4096

/-- The opcode of a number, as `TryFromPrimitive` derives it. -/
def tryFrom (number : UInt32) : Option FuseOpcode :=
  match number.toNat with
  | 1 => some .fuseLookup
  | 2 => some .fuseForget
  | 3 => some .fuseGetattr
  | 4 => some .fuseSetattr
  | 5 => some .fuseReadlink
  | 6 => some .fuseSymlink
  | 8 => some .fuseMknod
  | 9 => some .fuseMkdir
  | 10 => some .fuseUnlink
  | 11 => some .fuseRmdir
  | 12 => some .fuseRename
  | 13 => some .fuseLink
  | 14 => some .fuseOpen
  | 15 => some .fuseRead
  | 16 => some .fuseWrite
  | 17 => some .fuseStatfs
  | 18 => some .fuseRelease
  | 20 => some .fuseFsync
  | 21 => some .fuseSetxattr
  | 22 => some .fuseGetxattr
  | 23 => some .fuseListxattr
  | 24 => some .fuseRemovexattr
  | 25 => some .fuseFlush
  | 26 => some .fuseInit
  | 27 => some .fuseOpendir
  | 28 => some .fuseReaddir
  | 29 => some .fuseReleasedir
  | 30 => some .fuseFsyncdir
  | 31 => some .fuseGetlk
  | 32 => some .fuseSetlk
  | 33 => some .fuseSetlkw
  | 34 => some .fuseAccess
  | 35 => some .fuseCreate
  | 36 => some .fuseInterrupt
  | 37 => some .fuseBmap
  | 38 => some .fuseDestroy
  | 39 => some .fuseIoctl
  | 40 => some .fusePoll
  | 41 => some .fuseNotifyReply
  | 42 => some .fuseBatchForget
  | 43 => some .fuseFallocate
  | 44 => some .fuseReaddirplus
  | 45 => some .fuseRename2
  | 46 => some .fuseLseek
  | 47 => some .fuseCopyFileRange
  | 50 => some .fuseSyncfs
  | 51 => some .fuseTmpfile
  | 52 => some .fuseStatx
  | 4096 => some .cuseInit
  | _ => none

@[simp] theorem tryFrom_code (opcode : FuseOpcode) : tryFrom opcode.code = some opcode := by
  cases opcode <;> rfl

end FuseOpcode

structure FuseInHeader where
  len : UInt32
  opcode : UInt32
  unique : UInt64
  nodeid : UInt64
  uid : UInt32
  gid : UInt32
  pid : UInt32
  padding : UInt32
  deriving DecidableEq

def FuseInHeader.codec : Codec FuseInHeader :=
  (u32.prod <| u32.prod <| u64.prod <| u64.prod <| u32.prod <| u32.prod <| u32.prod u32).map
    (fun ⟨len, opcode, unique, nodeid, uid, gid, pid, padding⟩ =>
      (len, opcode, unique, nodeid, uid, gid, pid, padding))
    (fun (len, opcode, unique, nodeid, uid, gid, pid, padding) =>
      ⟨len, opcode, unique, nodeid, uid, gid, pid, padding⟩)
    (fun _ => rfl) (fun _ => rfl)

instance : ReprC FuseInHeader := ⟨FuseInHeader.codec, by decide⟩

structure FuseForgetIn where
  nlookup : UInt64
  deriving DecidableEq

def FuseForgetIn.codec : Codec FuseForgetIn :=
  u64.map FuseForgetIn.nlookup FuseForgetIn.mk (fun _ => rfl) (fun _ => rfl)

instance : ReprC FuseForgetIn := ⟨FuseForgetIn.codec, by decide⟩

structure FuseForgetOne where
  nodeid : UInt64
  nlookup : UInt64
  deriving DecidableEq

def FuseForgetOne.codec : Codec FuseForgetOne :=
  (u64.prod u64).map
    (fun ⟨nodeid, nlookup⟩ => (nodeid, nlookup))
    (fun (nodeid, nlookup) => ⟨nodeid, nlookup⟩)
    (fun _ => rfl) (fun _ => rfl)

instance : ReprC FuseForgetOne := ⟨FuseForgetOne.codec, by decide⟩

structure FuseBatchForgetIn where
  count : UInt32
  dummy : UInt32
  deriving DecidableEq

def FuseBatchForgetIn.codec : Codec FuseBatchForgetIn :=
  (u32.prod u32).map
    (fun ⟨count, dummy⟩ => (count, dummy))
    (fun (count, dummy) => ⟨count, dummy⟩)
    (fun _ => rfl) (fun _ => rfl)

instance : ReprC FuseBatchForgetIn := ⟨FuseBatchForgetIn.codec, by decide⟩

structure FuseGetattrIn where
  getattrFlags : UInt32
  dummy : UInt32
  fh : UInt64
  deriving DecidableEq

def FuseGetattrIn.codec : Codec FuseGetattrIn :=
  (u32.prod <| u32.prod u64).map
    (fun ⟨getattrFlags, dummy, fh⟩ => (getattrFlags, dummy, fh))
    (fun (getattrFlags, dummy, fh) => ⟨getattrFlags, dummy, fh⟩)
    (fun _ => rfl) (fun _ => rfl)

instance : ReprC FuseGetattrIn := ⟨FuseGetattrIn.codec, by decide⟩

structure FuseStatxIn where
  getattrFlags : UInt32
  reserved : UInt32
  fh : UInt64
  sxFlags : UInt32
  sxMask : UInt32
  deriving DecidableEq

def FuseStatxIn.codec : Codec FuseStatxIn :=
  (u32.prod <| u32.prod <| u64.prod <| u32.prod u32).map
    (fun ⟨getattrFlags, reserved, fh, sxFlags, sxMask⟩ =>
      (getattrFlags, reserved, fh, sxFlags, sxMask))
    (fun (getattrFlags, reserved, fh, sxFlags, sxMask) =>
      ⟨getattrFlags, reserved, fh, sxFlags, sxMask⟩)
    (fun _ => rfl) (fun _ => rfl)

instance : ReprC FuseStatxIn := ⟨FuseStatxIn.codec, by decide⟩

structure FuseMknodIn where
  mode : UInt32
  rdev : UInt32
  umask : UInt32
  padding : UInt32
  deriving DecidableEq

def FuseMknodIn.codec : Codec FuseMknodIn :=
  (u32.prod <| u32.prod <| u32.prod u32).map
    (fun ⟨mode, rdev, umask, padding⟩ => (mode, rdev, umask, padding))
    (fun (mode, rdev, umask, padding) => ⟨mode, rdev, umask, padding⟩)
    (fun _ => rfl) (fun _ => rfl)

instance : ReprC FuseMknodIn := ⟨FuseMknodIn.codec, by decide⟩

structure FuseMkdirIn where
  mode : UInt32
  umask : UInt32
  deriving DecidableEq

def FuseMkdirIn.codec : Codec FuseMkdirIn :=
  (u32.prod u32).map
    (fun ⟨mode, umask⟩ => (mode, umask))
    (fun (mode, umask) => ⟨mode, umask⟩)
    (fun _ => rfl) (fun _ => rfl)

instance : ReprC FuseMkdirIn := ⟨FuseMkdirIn.codec, by decide⟩

structure FuseRenameIn where
  newdir : UInt64
  deriving DecidableEq

def FuseRenameIn.codec : Codec FuseRenameIn :=
  u64.map FuseRenameIn.newdir FuseRenameIn.mk (fun _ => rfl) (fun _ => rfl)

instance : ReprC FuseRenameIn := ⟨FuseRenameIn.codec, by decide⟩

structure FuseRename2In where
  newdir : UInt64
  flags : UInt32
  padding : UInt32
  deriving DecidableEq

def FuseRename2In.codec : Codec FuseRename2In :=
  (u64.prod <| u32.prod u32).map
    (fun ⟨newdir, flags, padding⟩ => (newdir, flags, padding))
    (fun (newdir, flags, padding) => ⟨newdir, flags, padding⟩)
    (fun _ => rfl) (fun _ => rfl)

instance : ReprC FuseRename2In := ⟨FuseRename2In.codec, by decide⟩

structure FuseLinkIn where
  oldnodeid : UInt64
  deriving DecidableEq

def FuseLinkIn.codec : Codec FuseLinkIn :=
  u64.map FuseLinkIn.oldnodeid FuseLinkIn.mk (fun _ => rfl) (fun _ => rfl)

instance : ReprC FuseLinkIn := ⟨FuseLinkIn.codec, by decide⟩

structure FuseSetattrIn where
  valid : UInt32
  padding : UInt32
  fh : UInt64
  size : UInt64
  lockOwner : UInt64
  atime : Int64
  mtime : Int64
  ctime : Int64
  atimensec : UInt32
  mtimensec : UInt32
  ctimensec : UInt32
  mode : UInt32
  unused4 : UInt32
  uid : UInt32
  gid : UInt32
  unused5 : UInt32
  deriving DecidableEq

def FuseSetattrIn.codec : Codec FuseSetattrIn :=
  (u32.prod <| u32.prod <| u64.prod <| u64.prod <| u64.prod <| i64.prod <| i64.prod <| i64.prod <|
    u32.prod <| u32.prod <| u32.prod <| u32.prod <| u32.prod <| u32.prod <| u32.prod u32).map
    (fun ⟨valid, padding, fh, size, lockOwner, atime, mtime, ctime, atimensec, mtimensec,
      ctimensec, mode, unused4, uid, gid, unused5⟩ =>
      (valid, padding, fh, size, lockOwner, atime, mtime, ctime, atimensec, mtimensec, ctimensec,
        mode, unused4, uid, gid, unused5))
    (fun (valid, padding, fh, size, lockOwner, atime, mtime, ctime, atimensec, mtimensec,
      ctimensec, mode, unused4, uid, gid, unused5) =>
      ⟨valid, padding, fh, size, lockOwner, atime, mtime, ctime, atimensec, mtimensec, ctimensec,
        mode, unused4, uid, gid, unused5⟩)
    (fun _ => rfl) (fun _ => rfl)

instance : ReprC FuseSetattrIn := ⟨FuseSetattrIn.codec, by decide⟩

structure FuseOpenIn where
  flags : Int32
  openFlags : UInt32
  deriving DecidableEq

def FuseOpenIn.codec : Codec FuseOpenIn :=
  (i32.prod u32).map
    (fun ⟨flags, openFlags⟩ => (flags, openFlags))
    (fun (flags, openFlags) => ⟨flags, openFlags⟩)
    (fun _ => rfl) (fun _ => rfl)

instance : ReprC FuseOpenIn := ⟨FuseOpenIn.codec, by decide⟩

structure FuseCreateIn where
  flags : Int32
  mode : UInt32
  umask : UInt32
  openFlags : UInt32
  deriving DecidableEq

def FuseCreateIn.codec : Codec FuseCreateIn :=
  (i32.prod <| u32.prod <| u32.prod u32).map
    (fun ⟨flags, mode, umask, openFlags⟩ => (flags, mode, umask, openFlags))
    (fun (flags, mode, umask, openFlags) => ⟨flags, mode, umask, openFlags⟩)
    (fun _ => rfl) (fun _ => rfl)

instance : ReprC FuseCreateIn := ⟨FuseCreateIn.codec, by decide⟩

structure FuseReleaseIn where
  fh : UInt64
  flags : Int32
  releaseFlags : UInt32
  lockOwner : UInt64
  deriving DecidableEq

def FuseReleaseIn.codec : Codec FuseReleaseIn :=
  (u64.prod <| i32.prod <| u32.prod u64).map
    (fun ⟨fh, flags, releaseFlags, lockOwner⟩ => (fh, flags, releaseFlags, lockOwner))
    (fun (fh, flags, releaseFlags, lockOwner) => ⟨fh, flags, releaseFlags, lockOwner⟩)
    (fun _ => rfl) (fun _ => rfl)

instance : ReprC FuseReleaseIn := ⟨FuseReleaseIn.codec, by decide⟩

structure FuseFlushIn where
  fh : UInt64
  unused : UInt32
  padding : UInt32
  lockOwner : UInt64
  deriving DecidableEq

def FuseFlushIn.codec : Codec FuseFlushIn :=
  (u64.prod <| u32.prod <| u32.prod u64).map
    (fun ⟨fh, unused, padding, lockOwner⟩ => (fh, unused, padding, lockOwner))
    (fun (fh, unused, padding, lockOwner) => ⟨fh, unused, padding, lockOwner⟩)
    (fun _ => rfl) (fun _ => rfl)

instance : ReprC FuseFlushIn := ⟨FuseFlushIn.codec, by decide⟩

structure FuseReadIn where
  fh : UInt64
  offset : UInt64
  size : UInt32
  readFlags : UInt32
  lockOwner : UInt64
  flags : Int32
  padding : UInt32
  deriving DecidableEq

def FuseReadIn.codec : Codec FuseReadIn :=
  (u64.prod <| u64.prod <| u32.prod <| u32.prod <| u64.prod <| i32.prod u32).map
    (fun ⟨fh, offset, size, readFlags, lockOwner, flags, padding⟩ =>
      (fh, offset, size, readFlags, lockOwner, flags, padding))
    (fun (fh, offset, size, readFlags, lockOwner, flags, padding) =>
      ⟨fh, offset, size, readFlags, lockOwner, flags, padding⟩)
    (fun _ => rfl) (fun _ => rfl)

instance : ReprC FuseReadIn := ⟨FuseReadIn.codec, by decide⟩

structure FuseWriteIn where
  fh : UInt64
  offset : Int64
  size : UInt32
  writeFlags : UInt32
  lockOwner : UInt64
  flags : Int32
  padding : UInt32
  deriving DecidableEq

def FuseWriteIn.codec : Codec FuseWriteIn :=
  (u64.prod <| i64.prod <| u32.prod <| u32.prod <| u64.prod <| i32.prod u32).map
    (fun ⟨fh, offset, size, writeFlags, lockOwner, flags, padding⟩ =>
      (fh, offset, size, writeFlags, lockOwner, flags, padding))
    (fun (fh, offset, size, writeFlags, lockOwner, flags, padding) =>
      ⟨fh, offset, size, writeFlags, lockOwner, flags, padding⟩)
    (fun _ => rfl) (fun _ => rfl)

instance : ReprC FuseWriteIn := ⟨FuseWriteIn.codec, by decide⟩

structure FuseFsyncIn where
  fh : UInt64
  fsyncFlags : UInt32
  padding : UInt32
  deriving DecidableEq

def FuseFsyncIn.codec : Codec FuseFsyncIn :=
  (u64.prod <| u32.prod u32).map
    (fun ⟨fh, fsyncFlags, padding⟩ => (fh, fsyncFlags, padding))
    (fun (fh, fsyncFlags, padding) => ⟨fh, fsyncFlags, padding⟩)
    (fun _ => rfl) (fun _ => rfl)

instance : ReprC FuseFsyncIn := ⟨FuseFsyncIn.codec, by decide⟩

structure FuseSetxattrIn where
  size : UInt32
  flags : Int32
  deriving DecidableEq

def FuseSetxattrIn.codec : Codec FuseSetxattrIn :=
  (u32.prod i32).map
    (fun ⟨size, flags⟩ => (size, flags))
    (fun (size, flags) => ⟨size, flags⟩)
    (fun _ => rfl) (fun _ => rfl)

instance : ReprC FuseSetxattrIn := ⟨FuseSetxattrIn.codec, by decide⟩

structure FuseSetxattrInExt where
  setxattrFlags : UInt32
  padding : UInt32
  deriving DecidableEq

def FuseSetxattrInExt.codec : Codec FuseSetxattrInExt :=
  (u32.prod u32).map
    (fun ⟨setxattrFlags, padding⟩ => (setxattrFlags, padding))
    (fun (setxattrFlags, padding) => ⟨setxattrFlags, padding⟩)
    (fun _ => rfl) (fun _ => rfl)

instance : ReprC FuseSetxattrInExt := ⟨FuseSetxattrInExt.codec, by decide⟩

structure FuseGetxattrIn where
  size : UInt32
  padding : UInt32
  deriving DecidableEq

def FuseGetxattrIn.codec : Codec FuseGetxattrIn :=
  (u32.prod u32).map
    (fun ⟨size, padding⟩ => (size, padding))
    (fun (size, padding) => ⟨size, padding⟩)
    (fun _ => rfl) (fun _ => rfl)

instance : ReprC FuseGetxattrIn := ⟨FuseGetxattrIn.codec, by decide⟩

/-- `stop` is the field the kernel calls `end`. -/
structure FuseFileLock where
  start : UInt64
  stop : UInt64
  typ : Int32
  pid : UInt32
  deriving DecidableEq

def FuseFileLock.codec : Codec FuseFileLock :=
  (u64.prod <| u64.prod <| i32.prod u32).map
    (fun ⟨start, stop, typ, pid⟩ => (start, stop, typ, pid))
    (fun (start, stop, typ, pid) => ⟨start, stop, typ, pid⟩)
    (fun _ => rfl) (fun _ => rfl)

instance : ReprC FuseFileLock := ⟨FuseFileLock.codec, by decide⟩

structure FuseLkIn where
  fh : UInt64
  owner : UInt64
  lk : FuseFileLock
  lkFlags : UInt32
  padding : UInt32
  deriving DecidableEq

def FuseLkIn.codec : Codec FuseLkIn :=
  (u64.prod <| u64.prod <| FuseFileLock.codec.prod <| u32.prod u32).map
    (fun ⟨fh, owner, lk, lkFlags, padding⟩ => (fh, owner, lk, lkFlags, padding))
    (fun (fh, owner, lk, lkFlags, padding) => ⟨fh, owner, lk, lkFlags, padding⟩)
    (fun _ => rfl) (fun _ => rfl)

instance : ReprC FuseLkIn := ⟨FuseLkIn.codec, by decide⟩

structure FuseAccessIn where
  mask : Int32
  padding : UInt32
  deriving DecidableEq

def FuseAccessIn.codec : Codec FuseAccessIn :=
  (i32.prod u32).map
    (fun ⟨mask, padding⟩ => (mask, padding))
    (fun (mask, padding) => ⟨mask, padding⟩)
    (fun _ => rfl) (fun _ => rfl)

instance : ReprC FuseAccessIn := ⟨FuseAccessIn.codec, by decide⟩

structure FuseInitIn where
  major : UInt32
  minor : UInt32
  maxReadahead : UInt32
  flags : UInt32
  flags2 : UInt32
  unused : List.Vector UInt32 11
  deriving DecidableEq

def FuseInitIn.codec : Codec FuseInitIn :=
  (u32.prod <| u32.prod <| u32.prod <| u32.prod <| u32.prod (u32.vector 11)).map
    (fun ⟨major, minor, maxReadahead, flags, flags2, unused⟩ =>
      (major, minor, maxReadahead, flags, flags2, unused))
    (fun (major, minor, maxReadahead, flags, flags2, unused) =>
      ⟨major, minor, maxReadahead, flags, flags2, unused⟩)
    (fun _ => rfl) (fun _ => rfl)

instance : ReprC FuseInitIn := ⟨FuseInitIn.codec, by decide⟩

structure FuseInterruptIn where
  unique : UInt64
  deriving DecidableEq

def FuseInterruptIn.codec : Codec FuseInterruptIn :=
  u64.map FuseInterruptIn.unique FuseInterruptIn.mk (fun _ => rfl) (fun _ => rfl)

instance : ReprC FuseInterruptIn := ⟨FuseInterruptIn.codec, by decide⟩

structure FuseBmapIn where
  block : UInt64
  blocksize : UInt32
  padding : UInt32
  deriving DecidableEq

def FuseBmapIn.codec : Codec FuseBmapIn :=
  (u64.prod <| u32.prod u32).map
    (fun ⟨block, blocksize, padding⟩ => (block, blocksize, padding))
    (fun (block, blocksize, padding) => ⟨block, blocksize, padding⟩)
    (fun _ => rfl) (fun _ => rfl)

instance : ReprC FuseBmapIn := ⟨FuseBmapIn.codec, by decide⟩

structure FuseIoctlIn where
  fh : UInt64
  flags : UInt32
  cmd : UInt32
  arg : UInt64
  inSize : UInt32
  outSize : UInt32
  deriving DecidableEq

def FuseIoctlIn.codec : Codec FuseIoctlIn :=
  (u64.prod <| u32.prod <| u32.prod <| u64.prod <| u32.prod u32).map
    (fun ⟨fh, flags, cmd, arg, inSize, outSize⟩ => (fh, flags, cmd, arg, inSize, outSize))
    (fun (fh, flags, cmd, arg, inSize, outSize) => ⟨fh, flags, cmd, arg, inSize, outSize⟩)
    (fun _ => rfl) (fun _ => rfl)

instance : ReprC FuseIoctlIn := ⟨FuseIoctlIn.codec, by decide⟩

structure FusePollIn where
  fh : UInt64
  kh : UInt64
  flags : UInt32
  events : UInt32
  deriving DecidableEq

def FusePollIn.codec : Codec FusePollIn :=
  (u64.prod <| u64.prod <| u32.prod u32).map
    (fun ⟨fh, kh, flags, events⟩ => (fh, kh, flags, events))
    (fun (fh, kh, flags, events) => ⟨fh, kh, flags, events⟩)
    (fun _ => rfl) (fun _ => rfl)

instance : ReprC FusePollIn := ⟨FusePollIn.codec, by decide⟩

structure FuseFallocateIn where
  fh : UInt64
  offset : UInt64
  length : UInt64
  mode : Int32
  padding : UInt32
  deriving DecidableEq

def FuseFallocateIn.codec : Codec FuseFallocateIn :=
  (u64.prod <| u64.prod <| u64.prod <| i32.prod u32).map
    (fun ⟨fh, offset, length, mode, padding⟩ => (fh, offset, length, mode, padding))
    (fun (fh, offset, length, mode, padding) => ⟨fh, offset, length, mode, padding⟩)
    (fun _ => rfl) (fun _ => rfl)

instance : ReprC FuseFallocateIn := ⟨FuseFallocateIn.codec, by decide⟩

structure FuseLseekIn where
  fh : UInt64
  offset : Int64
  whence : Int32
  padding : UInt32
  deriving DecidableEq

def FuseLseekIn.codec : Codec FuseLseekIn :=
  (u64.prod <| i64.prod <| i32.prod u32).map
    (fun ⟨fh, offset, whence, padding⟩ => (fh, offset, whence, padding))
    (fun (fh, offset, whence, padding) => ⟨fh, offset, whence, padding⟩)
    (fun _ => rfl) (fun _ => rfl)

instance : ReprC FuseLseekIn := ⟨FuseLseekIn.codec, by decide⟩

structure FuseSyncfsIn where
  padding : UInt64
  deriving DecidableEq

def FuseSyncfsIn.codec : Codec FuseSyncfsIn :=
  u64.map FuseSyncfsIn.padding FuseSyncfsIn.mk (fun _ => rfl) (fun _ => rfl)

instance : ReprC FuseSyncfsIn := ⟨FuseSyncfsIn.codec, by decide⟩

structure FuseCopyFileRangeIn where
  fhIn : UInt64
  offIn : Int64
  nodeidOut : UInt64
  fhOut : UInt64
  offOut : Int64
  len : UInt64
  flags : UInt64
  deriving DecidableEq

def FuseCopyFileRangeIn.codec : Codec FuseCopyFileRangeIn :=
  (u64.prod <| i64.prod <| u64.prod <| u64.prod <| i64.prod <| u64.prod u64).map
    (fun ⟨fhIn, offIn, nodeidOut, fhOut, offOut, len, flags⟩ =>
      (fhIn, offIn, nodeidOut, fhOut, offOut, len, flags))
    (fun (fhIn, offIn, nodeidOut, fhOut, offOut, len, flags) =>
      ⟨fhIn, offIn, nodeidOut, fhOut, offOut, len, flags⟩)
    (fun _ => rfl) (fun _ => rfl)

instance : ReprC FuseCopyFileRangeIn := ⟨FuseCopyFileRangeIn.codec, by decide⟩

structure FuseOutHeader where
  len : UInt32
  error : Int32
  unique : UInt64
  deriving DecidableEq

def FuseOutHeader.codec : Codec FuseOutHeader :=
  (u32.prod <| i32.prod u64).map
    (fun ⟨len, error, unique⟩ => (len, error, unique))
    (fun (len, error, unique) => ⟨len, error, unique⟩)
    (fun _ => rfl) (fun _ => rfl)

instance : ReprC FuseOutHeader := ⟨FuseOutHeader.codec, by decide⟩

structure FuseInitOut where
  major : UInt32
  minor : UInt32
  maxReadahead : UInt32
  flags : UInt32
  maxBackground : UInt16
  congestionThreshold : UInt16
  maxWrite : UInt32
  timeGran : UInt32
  maxPages : UInt16
  unused2 : UInt16
  flags2 : UInt32
  maxStackDepth : UInt32
  reserved : List.Vector UInt32 6
  deriving DecidableEq

def FuseInitOut.codec : Codec FuseInitOut :=
  (u32.prod <| u32.prod <| u32.prod <| u32.prod <| u16.prod <| u16.prod <| u32.prod <| u32.prod <|
    u16.prod <| u16.prod <| u32.prod <| u32.prod (u32.vector 6)).map
    (fun ⟨major, minor, maxReadahead, flags, maxBackground, congestionThreshold, maxWrite,
      timeGran, maxPages, unused2, flags2, maxStackDepth, reserved⟩ =>
      (major, minor, maxReadahead, flags, maxBackground, congestionThreshold, maxWrite, timeGran,
        maxPages, unused2, flags2, maxStackDepth, reserved))
    (fun (major, minor, maxReadahead, flags, maxBackground, congestionThreshold, maxWrite,
      timeGran, maxPages, unused2, flags2, maxStackDepth, reserved) =>
      ⟨major, minor, maxReadahead, flags, maxBackground, congestionThreshold, maxWrite, timeGran,
        maxPages, unused2, flags2, maxStackDepth, reserved⟩)
    (fun _ => rfl) (fun _ => rfl)

instance : ReprC FuseInitOut := ⟨FuseInitOut.codec, by decide⟩

structure FuseAttr where
  ino : UInt64
  size : UInt64
  blocks : UInt64
  atime : Int64
  mtime : Int64
  ctime : Int64
  atimensec : UInt32
  mtimensec : UInt32
  ctimensec : UInt32
  mode : UInt32
  nlink : UInt32
  uid : UInt32
  gid : UInt32
  rdev : UInt32
  blksize : UInt32
  padding : UInt32
  deriving DecidableEq

def FuseAttr.codec : Codec FuseAttr :=
  (u64.prod <| u64.prod <| u64.prod <| i64.prod <| i64.prod <| i64.prod <| u32.prod <| u32.prod <|
    u32.prod <| u32.prod <| u32.prod <| u32.prod <| u32.prod <| u32.prod <| u32.prod u32).map
    (fun ⟨ino, size, blocks, atime, mtime, ctime, atimensec, mtimensec, ctimensec, mode, nlink,
      uid, gid, rdev, blksize, padding⟩ =>
      (ino, size, blocks, atime, mtime, ctime, atimensec, mtimensec, ctimensec, mode, nlink, uid,
        gid, rdev, blksize, padding))
    (fun (ino, size, blocks, atime, mtime, ctime, atimensec, mtimensec, ctimensec, mode, nlink,
      uid, gid, rdev, blksize, padding) =>
      ⟨ino, size, blocks, atime, mtime, ctime, atimensec, mtimensec, ctimensec, mode, nlink, uid,
        gid, rdev, blksize, padding⟩)
    (fun _ => rfl) (fun _ => rfl)

instance : ReprC FuseAttr := ⟨FuseAttr.codec, by decide⟩

structure FuseEntryOut where
  nodeid : UInt64
  generation : UInt64
  entryValid : UInt64
  attrValid : UInt64
  entryValidNsec : UInt32
  attrValidNsec : UInt32
  attr : FuseAttr
  deriving DecidableEq

def FuseEntryOut.codec : Codec FuseEntryOut :=
  (u64.prod <| u64.prod <| u64.prod <| u64.prod <| u32.prod <| u32.prod FuseAttr.codec).map
    (fun ⟨nodeid, generation, entryValid, attrValid, entryValidNsec, attrValidNsec, attr⟩ =>
      (nodeid, generation, entryValid, attrValid, entryValidNsec, attrValidNsec, attr))
    (fun (nodeid, generation, entryValid, attrValid, entryValidNsec, attrValidNsec, attr) =>
      ⟨nodeid, generation, entryValid, attrValid, entryValidNsec, attrValidNsec, attr⟩)
    (fun _ => rfl) (fun _ => rfl)

instance : ReprC FuseEntryOut := ⟨FuseEntryOut.codec, by decide⟩

structure FuseDirent where
  ino : UInt64
  off : UInt64
  namelen : UInt32
  typ : UInt32
  deriving DecidableEq

def FuseDirent.codec : Codec FuseDirent :=
  (u64.prod <| u64.prod <| u32.prod u32).map
    (fun ⟨ino, off, namelen, typ⟩ => (ino, off, namelen, typ))
    (fun (ino, off, namelen, typ) => ⟨ino, off, namelen, typ⟩)
    (fun _ => rfl) (fun _ => rfl)

instance : ReprC FuseDirent := ⟨FuseDirent.codec, by decide⟩

structure FuseDirentplus where
  entryOut : FuseEntryOut
  dirent : FuseDirent
  deriving DecidableEq

def FuseDirentplus.codec : Codec FuseDirentplus :=
  (FuseEntryOut.codec.prod FuseDirent.codec).map
    (fun ⟨entryOut, dirent⟩ => (entryOut, dirent))
    (fun (entryOut, dirent) => ⟨entryOut, dirent⟩)
    (fun _ => rfl) (fun _ => rfl)

instance : ReprC FuseDirentplus := ⟨FuseDirentplus.codec, by decide⟩

structure FuseAttrOut where
  attrValid : UInt64
  attrValidNsec : UInt32
  dummy : UInt32
  attr : FuseAttr
  deriving DecidableEq

def FuseAttrOut.codec : Codec FuseAttrOut :=
  (u64.prod <| u32.prod <| u32.prod FuseAttr.codec).map
    (fun ⟨attrValid, attrValidNsec, dummy, attr⟩ => (attrValid, attrValidNsec, dummy, attr))
    (fun (attrValid, attrValidNsec, dummy, attr) => ⟨attrValid, attrValidNsec, dummy, attr⟩)
    (fun _ => rfl) (fun _ => rfl)

instance : ReprC FuseAttrOut := ⟨FuseAttrOut.codec, by decide⟩

structure FuseSxTime where
  tvSec : Int64
  tvNsec : UInt32
  reserved : Int32
  deriving DecidableEq

def FuseSxTime.codec : Codec FuseSxTime :=
  (i64.prod <| u32.prod i32).map
    (fun ⟨tvSec, tvNsec, reserved⟩ => (tvSec, tvNsec, reserved))
    (fun (tvSec, tvNsec, reserved) => ⟨tvSec, tvNsec, reserved⟩)
    (fun _ => rfl) (fun _ => rfl)

instance : ReprC FuseSxTime := ⟨FuseSxTime.codec, by decide⟩

structure FuseStatx where
  mask : UInt32
  blksize : UInt32
  attributes : UInt64
  nlink : UInt32
  uid : UInt32
  gid : UInt32
  mode : UInt16
  spare0 : List.Vector UInt16 1
  ino : UInt64
  size : UInt64
  blocks : UInt64
  attributesMask : UInt64
  atime : FuseSxTime
  btime : FuseSxTime
  ctime : FuseSxTime
  mtime : FuseSxTime
  rdevMajor : UInt32
  rdevMinor : UInt32
  devMajor : UInt32
  devMinor : UInt32
  spare2 : List.Vector UInt64 14
  deriving DecidableEq

def FuseStatx.codec : Codec FuseStatx :=
  (u32.prod <| u32.prod <| u64.prod <| u32.prod <| u32.prod <| u32.prod <| u16.prod <|
    (u16.vector 1).prod <| u64.prod <| u64.prod <| u64.prod <| u64.prod <| FuseSxTime.codec.prod <|
    FuseSxTime.codec.prod <| FuseSxTime.codec.prod <| FuseSxTime.codec.prod <| u32.prod <|
    u32.prod <| u32.prod <| u32.prod (u64.vector 14)).map
    (fun ⟨mask, blksize, attributes, nlink, uid, gid, mode, spare0, ino, size, blocks,
      attributesMask, atime, btime, ctime, mtime, rdevMajor, rdevMinor, devMajor, devMinor,
      spare2⟩ =>
      (mask, blksize, attributes, nlink, uid, gid, mode, spare0, ino, size, blocks,
        attributesMask, atime, btime, ctime, mtime, rdevMajor, rdevMinor, devMajor, devMinor,
        spare2))
    (fun (mask, blksize, attributes, nlink, uid, gid, mode, spare0, ino, size, blocks,
      attributesMask, atime, btime, ctime, mtime, rdevMajor, rdevMinor, devMajor, devMinor,
      spare2) =>
      ⟨mask, blksize, attributes, nlink, uid, gid, mode, spare0, ino, size, blocks,
        attributesMask, atime, btime, ctime, mtime, rdevMajor, rdevMinor, devMajor, devMinor,
        spare2⟩)
    (fun _ => rfl) (fun _ => rfl)

instance : ReprC FuseStatx := ⟨FuseStatx.codec, by decide +kernel⟩

structure FuseStatxOut where
  attrValid : UInt64
  attrValidNsec : UInt32
  flags : UInt32
  spare : List.Vector UInt64 2
  stat : FuseStatx
  deriving DecidableEq

def FuseStatxOut.codec : Codec FuseStatxOut :=
  (u64.prod <| u32.prod <| u32.prod <| (u64.vector 2).prod FuseStatx.codec).map
    (fun ⟨attrValid, attrValidNsec, flags, spare, stat⟩ =>
      (attrValid, attrValidNsec, flags, spare, stat))
    (fun (attrValid, attrValidNsec, flags, spare, stat) =>
      ⟨attrValid, attrValidNsec, flags, spare, stat⟩)
    (fun _ => rfl) (fun _ => rfl)

instance : ReprC FuseStatxOut := ⟨FuseStatxOut.codec, by decide +kernel⟩

structure FuseOpenOut where
  fh : UInt64
  openFlags : UInt32
  backingId : UInt32
  deriving DecidableEq

def FuseOpenOut.codec : Codec FuseOpenOut :=
  (u64.prod <| u32.prod u32).map
    (fun ⟨fh, openFlags, backingId⟩ => (fh, openFlags, backingId))
    (fun (fh, openFlags, backingId) => ⟨fh, openFlags, backingId⟩)
    (fun _ => rfl) (fun _ => rfl)

instance : ReprC FuseOpenOut := ⟨FuseOpenOut.codec, by decide⟩

structure FuseCreateOut where
  entry : FuseEntryOut
  opened : FuseOpenOut
  deriving DecidableEq

def FuseCreateOut.codec : Codec FuseCreateOut :=
  (FuseEntryOut.codec.prod FuseOpenOut.codec).map
    (fun ⟨entry, opened⟩ => (entry, opened))
    (fun (entry, opened) => ⟨entry, opened⟩)
    (fun _ => rfl) (fun _ => rfl)

instance : ReprC FuseCreateOut := ⟨FuseCreateOut.codec, by decide⟩

structure FuseWriteOut where
  size : UInt32
  padding : UInt32
  deriving DecidableEq

def FuseWriteOut.codec : Codec FuseWriteOut :=
  (u32.prod u32).map
    (fun ⟨size, padding⟩ => (size, padding))
    (fun (size, padding) => ⟨size, padding⟩)
    (fun _ => rfl) (fun _ => rfl)

instance : ReprC FuseWriteOut := ⟨FuseWriteOut.codec, by decide⟩

structure FuseKstatfs where
  blocks : UInt64
  bfree : UInt64
  bavail : UInt64
  files : UInt64
  ffree : UInt64
  bsize : UInt32
  namelen : UInt32
  frsize : UInt32
  padding : UInt32
  spare : List.Vector UInt32 6
  deriving DecidableEq

def FuseKstatfs.codec : Codec FuseKstatfs :=
  (u64.prod <| u64.prod <| u64.prod <| u64.prod <| u64.prod <| u32.prod <| u32.prod <| u32.prod <|
    u32.prod (u32.vector 6)).map
    (fun ⟨blocks, bfree, bavail, files, ffree, bsize, namelen, frsize, padding, spare⟩ =>
      (blocks, bfree, bavail, files, ffree, bsize, namelen, frsize, padding, spare))
    (fun (blocks, bfree, bavail, files, ffree, bsize, namelen, frsize, padding, spare) =>
      ⟨blocks, bfree, bavail, files, ffree, bsize, namelen, frsize, padding, spare⟩)
    (fun _ => rfl) (fun _ => rfl)

instance : ReprC FuseKstatfs := ⟨FuseKstatfs.codec, by decide⟩

structure FuseStatfsOut where
  st : FuseKstatfs
  deriving DecidableEq

def FuseStatfsOut.codec : Codec FuseStatfsOut :=
  FuseKstatfs.codec.map
    (fun ⟨st⟩ => st)
    (fun st => ⟨st⟩)
    (fun _ => rfl) (fun _ => rfl)

instance : ReprC FuseStatfsOut := ⟨FuseStatfsOut.codec, by decide⟩

structure FuseGetxattrOut where
  size : UInt32
  padding : UInt32
  deriving DecidableEq

def FuseGetxattrOut.codec : Codec FuseGetxattrOut :=
  (u32.prod u32).map
    (fun ⟨size, padding⟩ => (size, padding))
    (fun (size, padding) => ⟨size, padding⟩)
    (fun _ => rfl) (fun _ => rfl)

instance : ReprC FuseGetxattrOut := ⟨FuseGetxattrOut.codec, by decide⟩

structure FuseLkOut where
  lk : FuseFileLock
  deriving DecidableEq

def FuseLkOut.codec : Codec FuseLkOut :=
  FuseFileLock.codec.map
    (fun ⟨lk⟩ => lk)
    (fun lk => ⟨lk⟩)
    (fun _ => rfl) (fun _ => rfl)

instance : ReprC FuseLkOut := ⟨FuseLkOut.codec, by decide⟩

structure FuseBmapOut where
  block : UInt64
  deriving DecidableEq

def FuseBmapOut.codec : Codec FuseBmapOut :=
  u64.map
    (fun ⟨block⟩ => block)
    (fun block => ⟨block⟩)
    (fun _ => rfl) (fun _ => rfl)

instance : ReprC FuseBmapOut := ⟨FuseBmapOut.codec, by decide⟩

structure FuseIoctlOut where
  result : Int32
  flags : UInt32
  inIovs : UInt32
  outIovs : UInt32
  deriving DecidableEq

def FuseIoctlOut.codec : Codec FuseIoctlOut :=
  (i32.prod <| u32.prod <| u32.prod u32).map
    (fun ⟨result, flags, inIovs, outIovs⟩ => (result, flags, inIovs, outIovs))
    (fun (result, flags, inIovs, outIovs) => ⟨result, flags, inIovs, outIovs⟩)
    (fun _ => rfl) (fun _ => rfl)

instance : ReprC FuseIoctlOut := ⟨FuseIoctlOut.codec, by decide⟩

structure FusePollOut where
  revents : UInt32
  padding : UInt32
  deriving DecidableEq

def FusePollOut.codec : Codec FusePollOut :=
  (u32.prod u32).map
    (fun ⟨revents, padding⟩ => (revents, padding))
    (fun (revents, padding) => ⟨revents, padding⟩)
    (fun _ => rfl) (fun _ => rfl)

instance : ReprC FusePollOut := ⟨FusePollOut.codec, by decide⟩

structure FuseLseekOut where
  offset : Int64
  deriving DecidableEq

def FuseLseekOut.codec : Codec FuseLseekOut :=
  i64.map
    (fun ⟨offset⟩ => offset)
    (fun offset => ⟨offset⟩)
    (fun _ => rfl) (fun _ => rfl)

instance : ReprC FuseLseekOut := ⟨FuseLseekOut.codec, by decide⟩

end Fuser
