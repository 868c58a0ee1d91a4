import Fuser.Adapter
import Fuser.Foundation.Moves
import Fuser.Listing
import Fuser.MountOptions

/-!
The filesystem of the simple example. It keeps the metadata of an inode in one file of the
host and its contents in another; a directory has its entries, serialised, for contents. The
links of an inode and the handles that are open on it are counted in its metadata, and
whoever takes away the last of them removes both files.

The host is given by what it answers while a request is served. Its files always can be
written and read back.
-/

/-- `Std.ExtTreeMap` has the operations of `BTreeMap`, in the order of the keys. -/
abbrev Rust.BTreeMap (κ ν : Type) [Ord κ] : Type := Std.ExtTreeMap κ ν

namespace Fuser

open Rust Wire

/-! ### Errors -/

namespace Errno

def ebadf : Errno := ⟨9, by decide⟩

def eexist : Errno := ⟨17, by decide⟩

def enotdir : Errno := ⟨20, by decide⟩

def enotty : Errno := ⟨25, by decide⟩

def efbig : Errno := ⟨27, by decide⟩

def enospc : Errno := ⟨28, by decide⟩

def erange : Errno := ⟨34, by decide⟩

def enametoolong : Errno := ⟨36, by decide⟩

def enotempty : Errno := ⟨39, by decide⟩

def enodata : Errno := ⟨61, by decide⟩

/-- On Linux this is the number of `ENOTSUP`. -/
def eopnotsupp : Errno := enotsup

end Errno

def INodeNo.root : INodeNo := ⟨1⟩

inductive OpenAccMode where
  | rdonly
  | wronly
  | rdwr

/-- A combination of flags that there is not counts as reading. -/
def OpenFlags.accMode (self : OpenFlags) : OpenAccMode :=
  let mode := self.raw &&& 3
  if mode = 0 then .rdonly else if mode = 1 then .wronly else if mode = 2 then .rdwr else .rdonly

namespace Simple

def blockSize : UInt32 := 512

def fsImmutableFl : UInt32 := 0x00000010

def fsAppendFl : UInt32 := 0x00000020

def fsNoatimeFl : UInt32 := 0x00000080

def fsSecrmFl : UInt32 := 0x00000001

def fsUnrmFl : UInt32 := 0x00000002

def fsSyncFl : UInt32 := 0x00000008

def fsNodumpFl : UInt32 := 0x00000040

def fsDirsyncFl : UInt32 := 0x00010000

def fsTopdirFl : UInt32 := 0x00020000

def maxNameLength : UInt32 := 255

def maxFileSize : UInt64 := 1024 * 1024 * 1024 * 1024

/-- The top two bits of a file handle say what it was opened for. -/
def fileHandleReadBit : UInt64 := 0x8000000000000000

def fileHandleWriteBit : UInt64 := 0x4000000000000000

def supportedFsFlags : UInt32 :=
  fsSecrmFl ||| fsUnrmFl ||| fsSyncFl ||| fsImmutableFl ||| fsAppendFl ||| fsNodumpFl |||
    fsNoatimeFl ||| fsDirsyncFl ||| fsTopdirFl

def fsXflagImmutable : UInt32 := 0x00000008

def fsXflagAppend : UInt32 := 0x00000010

def fsXflagSync : UInt32 := 0x00000020

def fsXflagNoatime : UInt32 := 0x00000040

def fsXflagNodump : UInt32 := 0x00000080

def fsxattrSize : Nat := 28

def fsIocGetflags : UInt32 := 0x80086601

def fsIocSetflags : UInt32 := 0x40086602

def fsIocFsgetxattr : UInt32 := 0x801c581f

def fsIocFssetxattr : UInt32 := 0x401c5820

/-- The flags that are honored, in both encodings. -/
def flagToXflag : List (UInt32 × UInt32) :=
  [(fsImmutableFl, fsXflagImmutable), (fsAppendFl, fsXflagAppend), (fsSyncFl, fsXflagSync),
    (fsNoatimeFl, fsXflagNoatime), (fsNodumpFl, fsXflagNodump)]

def xflagsFromFlags (flags : UInt32) : UInt32 :=
  (flagToXflag.filter fun (flag, _) => flags &&& flag ≠ 0).foldl
    (fun xflags (_, xflag) => xflags ||| xflag) 0

def flagsFromXflags (xflags : UInt32) : Option UInt32 :=
  let known := flagToXflag.foldl (fun known (_, xflag) => known ||| xflag) 0
  if xflags &&& ~~~known = 0 then
    some ((flagToXflag.filter fun (_, xflag) => xflags &&& xflag ≠ 0).foldl
      (fun flags (flag, _) => flags ||| flag) 0)
  else none

def fmodeExec : Int32 := 0x20

/-! ### Constants of the host -/

def sIsuid : UInt32 := 0o4000

def sIsgid : UInt32 := 0o2000

def sIsvtx : UInt32 := 0o1000

def sIxgrp : UInt32 := 0o0010

def sIfmt : UInt32 := 0o170000

def rOk : Int32 := 4

def wOk : Int32 := 2

def xOk : Int32 := 1

def oAccmode : Int32 := 3

def oTrunc : Int32 := 0o1000

def oAppend : Int32 := 0o2000

def oNoatime : Int32 := 0o1000000

def fallocFlKeepSize : Int32 := 0x01

def fallocFlPunchHole : Int32 := 0x02

def fallocFlCollapseRange : Int32 := 0x08

def renameNoreplace : UInt32 := 0x1

def renameExchange : UInt32 := 0x2

def fuseWriteKillSuidgid : UInt32 := 0x4

/-! ### Inodes -/

inductive FileKind where
  | file
  | directory
  | symlink
  | charDevice
  | blockDevice
  | namedPipe
  | socket
  deriving DecidableEq

def FileKind.fileType : FileKind → FileType
  | .file => .regularFile
  | .directory => .directory
  | .symlink => .symlink
  | .charDevice => .charDevice
  | .blockDevice => .blockDevice
  | .namedPipe => .namedPipe
  | .socket => .socket

/-- The type of a file among the bits of its mode. -/
def asFileKind {ε : Type} (mode : UInt32) : Outcome ε FileKind :=
  let mode := mode &&& sIfmt
  if mode = 0o100000 then .ok .file
  else if mode = 0o120000 then .ok .symlink
  else if mode = 0o040000 then .ok .directory
  else if mode = 0o020000 then .ok .charDevice
  else if mode = 0o060000 then .ok .blockDevice
  else if mode = 0o010000 then .ok .namedPipe
  else if mode = 0o140000 then .ok .socket
  else .panic (.explicit "not implemented")

abbrev DirectoryDescriptor : Type := BTreeMap OsStr (UInt64 × FileKind)

/-- Seconds and nanoseconds, as they are stored. -/
abbrev Timestamp : Type := Int64 × UInt32

def Timestamp.le (t t' : Timestamp) : Bool := t.1 < t'.1 || t.1 == t'.1 && t.2 ≤ t'.2

structure InodeAttributes where
  inode : UInt64
  openFileHandles : UInt64
  size : UInt64
  lastAccessed : Timestamp
  lastModified : Timestamp
  lastMetadataChanged : Timestamp
  created : Timestamp
  kind : FileKind
  mode : UInt16
  hardlinks : UInt32
  uid : UInt32
  gid : UInt32
  rdev : UInt32
  flags : UInt32
  xattrs : BTreeMap OsStr (List UInt8)

namespace InodeAttributes

variable (self : InodeAttributes)

def isImmutable : Bool := self.flags &&& fsImmutableFl ≠ 0

def isAppendOnly : Bool := self.flags &&& fsAppendFl ≠ 0

def isNoatime : Bool := self.flags &&& fsNoatimeFl ≠ 0

end InodeAttributes

/-- What a file under `contents` holds. -/
inductive Content where
  | bytes (bytes : List UInt8)
  | descriptor (entries : DirectoryDescriptor)

/-- The files of the data directory. -/
structure Disk where
  superblock : Option UInt64
  inodes : UInt64 → Option InodeAttributes
  contents : UInt64 → Option Content

def Disk.putInode (self : Disk) (attrs : InodeAttributes) : Disk :=
  { self with inodes := Function.update self.inodes attrs.inode (some attrs) }

def Disk.putContent (self : Disk) (inode : UInt64) (content : Content) : Disk :=
  { self with contents := Function.update self.contents inode (some content) }

/-- `ticks` counts the readings of the clock. -/
structure SimpleFS where
  disk : Disk
  nextFileHandle : UInt64
  directIo : Bool
  suidSupport : Bool
  killprivNegotiated : Bool
  idmapped : Bool
  ticks : Nat

abbrev Op : Type → Type := Method SimpleFS Errno

structure Statvfs where
  fragmentSize : UInt64
  blocks : UInt64
  blocksFree : UInt64
  blocksAvailable : UInt64
  files : UInt64
  filesFree : UInt64

/-- The host while a request is served: the clock, what `/proc` says of a process, how many
blocks a file takes up, the state of the file system, what `fallocate64` does to a file, and
how a descriptor reads as bytes and bytes as a descriptor. -/
structure Host where
  clock : Nat → SystemTime
  groups : UInt32 → Option (List UInt32)
  capEff : UInt32 → Option UInt64
  blocks : UInt64 → Option UInt64
  statvfs : Except Errno Statvfs
  fallocate64 : Int32 → UInt64 → UInt64 → List UInt8 → Except Errno (List UInt8)
  encode : DirectoryDescriptor → List UInt8
  decode : List UInt8 → Option DirectoryDescriptor

/-! ### Time -/

def timeFromSystemTime {ε : Type} (systemTime : SystemTime) : Outcome ε Timestamp :=
  match systemTime.durationSinceEpoch with
  | .ok duration => .ok (duration.secs.toInt64, duration.nanos)
  | .error d =>
      if d.nanos = 0 then do
        let secs ← Checked.neg64 d.secs.toInt64
        return (secs, 0)
      else do
        let whole ← Checked.neg64 d.secs.toInt64
        let secs ← Checked.sub64 whole 1
        let nanos ← Checked.subU32 1000000000 d.nanos
        return (secs, nanos)

def systemTimeFromTime {ε : Type} (time : Timestamp) : Outcome ε SystemTime :=
  let (secs, nsecs) := time
  if 0 ≤ secs then Duration.new secs.toUInt64 nsecs >>= SystemTime.unixEpoch.add
  else if nsecs = 0 then
    Duration.new (UInt64.ofNat secs.toInt.natAbs) 0 >>= SystemTime.unixEpoch.sub
  else do
    let whole ← Checked.subU64 (UInt64.ofNat secs.toInt.natAbs) 1
    let part ← Checked.subU32 1000000000 nsecs
    Duration.new whole part >>= SystemTime.unixEpoch.sub

def timeNow (host : Host) : Op Timestamp := fun s =>
  (timeFromSystemTime (host.clock s.ticks), { s with ticks := s.ticks + 1 })

/-! ### Who may do what -/

/-- The complement of access flags, among those that there are. -/
def accessNot (mask : Int32) : Int32 := ~~~mask &&& (rOk ||| wOk ||| xOk)

def checkAccess (fileUid fileGid : UInt32) (fileMode : UInt16) (uid gid : UInt32)
    (accessMask : Int32) : Bool :=
  if accessMask = 0 then true
  else
    let fileMode := fileMode.toUInt32.toInt32
    if uid = 0 then
      let mask := accessMask &&& xOk
      let mask := mask &&& accessNot (mask &&& (fileMode >>> 6))
      let mask := mask &&& accessNot (mask &&& (fileMode >>> 3))
      let mask := mask &&& accessNot (mask &&& fileMode)
      mask == 0
    else if uid = fileUid then accessMask &&& accessNot (accessMask &&& (fileMode >>> 6)) == 0
    else if gid = fileGid then accessMask &&& accessNot (accessMask &&& (fileMode >>> 3)) == 0
    else accessMask &&& accessNot (accessMask &&& fileMode) == 0

/-- An unknown caller has been checked by the kernel. -/
def mayAccess (req : Request) (attrs : InodeAttributes) (mask : Int32) : Bool :=
  match req.uid, req.gid with
  | some uid, some gid => checkAccess attrs.uid attrs.gid attrs.mode uid gid mask
  | _, _ => true

def callerIsRoot (req : Request) : Bool := req.uid.all fun uid => uid == 0

def callerOwns (req : Request) (uid : UInt32) : Bool := req.uid.all fun caller => caller == uid

def callerKeepsPrivileges (req : Request) : Bool := req.uid.any fun uid => uid == 0

/-- Of a process that has gone there is no file to open. -/
def getGroups (host : Host) (pid : UInt32) : Op (List UInt32) :=
  match host.groups pid with
  | some groups => return groups
  | none => .abort (.expect "called Result::unwrap() on an Err value")

def callerOutsideGroup (host : Host) (req : Request) (gid : UInt32) : Op Bool :=
  match req.gid with
  | none => return true
  | some caller =>
      if caller ≠ gid then do
        let groups ← getGroups host req.pid
        return !groups.contains gid
      else return false

def hasFsetid (host : Host) (pid : UInt32) (uid : Option UInt32) : Bool :=
  match host.capEff pid with
  | some caps => caps &&& ((1 : UInt64) <<< 4) ≠ 0
  | none => uid.any fun uid => uid == 0

inductive Privilege where
  | knownLacking
  | unknown

def Privilege.lacksFsetid (host : Host) (req : Request) : Privilege → Bool
  | .knownLacking => true
  | .unknown => !hasFsetid host req.pid req.uid

def clearSuidSgid (host : Host) (attr : InodeAttributes) (req : Request) (privilege : Privilege) :
    Op InodeAttributes := do
  let mode := attr.mode &&& ~~~sIsuid.toUInt16
  let sgidExec := mode &&& (sIsgid ||| sIxgrp).toUInt16 == (sIsgid ||| sIxgrp).toUInt16
  let outsideGroup ←
    if privilege.lacksFsetid host req then callerOutsideGroup host req attr.gid else pure false
  return { attr with
    mode := if sgidExec || outsideGroup then mode &&& ~~~sIsgid.toUInt16 else mode }

def clearFileCapabilities (attr : InodeAttributes) : InodeAttributes :=
  { attr with xattrs := attr.xattrs.erase (utf8 "security.capability") }

def clearPrivilegesUnprompted (host : Host) (attr : InodeAttributes) (req : Request) :
    Op InodeAttributes := do
  let attr ←
    if hasFsetid host req.pid req.uid then pure attr
    else clearSuidSgid host attr req .knownLacking
  return clearFileCapabilities attr

def creationGid (parent : InodeAttributes) (gid : UInt32) : UInt32 :=
  if parent.mode &&& sIsgid.toUInt16 ≠ 0 then parent.gid else gid

/-- The sticky bit of a directory refuses who owns neither it nor the entry. -/
def stickyRefuses (req : Request) (parentAttrs attrs : InodeAttributes) : Bool :=
  parentAttrs.mode &&& sIsvtx.toUInt16 ≠ 0 && !callerIsRoot req &&
    !callerOwns req parentAttrs.uid && !callerOwns req attrs.uid

def checkWritable (attrs : InodeAttributes) : Op Unit := .failIf attrs.isImmutable .eperm

def checkRemovable (attrs : InodeAttributes) : Op Unit :=
  .failIf (attrs.isImmutable || attrs.isAppendOnly) .eperm

inductive XattrNamespace where
  | security
  | system
  | trusted
  | user

def parseXattrNamespace (key : OsStr) : Except Errno XattrNamespace :=
  let user := utf8 "user."
  let system := utf8 "system."
  let trusted := utf8 "trusted."
  let security := utf8 "security"
  if key.length < user.length then .error .enotsup
  else if key.take user.length = user then .ok .user
  else if key.length < system.length then .error .enotsup
  else if key.take system.length = system then .ok .system
  else if key.length < trusted.length then .error .enotsup
  else if key.take trusted.length = trusted then .ok .trusted
  else if key.length < security.length then .error .enotsup
  else if key.take security.length = security then .ok .security
  else .error .enotsup

def xattrAccessCheck (key : OsStr) (accessMask : Int32) (inodeAttrs : InodeAttributes)
    (request : Request) : Op Unit := do
  if accessMask ≠ rOk then checkRemovable inodeAttrs
  match parseXattrNamespace key with
  | .error e => .fail e
  | .ok .security => .failIf (accessMask ≠ rOk ∧ !callerIsRoot request) .eperm
  | .ok .trusted => .failIf (!callerIsRoot request) .eperm
  | .ok .system =>
      if key = utf8 "system.posix_acl_access" then
        .failIf (!mayAccess request inodeAttrs accessMask) .eperm
      else .failIf (!callerIsRoot request) .eperm
  | .ok .user => .failIf (!mayAccess request inodeAttrs accessMask) .eperm

/-! ### Storage -/

namespace SimpleFS

def new (disk : Disk) (directIo suidSupport idmap : Bool) : SimpleFS where
  disk
  nextFileHandle := 1
  directIo
  suidSupport
  killprivNegotiated := false
  idmapped := idmap
  ticks := 0

end SimpleFS

def creationMode (mode : UInt32) : Op UInt16 := fun s =>
  (.ok (if s.suidSupport then mode.toUInt16 else (mode &&& ~~~(sIsuid ||| sIsgid)).toUInt16), s)

/-- The last number that was given out. Without a superblock it is that of the root. -/
def readSuperblock : Op UInt64 := fun s => (.ok (s.disk.superblock.getD 1), s)

def writeSuperblock (currentInode : UInt64) : Op INodeNo := fun s =>
  if currentInode.toNat + 1 < 2 ^ 64 then
    (.ok ⟨currentInode + 1⟩,
      { s with disk := { s.disk with superblock := some (currentInode + 1) } })
  else (.panic (.explicit "attempt to add with overflow"), s)

/-- The number after the last one that was given out. -/
def allocateNextInode : Op INodeNo := do
  let currentInode ← readSuperblock
  writeSuperblock currentInode

def allocateNextFileHandle (read write : Bool) : Op FileHandle := fun s =>
  let fh := s.nextFileHandle
  let s := { s with nextFileHandle := s.nextFileHandle + 1 }
  if fh < min fileHandleReadBit fileHandleWriteBit then
    let fh := if read then fh ||| fileHandleReadBit else fh
    let fh := if write then fh ||| fileHandleWriteBit else fh
    (.ok ⟨fh⟩, s)
  else (.panic .assertion, s)

def checkFileHandleRead (fileHandle : FileHandle) : Bool := fileHandle.raw &&& fileHandleReadBit ≠ 0

def checkFileHandleWrite (fileHandle : FileHandle) : Bool :=
  fileHandle.raw &&& fileHandleWriteBit ≠ 0

/-- The bytes of a file under `contents`. -/
def Content.read (host : Host) : Content → List UInt8
  | .bytes data => data
  | .descriptor entries => host.encode entries

/-- `ENOENT` is for every failure to open the file. -/
def openContent (inode : INodeNo) (missing : Errno) : Op Content := fun s =>
  match s.disk.contents inode.raw with
  | some content => (.ok content, s)
  | none => (.err missing, s)

def putContent (inode : INodeNo) (content : Content) : Op Unit := fun s =>
  (.ok (), { s with disk := s.disk.putContent inode.raw content })

def getDirectoryContent (host : Host) (inode : INodeNo) : Op DirectoryDescriptor := do
  match ← openContent inode .enoent with
  | .descriptor entries => return entries
  | .bytes data =>
      match host.decode data with
      | some entries => return entries
      | none => .abort (.expect "called Result::unwrap() on an Err value")

def writeDirectoryContent (inode : INodeNo) (entries : DirectoryDescriptor) : Op Unit :=
  putContent inode (.descriptor entries)

def getInode (inode : INodeNo) : Op InodeAttributes := fun s =>
  match s.disk.inodes inode.raw with
  | some attrs => (.ok attrs, s)
  | none => (.err .enoent, s)

def writeInode (inode : InodeAttributes) : Op Unit := fun s =>
  (.ok (), { s with disk := s.disk.putInode inode })

/-- The access time moves if nobody has read the inode since it last changed, or for a day. -/
def touchAtime (host : Host) (attrs : InodeAttributes) : Op Unit := do
  if attrs.isNoatime then return ()
  else
    let now ← timeNow host
    let aDayAgo ← .ofOutcome (Checked.sub64 now.1 (24 * 60 * 60))
    if attrs.lastAccessed.le attrs.lastModified ||
        attrs.lastAccessed.le attrs.lastMetadataChanged || attrs.lastAccessed.1 < aDayAgo then
      writeInode { attrs with lastAccessed := now }

/-- `remove_file`, of a file that has to be there. -/
def removeInodeFile (inode : UInt64) : Op Unit := fun s =>
  match s.disk.inodes inode with
  | some _ =>
      (.ok (),
        { s with disk := { s.disk with inodes := Function.update s.disk.inodes inode none } })
  | none => (.panic (.expect "called Result::unwrap() on an Err value"), s)

def removeContentFile (inode : UInt64) : Op Unit := fun s =>
  match s.disk.contents inode with
  | some _ =>
      (.ok (),
        { s with disk := { s.disk with contents := Function.update s.disk.contents inode none } })
  | none => (.panic (.expect "called Result::unwrap() on an Err value"), s)

def gcInode (inode : InodeAttributes) : Op Bool := do
  if inode.hardlinks = 0 ∧ inode.openFileHandles = 0 then
    removeInodeFile inode.inode
    removeContentFile inode.inode
    return true
  else return false

def closeHandle (attrs : InodeAttributes) : Op Unit := do
  let attrs := { attrs with openFileHandles :=
    if attrs.openFileHandles = 0 then 0 else attrs.openFileHandles - 1 }
  writeInode attrs
  let _ ← gcInode attrs

/-- `set_len`: what is missing reads as zeros. -/
def setLen (bytes : List UInt8) (length : Nat) : List UInt8 :=
  bytes.take length ++ List.replicate (length - bytes.length) 0

/-- `write_all` after `seek`, which leaves a file as it is if there is nothing to write. -/
def writeAt (bytes : List UInt8) (offset : Nat) (data : List UInt8) : List UInt8 :=
  if data = [] then bytes
  else setLen (bytes.take offset) offset ++ data ++ bytes.drop (offset + data.length)

/-- `read_exact_at`. -/
def readAt (bytes : List UInt8) (offset size : Nat) : List UInt8 := (bytes.drop offset).take size

def truncate (host : Host) (req : Request) (inode : INodeNo) (newLength : UInt64)
    (killSuidGid enforceAccess : Bool) : Op InodeAttributes := do
  .failIf (newLength > maxFileSize) .efbig
  let attrs ← getInode inode
  .failIf (attrs.isImmutable || attrs.isAppendOnly) .eperm
  .failIf (enforceAccess && !mayAccess req attrs wOk) .eacces
  let content ← .unwrap (openContent inode .enoent)
  putContent inode (.bytes (setLen (content.read host) newLength.toNat))
  let now ← timeNow host
  let attrs := { attrs with size := newLength, lastMetadataChanged := now, lastModified := now }
  let attrs ← if killSuidGid then clearSuidSgid host attrs req .knownLacking else pure attrs
  let attrs := clearFileCapabilities attrs
  writeInode attrs
  return attrs

def lookupName (host : Host) (parent : INodeNo) (name : OsStr) : Op InodeAttributes := do
  let entries ← getDirectoryContent host parent
  match entries[name]? with
  | some (inode, _) => getInode ⟨inode⟩
  | none => .fail .enoent

/-- `self.lookup_name(parent, name).is_ok()`. -/
def nameTaken (host : Host) (parent : INodeNo) (name : OsStr) : Op Bool := do
  match ← Method.attempt (lookupName host parent name) with
  | .ok _ => return true
  | .error _ => return false

def refuseTaken (host : Host) (parent : INodeNo) (name : OsStr) : Op Unit := do
  let taken ← nameTaken host parent name
  .failIf taken .eexist

/-- What a change of its entries does to the times of a directory. -/
def InodeAttributes.changedAt (self : InodeAttributes) (now : Timestamp) : InodeAttributes :=
  { self with lastModified := now, lastMetadataChanged := now }

def insertEntry (host : Host) (parent : INodeNo) (name : OsStr) (entry : UInt64 × FileKind) :
    Op Unit := do
  let entries ← .unwrap (getDirectoryContent host parent)
  writeDirectoryContent parent (entries.insert name entry)

def removeEntry (host : Host) (parent : INodeNo) (name : OsStr) : Op Unit := do
  let entries ← .unwrap (getDirectoryContent host parent)
  writeDirectoryContent parent (entries.erase name)

def insertLink (host : Host) (req : Request) (parent : INodeNo) (name : OsStr) (inode : INodeNo)
    (kind : FileKind) : Op Unit := do
  refuseTaken host parent name
  let parentAttrs ← getInode parent
  checkWritable parentAttrs
  .failIf (!mayAccess req parentAttrs wOk) .eacces
  let now ← timeNow host
  writeInode (parentAttrs.changedAt now)
  insertEntry host parent name (inode.raw, kind)

/-- Attributes as the kernel sees them, with the blocks that the contents take up. -/
def fileAttr (host : Host) (attrs : InodeAttributes) : Op FileAttr := do
  let fallback := UInt64.ofNat ((attrs.size.toNat + (blockSize.toNat - 1)) / blockSize.toNat)
  let blocks := (host.blocks attrs.inode).getD fallback
  let atime ← .ofOutcome (systemTimeFromTime attrs.lastAccessed)
  let mtime ← .ofOutcome (systemTimeFromTime attrs.lastModified)
  let ctime ← .ofOutcome (systemTimeFromTime attrs.lastMetadataChanged)
  let _ ← .ofOutcome (systemTimeFromTime attrs.created)
  return {
    ino := ⟨attrs.inode⟩
    size := attrs.size
    blocks
    atime
    mtime
    ctime
    kind := attrs.kind.fileType
    perm := attrs.mode
    nlink := attrs.hardlinks
    uid := attrs.uid
    gid := attrs.gid
    rdev := attrs.rdev
    blksize := blockSize }

/-- A time to live of nothing: the kernel asks again. -/
def noTtl : Duration := ⟨0, 0, zero_lt_nanosPerSec⟩

def replyEntry (host : Host) (attrs : InodeAttributes) : Op (ReplyCall .entry) := do
  let attr ← fileAttr host attrs
  return .entry noTtl attr ⟨0⟩

def replyAttr (host : Host) (attrs : InodeAttributes) : Op (ReplyCall .attr) := do
  let attr ← fileAttr host attrs
  return .attr noTtl attr

/-- The attributes of an inode that is made at `now`. -/
def newInode (inode : INodeNo) (now : Timestamp) (kind : FileKind) (mode : UInt16)
    (hardlinks : UInt32) (openFileHandles size : UInt64) (uid gid rdev : UInt32) :
    InodeAttributes where
  inode := inode.raw
  openFileHandles
  size
  lastAccessed := now
  lastModified := now
  lastMetadataChanged := now
  created := now
  kind
  mode
  hardlinks
  uid
  gid
  rdev
  flags := 0
  xattrs := ∅

/-- `.` and `..`. -/
def dot : OsStr := [0x2e]

def dotdot : OsStr := [0x2e, 0x2e]

def newDirectory (inode parent : INodeNo) : DirectoryDescriptor :=
  ((∅ : DirectoryDescriptor).insert dot (inode.raw, .directory)).insert dotdot
    (parent.raw, .directory)

/-! ### The methods -/

def lookup (host : Host) (req : Request) (parent : INodeNo) (name : OsStr) :
    Op (ReplyCall .entry) := do
  .failIf (name.length > maxNameLength.toNat) .enametoolong
  let parentAttrs ← getInode parent
  .failIf (!mayAccess req parentAttrs xOk) .eacces
  let attrs ← lookupName host parent name
  replyEntry host attrs

def getattr (host : Host) (ino : INodeNo) : Op (ReplyCall .attr) := do
  let attrs ← getInode ino
  replyAttr host attrs

/-- An explicit time, as opposed to the current one. -/
def isSpecific (time : Option TimeOrNow) : Bool :=
  match time with
  | some (.specificTime _) => true
  | _ => false

def setattrMode (host : Host) (req : Request) (attrs : InodeAttributes) (mode : UInt32) :
    Op (ReplyCall .attr) := do
  .failIf (!callerIsRoot req && !callerOwns req attrs.uid) .eperm
  let outsideGroup ←
    if callerKeepsPrivileges req then pure false else callerOutsideGroup host req attrs.gid
  let attrs := { attrs with mode :=
    if outsideGroup then (mode &&& ~~~sIsgid).toUInt16 else mode.toUInt16 }
  let now ← timeNow host
  let attrs := { attrs with lastMetadataChanged := now }
  writeInode attrs
  replyAttr host attrs

/-- Only root may give away a file to a group that the caller is not in. -/
def checkGroup (host : Host) (req : Request) (gid : Option UInt32) : Op Unit := do
  match gid with
  | some gid =>
      if !callerIsRoot req then
        let groups ← getGroups host req.pid
        .failIf (!groups.contains gid) .eperm
  | none => pure ()

/-- An owner may set the owner that there is. -/
def checkUser (req : Request) (attrs : InodeAttributes) (uid : Option UInt32) : Op Unit := do
  match uid with
  | some uid =>
      .failIf (!callerIsRoot req && !(uid == attrs.uid && callerOwns req attrs.uid)) .eperm
  | none => pure ()

def setattrOwner (host : Host) (req : Request) (attrs : InodeAttributes) (uid gid : Option UInt32)
    (killSuidGid : Bool) : Op (ReplyCall .attr) := do
  checkGroup host req gid
  checkUser req attrs uid
  .failIf (gid.isSome && !callerIsRoot req && !callerOwns req attrs.uid) .eperm
  let attrs ← if killSuidGid then clearSuidSgid host attrs req .unknown else pure attrs
  let attrs := clearFileCapabilities attrs
  let now ← timeNow host
  let attrs := { attrs with
    uid := uid.getD attrs.uid
    gid := gid.getD attrs.gid
    lastMetadataChanged := now }
  writeInode attrs
  replyAttr host attrs

/-- Without a handle the permission of the caller is checked; a handle has it with it. -/
def setattrSize (host : Host) (req : Request) (ino : INodeNo) (size : Option UInt64)
    (fh : Option FileHandle) (killSuidGid : Bool) : Op Unit := do
  match size, fh with
  | some size, some handle =>
      .failIf (!checkFileHandleWrite handle) .eacces
      let _ ← truncate host req ino size killSuidGid false
  | some size, none =>
      let _ ← truncate host req ino size killSuidGid true
  | none, _ => pure ()

def timeOrNow (time : TimeOrNow) (now : Timestamp) : Op Timestamp :=
  match time with
  | .specificTime time => .ofOutcome (timeFromSystemTime time)
  | .now => return now

/-- One of the two times that `utimens` sets. -/
def setattrTime (req : Request) (attrs : InodeAttributes) (time : Option TimeOrNow)
    (now : Timestamp) (set : InodeAttributes → Timestamp → InodeAttributes) :
    Op InodeAttributes := do
  match time with
  | some time =>
      .failIf (!callerOwns req attrs.uid && !callerIsRoot req && time ≠ .now) .eperm
      .failIf (!callerOwns req attrs.uid && !mayAccess req attrs wOk) .eacces
      let value ← timeOrNow time now
      let attrs := { set attrs value with lastMetadataChanged := now }
      writeInode attrs
      return attrs
  | none => return attrs

/-- The attributes were read before the size was changed, and a time is written with them. -/
def setattrTimes (host : Host) (req : Request) (attrs : InodeAttributes)
    (atime mtime : Option TimeOrNow) : Op Unit := do
  let now ← timeNow host
  let attrs ←
    setattrTime req attrs atime now fun attrs time => { attrs with lastAccessed := time }
  let _ ← setattrTime req attrs mtime now fun attrs time => { attrs with lastModified := time }

def setattr (host : Host) (req : Request) (ino : INodeNo) (mode uid gid : Option UInt32)
    (size : Option UInt64) (atime mtime : Option TimeOrNow) (fh : Option FileHandle)
    (killSuidGid : Bool) : Op (ReplyCall .attr) := do
  let attrs ← getInode ino
  .failIf (attrs.isImmutable ||
    (attrs.isAppendOnly &&
      (mode.isSome || uid.isSome || gid.isSome || size.isSome || isSpecific atime ||
        isSpecific mtime))) .eperm
  match mode with
  | some mode => setattrMode host req attrs mode
  | none =>
      if uid.isSome || gid.isSome then setattrOwner host req attrs uid gid killSuidGid
      else
        setattrSize host req ino size fh killSuidGid
        setattrTimes host req attrs atime mtime
        let attrs ← .unwrap (getInode ino)
        replyAttr host attrs

/-- Moves the access time of an inode, if it can be read. -/
def touchIfThere (host : Host) (ino : INodeNo) : Op Unit := do
  match ← Method.attempt (getInode ino) with
  | .ok attrs => touchAtime host attrs
  | .error _ => pure ()

def readlink (host : Host) (ino : INodeNo) : Op (ReplyCall .data) := do
  let content ← openContent ino .enoent
  touchIfThere host ino
  return .data (content.read host)

/-- What the methods that add an entry ask of the directory. -/
def openParent (host : Host) (req : Request) (parent : INodeNo) :
    Op (InodeAttributes × Timestamp) := do
  let parentAttrs ← getInode parent
  checkWritable parentAttrs
  .failIf (!mayAccess req parentAttrs wOk) .eacces
  let now ← timeNow host
  let parentAttrs := parentAttrs.changedAt now
  writeInode parentAttrs
  return (parentAttrs, now)

/-- Only root may make an inode that has these bits. -/
def withoutPrivileges (req : Request) (mode : UInt32) : UInt32 :=
  if callerIsRoot req then mode else mode &&& ~~~(sIsuid ||| sIsgid)

def mknod (host : Host) (req : Request) (parent : INodeNo) (name : OsStr) (mode rdev : UInt32)
    (owner : Owner) : Op (ReplyCall .entry) := do
  let fileType := mode &&& sIfmt
  .failIf (fileType ∉
    [0o100000, 0o120000, 0o040000, 0o020000, 0o060000, 0o010000, (0o140000 : UInt32)]) .eperm
  refuseTaken host parent name
  let (parentAttrs, now) ← openParent host req parent
  let mode := withoutPrivileges req mode
  let inode ← allocateNextInode
  let kind ← .ofOutcome (asFileKind mode)
  let perm ← creationMode mode
  let rdev := if kind = .charDevice ∨ kind = .blockDevice then rdev else 0
  let attrs := newInode inode now kind perm 1 0 0 owner.uid (creationGid parentAttrs owner.gid) rdev
  writeInode attrs
  putContent inode (.bytes [])
  if kind = .directory then writeDirectoryContent inode (newDirectory inode parent)
  insertEntry host parent name (inode.raw, attrs.kind)
  replyEntry host attrs

def mkdir (host : Host) (req : Request) (parent : INodeNo) (name : OsStr) (mode : UInt32)
    (owner : Owner) : Op (ReplyCall .entry) := do
  refuseTaken host parent name
  let (parentAttrs, now) ← openParent host req parent
  let mode := withoutPrivileges req mode
  let mode := if parentAttrs.mode &&& sIsgid.toUInt16 ≠ 0 then mode ||| sIsgid else mode
  let inode ← allocateNextInode
  let perm ← creationMode mode
  let attrs := newInode inode now .directory perm 2 0 blockSize.toUInt64 owner.uid
    (creationGid parentAttrs owner.gid) 0
  writeInode attrs
  writeDirectoryContent inode (newDirectory inode parent)
  insertEntry host parent name (inode.raw, .directory)
  replyEntry host attrs

/-- What `unlink` and `rmdir` do once they may. The entry goes last. -/
def unlinkEntry (host : Host) (parent : INodeNo) (name : OsStr)
    (parentAttrs attrs : InodeAttributes) (lower : UInt32 → Outcome Errno UInt32) : Op (ReplyCall .empty) := do
  let now ← timeNow host
  writeInode (parentAttrs.changedAt now)
  let hardlinks ← .ofOutcome (lower attrs.hardlinks)
  let attrs := { attrs with hardlinks, lastMetadataChanged := now }
  writeInode attrs
  let _ ← gcInode attrs
  removeEntry host parent name
  return .ok

def unlink (host : Host) (req : Request) (parent : INodeNo) (name : OsStr) :
    Op (ReplyCall .empty) := do
  let attrs ← lookupName host parent name
  let parentAttrs ← getInode parent
  checkRemovable parentAttrs
  checkRemovable attrs
  .failIf (!mayAccess req parentAttrs wOk) .eacces
  .failIf (stickyRefuses req parentAttrs attrs) .eacces
  unlinkEntry host parent name parentAttrs attrs fun hardlinks => Checked.subU32 hardlinks 1

def rmdir (host : Host) (req : Request) (parent : INodeNo) (name : OsStr) :
    Op (ReplyCall .empty) := do
  let attrs ← lookupName host parent name
  let parentAttrs ← getInode parent
  checkRemovable parentAttrs
  checkRemovable attrs
  let entries ← .unwrap (getDirectoryContent host ⟨attrs.inode⟩)
  .failIf (entries.size > 2) .enotempty
  .failIf (!mayAccess req parentAttrs wOk) .eacces
  .failIf (stickyRefuses req parentAttrs attrs) .eacces
  unlinkEntry host parent name parentAttrs attrs fun _ => .ok 0

def symlink (host : Host) (req : Request) (parent : INodeNo) (linkName target : OsStr)
    (owner : Owner) : Op (ReplyCall .entry) := do
  let (parentAttrs, now) ← openParent host req parent
  let inode ← allocateNextInode
  let attrs := newInode inode now .symlink 0o777 1 0 (UInt64.ofNat target.length) owner.uid
    (creationGid parentAttrs owner.gid) 0
  insertLink host req parent linkName inode .symlink
  writeInode attrs
  putContent inode (.bytes target)
  replyEntry host attrs

/-- The `..` of a directory that was moved. -/
def setParent (host : Host) (attrs : InodeAttributes) (parent : INodeNo) : Op Unit := do
  if attrs.kind = .directory then insertEntry host ⟨attrs.inode⟩ dotdot (parent.raw, .directory)

def exchange (host : Host) (parent : INodeNo) (name : OsStr) (newparent : INodeNo)
    (newname : OsStr) (inodeAttrs parentAttrs newParentAttrs : InodeAttributes) :
    Op (ReplyCall .empty) := do
  let newInodeAttrs ← lookupName host newparent newname
  insertEntry host newparent newname (inodeAttrs.inode, inodeAttrs.kind)
  insertEntry host parent name (newInodeAttrs.inode, newInodeAttrs.kind)
  let now ← timeNow host
  writeInode (parentAttrs.changedAt now)
  writeInode (newParentAttrs.changedAt now)
  writeInode { inodeAttrs with lastMetadataChanged := now }
  writeInode { newInodeAttrs with lastMetadataChanged := now }
  setParent host inodeAttrs newparent
  setParent host newInodeAttrs parent
  return .ok

/-- A directory is replaced only if it is empty. -/
def refuseFull (host : Host) (parent : INodeNo) (name : OsStr) : Op Unit := do
  match ← Method.attempt (lookupName host parent name) with
  | .ok attrs =>
      if attrs.kind = .directory then
        let entries ← .unwrap (getDirectoryContent host ⟨attrs.inode⟩)
        .failIf (entries.size > 2) .enotempty
  | .error _ => pure ()

/-- What the destination named loses its name. -/
def replaceExisting (host : Host) (parent : INodeNo) (name : OsStr) (now : Timestamp) :
    Op Unit := do
  match ← Method.attempt (lookupName host parent name) with
  | .ok existing =>
      removeEntry host parent name
      let hardlinks ←
        if existing.kind = .directory then pure 0
        else .ofOutcome (Checked.subU32 existing.hardlinks 1)
      let existing := { existing with hardlinks, lastMetadataChanged := now }
      writeInode existing
      let _ ← gcInode existing
  | .error _ => pure ()

/-- The placeholder that a whiteout rename leaves behind. -/
def makeWhiteout (now : Timestamp) (parentAttrs : InodeAttributes) (owner : Option Owner) :
    Op InodeAttributes := do
  match owner with
  | none => .fail .eio
  | some owner =>
      let whiteoutInode ← allocateNextInode
      let whiteoutAttrs := newInode whiteoutInode now .charDevice 0 1 0 0 owner.uid
        (creationGid parentAttrs owner.gid) 0
      writeInode whiteoutAttrs
      putContent whiteoutInode (.bytes [])
      return whiteoutAttrs

/-- The entries of `parent` are read before the whiteout is made and written after it. -/
def leaveBehind (host : Host) (parent : INodeNo) (name : OsStr) (now : Timestamp)
    (parentAttrs : InodeAttributes) (whiteout : Bool) (owner : Option Owner) : Op Unit := do
  let entries ← .unwrap (getDirectoryContent host parent)
  let entries := entries.erase name
  if whiteout then
    let whiteoutAttrs ← makeWhiteout now parentAttrs owner
    writeDirectoryContent parent (entries.insert name (whiteoutAttrs.inode, whiteoutAttrs.kind))
  else writeDirectoryContent parent entries

def replace (host : Host) (req : Request) (parent : INodeNo) (name : OsStr) (newparent : INodeNo)
    (newname : OsStr) (inodeAttrs parentAttrs newParentAttrs : InodeAttributes)
    (noReplace whiteout : Bool) (owner : Option Owner) : Op (ReplyCall .empty) := do
  if noReplace then refuseTaken host newparent newname
  refuseFull host newparent newname
  .failIf (inodeAttrs.kind = .directory ∧ parent ≠ newparent ∧ !mayAccess req inodeAttrs wOk)
    .eacces
  let now ← timeNow host
  replaceExisting host newparent newname now
  leaveBehind host parent name now parentAttrs whiteout owner
  insertEntry host newparent newname (inodeAttrs.inode, inodeAttrs.kind)
  writeInode (parentAttrs.changedAt now)
  writeInode (newParentAttrs.changedAt now)
  writeInode { inodeAttrs with lastMetadataChanged := now }
  setParent host inodeAttrs newparent
  return .ok

/-- What is at a name, for as long as the sticky bit of the directory lets it be taken away. -/
def checkDestination (host : Host) (req : Request) (newparent : INodeNo) (newname : OsStr)
    (newParentAttrs : InodeAttributes) : Op Unit := do
  if newParentAttrs.mode &&& sIsvtx.toUInt16 ≠ 0 then
    match ← Method.attempt (lookupName host newparent newname) with
    | .ok existing => .failIf (stickyRefuses req newParentAttrs existing) .eacces
    | .error _ => pure ()

/-- What is at the destination has to give way. -/
def checkExisting (destination : Except Errno InodeAttributes) : Op Unit :=
  match destination with
  | .ok existing => checkRemovable existing
  | .error _ => return ()

def rename (host : Host) (req : Request) (parent : INodeNo) (name : OsStr) (newparent : INodeNo)
    (newname : OsStr) (flags : UInt32) (owner : Option Owner) : Op (ReplyCall .empty) := do
  let inodeAttrs ← lookupName host parent name
  let parentAttrs ← getInode parent
  .failIf (!mayAccess req parentAttrs wOk) .eacces
  .failIf (stickyRefuses req parentAttrs inodeAttrs) .eacces
  let newParentAttrs ← getInode newparent
  .failIf (!mayAccess req newParentAttrs wOk) .eacces
  checkDestination host req newparent newname newParentAttrs
  let destination ← Method.attempt (lookupName host newparent newname)
  checkRemovable parentAttrs
  checkRemovable inodeAttrs
  checkWritable newParentAttrs
  checkExisting destination
  let exchanging := hasFlag flags renameExchange
  let noReplace := hasFlag flags renameNoreplace
  let whiteout := hasFlag flags renameWhiteout
  .failIf (exchanging && noReplace) .einval
  .failIf (exchanging && whiteout) .einval
  if exchanging then
    exchange host parent name newparent newname inodeAttrs parentAttrs newParentAttrs
  else
    replace host req parent name newparent newname inodeAttrs parentAttrs newParentAttrs noReplace
      whiteout owner

def addU32 {ε : Type} (a b : UInt32) : Outcome ε UInt32 :=
  if a.toNat + b.toNat < 2 ^ 32 then .ok (a + b)
  else .panic (.explicit "attempt to add with overflow")

def addU64 {ε : Type} (a b : UInt64) : Outcome ε UInt64 :=
  if a.toNat + b.toNat < 2 ^ 64 then .ok (a + b)
  else .panic (.explicit "attempt to add with overflow")

def link (host : Host) (req : Request) (ino newparent : INodeNo) (newname : OsStr) :
    Op (ReplyCall .entry) := do
  let attrs ← getInode ino
  checkRemovable attrs
  insertLink host req newparent newname ino attrs.kind
  let hardlinks ← .ofOutcome (addU32 attrs.hardlinks 1)
  let now ← timeNow host
  let attrs := { attrs with hardlinks, lastMetadataChanged := now }
  writeInode attrs
  replyEntry host attrs

/-- What a handle may be used for, and what the caller needs for that. Reading needs
`readMask`. -/
def openAccess (flags : OpenFlags) (readMask : Int32) : Op (Int32 × Bool × Bool) := do
  match flags.accMode with
  | .rdonly =>
      .failIf (flags.raw &&& oTrunc ≠ 0) .eacces
      return (readMask, true, false)
  | .wronly => return (wOk, false, true)
  | .rdwr => return (rOk ||| wOk, true, true)

/-- A handle is counted before it is given out. -/
def openHandle (req : Request) (attr : InodeAttributes) (accessMask : Int32) (read write : Bool) :
    Op (ReplyCall .open) := do
  .failIf (!mayAccess req attr accessMask) .eacces
  let openFileHandles ← .ofOutcome (addU64 attr.openFileHandles 1)
  writeInode { attr with openFileHandles }
  let fh ← allocateNextFileHandle read write
  fun s => (.ok (.opened fh (if s.directIo then ⟨1⟩ else ⟨0⟩)), s)

def «open» (req : Request) (ino : INodeNo) (flags : OpenFlags) : Op (ReplyCall .open) := do
  let (accessMask, read, write) ←
    openAccess flags (if flags.raw &&& fmodeExec ≠ 0 then xOk else rOk)
  let attr ← getInode ino
  .failIf (write && attr.isImmutable) .eperm
  .failIf (attr.isAppendOnly &&
    (write && flags.raw &&& oAppend == 0 || flags.raw &&& oTrunc != 0)) .eperm
  openHandle req attr accessMask read write

def opendir (req : Request) (ino : INodeNo) (flags : OpenFlags) : Op (ReplyCall .open) := do
  let (accessMask, read, write) ← openAccess flags rOk
  let attr ← getInode ino
  openHandle req attr accessMask read write

/-- What is left of the file is counted in 32 bits. -/
def read (host : Host) (ino : INodeNo) (fh : FileHandle) (offset : UInt64) (size : UInt32)
    (flags : OpenFlags) : Op (ReplyCall .data) := do
  .failIf (!checkFileHandleRead fh) .eacces
  let content ← openContent ino .enoent
  let bytes := content.read host
  let readSize := min size (UInt32.ofNat (bytes.length - offset.toNat))
  let buffer := readAt bytes offset.toNat readSize.toNat
  if flags.raw &&& oNoatime = 0 then touchIfThere host ino
  return .data buffer

def write (host : Host) (req : Request) (ino : INodeNo) (fh : FileHandle) (offset : UInt64)
    (data : List UInt8) (writeFlags : UInt32) : Op (ReplyCall .write) := do
  .failIf (!checkFileHandleWrite fh) .eacces
  let content ← openContent ino .ebadf
  .failIf (2 ^ 64 ≤ data.length + offset.toNat) .efbig
  let endOffset := data.length + offset.toNat
  putContent ino (.bytes (writeAt (content.read host) offset.toNat data))
  let attrs ← getInode ino
  let now ← timeNow host
  let attrs := attrs.changedAt now
  let attrs :=
    if endOffset > attrs.size.toNat then { attrs with size := UInt64.ofNat endOffset } else attrs
  let attrs ←
    if hasFlag writeFlags fuseWriteKillSuidgid then clearSuidSgid host attrs req .knownLacking
    else pure attrs
  let attrs := clearFileCapabilities attrs
  writeInode attrs
  return .written (UInt32.ofNat data.length)

/-- Of an inode that has gone there is no count to lower. -/
def closeIfThere (ino : INodeNo) : Op Unit := do
  match ← Method.attempt (getInode ino) with
  | .ok attrs => closeHandle attrs
  | .error _ => pure ()

/-- `release` and `releasedir`. -/
def release (ino : INodeNo) : Op (ReplyCall .empty) := do
  closeIfThere ino
  return .ok

/-- The calls of `add` up to the first for which the buffer is full. -/
def addedUntilFull : Nat → List ReplyDirectory.Add → List ReplyDirectory.Add
  | _, [] => []
  | capacity, args :: rest =>
      if capacity < entrySize args then [args]
      else args :: addedUntilFull (capacity - entrySize args) rest

/-- `size` is what the buffer of the reply object has room for. -/
def readdir (host : Host) (ino : INodeNo) (offset : UInt64) (size : Nat) :
    Op (ReplyCall .directory) := do
  let entries ← getDirectoryContent host ino
  touchIfThere host ino
  let items := entries.toList.map fun (name, inode, kind) =>
    (⟨⟨inode⟩, kind.fileType, name⟩ : DirItem)
  return .directory (addedUntilFull size (skipEnumerate items offset))

def statfs (host : Host) : Op (ReplyCall .statfs) := do
  match host.statvfs with
  | .error e => .fail e
  | .ok stat =>
      let inBlocks := fun count : UInt64 =>
        UInt64.ofNat (min (count.toNat * stat.fragmentSize.toNat) (2 ^ 64 - 1) / blockSize.toNat)
      let inInodes := fun count : UInt64 => count / 2
      return .statfs (inBlocks stat.blocks) (inBlocks stat.blocksFree)
        (inBlocks stat.blocksAvailable) (inInodes stat.files) (inInodes stat.filesFree) blockSize
        maxNameLength blockSize

/-- An inode of which the metadata cannot be read is a bad descriptor to the methods that
deal with extended attributes. -/
def inodeOrEbadf (ino : INodeNo) : Op InodeAttributes := do
  match ← Method.attempt (getInode ino) with
  | .ok attrs => return attrs
  | .error _ => .fail .ebadf

def setxattr (host : Host) (req : Request) (ino : INodeNo) (name : OsStr) (value : List UInt8) :
    Op (ReplyCall .empty) := do
  let attrs ← inodeOrEbadf ino
  xattrAccessCheck name wOk attrs req
  let now ← timeNow host
  writeInode { attrs with xattrs := attrs.xattrs.insert name value, lastMetadataChanged := now }
  return .ok

/-- The size of the data if none was given, or the data if there is room for it. -/
def replyXattr (size : UInt32) (data : List UInt8) : Op (ReplyCall .xattr) := do
  if size = 0 then return .size (UInt32.ofNat data.length)
  else if data.length ≤ size.toNat then return .xattrData data
  else .fail .erange

def getxattr (req : Request) (ino : INodeNo) (key : OsStr) (size : UInt32) :
    Op (ReplyCall .xattr) := do
  let attrs ← inodeOrEbadf ino
  xattrAccessCheck key rOk attrs req
  match attrs.xattrs[key]? with
  | some data => replyXattr size data
  | none => .fail .enodata

def listxattr (ino : INodeNo) (size : UInt32) : Op (ReplyCall .xattr) := do
  let attrs ← inodeOrEbadf ino
  replyXattr size (attrs.xattrs.keys.flatMap fun key => key ++ [0])

/-- Anyone may take away the capabilities of a file. -/
def removexattr (host : Host) (req : Request) (ino : INodeNo) (key : OsStr) :
    Op (ReplyCall .empty) := do
  let attrs ← inodeOrEbadf ino
  if key ≠ utf8 "security.capability" then xattrAccessCheck key wOk attrs req
  .failIf (attrs.xattrs[key]? = none) .enodata
  let now ← timeNow host
  writeInode { attrs with xattrs := attrs.xattrs.erase key, lastMetadataChanged := now }
  return .ok

def access (req : Request) (ino : INodeNo) (mask : Int32) : Op (ReplyCall .empty) := do
  let attr ← getInode ino
  .failIf (!mayAccess req attr mask) .eacces
  return .ok

/-- What `create` and `tmpfile` may be asked to open a file for, reading alone if `reads`. -/
def createAccess (flags : Int32) (reads : Bool) : Op (Bool × Bool) := do
  let mode := flags &&& oAccmode
  if mode = 0 ∧ reads then return (true, false)
  else if mode = 1 then return (false, true)
  else if mode = 2 then return (true, true)
  else .fail .einval

def replyCreated (host : Host) (attrs : InodeAttributes) (read write : Bool) :
    Op (ReplyCall .create) := do
  let attr ← fileAttr host attrs
  let fh ← allocateNextFileHandle read write
  return .created noTtl attr ⟨0⟩ fh ⟨0⟩

def create (host : Host) (req : Request) (parent : INodeNo) (name : OsStr) (mode : UInt32)
    (flags : Int32) (owner : Owner) : Op (ReplyCall .create) := do
  refuseTaken host parent name
  let (read, write) ← createAccess flags true
  let (parentAttrs, now) ← openParent host req parent
  let mode := withoutPrivileges req mode
  let inode ← allocateNextInode
  let kind ← .ofOutcome (asFileKind mode)
  let perm ← creationMode mode
  let attrs := newInode inode now kind perm 1 1 0 owner.uid (creationGid parentAttrs owner.gid) 0
  writeInode attrs
  putContent inode (.bytes [])
  if kind = .directory then writeDirectoryContent inode (newDirectory inode parent)
  insertEntry host parent name (inode.raw, attrs.kind)
  replyCreated host attrs read write

def statxImmutable : UInt64 := 0x10

def statxAppend : UInt64 := 0x20

def statxNodump : UInt64 := 0x40

def statx (host : Host) (ino : INodeNo) : Op (ReplyCall .statx) := do
  let attrs ← getInode ino
  let attributes :=
    (if attrs.isImmutable then statxImmutable else 0) |||
      (if attrs.isAppendOnly then statxAppend else 0) |||
      (if attrs.flags &&& fsNodumpFl ≠ 0 then statxNodump else 0)
  let btime ← .ofOutcome (systemTimeFromTime attrs.created)
  let attr ← fileAttr host attrs
  return .statx noTtl
    ⟨attr, some btime, ⟨attributes⟩, ⟨statxImmutable ||| statxAppend ||| statxNodump⟩⟩

/-- A word of the machine, which has the low byte first. -/
def fromNeBytes (bytes : List UInt8) : UInt32 :=
  UInt32.ofNat (bytes.foldr (fun byte word => byte.toNat + 256 * word) 0)

def toNeBytes (word : UInt32) : List UInt8 :=
  [word.toUInt8, (word >>> 8).toUInt8, (word >>> 16).toUInt8, (word >>> 24).toUInt8]

/-- The flags that a request asks to set, if it does. -/
def requestedFlags (cmd : UInt32) (inData : List UInt8) : Op UInt32 := do
  if cmd = fsIocSetflags then
    .failIf (inData.length ≠ 4) .einval
    let requested := fromNeBytes inData
    .failIf (requested &&& ~~~supportedFsFlags ≠ 0) .eopnotsupp
    return requested
  else if cmd = fsIocFssetxattr then
    .failIf (inData.length ≠ fsxattrSize) .einval
    match flagsFromXflags (fromNeBytes (inData.take 4)) with
    | some flags => return flags
    | none => .fail .eopnotsupp
  else .fail .enotty

def setFlags (host : Host) (attrs : InodeAttributes) (newFlags : UInt32) : Op Unit := do
  let now ← timeNow host
  writeInode { attrs with flags := newFlags, lastMetadataChanged := now }

def ioctl (host : Host) (ino : INodeNo) (cmd : UInt32) (inData : List UInt8) :
    Op (ReplyCall .ioctl) := do
  let attrs ← getInode ino
  if cmd = fsIocGetflags then return .ioctl 0 (toNeBytes attrs.flags)
  else if cmd = fsIocFsgetxattr then
    return .ioctl 0
      (toNeBytes (xflagsFromFlags attrs.flags) ++ List.replicate (fsxattrSize - 4) 0)
  else
    let newFlags ← requestedFlags cmd inData
    if newFlags ≠ attrs.flags then setFlags host attrs newFlags
    return .ioctl 0 []

def tmpfile (host : Host) (req : Request) (parent : INodeNo) (mode : UInt32) (flags : Int32)
    (owner : Owner) : Op (ReplyCall .create) := do
  let (read, write) ← createAccess flags false
  let parentAttrs ← getInode parent
  .failIf (parentAttrs.kind ≠ .directory) .enotdir
  checkWritable parentAttrs
  .failIf (!mayAccess req parentAttrs (wOk ||| xOk)) .eacces
  let mode := withoutPrivileges req mode
  let now ← timeNow host
  let inode ← allocateNextInode
  let perm ← creationMode mode
  let attrs := newInode inode now .file perm 0 1 0 owner.uid (creationGid parentAttrs owner.gid) 0
  writeInode attrs
  putContent inode (.bytes [])
  replyCreated host attrs read write

/-- Whether the blocks of a range, rounded out, are available. -/
def backingStoreCanTake (host : Host) (offset length : UInt64) : Bool :=
  match host.statvfs with
  | .error _ => true
  | .ok stat =>
      let blockSize := max stat.fragmentSize.toNat 1
      let firstBlock := offset.toNat / blockSize
      let stop := min (offset.toNat + length.toNat) (2 ^ 64 - 1)
      let lastBlock := (stop + (blockSize - 1)) / blockSize
      lastBlock - firstBlock ≤ stat.blocksAvailable.toNat

def clearIfNegotiated (host : Host) (attrs : InodeAttributes) (req : Request) :
    Op InodeAttributes := fun s =>
  if s.killprivNegotiated then clearPrivilegesUnprompted host attrs req s else (.ok attrs, s)

def grownTo (attrs : InodeAttributes) (offset length : UInt64) : Op InodeAttributes := do
  let stop ← .ofOutcome (addU64 offset length)
  return if stop > attrs.size then { attrs with size := stop } else attrs

def fallocate (host : Host) (req : Request) (ino : INodeNo) (offset length : UInt64)
    (mode : Int32) : Op (ReplyCall .empty) := do
  let attrs ← getInode ino
  .failIf (attrs.isImmutable || (attrs.isAppendOnly && mode &&& ~~~fallocFlKeepSize != 0)) .eperm
  .failIf (mode &&& (fallocFlPunchHole ||| fallocFlCollapseRange) = 0 ∧
    !backingStoreCanTake host offset length) .enospc
  let content ← openContent ino .enoent
  match host.fallocate64 mode offset length (content.read host) with
  | .error e => .fail e
  | .ok bytes =>
      putContent ino (.bytes bytes)
      let attrs ← .unwrap (getInode ino)
      let now ← timeNow host
      let attrs := attrs.changedAt now
      let attrs ←
        if mode &&& fallocFlKeepSize = 0 then grownTo attrs offset length else pure attrs
      let attrs ← clearIfNegotiated host attrs req
      writeInode attrs
      return .ok

def copyFileRange (host : Host) (req : Request) (srcInode : INodeNo) (srcFh : FileHandle)
    (srcOffset : UInt64) (destInode : INodeNo) (destFh : FileHandle) (destOffset size : UInt64) :
    Op (ReplyCall .write) := do
  .failIf (!checkFileHandleRead srcFh) .eacces
  .failIf (!checkFileHandleWrite destFh) .eacces
  let destAttrs ← getInode destInode
  checkWritable destAttrs
  let source ← openContent srcInode .enoent
  let bytes := source.read host
  let readSize := min size.toNat (bytes.length - srcOffset.toNat)
  let data := readAt bytes srcOffset.toNat readSize
  touchIfThere host srcInode
  let content ← openContent destInode .ebadf
  putContent destInode (.bytes (writeAt (content.read host) destOffset.toNat data))
  let attrs ← .unwrap (getInode destInode)
  let now ← timeNow host
  let attrs := attrs.changedAt now
  .failIf (2 ^ 64 ≤ data.length + destOffset.toNat) .efbig
  let endOffset := data.length + destOffset.toNat
  let attrs :=
    if endOffset > attrs.size.toNat then { attrs with size := UInt64.ofNat endOffset } else attrs
  let attrs ← clearIfNegotiated host attrs req
  writeInode attrs
  return .written (UInt32.ofNat data.length)

/-- Idmapped mounts end here if the kernel does not offer them. -/
def settleIdmap (config : KernelConfig) : Method SimpleFS IoError KernelConfig := fun s =>
  if s.idmapped then
    match (KernelConfig.addCapabilities .fuseAllowIdmap).run config with
    | (.ok _, config) => (.ok config, s)
    | _ =>
        (.err (.new .unsupported "the kernel does not offer FUSE_ALLOW_IDMAP"),
          { s with idmapped := false })
  else (.ok config, s)

/-- Privileges are left to the kernel if there is no caller to judge. -/
def settleKillpriv (config : KernelConfig) : Method SimpleFS IoError KernelConfig := fun s =>
  if s.idmapped then (.ok config, { s with suidSupport := false })
  else
    match (KernelConfig.addCapabilities .fuseHandleKillprivV2).run config with
    | (.ok _, config) => (.ok config, { s with killprivNegotiated := true })
    | (_, config) => (.ok config, { s with suidSupport := false })

/-- The root directory of a filesystem that has none yet. Its entries do not name a
parent. -/
def initRoot (host : Host) : Op Unit := do
  let now ← timeNow host
  writeInode (newInode .root now .directory 0o777 2 0 0 0 0 0)
  writeDirectoryContent .root ((∅ : DirectoryDescriptor).insert dot (INodeNo.root.raw, .directory))

def init (host : Host) (config : KernelConfig) : Method SimpleFS IoError KernelConfig := do
  let config ← settleIdmap config
  let config ← settleKillpriv config
  match ← Method.attempt (getInode .root) with
  | .ok _ => return config
  | .error _ =>
      Method.unwrap (initRoot host)
      return config

/-! ### Serving requests -/

/-- A method answers on each of its exits that is no panic. -/
def answered {t : ReplyType} (method : Op (ReplyCall t)) : Op (Option Answer) := do
  match ← Method.attempt method with
  | .ok call => return some ⟨t, call⟩
  | .error e => return some ⟨t, .error e⟩

/-- What the filesystem answers to a call. Methods that it does not have are provided by the
trait. -/
def serve (host : Host) (call : FsCall) : Op (Option Answer) :=
  let req := call.request
  match call.method with
  | .lookup parent name => answered (lookup host req parent name)
  | .getattr ino _ => answered (getattr host ino)
  | .statx ino _ _ _ => answered (statx host ino)
  | .setattr ino mode uid gid size atime mtime _ fh _ _ _ _ killSuidGid =>
      answered (setattr host req ino mode uid gid size atime mtime fh killSuidGid)
  | .readlink ino => answered (readlink host ino)
  | .mknod parent name mode _ rdev owner => answered (mknod host req parent name mode rdev owner)
  | .mkdir parent name mode _ owner => answered (mkdir host req parent name mode owner)
  | .unlink parent name => answered (unlink host req parent name)
  | .rmdir parent name => answered (rmdir host req parent name)
  | .symlink parent linkName target owner =>
      answered (symlink host req parent linkName target owner)
  | .rename parent name newparent newname flags owner =>
      answered (rename host req parent name newparent newname flags owner)
  | .link ino newparent newname => answered (link host req ino newparent newname)
  | .open ino flags _ => answered («open» req ino flags)
  | .read ino fh offset size flags _ => answered (read host ino fh offset size flags)
  | .write ino fh offset data writeFlags _ _ =>
      answered (write host req ino fh offset data writeFlags)
  | .release ino _ _ _ _ | .releasedir ino _ _ => answered (release ino)
  | .opendir ino flags => answered (opendir req ino flags)
  | .readdir ino _ offset =>
      answered (readdir host ino offset ((call.reply.map ReplyObject.size).getD 0))
  | .statfs _ => answered (statfs host)
  | .setxattr ino name value _ _ => answered (setxattr host req ino name value)
  | .getxattr ino name size => answered (getxattr req ino name size)
  | .listxattr ino size => answered (listxattr ino size)
  | .removexattr ino name => answered (removexattr host req ino name)
  | .access ino mask => answered (access req ino mask)
  | .create parent name mode _ flags _ owner =>
      answered (create host req parent name mode flags owner)
  | .ioctl ino _ _ cmd inData _ => answered (ioctl host ino cmd inData)
  | .tmpfile parent mode _ flags _ owner => answered (tmpfile host req parent mode flags owner)
  | .fallocate ino _ offset length mode => answered (fallocate host req ino offset length mode)
  | .copyFileRange inoIn fhIn offsetIn inoOut fhOut offsetOut len _ =>
      answered (copyFileRange host req inoIn fhIn offsetIn inoOut fhOut offsetOut len)
  | .forget .. | .batchForget .. => return none
  | method => return method.provided

end Simple

end Fuser
