import Fuser.Directory
import Fuser.Request

/-!
What a filesystem is given: the methods of the trait `Filesystem` with their
arguments, and the reply object that comes with all of them but two.

Every reply type is a `ReplyRaw` with the methods that suit the request. The two
replies to directory listings also hold a buffer of the size that was asked for.
-/

namespace Fuser

open Wire

/-- Who owns an inode that a request creates. -/
structure Owner where
  uid : UInt32
  gid : UInt32
  deriving DecidableEq

structure Notifier where
  kernelCapabilities : InitFlags
  kernelAbi : Option Version
  deriving DecidableEq

structure PollNotifier where
  handle : PollHandle
  notifier : Notifier
  deriving DecidableEq

def PollNotifier.new (kh : PollHandle) (kernelCapabilities : InitFlags)
    (kernelAbi : Option Version) : PollNotifier :=
  ⟨kh, ⟨kernelCapabilities, kernelAbi⟩⟩

/-- A method of the trait, with the arguments between the request and the reply. -/
inductive FsMethod where
  | lookup (parent : INodeNo) (name : OsStr)
  | forget (ino : INodeNo) (nlookup : UInt64)
  | batchForget (nodes : List FuseForgetOne)
  | getattr (ino : INodeNo) (fh : Option FileHandle)
  | statx (ino : INodeNo) (fh : Option FileHandle) (flags mask : UInt32)
  | setattr (ino : INodeNo) (mode uid gid : Option UInt32) (size : Option UInt64)
      (atime mtime : Option TimeOrNow) (ctime : Option SystemTime) (fh : Option FileHandle)
      (crtime chgtime bkuptime : Option SystemTime) (flags : Option UInt32) (killSuidGid : Bool)
  | readlink (ino : INodeNo)
  | mknod (parent : INodeNo) (name : OsStr) (mode umask rdev : UInt32) (owner : Owner)
  | mkdir (parent : INodeNo) (name : OsStr) (mode umask : UInt32) (owner : Owner)
  | unlink (parent : INodeNo) (name : OsStr)
  | rmdir (parent : INodeNo) (name : OsStr)
  | symlink (parent : INodeNo) (linkName target : OsStr) (owner : Owner)
  | rename (parent : INodeNo) (name : OsStr) (newparent : INodeNo) (newname : OsStr)
      (flags : UInt32) (whiteoutOwner : Option Owner)
  | link (ino newparent : INodeNo) (newname : OsStr)
  | «open» (ino : INodeNo) (flags : OpenFlags) (killSuidGid : Bool)
  | read (ino : INodeNo) (fh : FileHandle) (offset : UInt64) (size : UInt32) (flags : OpenFlags)
      (lockOwner : Option LockOwner)
  | write (ino : INodeNo) (fh : FileHandle) (offset : UInt64) (data : List UInt8)
      (writeFlags : UInt32) (flags : OpenFlags) (lockOwner : Option LockOwner)
  | flush (ino : INodeNo) (fh : FileHandle) (lockOwner : LockOwner)
  | release (ino : INodeNo) (fh : FileHandle) (flags : OpenFlags) (lockOwner : Option LockOwner)
      (flush : Bool)
  | fsync (ino : INodeNo) (fh : FileHandle) (datasync : Bool)
  | opendir (ino : INodeNo) (flags : OpenFlags)
  | readdir (ino : INodeNo) (fh : FileHandle) (offset : UInt64)
  | readdirplus (ino : INodeNo) (fh : FileHandle) (offset : UInt64)
  | releasedir (ino : INodeNo) (fh : FileHandle) (flags : OpenFlags)
  | fsyncdir (ino : INodeNo) (fh : FileHandle) (datasync : Bool)
  | statfs (ino : INodeNo)
  | setxattr (ino : INodeNo) (name : OsStr) (value : List UInt8) (flags : Int32)
      (position : UInt32)
  | getxattr (ino : INodeNo) (name : OsStr) (size : UInt32)
  | listxattr (ino : INodeNo) (size : UInt32)
  | removexattr (ino : INodeNo) (name : OsStr)
  | access (ino : INodeNo) (mask : Int32)
  | create (parent : INodeNo) (name : OsStr) (mode umask : UInt32) (flags : Int32)
      (killSuidGid : Bool) (owner : Owner)
  | getlk (ino : INodeNo) (fh : FileHandle) (lockOwner : LockOwner) (start stop : UInt64)
      (typ : Int32) (pid : UInt32)
  | setlk (ino : INodeNo) (fh : FileHandle) (lockOwner : LockOwner) (start stop : UInt64)
      (typ : Int32) (pid : UInt32) (sleep : Bool)
  | bmap (ino : INodeNo) (blocksize : UInt32) (idx : UInt64)
  | ioctl (ino : INodeNo) (fh : FileHandle) (flags cmd : UInt32) (inData : List UInt8)
      (outSize : UInt32)
  | poll (ino : INodeNo) (fh : FileHandle) (ph : PollNotifier) (events flags : UInt32)
  | fallocate (ino : INodeNo) (fh : FileHandle) (offset length : UInt64) (mode : Int32)
  | lseek (ino : INodeNo) (fh : FileHandle) (offset : Int64) (whence : Int32)
  | copyFileRange (inoIn : INodeNo) (fhIn : FileHandle) (offsetIn : UInt64) (inoOut : INodeNo)
      (fhOut : FileHandle) (offsetOut len flags : UInt64)
  | tmpfile (parent : INodeNo) (mode umask : UInt32) (flags : Int32) (killSuidGid : Bool)
      (owner : Owner)
  | syncfs (ino : INodeNo)
  deriving DecidableEq

/-- A reply object as the filesystem holds it. -/
inductive ReplyObject where
  | raw (reply : ReplyRaw)
  | directory (reply : DirectoryReply)
  | directoryPlus (reply : DirectoryReply)
  deriving DecidableEq

namespace ReplyObject

/-- What is left of a reply object when its terminal method is called. -/
def reply : ReplyObject → ReplyRaw
  | .raw reply => reply
  | .directory reply => reply.reply
  | .directoryPlus reply => reply.reply

def unique (self : ReplyObject) : RequestId := self.reply.unique

end ReplyObject

/-- One call of a method. FORGET and BATCH_FORGET come without a reply object. -/
structure FsCall where
  request : Request
  method : FsMethod
  reply : Option ReplyObject
  deriving DecidableEq

/-- The `batch_forget` that the trait provides: the calls it makes on the filesystem. -/
def defaultBatchForget (req : Request) : List FuseForgetOne → List FsCall
  | [] => []
  | node :: nodes => ⟨req, .forget ⟨node.nodeid⟩ node.nlookup, none⟩ :: defaultBatchForget req nodes

end Fuser
