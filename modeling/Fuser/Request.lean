import Fuser.Argument
import Fuser.Operation

/-!
From the bytes of a message to a request, and from the body of a request to an
operation: `AnyRequest::try_from`, `AnyRequest::operation` and `op::parse`.

The capabilities of the session are part of the input of the second step, since
the layout of a SETXATTR depends on them.
-/

namespace Fuser

open Rust Wire ArgumentIterator

/-- `offset_of!(fuse_init_in, flags2)`: the four oldest fields come before it. -/
def offsetOfFlags2 : Nat := ((ReprC.toCodec : Codec FuseInitIn).fields.take 4).sum

/-- A `fuse_init_in` of an old kernel is short; what is missing is zero. -/
def initArg (data : List UInt8) : FuseInitIn :=
  let copied := min data.length (ReprC.size FuseInitIn)
  ofBytes FuseInitIn (data.take copied ++ List.replicate (ReprC.size FuseInitIn - copied) 0)

/-- The kernel sends an extension of `fuse_setxattr_in` once that was negotiated. -/
def fetchSetxattrFlags (negotiated : InitFlags) : Method ArgumentIterator Unit UInt32 :=
  if negotiated.contains .fuseSetxattrExt then do
    let ext ← fetch FuseSetxattrInExt
    return ext.setxattrFlags
  else return 0

/-- One arm of `op::parse` for each opcode. -/
def parseArgs (header : FuseInHeader) (negotiated : InitFlags) :
    FuseOpcode → Method ArgumentIterator Unit Operation
  | .fuseLookup => return .lookup ⟨header, ← fetchStr⟩
  | .fuseForget => return .forget ⟨header, ← fetch FuseForgetIn⟩
  | .fuseGetattr => return .getAttr ⟨header, ← fetch FuseGetattrIn⟩
  | .fuseSetattr => return .setAttr ⟨header, ← fetch FuseSetattrIn⟩
  | .fuseReadlink => return .readLink ⟨header⟩
  | .fuseSymlink => do
      let linkName ← fetchStr
      let target ← fetchStr
      return .symLink ⟨header, target, linkName⟩
  | .fuseMknod => return .mkNod ⟨header, ← fetch FuseMknodIn, ← fetchStr⟩
  | .fuseMkdir => return .mkDir ⟨header, ← fetch FuseMkdirIn, ← fetchStr⟩
  | .fuseUnlink => return .unlink ⟨header, ← fetchStr⟩
  | .fuseRmdir => return .rmDir ⟨header, ← fetchStr⟩
  | .fuseRename => return .rename ⟨header, ← fetch FuseRenameIn, ← fetchStr, ← fetchStr⟩
  | .fuseLink => return .link ⟨header, ← fetch FuseLinkIn, ← fetchStr⟩
  | .fuseOpen => return .open ⟨header, ← fetch FuseOpenIn⟩
  | .fuseRead => return .read ⟨header, ← fetch FuseReadIn⟩
  | .fuseWrite => do
      let arg ← fetch FuseWriteIn
      let data ← fetchAll
      if data.length = arg.size.toNat then return .write ⟨header, arg, data⟩
      else .abort .assertion
  | .fuseStatfs => return .statFs ⟨header⟩
  | .fuseRelease => return .release ⟨header, ← fetch FuseReleaseIn⟩
  | .fuseFsync => return .fSync ⟨header, ← fetch FuseFsyncIn⟩
  | .fuseSetxattr => do
      let arg ← fetch FuseSetxattrIn
      let setxattrFlags ← fetchSetxattrFlags negotiated
      let name ← fetchStr
      let value ← fetchAll
      if value.length ≠ arg.size.toNat then .fail ()
      else return .setXAttr ⟨header, arg, setxattrFlags, name, value⟩
  | .fuseGetxattr => return .getXAttr ⟨header, ← fetch FuseGetxattrIn, ← fetchStr⟩
  | .fuseListxattr => return .listXAttr ⟨header, ← fetch FuseGetxattrIn⟩
  | .fuseRemovexattr => return .removeXAttr ⟨header, ← fetchStr⟩
  | .fuseFlush => return .flush ⟨header, ← fetch FuseFlushIn⟩
  | .fuseInit => do
      let data ← fetchAll
      if data.length < offsetOfFlags2 then .fail ()
      else return .init ⟨header, initArg data⟩
  | .fuseOpendir => return .openDir ⟨header, ← fetch FuseOpenIn⟩
  | .fuseReaddir => return .readDir ⟨header, ← fetch FuseReadIn⟩
  | .fuseReleasedir => return .releaseDir ⟨header, ← fetch FuseReleaseIn⟩
  | .fuseFsyncdir => return .fSyncDir ⟨header, ← fetch FuseFsyncIn⟩
  | .fuseGetlk => return .getLk ⟨header, ← fetch FuseLkIn⟩
  | .fuseSetlk => return .setLk ⟨header, ← fetch FuseLkIn, false⟩
  | .fuseSetlkw => return .setLk ⟨header, ← fetch FuseLkIn, true⟩
  | .fuseAccess => return .access ⟨header, ← fetch FuseAccessIn⟩
  | .fuseCreate => return .create ⟨header, ← fetch FuseCreateIn, ← fetchStr⟩
  | .fuseInterrupt => return .interrupt ⟨header, ← fetch FuseInterruptIn⟩
  | .fuseBmap => return .bMap ⟨header, ← fetch FuseBmapIn⟩
  | .fuseDestroy => return .destroy ⟨header⟩
  | .fuseIoctl => return .ioCtl ⟨header, ← fetch FuseIoctlIn, ← fetchAll⟩
  | .fusePoll => return .poll ⟨header, ← fetch FusePollIn⟩
  | .fuseNotifyReply => return .notifyReply ⟨header, ← fetchAll⟩
  | .fuseBatchForget => do
      let arg ← fetch FuseBatchForgetIn
      return .batchForget ⟨header, arg, ← fetchSlice FuseForgetOne arg.count.toNat⟩
  | .fuseFallocate => return .fAllocate ⟨header, ← fetch FuseFallocateIn⟩
  | .fuseReaddirplus => return .readDirPlus ⟨header, ← fetch FuseReadIn⟩
  | .fuseRename2 =>
      return .rename2 ⟨header, ← fetch FuseRename2In, ← fetchStr, ← fetchStr, ⟨header.nodeid⟩⟩
  | .fuseLseek => return .lseek ⟨header, ← fetch FuseLseekIn⟩
  | .fuseCopyFileRange => return .copyFileRange ⟨header, ← fetch FuseCopyFileRangeIn⟩
  | .fuseSyncfs => return .syncFs ⟨header, ← fetch FuseSyncfsIn⟩
  | .fuseTmpfile => return .tmpFile ⟨header, ← fetch FuseCreateIn, ← fetchStr⟩
  | .fuseStatx => return .statX ⟨header, ← fetch FuseStatxIn⟩
  | .cuseInit => return .cuseInit ⟨header, ← fetch FuseInitIn⟩

def parse (header : FuseInHeader) (opcode : FuseOpcode) (data : Slice) (negotiated : InitFlags) :
    Outcome Unit Operation :=
  ((parseArgs header negotiated opcode).run (.new data)).1

inductive RequestError where
  | shortReadHeader (len : Nat)
  | unknownOperation (opcode : UInt32)
  | shortRead (len total : Nat)
  | insufficientData
  deriving DecidableEq

def RequestError.display : RequestError → String
  | .shortReadHeader len => "Short read of FUSE request header (" ++ toString len ++ " < 40)"
  | .unknownOperation opcode => "Unknown FUSE opcode (" ++ toString opcode ++ ")"
  | .shortRead len total =>
      "Short read of FUSE request (" ++ toString len ++ " < " ++ toString total ++ ")"
  | .insufficientData => "Insufficient argument data"

structure AnyRequest where
  header : FuseInHeader
  data : Slice
  negotiated : InitFlags
  deriving DecidableEq

namespace AnyRequest

def unique (self : AnyRequest) : RequestId := ⟨self.header.unique⟩

def nodeid (self : AnyRequest) : INodeNo := ⟨self.header.nodeid⟩

def uid (self : AnyRequest) : UInt32 := self.header.uid

def operation (self : AnyRequest) : Outcome RequestError Operation :=
  match FuseOpcode.tryFrom self.header.opcode with
  | none => .err (.unknownOperation self.header.opcode)
  | some opcode =>
      (parse self.header opcode self.data self.negotiated).mapErr (fun _ => .insufficientData)

/-- `Display for AnyRequest`, for whether it comes back. -/
def fmt {ε : Type} (self : AnyRequest) : Outcome ε Unit :=
  match self.operation with
  | .ok op => op.fmt
  | .err _ => return ()
  | .panic reason => .panic reason

def setNegotiated (self : AnyRequest) (negotiated : InitFlags) : AnyRequest :=
  { self with negotiated }

/-- The header is read first; the body is then cut out by the header's length. -/
def tryFrom (data : Slice) : Outcome RequestError AnyRequest :=
  match (fetch FuseInHeader).run (.new data) with
  | (.err (), argIter) => .err (.shortReadHeader argIter.len)
  | (.panic reason, _) => .panic reason
  | (.ok header, _) =>
      if data.len < header.len.toNat then .err (.shortRead data.len header.len.toNat)
      else do
        let body ← data.range (ReprC.size FuseInHeader) header.len.toNat
        return ⟨header, body, 0⟩

end AnyRequest

/-- What the kernel sends in place of ids. -/
def fuseInvalidUidgid : UInt32 := 0xffffffff

/-- The request as the filesystem sees it. -/
structure Request where
  header : FuseInHeader
  deriving DecidableEq

namespace Request

def unique (self : Request) : RequestId := ⟨self.header.unique⟩

def uid (self : Request) : Option UInt32 :=
  if self.header.uid ≠ fuseInvalidUidgid then some self.header.uid else none

def gid (self : Request) : Option UInt32 :=
  if self.header.gid ≠ fuseInvalidUidgid then some self.header.gid else none

def pid (self : Request) : UInt32 := self.header.pid

end Request

end Fuser
