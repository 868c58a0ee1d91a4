import Fuser.Framing
import Fuser.Parsing

/-!
The kernel's side of the request format, and that reading undoes writing.

`KernelArgs` is what the kernel may put into the body of a request: for each
opcode the fixed struct, the names and the trailing data. `ReadBack` says what
the accessors of the parsed operation then give. It is stated in the fields the
kernel wrote and does not mention how the body is parsed.
-/

namespace Fuser

open Rust Wire ArgumentIterator

inductive KernelArgs where
  | lookup (name : OsStr)
  | forget (arg : FuseForgetIn)
  | getattr (arg : FuseGetattrIn)
  | setattr (arg : FuseSetattrIn)
  | readlink
  | symlink (linkName target : OsStr)
  | mknod (arg : FuseMknodIn) (name : OsStr)
  | mkdir (arg : FuseMkdirIn) (name : OsStr)
  | unlink (name : OsStr)
  | rmdir (name : OsStr)
  | rename (arg : FuseRenameIn) (oldName newName : OsStr)
  | link (arg : FuseLinkIn) (name : OsStr)
  | opn (arg : FuseOpenIn)
  | read (arg : FuseReadIn)
  | write (arg : FuseWriteIn) (data : List UInt8)
  | statfs
  | release (arg : FuseReleaseIn)
  | fsync (arg : FuseFsyncIn)
  | setxattr (arg : FuseSetxattrIn) (ext : FuseSetxattrInExt) (name : OsStr) (value : List UInt8)
  | getxattr (arg : FuseGetxattrIn) (name : OsStr)
  | listxattr (arg : FuseGetxattrIn)
  | removexattr (name : OsStr)
  | flush (arg : FuseFlushIn)
  | init (arg : FuseInitIn) (len : Nat)
  | opendir (arg : FuseOpenIn)
  | readdir (arg : FuseReadIn)
  | releasedir (arg : FuseReleaseIn)
  | fsyncdir (arg : FuseFsyncIn)
  | getlk (arg : FuseLkIn)
  | setlk (arg : FuseLkIn)
  | setlkw (arg : FuseLkIn)
  | access (arg : FuseAccessIn)
  | create (arg : FuseCreateIn) (name : OsStr)
  | interrupt (arg : FuseInterruptIn)
  | bmap (arg : FuseBmapIn)
  | destroy
  | ioctl (arg : FuseIoctlIn) (data : List UInt8)
  | poll (arg : FusePollIn)
  | notifyReply (data : List UInt8)
  | batchForget (arg : FuseBatchForgetIn) (nodes : List FuseForgetOne)
  | fallocate (arg : FuseFallocateIn)
  | readdirplus (arg : FuseReadIn)
  | rename2 (arg : FuseRename2In) (oldName newName : OsStr)
  | lseek (arg : FuseLseekIn)
  | copyFileRange (arg : FuseCopyFileRangeIn)
  | syncfs (arg : FuseSyncfsIn)
  | tmpfile (arg : FuseCreateIn) (name : OsStr)
  | statx (arg : FuseStatxIn)
  | cuseInit (arg : FuseInitIn)

namespace KernelArgs

def opcode : KernelArgs → FuseOpcode
  | .lookup .. => .fuseLookup
  | .forget .. => .fuseForget
  | .getattr .. => .fuseGetattr
  | .setattr .. => .fuseSetattr
  | .readlink => .fuseReadlink
  | .symlink .. => .fuseSymlink
  | .mknod .. => .fuseMknod
  | .mkdir .. => .fuseMkdir
  | .unlink .. => .fuseUnlink
  | .rmdir .. => .fuseRmdir
  | .rename .. => .fuseRename
  | .link .. => .fuseLink
  | .opn .. => .fuseOpen
  | .read .. => .fuseRead
  | .write .. => .fuseWrite
  | .statfs => .fuseStatfs
  | .release .. => .fuseRelease
  | .fsync .. => .fuseFsync
  | .setxattr .. => .fuseSetxattr
  | .getxattr .. => .fuseGetxattr
  | .listxattr .. => .fuseListxattr
  | .removexattr .. => .fuseRemovexattr
  | .flush .. => .fuseFlush
  | .init .. => .fuseInit
  | .opendir .. => .fuseOpendir
  | .readdir .. => .fuseReaddir
  | .releasedir .. => .fuseReleasedir
  | .fsyncdir .. => .fuseFsyncdir
  | .getlk .. => .fuseGetlk
  | .setlk .. => .fuseSetlk
  | .setlkw .. => .fuseSetlkw
  | .access .. => .fuseAccess
  | .create .. => .fuseCreate
  | .interrupt .. => .fuseInterrupt
  | .bmap .. => .fuseBmap
  | .destroy => .fuseDestroy
  | .ioctl .. => .fuseIoctl
  | .poll .. => .fusePoll
  | .notifyReply .. => .fuseNotifyReply
  | .batchForget .. => .fuseBatchForget
  | .fallocate .. => .fuseFallocate
  | .readdirplus .. => .fuseReaddirplus
  | .rename2 .. => .fuseRename2
  | .lseek .. => .fuseLseek
  | .copyFileRange .. => .fuseCopyFileRange
  | .syncfs .. => .fuseSyncfs
  | .tmpfile .. => .fuseTmpfile
  | .statx .. => .fuseStatx
  | .cuseInit .. => .cuseInit

/-- A name as it is sent, with the NUL that ends it. -/
def cstr (name : OsStr) : List UInt8 := name ++ [0]

def body (negotiated : InitFlags) : KernelArgs → List UInt8
  | .lookup name | .unlink name | .rmdir name | .removexattr name => cstr name
  | .forget arg => toBytes arg
  | .getattr arg => toBytes arg
  | .setattr arg => toBytes arg
  | .readlink | .statfs | .destroy => []
  | .symlink linkName target => cstr linkName ++ cstr target
  | .mknod arg name => toBytes arg ++ cstr name
  | .mkdir arg name => toBytes arg ++ cstr name
  | .rename arg oldName newName => toBytes arg ++ (cstr oldName ++ cstr newName)
  | .link arg name => toBytes arg ++ cstr name
  | .opn arg | .opendir arg => toBytes arg
  | .read arg | .readdir arg | .readdirplus arg => toBytes arg
  | .write arg data => toBytes arg ++ data
  | .release arg | .releasedir arg => toBytes arg
  | .fsync arg | .fsyncdir arg => toBytes arg
  | .setxattr arg ext name value =>
      toBytes arg ++
        ((if negotiated.contains .fuseSetxattrExt then toBytes ext else []) ++ (cstr name ++ value))
  | .getxattr arg name => toBytes arg ++ cstr name
  | .listxattr arg => toBytes arg
  | .flush arg => toBytes arg
  | .init arg len => (toBytes arg).take len
  | .getlk arg | .setlk arg | .setlkw arg => toBytes arg
  | .access arg => toBytes arg
  | .create arg name | .tmpfile arg name => toBytes arg ++ cstr name
  | .interrupt arg => toBytes arg
  | .bmap arg => toBytes arg
  | .ioctl arg data => toBytes arg ++ data
  | .poll arg => toBytes arg
  | .notifyReply data => data
  | .batchForget arg nodes => toBytes arg ++ listToBytes nodes
  | .fallocate arg => toBytes arg
  | .rename2 arg oldName newName => toBytes arg ++ (cstr oldName ++ cstr newName)
  | .lseek arg => toBytes arg
  | .copyFileRange arg => toBytes arg
  | .syncfs arg => toBytes arg
  | .statx arg => toBytes arg
  | .cuseInit arg => toBytes arg

/-- Names have no NUL in them, lengths are those of what follows, and an INIT is
cut after the four oldest fields at the earliest. -/
def WellFormed : KernelArgs → Prop
  | .lookup name | .unlink name | .rmdir name | .removexattr name => 0 ∉ name
  | .symlink linkName target => 0 ∉ linkName ∧ 0 ∉ target
  | .mknod _ name | .mkdir _ name | .link _ name | .getxattr _ name => 0 ∉ name
  | .create _ name | .tmpfile _ name => 0 ∉ name
  | .rename _ oldName newName | .rename2 _ oldName newName => 0 ∉ oldName ∧ 0 ∉ newName
  | .write arg data => arg.size.toNat = data.length
  | .setxattr arg _ name value => 0 ∉ name ∧ arg.size.toNat = value.length
  | .init _ len => 16 ≤ len ∧ len ≤ 64
  | .ioctl arg data => arg.inSize.toNat ≤ data.length
  | .batchForget arg nodes => arg.count.toNat = nodes.length
  | _ => True

/-- The header of a request is the kernel's but for the two fields that follow
from what is sent. -/
def sentHeader (header : FuseInHeader) (negotiated : InitFlags) (args : KernelArgs) :
    FuseInHeader :=
  { header with
    len := UInt32.ofNat (40 + (args.body negotiated).length)
    opcode := args.opcode.code }

def encode (header : FuseInHeader) (negotiated : InitFlags) (args : KernelArgs) : List UInt8 :=
  toBytes (args.sentHeader header negotiated) ++ args.body negotiated

/-- The operation the arguments stand for. -/
def operation (header : FuseInHeader) (negotiated : InitFlags) : KernelArgs → Operation
  | .lookup name => .lookup ⟨header, name⟩
  | .forget arg => .forget ⟨header, arg⟩
  | .getattr arg => .getAttr ⟨header, arg⟩
  | .setattr arg => .setAttr ⟨header, arg⟩
  | .readlink => .readLink ⟨header⟩
  | .symlink linkName target => .symLink ⟨header, target, linkName⟩
  | .mknod arg name => .mkNod ⟨header, arg, name⟩
  | .mkdir arg name => .mkDir ⟨header, arg, name⟩
  | .unlink name => .unlink ⟨header, name⟩
  | .rmdir name => .rmDir ⟨header, name⟩
  | .rename arg oldName newName => .rename ⟨header, arg, oldName, newName⟩
  | .link arg name => .link ⟨header, arg, name⟩
  | .opn arg => .open ⟨header, arg⟩
  | .read arg => .read ⟨header, arg⟩
  | .write arg data => .write ⟨header, arg, data⟩
  | .statfs => .statFs ⟨header⟩
  | .release arg => .release ⟨header, arg⟩
  | .fsync arg => .fSync ⟨header, arg⟩
  | .setxattr arg ext name value =>
      .setXAttr ⟨header, arg,
        if negotiated.contains .fuseSetxattrExt then ext.setxattrFlags else 0, name, value⟩
  | .getxattr arg name => .getXAttr ⟨header, arg, name⟩
  | .listxattr arg => .listXAttr ⟨header, arg⟩
  | .removexattr name => .removeXAttr ⟨header, name⟩
  | .flush arg => .flush ⟨header, arg⟩
  | .init arg len => .init ⟨header, initArg ((toBytes arg).take len)⟩
  | .opendir arg => .openDir ⟨header, arg⟩
  | .readdir arg => .readDir ⟨header, arg⟩
  | .releasedir arg => .releaseDir ⟨header, arg⟩
  | .fsyncdir arg => .fSyncDir ⟨header, arg⟩
  | .getlk arg => .getLk ⟨header, arg⟩
  | .setlk arg => .setLk ⟨header, arg, false⟩
  | .setlkw arg => .setLk ⟨header, arg, true⟩
  | .access arg => .access ⟨header, arg⟩
  | .create arg name => .create ⟨header, arg, name⟩
  | .interrupt arg => .interrupt ⟨header, arg⟩
  | .bmap arg => .bMap ⟨header, arg⟩
  | .destroy => .destroy ⟨header⟩
  | .ioctl arg data => .ioCtl ⟨header, arg, data⟩
  | .poll arg => .poll ⟨header, arg⟩
  | .notifyReply data => .notifyReply ⟨header, data⟩
  | .batchForget arg nodes => .batchForget ⟨header, arg, nodes⟩
  | .fallocate arg => .fAllocate ⟨header, arg⟩
  | .readdirplus arg => .readDirPlus ⟨header, arg⟩
  | .rename2 arg oldName newName => .rename2 ⟨header, arg, oldName, newName, ⟨header.nodeid⟩⟩
  | .lseek arg => .lseek ⟨header, arg⟩
  | .copyFileRange arg => .copyFileRange ⟨header, arg⟩
  | .syncfs arg => .syncFs ⟨header, arg⟩
  | .tmpfile arg name => .tmpFile ⟨header, arg, name⟩
  | .statx arg => .statX ⟨header, arg⟩
  | .cuseInit arg => .cuseInit ⟨header, arg⟩

end KernelArgs

section Run

variable {α : Type} [ReprC α] {addr : Nat}

theorem run_name (f : OsStr → Operation) {name : OsStr} (hname : 0 ∉ name) :
    ((do return f (← fetchStr) : Method ArgumentIterator Unit Operation).run
      (.new ⟨addr, KernelArgs.cstr name⟩)).1 = .ok (f name) := by
  rw [new, KernelArgs.cstr, Method.run_bind_of_ok _ (run_fetchStr_append addr name [] hname),
    Method.run_pure]

theorem run_names (f : OsStr → OsStr → Operation) {first second : OsStr} (hfirst : 0 ∉ first)
    (hsecond : 0 ∉ second) :
    ((do return f (← fetchStr) (← fetchStr) : Method ArgumentIterator Unit Operation).run
      (.new ⟨addr, KernelArgs.cstr first ++ KernelArgs.cstr second⟩)).1 =
      .ok (f first second) := by
  have hstr := run_fetchStr_append addr first (KernelArgs.cstr second) hfirst
  have hcstr : KernelArgs.cstr first ++ KernelArgs.cstr second =
      first ++ 0 :: KernelArgs.cstr second := List.append_assoc ..
  rw [hcstr, new, Method.run_bind_of_ok _ hstr]
  exact run_name (f first) hsecond

theorem run_arg (f : α → Operation) (arg : α) (h : addr % ReprC.align α = 0) :
    ((do return f (← fetch α) : Method ArgumentIterator Unit Operation).run
      (.new ⟨addr, toBytes arg⟩)).1 = .ok (f arg) := by
  have hfetch := run_fetch_toBytes addr arg [] h
  rw [List.append_nil] at hfetch
  rw [new, Method.run_bind_of_ok _ hfetch, Method.run_pure]

theorem run_arg_then (f : α → Method ArgumentIterator Unit Operation) (arg : α)
    (rest : List UInt8) (h : addr % ReprC.align α = 0) :
    ((do f (← fetch α) : Method ArgumentIterator Unit Operation).run
      (.new ⟨addr, toBytes arg ++ rest⟩)).1 =
      ((f arg).run (.new ⟨addr + ReprC.size α, rest⟩)).1 := by
  rw [new, Method.run_bind_of_ok _ (run_fetch_toBytes addr arg rest h)]
  rfl

theorem run_arg_name (f : α → OsStr → Operation) (arg : α) {name : OsStr} (hname : 0 ∉ name)
    (h : addr % ReprC.align α = 0) :
    ((do return f (← fetch α) (← fetchStr) : Method ArgumentIterator Unit Operation).run
      (.new ⟨addr, toBytes arg ++ KernelArgs.cstr name⟩)).1 = .ok (f arg name) := by
  rw [run_arg_then _ arg _ h]
  exact run_name (f arg) hname

theorem run_arg_names (f : α → OsStr → OsStr → Operation) (arg : α) {first second : OsStr}
    (hfirst : 0 ∉ first) (hsecond : 0 ∉ second) (h : addr % ReprC.align α = 0) :
    ((do return f (← fetch α) (← fetchStr) (← fetchStr) :
      Method ArgumentIterator Unit Operation).run
      (.new ⟨addr, toBytes arg ++ (KernelArgs.cstr first ++ KernelArgs.cstr second)⟩)).1 =
      .ok (f arg first second) := by
  rw [run_arg_then _ arg _ h]
  exact run_names (f arg) hfirst hsecond

end Run

theorem run_fetchSetxattrFlags_encoded (negotiated : InitFlags) {addr : Nat}
    (haddr : addr % 8 = 0) (ext : FuseSetxattrInExt) (rest : List UInt8) :
    ∃ addr', (fetchSetxattrFlags negotiated).run
        ⟨⟨addr, (if negotiated.contains .fuseSetxattrExt then toBytes ext else []) ++ rest⟩⟩ =
      (.ok (if negotiated.contains .fuseSetxattrExt then ext.setxattrFlags else 0),
        ⟨⟨addr', rest⟩⟩) := by
  rw [fetchSetxattrFlags]
  by_cases hext : negotiated.contains .fuseSetxattrExt
  · refine ⟨addr + ReprC.size FuseSetxattrInExt, ?_⟩
    simp only [if_pos hext]
    rw [Method.run_bind_of_ok _ (run_fetch_toBytes addr ext rest
      (align_of_body haddr (by decide))), Method.run_pure]
  · refine ⟨addr, ?_⟩
    simp only [if_neg hext, List.nil_append]
    rfl

theorem parse_encoded_setxattr (header : FuseInHeader) (negotiated : InitFlags) {addr : Nat}
    (haddr : addr % 8 = 0) (arg : FuseSetxattrIn) (ext : FuseSetxattrInExt) {name : OsStr}
    {value : List UInt8} (hname : 0 ∉ name) (hsize : arg.size.toNat = value.length) :
    parse header .fuseSetxattr
        ⟨addr, (KernelArgs.setxattr arg ext name value).body negotiated⟩ negotiated =
      .ok ((KernelArgs.setxattr arg ext name value).operation header negotiated) := by
  have haddr8 : (addr + ReprC.size FuseSetxattrIn) % 8 = 0 := by
    have hsize8 : ReprC.size FuseSetxattrIn = 8 := rfl
    omega
  have hagree : ¬ value.length ≠ arg.size.toNat := fun h => h hsize.symm
  obtain ⟨addr', hflags⟩ := run_fetchSetxattrFlags_encoded negotiated haddr8 ext
    (KernelArgs.cstr name ++ value)
  have hstr := run_fetchStr_append addr' name value hname
  have hcstr : KernelArgs.cstr name ++ value = name ++ 0 :: value := List.append_assoc ..
  rw [parse, parseArgs, KernelArgs.body, KernelArgs.operation,
    run_arg_then _ arg _ (align_of_body haddr (by decide)), new,
    Method.run_bind_of_ok _ hflags, hcstr, Method.run_bind_of_ok _ hstr,
    Method.run_bind_of_ok _ (run_fetchAll _), if_neg hagree, Method.run_pure]

theorem parse_encoded_write (header : FuseInHeader) (negotiated : InitFlags) {addr : Nat}
    (haddr : addr % 8 = 0) (arg : FuseWriteIn) {data : List UInt8}
    (hsize : arg.size.toNat = data.length) :
    parse header .fuseWrite ⟨addr, toBytes arg ++ data⟩ negotiated =
      .ok (.write ⟨header, arg, data⟩) := by
  rw [parse, parseArgs, run_arg_then _ arg _ haddr, new,
    Method.run_bind_of_ok _ (run_fetchAll _), if_pos hsize.symm, Method.run_pure]

theorem parse_encoded_ioctl (header : FuseInHeader) (negotiated : InitFlags) {addr : Nat}
    (haddr : addr % 8 = 0) (arg : FuseIoctlIn) (data : List UInt8) :
    parse header .fuseIoctl ⟨addr, toBytes arg ++ data⟩ negotiated =
      .ok (.ioCtl ⟨header, arg, data⟩) := by
  rw [parse, parseArgs, run_arg_then _ arg _ haddr, new,
    Method.run_bind_of_ok _ (run_fetchAll _), Method.run_pure]

theorem parse_encoded_init (header : FuseInHeader) (negotiated : InitFlags) {addr : Nat}
    (arg : FuseInitIn) {len : Nat} (hlen : 16 ≤ len) :
    parse header .fuseInit ⟨addr, (toBytes arg).take len⟩ negotiated =
      .ok (.init ⟨header, initArg ((toBytes arg).take len)⟩) := by
  have hlong : ¬ ((toBytes arg).take len).length < offsetOfFlags2 := by
    have hsize : ReprC.size FuseInitIn = 64 := rfl
    have hoffset : offsetOfFlags2 = 16 := rfl
    rw [List.length_take, length_toBytes]
    omega
  rw [parse, parseArgs, new, Method.run_bind_of_ok _ (run_fetchAll _), if_neg hlong,
    Method.run_pure]

theorem parse_encoded_batchForget (header : FuseInHeader) (negotiated : InitFlags) {addr : Nat}
    (haddr : addr % 8 = 0) (arg : FuseBatchForgetIn) {nodes : List FuseForgetOne}
    (hcount : arg.count.toNat = nodes.length) :
    parse header .fuseBatchForget ⟨addr, toBytes arg ++ listToBytes nodes⟩ negotiated =
      .ok (.batchForget ⟨header, arg, nodes⟩) := by
  have haddr8 : (addr + ReprC.size FuseBatchForgetIn) % ReprC.align FuseForgetOne = 0 := by
    have hsize8 : ReprC.size FuseBatchForgetIn = 8 := rfl
    exact align_of_body (by omega) (by decide)
  have hslice := run_fetchSlice_listToBytes (addr + ReprC.size FuseBatchForgetIn) nodes [] haddr8
  rw [List.append_nil, ← hcount] at hslice
  rw [parse, parseArgs, run_arg_then _ arg _ (align_of_body haddr (by decide)), new,
    Method.run_bind_of_ok _ hslice, Method.run_pure]

/-- Parsing undoes the kernel's encoding of a body. -/
theorem parse_body (header : FuseInHeader) (negotiated : InitFlags) {addr : Nat}
    (haddr : addr % 8 = 0) (args : KernelArgs) (hwf : args.WellFormed) :
    parse header args.opcode ⟨addr, args.body negotiated⟩ negotiated =
      .ok (args.operation header negotiated) := by
  cases args with
  | readlink | statfs | destroy => rfl
  | notifyReply data => rfl
  | lookup name | unlink name | rmdir name | removexattr name => exact run_name _ hwf
  | symlink linkName target =>
      exact run_names (fun linkName target => .symLink ⟨header, target, linkName⟩) hwf.1 hwf.2
  | mknod arg name | mkdir arg name | link arg name | getxattr arg name | create arg name
  | tmpfile arg name =>
      exact run_arg_name _ arg hwf (align_of_body haddr (by decide))
  | rename arg oldName newName | rename2 arg oldName newName =>
      exact run_arg_names _ arg hwf.1 hwf.2 (align_of_body haddr (by decide))
  | write arg data => exact parse_encoded_write header negotiated haddr arg hwf
  | setxattr arg ext name value =>
      exact parse_encoded_setxattr header negotiated haddr arg ext hwf.1 hwf.2
  | init arg len => exact parse_encoded_init header negotiated arg hwf.1
  | ioctl arg data => exact parse_encoded_ioctl header negotiated haddr arg data
  | batchForget arg nodes => exact parse_encoded_batchForget header negotiated haddr arg hwf
  | _ => exact run_arg _ _ (align_of_body haddr (by decide))

/-- A message is framed by its own length, whatever bytes are left behind it in
the buffer. -/
theorem tryFrom_encode (header : FuseInHeader) (negotiated : InitFlags) (args : KernelArgs)
    {addr : Nat} (haddr : addr % 8 = 0) (hlen : 40 + (args.body negotiated).length < 2 ^ 32)
    (stale : List UInt8) :
    AnyRequest.tryFrom ⟨addr, args.encode header negotiated ++ stale⟩ =
      .ok ⟨args.sentHeader header negotiated, ⟨addr + 40, args.body negotiated⟩, 0⟩ := by
  have hbytes : args.encode header negotiated ++ stale =
      toBytes (args.sentHeader header negotiated) ++ (args.body negotiated ++ stale) :=
    List.append_assoc ..
  have hheader : ofBytes FuseInHeader (args.encode header negotiated ++ stale) =
      args.sentHeader header negotiated := by
    rw [hbytes, ofBytes_toBytes_append]
  have hmessage : AnyRequest.messageLen (args.encode header negotiated ++ stale) =
      40 + (args.body negotiated).length := by
    rw [← AnyRequest.header_len, hheader]
    exact Nat.mod_eq_of_lt hlen
  have hsent : (toBytes (args.sentHeader header negotiated)).length = 40 := length_toBytes _
  have htotal : (args.encode header negotiated ++ stale).length =
      40 + (args.body negotiated).length + stale.length := by
    rw [hbytes, List.length_append, List.length_append, hsent, Nat.add_assoc]
  rw [AnyRequest.tryFrom_of_header haddr (by omega), hmessage, hheader, htotal,
    if_neg (by omega), if_pos (by omega), hbytes, List.drop_left' hsent,
    Nat.add_sub_cancel_left, List.take_left' rfl]

/-- The fields of a short `fuse_init_in`: the four oldest are complete, and of
the next one the bytes that were sent count. -/
theorem initArg_take (arg : FuseInitIn) {len : Nat} (hlen : 16 ≤ len) :
    (initArg ((toBytes arg).take len)).major = arg.major ∧
    (initArg ((toBytes arg).take len)).minor = arg.minor ∧
    (initArg ((toBytes arg).take len)).maxReadahead = arg.maxReadahead ∧
    (initArg ((toBytes arg).take len)).flags = arg.flags ∧
    (initArg ((toBytes arg).take len)).flags2.toNat = arg.flags2.toNat % 256 ^ (len - 16) := by
  let unused := (u32.vector 11).encode arg.unused
  have hbytes : toBytes arg = (u32.encode arg.major ++ (u32.encode arg.minor ++
      (u32.encode arg.maxReadahead ++ u32.encode arg.flags))) ++
      (u32.encode arg.flags2 ++ unused) := by
    simp only [List.append_assoc]
    rfl
  have hfour : (u32.encode arg.major ++ (u32.encode arg.minor ++
      (u32.encode arg.maxReadahead ++ u32.encode arg.flags))).length = 16 := by
    simp only [List.length_append, u32.length_encode]
    rfl
  have htake : (toBytes arg).take len = u32.encode arg.major ++ (u32.encode arg.minor ++
      (u32.encode arg.maxReadahead ++ (u32.encode arg.flags ++
        (u32.encode arg.flags2 ++ unused).take (len - 16)))) := by
    rw [hbytes, List.take_append, hfour, List.take_of_length_le (by omega)]
    simp only [List.append_assoc]
  have hcopied : ((toBytes arg).take len).length ≤ ReprC.size FuseInitIn := by
    rw [List.length_take, length_toBytes]
    exact Nat.min_le_right ..
  obtain ⟨zeros, hzeros⟩ : ∃ zeros, initArg ((toBytes arg).take len) =
      ofBytes FuseInitIn ((toBytes arg).take len ++ List.replicate zeros 0) := by
    refine ⟨ReprC.size FuseInitIn - ((toBytes arg).take len).length, ?_⟩
    rw [initArg, Nat.min_eq_left hcopied, List.take_length]
  rw [hzeros, htake]
  have hcodec (bs : List UInt8) : ofBytes FuseInitIn bs = FuseInitIn.codec.decode bs := rfl
  rw [hcodec]
  simp only [FuseInitIn.codec, Codec.decode_map, List.append_assoc, Codec.decode_prod_encode,
    true_and]
  exact u32_decode_take arg.flags2 unused (len - 16) zeros

/-- A file offset, if the kernel's number is one. -/
def fileOffset (value : UInt64) : Outcome Errno UInt64 :=
  if value.toNat < 2 ^ 63 then .ok value else .err .einval

theorem validateOffT_pure (value : UInt64) :
    (do validateOffT value; return value : Outcome Errno UInt64) = fileOffset value := by
  rw [validateOffT, fileOffset]
  by_cases h : value.toNat < 2 ^ 63
  · rw [if_pos h, if_neg (by omega)]
    rfl
  · rw [if_neg h, if_pos (by omega)]
    rfl

theorem validateOffT_bind {α : Type} (value : UInt64) (f : UInt64 → α) :
    (do validateOffT value; return f value : Outcome Errno α) =
      (do return f (← fileOffset value)) := by
  rw [← validateOffT_pure, validateOffT]
  by_cases h : value.toNat > 2 ^ 63 - 1
  · rw [if_pos h]
    rfl
  · rw [if_neg h]
    rfl

/-- A time of the wire: the nanoseconds count forward from the second. -/
def wireTime (secs : Int64) (nsecs : UInt32) : SystemTime :=
  ⟨secs, clampNanos nsecs, clampNanos_lt nsecs⟩

/-- The value, if all bits of `flag` are set. -/
def optional {α : Type} (word flag : UInt32) (value : α) : Option α :=
  if word &&& flag = flag then some value else none

theorem ite_hasFlag {α : Type} (word flag : UInt32) (value : α) :
    (if hasFlag word flag then some value else none) = optional word flag value := by
  simp only [hasFlag, optional, beq_iff_eq]

theorem timeOrNow_eq {ε : Type} (x : Op.SetAttr) (flag nowFlag : UInt32) (secs : Int64)
    (nsecs : UInt32) :
    (x.timeOrNow flag nowFlag secs nsecs : Outcome ε _) =
      .ok (optional x.arg.valid flag
        ((optional x.arg.valid nowFlag .now).getD (.specificTime (wireTime secs nsecs)))) := by
  rw [Op.SetAttr.timeOrNow, ← ite_hasFlag, ← ite_hasFlag, systemTimeFromTime_eq]
  by_cases hflag : hasFlag x.arg.valid flag
  · by_cases hnow : hasFlag x.arg.valid nowFlag
    · simp only [if_pos hflag, if_pos hnow, Option.getD_some]
    · simp only [if_pos hflag, if_neg hnow, Option.getD_none]
      rfl
  · simp only [if_neg hflag]

theorem ctime_eq {ε : Type} (x : Op.SetAttr) :
    (x.ctime : Outcome ε _) =
      .ok (optional x.arg.valid fattrCtime (wireTime x.arg.ctime x.arg.ctimensec)) := by
  rw [Op.SetAttr.ctime, ← ite_hasFlag, systemTimeFromTime_eq]
  by_cases hflag : hasFlag x.arg.valid fattrCtime
  · simp only [if_pos hflag]
    rfl
  · simp only [if_neg hflag]

namespace KernelArgs

/-- What the accessors of the operation give: the fields the kernel wrote. -/
def ReadBack (header : FuseInHeader) (negotiated : InitFlags) (op : Operation) :
    KernelArgs → Prop
  | .lookup name => ∃ x, op = .lookup x ∧ x.name = name
  | .forget arg => ∃ x, op = .forget x ∧ x.nlookup = arg.nlookup
  | .getattr arg =>
      ∃ x, op = .getAttr x ∧ x.fileHandle = optional arg.getattrFlags 0x1 ⟨arg.fh⟩ ∧
        x.getattrFlags = arg.getattrFlags
  | .statx arg =>
      ∃ x, op = .statX x ∧ x.fileHandle = optional arg.getattrFlags 0x1 ⟨arg.fh⟩ ∧
        x.flags = arg.sxFlags ∧ x.mask = arg.sxMask
  | .setattr arg =>
      ∃ x, op = .setAttr x ∧ x.mode = optional arg.valid 0x1 arg.mode ∧
        x.uid = optional arg.valid 0x2 arg.uid ∧ x.gid = optional arg.valid 0x4 arg.gid ∧
        x.size = optional arg.valid 0x8 arg.size ∧
        (x.atime : Outcome Errno _) = .ok (optional arg.valid 0x10
          ((optional arg.valid 0x80 .now).getD
            (.specificTime (wireTime arg.atime arg.atimensec)))) ∧
        (x.mtime : Outcome Errno _) = .ok (optional arg.valid 0x20
          ((optional arg.valid 0x100 .now).getD
            (.specificTime (wireTime arg.mtime arg.mtimensec)))) ∧
        (x.ctime : Outcome Errno _) =
          .ok (optional arg.valid 0x400 (wireTime arg.ctime arg.ctimensec)) ∧
        x.fileHandle = optional arg.valid 0x40 ⟨arg.fh⟩ ∧
        x.killSuidGid = (arg.valid &&& 0x800 == 0x800) ∧
        x.crtime = none ∧ x.chgtime = none ∧ x.bkuptime = none ∧ x.flags = none
  | .readlink => ∃ x, op = .readLink x
  | .symlink linkName target => ∃ x, op = .symLink x ∧ x.linkName = linkName ∧ x.target = target
  | .mknod arg name =>
      ∃ x, op = .mkNod x ∧ x.name = name ∧ x.mode = arg.mode ∧ x.umask = arg.umask ∧
        x.rdev = arg.rdev
  | .mkdir arg name =>
      ∃ x, op = .mkDir x ∧ x.name = name ∧ x.mode = arg.mode ∧ x.umask = arg.umask
  | .unlink name => ∃ x, op = .unlink x ∧ x.name = name
  | .rmdir name => ∃ x, op = .rmDir x ∧ x.name = name
  | .rename arg oldName newName =>
      ∃ x, op = .rename x ∧ x.src = ⟨⟨header.nodeid⟩, oldName⟩ ∧
        x.dest = ⟨⟨arg.newdir⟩, newName⟩
  | .link arg name =>
      ∃ x, op = .link x ∧ x.inodeNo = ⟨arg.oldnodeid⟩ ∧ x.dest = ⟨⟨header.nodeid⟩, name⟩
  | .opn arg =>
      ∃ x, op = .open x ∧ x.flags = ⟨arg.flags⟩ ∧ x.killSuidGid = (arg.openFlags &&& 0x1 == 0x1)
  | .read arg =>
      ∃ x, op = .read x ∧ x.fileHandle = ⟨arg.fh⟩ ∧ x.offset = fileOffset arg.offset ∧
        x.size = arg.size ∧ x.lockOwner = optional arg.readFlags 0x2 ⟨arg.lockOwner⟩ ∧
        x.flags = ⟨arg.flags⟩ ∧ x.readFlags = arg.readFlags
  | .write arg data =>
      ∃ x, op = .write x ∧ x.fileHandle = ⟨arg.fh⟩ ∧ x.offset = fileOffset arg.offset.toUInt64 ∧
        x.data = data ∧ x.writeFlags = arg.writeFlags ∧
        x.lockOwner = optional arg.writeFlags 0x2 ⟨arg.lockOwner⟩ ∧ x.flags = ⟨arg.flags⟩
  | .statfs => ∃ x, op = .statFs x
  | .release arg =>
      ∃ x, op = .release x ∧ x.flush = (arg.releaseFlags &&& 0x1 == 0x1) ∧
        x.fileHandle = ⟨arg.fh⟩ ∧ x.flags = ⟨arg.flags⟩ ∧
        x.lockOwner = optional arg.releaseFlags 0x2 ⟨arg.lockOwner⟩ ∧
        x.releaseFlags = arg.releaseFlags
  | .fsync arg =>
      ∃ x, op = .fSync x ∧ x.fileHandle = ⟨arg.fh⟩ ∧ x.fdatasync = (arg.fsyncFlags &&& 0x1 == 0x1)
  | .setxattr arg ext name value =>
      ∃ x, op = .setXAttr x ∧ x.name = name ∧ x.value = value ∧ x.flags = arg.flags ∧
        x.setxattrFlags =
          (if negotiated.contains .fuseSetxattrExt then ext.setxattrFlags else 0) ∧
        x.position = 0
  | .getxattr arg name =>
      ∃ x, op = .getXAttr x ∧ x.name = name ∧ x.sizeU32 = arg.size ∧
        x.size = if h : arg.size = 0 then .getSize else .size ⟨arg.size, h⟩
  | .listxattr arg => ∃ x, op = .listXAttr x ∧ x.size = arg.size
  | .removexattr name => ∃ x, op = .removeXAttr x ∧ x.name = name
  | .flush arg =>
      ∃ x, op = .flush x ∧ x.fileHandle = ⟨arg.fh⟩ ∧ x.lockOwner = ⟨arg.lockOwner⟩
  | .init arg len =>
      ∃ x, op = .init x ∧ x.version = ⟨arg.major, arg.minor⟩ ∧
        x.maxReadahead = arg.maxReadahead ∧
        x.capabilities.toNat =
          if arg.flags.toNat.testBit 30 then
            arg.flags.toNat + arg.flags2.toNat % 256 ^ (len - 16) * 2 ^ 32
          else arg.flags.toNat
  | .opendir arg => ∃ x, op = .openDir x ∧ x.flags = ⟨arg.flags⟩
  | .readdir arg =>
      ∃ x, op = .readDir x ∧ x.fileHandle = ⟨arg.fh⟩ ∧ x.offset = arg.offset ∧ x.size = arg.size
  | .releasedir arg =>
      ∃ x, op = .releaseDir x ∧ x.flush = (arg.releaseFlags &&& 0x1 == 0x1) ∧
        x.fileHandle = ⟨arg.fh⟩ ∧ x.flags = ⟨arg.flags⟩ ∧
        x.lockOwner = optional arg.releaseFlags 0x2 ⟨arg.lockOwner⟩ ∧
        x.releaseFlags = arg.releaseFlags
  | .fsyncdir arg =>
      ∃ x, op = .fSyncDir x ∧ x.fileHandle = ⟨arg.fh⟩ ∧
        x.fdatasync = (arg.fsyncFlags &&& 0x1 == 0x1)
  | .getlk arg =>
      ∃ x, op = .getLk x ∧ x.fileHandle = ⟨arg.fh⟩ ∧
        x.lock = ⟨(arg.lk.start, arg.lk.stop), arg.lk.typ, arg.lk.pid⟩ ∧
        x.lockOwner = ⟨arg.owner⟩
  | .setlk arg =>
      ∃ x, op = .setLk x ∧ x.fileHandle = ⟨arg.fh⟩ ∧
        x.lock = ⟨(arg.lk.start, arg.lk.stop), arg.lk.typ, arg.lk.pid⟩ ∧
        x.lockOwner = ⟨arg.owner⟩ ∧ x.sleep = false
  | .setlkw arg =>
      ∃ x, op = .setLk x ∧ x.fileHandle = ⟨arg.fh⟩ ∧
        x.lock = ⟨(arg.lk.start, arg.lk.stop), arg.lk.typ, arg.lk.pid⟩ ∧
        x.lockOwner = ⟨arg.owner⟩ ∧ x.sleep = true
  | .access arg => ∃ x, op = .access x ∧ x.mask = arg.mask
  | .create arg name =>
      ∃ x, op = .create x ∧ x.name = name ∧ x.mode = arg.mode ∧ x.flags = arg.flags ∧
        x.umask = arg.umask ∧ x.killSuidGid = (arg.openFlags &&& 0x1 == 0x1)
  | .interrupt arg => ∃ x, op = .interrupt x ∧ x.unique = ⟨arg.unique⟩
  | .bmap arg => ∃ x, op = .bMap x ∧ x.blockSize = arg.blocksize ∧ x.block = arg.block
  | .destroy => ∃ x, op = .destroy x
  | .ioctl arg data =>
      ∃ x, op = .ioCtl x ∧
        (x.inData : Outcome Errno _) = .ok (data.take arg.inSize.toNat) ∧
        x.unrestricted = (arg.flags &&& 0x2 == 0x2) ∧ x.fileHandle = ⟨arg.fh⟩ ∧
        x.flags = arg.flags ∧ x.command = arg.cmd ∧ x.outSize = arg.outSize
  | .poll arg =>
      ∃ x, op = .poll x ∧ x.fileHandle = ⟨arg.fh⟩ ∧ x.kernelHandle = ⟨arg.kh⟩ ∧
        x.events = arg.events ∧ x.flags = arg.flags
  | .notifyReply data => ∃ x, op = .notifyReply x ∧ x.arg = data
  | .batchForget _ nodes => ∃ x, op = .batchForget x ∧ x.nodes = nodes
  | .fallocate arg =>
      ∃ x, op = .fAllocate x ∧ x.fileHandle = ⟨arg.fh⟩ ∧ x.offset = fileOffset arg.offset ∧
        x.len = fileOffset arg.length ∧ x.mode = arg.mode
  | .readdirplus arg =>
      ∃ x, op = .readDirPlus x ∧ x.fileHandle = ⟨arg.fh⟩ ∧ x.offset = arg.offset ∧
        x.size = arg.size
  | .rename2 arg oldName newName =>
      ∃ x, op = .rename2 x ∧ x.from = ⟨⟨header.nodeid⟩, oldName⟩ ∧
        x.to = ⟨⟨arg.newdir⟩, newName⟩ ∧ x.flags = arg.flags
  | .lseek arg =>
      ∃ x, op = .lseek x ∧ x.fileHandle = ⟨arg.fh⟩ ∧ x.offset = arg.offset ∧
        x.whence = arg.whence
  | .copyFileRange arg =>
      ∃ x, op = .copyFileRange x ∧
        x.src = (do return ⟨⟨header.nodeid⟩, ⟨arg.fhIn⟩, ← fileOffset arg.offIn.toUInt64⟩) ∧
        x.dest = (do return ⟨⟨arg.nodeidOut⟩, ⟨arg.fhOut⟩, ← fileOffset arg.offOut.toUInt64⟩) ∧
        x.len = arg.len ∧ x.flags = arg.flags
  | .syncfs arg => ∃ x, op = .syncFs x ∧ x.arg = arg
  | .tmpfile arg _ =>
      ∃ x, op = .tmpFile x ∧ x.mode = arg.mode ∧ x.flags = arg.flags ∧ x.umask = arg.umask ∧
        x.killSuidGid = (arg.openFlags &&& 0x1 == 0x1)
  | .cuseInit arg => ∃ x, op = .cuseInit x ∧ x.arg = arg

theorem readBack_setattr (header : FuseInHeader) (negotiated : InitFlags)
    (arg : FuseSetattrIn) :
    (setattr arg).ReadBack header negotiated ((setattr arg).operation header negotiated) := by
  refine ⟨_, rfl, ?_⟩
  refine ⟨ite_hasFlag .., ite_hasFlag .., ite_hasFlag .., ite_hasFlag .., timeOrNow_eq ..,
    timeOrNow_eq .., ctime_eq .., ite_hasFlag .., rfl, rfl, rfl, rfl, rfl⟩

theorem readBack_init (header : FuseInHeader) (negotiated : InitFlags) (arg : FuseInitIn)
    {len : Nat} (hlen : 16 ≤ len) :
    (init arg len).ReadBack header negotiated ((init arg len).operation header negotiated) := by
  obtain ⟨hmajor, hminor, hreadahead, hflags, hflags2⟩ := initArg_take arg hlen
  refine ⟨_, rfl, ?_, hreadahead, ?_⟩
  · rw [Op.Init.version, hmajor, hminor]
  · rw [Op.Init.capabilities_toNat, hflags, hflags2]

theorem readBack_ioctl (header : FuseInHeader) (negotiated : InitFlags) (arg : FuseIoctlIn)
    {data : List UInt8} (hsize : arg.inSize.toNat ≤ data.length) :
    (ioctl arg data).ReadBack header negotiated
      ((ioctl arg data).operation header negotiated) := by
  refine ⟨_, rfl, ?_, rfl, rfl, rfl, rfl, rfl⟩
  rw [Op.IoCtl.inData, if_pos hsize]

/-- The accessors of an operation give the fields it was made from. -/
theorem readBack_operation (header : FuseInHeader) (negotiated : InitFlags) (args : KernelArgs)
    (hwf : args.WellFormed) :
    args.ReadBack header negotiated (args.operation header negotiated) := by
  cases args with
  | setattr arg => exact readBack_setattr header negotiated arg
  | init arg len => exact readBack_init header negotiated arg hwf.1
  | ioctl arg data => exact readBack_ioctl header negotiated arg hwf
  | getattr arg => exact ⟨_, rfl, ite_hasFlag .., rfl⟩
  | statx arg => exact ⟨_, rfl, ite_hasFlag .., rfl, rfl⟩
  | read arg => exact ⟨_, rfl, rfl, validateOffT_pure _, rfl, ite_hasFlag .., rfl, rfl⟩
  | write arg data =>
      exact ⟨_, rfl, rfl, validateOffT_pure _, rfl, rfl, ite_hasFlag .., rfl⟩
  | release arg | releasedir arg => exact ⟨_, rfl, rfl, rfl, rfl, ite_hasFlag .., rfl⟩
  | fallocate arg =>
      exact ⟨_, rfl, rfl, validateOffT_pure _, validateOffT_pure _, rfl⟩
  | copyFileRange arg =>
      refine ⟨_, rfl, ?_, ?_, rfl, rfl⟩
      · exact validateOffT_bind _ (Op.CopyFileRangeFile.mk ⟨header.nodeid⟩ ⟨arg.fhIn⟩)
      · exact validateOffT_bind _ (Op.CopyFileRangeFile.mk ⟨arg.nodeidOut⟩ ⟨arg.fhOut⟩)
  | readlink | statfs | destroy => exact ⟨_, rfl⟩
  | lookup name | forget arg | unlink name | rmdir name | listxattr arg | removexattr name
  | opendir arg | access arg | interrupt arg | notifyReply data | batchForget arg nodes
  | syncfs arg | cuseInit arg => exact ⟨_, rfl, rfl⟩
  | symlink linkName target | rename arg oldName newName | link arg name | opn arg | fsync arg
  | flush arg | fsyncdir arg | bmap arg => exact ⟨_, rfl, rfl, rfl⟩
  | getxattr arg name | mkdir arg name | readdir arg | getlk arg | readdirplus arg | rename2 arg oldName newName
  | lseek arg => exact ⟨_, rfl, rfl, rfl, rfl⟩
  | mknod arg name | setlk arg | setlkw arg | poll arg | tmpfile arg name =>
      exact ⟨_, rfl, rfl, rfl, rfl, rfl⟩
  | setxattr arg ext name value | create arg name => exact ⟨_, rfl, rfl, rfl, rfl, rfl, rfl⟩

/-- Reading undoes writing, for every opcode: a message the kernel encoded is
framed and parsed to the operation it encodes, whatever follows it. -/
theorem operation_encode (header : FuseInHeader) (negotiated : InitFlags) (args : KernelArgs)
    (hwf : args.WellFormed) (hlen : 40 + (args.body negotiated).length < 2 ^ 32)
    (addr : Nat) (haddr : addr % 8 = 0) (g : List UInt8) :
    ∃ request, AnyRequest.tryFrom ⟨addr, args.encode header negotiated ++ g⟩ = .ok request ∧
      request.header = args.sentHeader header negotiated ∧
      ∃ op, (request.setNegotiated negotiated).operation = .ok op ∧
        args.ReadBack header negotiated op := by
  refine ⟨_, tryFrom_encode header negotiated args haddr hlen g, rfl,
    args.operation (args.sentHeader header negotiated) negotiated, ?_, ?_⟩
  · have hop : FuseOpcode.tryFrom (args.sentHeader header negotiated).opcode = some args.opcode :=
      FuseOpcode.tryFrom_code args.opcode
    have haddr40 : (addr + 40) % 8 = 0 := by omega
    have hparse := parse_body (args.sentHeader header negotiated) negotiated haddr40 args hwf
    rw [AnyRequest.setNegotiated, AnyRequest.operation_eq hop, hparse]
    rfl
  · exact readBack_operation (args.sentHeader header negotiated) negotiated args hwf

/-- An extended SETXATTR of the name `foo` to the value `bar`. -/
def setxattrFoo : KernelArgs := setxattr ⟨3, 0⟩ ⟨1, 0⟩ [0x66, 0x6f, 0x6f] [0x62, 0x61, 0x72]

theorem operation_encode_setxattr :
    setxattrFoo.WellFormed ∧
    ∃ request, AnyRequest.tryFrom
        ⟨8, setxattrFoo.encode (ofBytes FuseInHeader []) .fuseSetxattrExt ++ [0xff]⟩ =
        .ok request ∧
      request.header = setxattrFoo.sentHeader (ofBytes FuseInHeader []) .fuseSetxattrExt ∧
      ∃ op, (request.setNegotiated .fuseSetxattrExt).operation = .ok op ∧
        setxattrFoo.ReadBack (ofBytes FuseInHeader []) .fuseSetxattrExt op := by
  have hwf : setxattrFoo.WellFormed := ⟨by decide, by decide⟩
  exact ⟨hwf, operation_encode _ _ setxattrFoo hwf (by decide) 8 (by decide) _⟩

end KernelArgs

end Fuser
