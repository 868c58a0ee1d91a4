import Fuser.Foundation.Calls
import Fuser.Handshake
import Fuser.Mount
import Fuser.MountOptions

/-!
How a filesystem is mounted and unmounted on Linux: by mount(2) and the fusermount
helper, by libfuse 2 or by libfuse 3. Each of the three is a program that makes calls
to the system, the helper or libfuse, and goes on with the answers.

What goes out of scope is dropped by a call as well, so that the order in which things
are closed and destroyed can be seen in a run, on every way out of a function.
-/

namespace Fuser.Mnt

open Rust Calls

/-- What a process leaves: its exit status, as it is displayed, and what it wrote. -/
structure Output where
  success : Bool
  status : String
  stdout : List UInt8
  stderr : List UInt8

inductive MountError where
  | option (e : MountOptionError)
  | io (e : IoError)
  /-- Of the kind of `e`; the text says what could not be reached. -/
  | context (what : OsStr) (e : IoError)
  | notFound (message : String)
  | permissionDenied (message : List UInt8)
  | unexpectedEof (message : String)
  | other (message : List UInt8)
  | mount (call : MountCall) (errno : Errno)
  /-- `fusermount` failed to unmount; the text has its status and what it wrote. -/
  | unmount (output : Output)

/-- What a poll for no events says of one descriptor. -/
inductive PollAnswer where
  | quiet
  | ready (pollerr : Bool)
  | error (errno : Errno)
  deriving DecidableEq

inductive ControlMessage where
  | scmRights (fds : List Int)
  | other (description : String)

structure RecvMsg where
  bytes : Nat
  cmsgs : Except String (List ControlMessage)

/-- What the filesystem and the kernel make of a handshake that ends. -/
structure HandshakeAnswer (env : HandshakeEnv) (session : Session) where
  events : List ReadEvent
  outcome : Outcome IoError Unit
  ended : (Session.handshake env events ⟨session, [], []⟩).outcome = some outcome

inductive Call where
  | canonicalize (path : OsStr)
  | openFile (path : OsStr)
  | fileMode (fd : Nat)
  | close (fd : Nat)
  -- the device, which is counted by its references
  | openDevice
  | cloneDevice (fd : Nat)
  | dropDevice (fd : Nat)
  | dup (fd : Nat)
  | setCloexec (fd : Nat)
  | poll (fd : Nat)
  | getuid
  | getgid
  | geteuid
  | mount (fd : Nat) (call : MountCall)
  | umount2 (mountpoint : OsStr)
  -- the helper
  | fusermountPath
  | probe (bin : String)
  | socketPair
  | spawn (bin : String) (args : List OsStr) (socket : Nat)
  | recvmsg (socket : Nat)
  | readPipes (child : Nat)
  | waitWithOutput (child : Nat)
  | dropChild (child : Nat)
  | output (bin : String) (args : List OsStr) (device : Option Nat)
  -- libfuse
  | clearErrno
  | lastOsError
  | fuseMountCompat25 (mountpoint : OsStr) (args : List OsStr)
  | fuseSessionNew (args : List OsStr)
  | fuseSessionMount (session : Nat) (mountpoint : OsStr)
  | fuseSessionFd (session : Nat)
  | fuseSessionUnmount (session : Nat)
  | fuseSessionDestroy (session : Nat)
  -- the filesystem
  | hold
  | handshake (fd : Nat) (env : HandshakeEnv) (session : Session)
  | destroy
  | dropFilesystem

abbrev Call.Answer : Call → Type
  | .canonicalize _ => Except IoError OsStr
  | .openFile _ | .openDevice | .dup _ => Except IoError Nat
  | .fileMode _ => Except IoError UInt32
  | .poll _ => PollAnswer
  | .getuid | .getgid | .geteuid => UInt32
  | .mount _ _ | .umount2 _ => Except Errno Unit
  | .fusermountPath => Option (Option String)
  | .probe _ => Bool
  | .socketPair => Except IoError (Nat × Nat)
  | .spawn _ _ _ => Except IoError Nat
  | .recvmsg _ => Except Errno RecvMsg
  | .waitWithOutput _ | .output _ _ _ => Except IoError Output
  | .lastOsError => Int32
  | .fuseMountCompat25 _ _ | .fuseSessionMount _ _ | .fuseSessionFd _ => Int
  | .fuseSessionNew _ => Nat
  | .handshake _ env session => HandshakeAnswer env session
  | .destroy => Option Panic
  | .close _ | .cloneDevice _ | .dropDevice _ | .setCloexec _ | .readPipes _ | .dropChild _
  | .clearErrno | .fuseSessionUnmount _ | .fuseSessionDestroy _ | .hold | .dropFilesystem => Unit

abbrev Sys (α : Type) : Type := Prog Call Call.Answer α

abbrev sys (call : Call) : Sys call.Answer := Prog.send call

abbrev Log : Type := List (Event Call Call.Answer)

/-- The text of an error that names what could not be reached. -/
def context (what : OsStr) (err : IoError) : MountError := .context what err

def DevFuse.openError (err : IoError) : MountError :=
  if err = .os Errno.enoent.code then .notFound "/dev/fuse not found, try 'modprobe fuse'"
  else .context (utf8 "opening /dev/fuse") err

def DevFuse.open : Sys (Outcome MountError Nat) := do
  match ← sys .openDevice with
  | .ok fd => return .ok fd
  | .error err => return .err (DevFuse.openError err)

/-- Whether the connection is alive. The panic names the error by its number. -/
def isMounted (fuseDevice : Nat) : Sys (Outcome MountError Bool) :=
  .retry (.poll fuseDevice) (· = .error .eintr) fun
    | .quiet => return .ok true
    | .ready pollerr => return .ok !pollerr
    | .error err => return .panic (.explicit ("Poll failed with error " ++ toString err.code))

def libcUmount (mnt : OsStr) : Sys (Except Errno Unit) := sys (.umount2 mnt)

def umountArgs (mountpoint : OsStr) : List OsStr :=
  ["-u", "-q", "-z", "--"].map utf8 ++ [mountpoint]

def fusermountUnmount (fusermountBin : String) (mountpoint : OsStr) :
    Sys (Outcome MountError Unit) := do
  match ← sys (.output fusermountBin (umountArgs mountpoint) none) with
  | .error err => return .err (context (utf8 ("running " ++ fusermountBin)) err)
  | .ok output =>
      if output.success then return .ok ()
      else return .err (.unmount output)

/-- `CString::new`, and `unwrap` on its result. -/
def pathCString (path : OsStr) : Outcome MountError OsStr :=
  if path.contains 0 then .panic (.explicit "called Result::unwrap() on an Err value") else .ok path

def libfuseCall (function : String) (call : Call) (succeeded : call.Answer → Bool) :
    Sys (Outcome MountError call.Answer) := do
  sys .clearErrno
  let result ← sys call
  if succeeded result then return .ok result
  else
    let errno ← sys .lastOsError
    return .err (.io (if errno = 0 then .new .other ("libfuse's " ++ function ++ "() failed")
      else .os errno))

inductive MountImpl where
  | pure (mountpoint : OsStr) (autoUnmountSocket : Option Nat)
  | fuse2 (mountpoint : OsStr)
  | fuse3 (fuseSession : Nat) (mountpoint : OsStr)

def closeSocket : Option Nat → Sys Unit
  | none => return ()
  | some socket => sys (.close socket)

/-- What goes out of scope with the implementation; for libfuse 3, its `Drop`. -/
def MountImpl.drop : MountImpl → Sys Unit
  | .pure _ autoUnmountSocket => closeSocket autoUnmountSocket
  | .fuse2 _ => return ()
  | .fuse3 fuseSession _ =>
      if fuseSession = 0 then return () else sys (.fuseSessionDestroy fuseSession)

/-! fuse_pure -/

namespace FusePure

def firstToStart : List String → Sys (Option String)
  | [] => return none
  | name :: names => do
      if ← sys (.probe name) then return some name
      else firstToStart names

def candidates : List String :=
  ["fusermount3", "fusermount", "mount_fusefs", "/sbin/fusermount3", "/sbin/fusermount",
    "/sbin/mount_fusefs", "/bin/fusermount3", "/bin/fusermount"]

def detectFusermountBin : Sys (Outcome MountError String) := do
  match ← sys .fusermountPath with
  | some (some fusermount) => return .ok fusermount
  | some none => return .panic (.expect "FUSERMOUNT_PATH is not UTF-8")
  | none =>
      match ← firstToStart candidates with
      | some name => return .ok name
      | none =>
          return .err (.notFound ("no FUSE mount helper found, tried " ++
            ", ".intercalate candidates ++ " (set FUSERMOUNT_PATH to override)"))

/-- The loop over the control messages of a message. -/
def firstDevice : List ControlMessage → Outcome MountError Nat
  | [] => .err (.io (.new .invalidData "No SCM_RIGHTS message received from fusermount"))
  | .scmRights [] :: cmsgs => firstDevice cmsgs
  | .scmRights (fd :: _) :: _ =>
      if fd < 0 then .err (.io (.new .invalidData "invalid data")) else .ok fd.toNat
  | .other description :: _ =>
      .err (.io (.new .invalidData ("Unknown control message from fusermount: " ++ description)))

/-- What a message holds once it has arrived. -/
def receivedDevice (msg : RecvMsg) : Outcome MountError Nat :=
  if msg.bytes = 0 then .err (.unexpectedEof "Unexpected EOF reading from fusermount")
  else
    match msg.cmsgs with
    | .error e => .err (.io (.new .invalidData e))
    | .ok cmsgs => firstDevice cmsgs

def receiveFusermountMessage (socket : Nat) : Sys (Outcome MountError Nat) :=
  .retry (.recvmsg socket) (fun | .error err => err = .eintr | .ok _ => false) fun
    | .error err => return .err (.io (.os err.code))
    | .ok msg => return receivedDevice msg

/-- The arguments that `fuse_mount_mount_fusefs` starts its helper with. -/
def mountFusefsArgs (fuseFd : Nat) (mountpoint : OsStr) (options : List MountOption)
    (acl : SessionACL) : List OsStr :=
  let optionsStrs := options.map optionToString ++ acl.toMountOption.toList
  let optionArgs := if optionsStrs.isEmpty then [] else ["-o", ",".intercalate optionsStrs]
  optionArgs.map utf8 ++ [utf8 fuseFd.repr, mountpoint]

def fuseMountMountFusefs (fusermountBin : String) (mountpoint : OsStr)
    (options : List MountOption) (acl : SessionACL) :
    Sys (Outcome MountError (Nat × Option Nat)) := do
  let fuseDevice ← DevFuse.open
  .orLeave fuseDevice (return ()) fun fuseFd => do
    let args := mountFusefsArgs fuseFd mountpoint options acl
    match ← sys (.output fusermountBin args (some fuseFd)) with
    | .error err =>
        sys (.dropDevice fuseFd)
        return .err (context (utf8 ("running " ++ fusermountBin)) err)
    | .ok output =>
        if output.success then return .ok (fuseFd, none)
        else
          sys (.dropDevice fuseFd)
          return .err (.other output.stderr)

/-- The error that what the helper wrote is made into. -/
def helperError (stderr : List UInt8) : MountError :=
  if utf8 "only allowed if 'user_allow_other' is set" <:+: stderr then .permissionDenied stderr
  else .other stderr

/-- The rest of `fuse_mount_fusermount`, once the helper has sent the device. -/
def mountedByFusermount (file receiveSocket fusermountChild : Nat) (options : List MountOption) :
    Sys (Outcome MountError (Nat × Option Nat)) := do
  if options.contains .autoUnmount then
    -- the helper keeps running until the socket is closed
    sys (.readPipes fusermountChild)
    sys (.setCloexec file)
    sys (.dropChild fusermountChild)
    return .ok (file, some receiveSocket)
  else
    sys (.close receiveSocket)
    match ← sys (.waitWithOutput fusermountChild) with
    | .error err =>
        sys (.dropDevice file)
        return .err (.io err)
    | .ok _ =>
        sys (.setCloexec file)
        return .ok (file, none)

/-- The rest of `fuse_mount_fusermount`, if the helper has not sent the device. -/
def refusedByFusermount (receiveSocket fusermountChild : Nat) :
    Sys (Outcome MountError (Nat × Option Nat)) := do
  sys (.close receiveSocket)
  match ← sys (.waitWithOutput fusermountChild) with
  | .error _ => return .panic (.explicit "called Result::unwrap() on an Err value")
  | .ok output => return .err (helperError output.stderr)

def fuseMountFusermount (mountpoint : OsStr) (options : List MountOption) (acl : SessionACL) :
    Sys (Outcome MountError (Nat × Option Nat)) := do
  let fusermountBin ← detectFusermountBin
  .orLeave fusermountBin (return ()) fun fusermountBin => do
    if fusermountBin.endsWith "mount_fusefs" then
      fuseMountMountFusefs fusermountBin mountpoint options acl
    else
      match ← sys .socketPair with
      | .error err => return .err (.io err)
      | .ok (childSocket, receiveSocket) =>
          let args := fusermountArgs mountpoint options acl
          match ← sys (.spawn fusermountBin args childSocket) with
          | .error err =>
              sys (.close receiveSocket)
              sys (.close childSocket)
              return .err (context (utf8 ("spawning " ++ fusermountBin)) err)
          | .ok fusermountChild =>
              sys (.close childSocket)
              match ← receiveFusermountMessage receiveSocket with
              | .ok file => mountedByFusermount file receiveSocket fusermountChild options
              | .err _ | .panic _ => refusedByFusermount receiveSocket fusermountChild

/-- The result is `None` where the kernel has refused the mount to a user without
privileges, who is left to the helper. -/
def fuseMountSys (mountpoint : OsStr) (options : List MountOption) (acl : SessionACL) :
    Sys (Outcome MountError (Option Nat)) := do
  match ← sys (.openFile mountpoint) with
  | .error err => return .err (context mountpoint err)
  | .ok dir =>
      let mode ← sys (.fileMode dir)
      sys (.close dir)
      match mode with
      | .error err => return .err (.io err)
      | .ok mountpointMode =>
          if options.contains .autoUnmount then return .panic .assertion
          else
            let file ← DevFuse.open
            .orLeave file (return ()) fun fd => do
              let uid ← sys .getuid
              let gid ← sys .getgid
              -- `fd` is looked at before the ids are asked for
              let call := Fuser.fuseMountSys ⟨fd, mountpointMode, uid, gid⟩ mountpoint options acl
              .orLeave (call.mapErr .option) (sys (.dropDevice fd)) fun call => do
                match ← sys (.mount fd call) with
                | .ok () => return .ok (some fd)
                | .error err =>
                    sys (.dropDevice fd)
                    if err = .eperm then return .ok none
                    else return .err (.mount call err)

def fuseMountPure (mountpoint : OsStr) (options : List MountOption) (acl : SessionACL) :
    Sys (Outcome MountError (Nat × Option Nat)) := do
  if options.contains .autoUnmount then fuseMountFusermount mountpoint options acl
  else
    let res ← fuseMountSys mountpoint options acl
    .orLeave res (return ()) fun
      | some file => return .ok (file, none)
      | none => fuseMountFusermount mountpoint options acl

def new (mountpoint : OsStr) (options : List MountOption) (acl : SessionACL) :
    Sys (Outcome MountError (Nat × MountImpl)) := do
  match ← sys (.canonicalize mountpoint) with
  | .error err => return .err (context mountpoint err)
  | .ok mountpoint =>
      let mounted ← fuseMountPure mountpoint options acl
      .orLeave mounted (return ()) fun (file, sock) =>
        if mountpoint.contains 0 then do
          sys (.dropDevice file)
          closeSocket sock
          return .err (.io (.new .invalidInput "data provided contains a nul byte"))
        else return .ok (file, .pure mountpoint sock)

def fuseUnmountPure (mountpoint : OsStr) : Sys (Outcome MountError Unit) := do
  let fusermountBin ← detectFusermountBin
  .orLeave fusermountBin (return ()) fun fusermountBin =>
    fusermountUnmount fusermountBin mountpoint

def umountNow (mountpoint : OsStr) : Sys (Outcome MountError Unit) := do
  match ← libcUmount mountpoint with
  | .ok () => return .ok ()
  | .error err =>
      if err = .eperm then fuseUnmountPure mountpoint
      else return .err (.io (.os err.code))

def umountImpl (mountpoint : OsStr) (autoUnmountSocket : Option Nat) :
    Sys (Outcome MountError Unit × MountImpl) := do
  match ← umountNow mountpoint with
  | .panic reason => return (.panic reason, .pure mountpoint autoUnmountSocket)
  | result =>
      closeSocket autoUnmountSocket
      return (result, .pure mountpoint none)

end FusePure

/-! fuse2 -/

namespace Fuse2

def new (mountpoint : OsStr) (options : List MountOption) (acl : SessionACL) :
    Sys (Outcome MountError (Nat × MountImpl)) :=
  .orLeave (pathCString mountpoint) (return ()) fun mountpoint =>
    .orLeave (fuseArgs options acl) (return ()) fun args => do
      let fd ← libfuseCall "fuse_mount_compat25" (.fuseMountCompat25 mountpoint args) (0 ≤ ·)
      .orLeave fd (return ()) fun fd => return .ok (fd.toNat, .fuse2 mountpoint)

def umountImpl (mountpoint : OsStr) : Sys (Outcome MountError Unit × MountImpl) := do
  match ← libcUmount mountpoint with
  | .ok () => return (.ok (), .fuse2 mountpoint)
  | .error err =>
      if err = .eperm then
        return (← fusermountUnmount "fusermount" mountpoint, .fuse2 mountpoint)
      else return (.err (.io (.os err.code)), .fuse2 mountpoint)

end Fuse2

/-! fuse3 -/

namespace Fuse3

/-- The steps that may fail while the session is in the guard `mount`, which destroys it. -/
def mountSession (fuseSession : Nat) (mnt : OsStr) (mount : MountImpl) :
    Sys (Outcome MountError (Nat × MountImpl)) := do
  let mounted ← libfuseCall "fuse_session_mount" (.fuseSessionMount fuseSession mnt) (· = 0)
  .orLeave mounted mount.drop fun _ => do
    let fd ← libfuseCall "fuse_session_fd" (.fuseSessionFd fuseSession) (0 ≤ ·)
    .orLeave fd mount.drop fun fd => do
      match ← sys (.dup fd.toNat) with
      | .error err =>
          mount.drop
          return .err (.io err)
      | .ok file => return .ok (file, mount)

def new (mnt : OsStr) (options : List MountOption) (acl : SessionACL) :
    Sys (Outcome MountError (Nat × MountImpl)) :=
  .orLeave (pathCString mnt) (return ()) fun mnt =>
    .orLeave (fuseArgs options acl) (return ()) fun args => do
      let fuseSession ← libfuseCall "fuse_session_new" (.fuseSessionNew args) (· ≠ 0)
      .orLeave fuseSession (return ()) fun fuseSession =>
        mountSession fuseSession mnt (.fuse3 fuseSession mnt)

def umountImpl (fuseSession : Nat) (mountpoint : OsStr) :
    Sys (Outcome MountError Unit × MountImpl) := do
  match ← libcUmount mountpoint with
  | .ok () => return (.ok (), .fuse3 fuseSession mountpoint)
  | .error err =>
      if err = .eperm then
        sys (.fuseSessionUnmount fuseSession)
        sys (.fuseSessionDestroy fuseSession)
        return (.ok (), .fuse3 0 mountpoint)
      else return (.err (.io (.os err.code)), .fuse3 fuseSession mountpoint)

end Fuse3

/-- What the crate was built to mount with. -/
inductive Backend where
  | pure
  | fuse2
  | fuse3

def MountImpl.new : Backend → OsStr → List MountOption → SessionACL →
    Sys (Outcome MountError (Nat × MountImpl))
  | .pure => FusePure.new
  | .fuse2 => Fuse2.new
  | .fuse3 => Fuse3.new

def MountImpl.umountImpl : MountImpl → Sys (Outcome MountError Unit × MountImpl)
  | .pure mountpoint autoUnmountSocket => FusePure.umountImpl mountpoint autoUnmountSocket
  | .fuse2 mountpoint => Fuse2.umountImpl mountpoint
  | .fuse3 fuseSession mountpoint => Fuse3.umountImpl fuseSession mountpoint

structure Mount where
  mountImpl : Option MountImpl
  mountPoint : OsStr
  fuseDevice : Nat

namespace Mount

def new (backend : Backend) (mountpoint : OsStr) (options : List MountOption)
    (acl : SessionACL) : Sys (Outcome MountError (Nat × Mount)) :=
  .orLeave ((checkOptionValues options).mapErr .option) (return ()) fun () => do
    let made ← MountImpl.new backend mountpoint options acl
    .orLeave made (return ()) fun (devFuse, mountImpl) => do
      sys (.cloneDevice devFuse)
      return .ok (devFuse, ⟨some mountImpl, mountpoint, devFuse⟩)

def shouldUnmount (self : Mount) : Sys (Outcome MountError Bool) := isMounted self.fuseDevice

/-- What both `umount` and `Drop` do with the implementation. -/
def teardown (self : Mount) (mount : MountImpl) : Sys (Outcome MountError Unit) := do
  match ← self.shouldUnmount with
  | .ok true =>
      let done ← mount.umountImpl
      done.2.drop
      return done.1
  | .ok false =>
      mount.drop
      return .ok ()
  | .err e =>
      mount.drop
      return .err e
  | .panic reason =>
      mount.drop
      return .panic reason

def umount (self : Mount) : Sys (Outcome MountError Unit) := do
  let result ← match self.mountImpl with
    | some mount => self.teardown mount
    | none => pure (.ok ())
  sys (.dropDevice self.fuseDevice)
  return result

/-- `Drop for Mount`, which reports a failure to the log only. -/
def drop (self : Mount) : Sys (Option Panic) := do
  match ← self.umount with
  | .panic reason => return some reason
  | .ok () | .err _ => return none

end Mount

/-! What a teardown may do, in which order -/

/-- How far a teardown has got. -/
inductive Phase where
  | polling
  /-- The poll has failed, which panics. -/
  | crashed
  /-- The connection is dead, and the mount is left alone. -/
  | dead
  | alive
  | refused
  /-- Who was asked to unmount has said whether it did. -/
  | answered (undone : Bool)
  /-- The mount was left to libfuse, which does not say what it did. -/
  | entrusted
  deriving DecidableEq

/-- Calls that undo a mount, or that ask another program to. -/
def Call.unmounts : Call → Bool
  | .umount2 _ | .output _ _ none | .fuseSessionUnmount _ => true
  | _ => false

def Call.polls : Call → Bool
  | .poll _ => true
  | _ => false

def MountImpl.mountpoint : MountImpl → OsStr
  | .pure mountpoint _ | .fuse2 mountpoint | .fuse3 _ mountpoint => mountpoint

/-- The connection is asked for first. It has to be alive for the mount to be unmounted by
its path, which is done once; and the kernel has to refuse that to this process before
anything else is asked to unmount, which is done once as well. -/
inductive Phase.Step (fuseDevice : Nat) (mount : MountImpl) :
    Phase → (c : Call) → c.Answer → Phase → Prop where
  | interrupted : Step fuseDevice mount .polling (.poll fuseDevice) (.error .eintr) .polling
  | failed {err : Errno} (h : err ≠ .eintr) :
      Step fuseDevice mount .polling (.poll fuseDevice) (.error err) .crashed
  | dead : Step fuseDevice mount .polling (.poll fuseDevice) (.ready true) .dead
  | quiet : Step fuseDevice mount .polling (.poll fuseDevice) .quiet .alive
  | ready : Step fuseDevice mount .polling (.poll fuseDevice) (.ready false) .alive
  | unmounted : Step fuseDevice mount .alive (.umount2 mount.mountpoint) (.ok ()) (.answered true)
  | refused : Step fuseDevice mount .alive (.umount2 mount.mountpoint) (.error .eperm) .refused
  | unmountFailed {err : Errno} (h : err ≠ .eperm) :
      Step fuseDevice mount .alive (.umount2 mount.mountpoint) (.error err) (.answered false)
  | helper {bin : String} (output : Output) :
      Step fuseDevice mount .refused (.output bin (umountArgs mount.mountpoint) none) (.ok output)
        (.answered output.success)
  | helperFailed {bin : String} (err : IoError) :
      Step fuseDevice mount .refused (.output bin (umountArgs mount.mountpoint) none) (.error err)
        (.answered false)
  | libfuse {fuseSession : Nat} {mnt : OsStr} (h : mount = .fuse3 fuseSession mnt) :
      Step fuseDevice mount .refused (.fuseSessionUnmount fuseSession) () .entrusted
  | other {phase : Phase} {c : Call} {x : c.Answer} (hunmounts : c.unmounts = false)
      (hpolls : c.polls = false) : Step fuseDevice mount phase c x phase

/-- The protocol that the calls of a teardown follow. -/
def protocol (fuseDevice : Nat) (mount : MountImpl) : Monitor Call Call.Answer Phase where
  allows _ _ := True
  step := Phase.Step fuseDevice mount

section Protocol

variable {fuseDevice : Nat} {mount : MountImpl} {phase : Phase}

/-- A call that has nothing to do with unmounting. -/
theorem keeps_other {c : Call} (hunmounts : c.unmounts = false) (hpolls : c.polls = false) :
    (protocol fuseDevice mount).Keeps (sys c) phase fun _ phase' => phase' = phase :=
  Monitor.keeps_send fun _ _ => ⟨phase, .other hunmounts hpolls, rfl⟩

theorem keeps_closeSocket (socket : Option Nat) :
    (protocol fuseDevice mount).Keeps (closeSocket socket) phase
      fun _ phase' => phase' = phase := by
  cases socket with
  | none => exact Monitor.keeps_pure rfl
  | some socket => exact keeps_other rfl rfl

theorem keeps_dropImpl (impl : MountImpl) :
    (protocol fuseDevice mount).Keeps impl.drop phase fun _ phase' => phase' = phase := by
  cases impl with
  | pure _ socket => exact keeps_closeSocket socket
  | fuse2 _ => exact Monitor.keeps_pure rfl
  | fuse3 fuseSession _ =>
      rw [MountImpl.drop]
      split
      · exact Monitor.keeps_pure rfl
      · exact keeps_other rfl rfl

theorem keeps_firstToStart (names : List String) :
    (protocol fuseDevice mount).Keeps (FusePure.firstToStart names) phase
      fun _ phase' => phase' = phase := by
  induction names with
  | nil => exact Monitor.keeps_pure rfl
  | cons name names ih =>
      refine (keeps_other rfl rfl).bind fun started phase' hphase => ?_
      subst hphase
      cases started with
      | true => exact Monitor.keeps_pure rfl
      | false => exact ih

theorem keeps_detectFusermountBin :
    (protocol fuseDevice mount).Keeps FusePure.detectFusermountBin phase
      fun _ phase' => phase' = phase := by
  refine (keeps_other rfl rfl).bind fun path phase' hphase => ?_
  subst hphase
  match path with
  | some (some _) => exact Monitor.keeps_pure rfl
  | some none => exact Monitor.keeps_pure rfl
  | none =>
      refine (keeps_firstToStart _).bind fun name phase' hphase => ?_
      subst hphase
      cases name with
      | none => exact Monitor.keeps_pure rfl
      | some name => exact Monitor.keeps_pure rfl

/-- The phases that a teardown reports as a success. -/
def Phase.succeeds : Phase → Bool
  | .dead | .entrusted => true
  | .answered undone => undone
  | .polling | .crashed | .alive | .refused => false

/-- The phases that a teardown may come back in. -/
def Phase.ends : Phase → Bool
  | .dead | .entrusted | .refused | .answered _ => true
  | .polling | .crashed | .alive => false

/-- What a teardown reports, in the phase that it leaves off in. -/
structure Reports (result : Outcome MountError Unit) (phase : Phase) : Prop where
  success : result = .ok () ↔ phase.succeeds = true
  ends : result.Returns → phase.ends = true

theorem Reports.ok (hsucceeds : phase.succeeds = true) (hends : phase.ends = true) :
    Reports (.ok ()) phase :=
  ⟨iff_of_true rfl hsucceeds, fun _ => hends⟩

theorem Reports.err {e : MountError} (h : phase = .refused ∨ phase = .answered false) :
    Reports (.err e) phase := by
  rcases h with rfl | rfl
  · exact ⟨iff_of_false (by simp) (by simp [Phase.succeeds]), fun _ => rfl⟩
  · exact ⟨iff_of_false (by simp) (by simp [Phase.succeeds]), fun _ => rfl⟩

theorem Reports.panic {reason : Panic} (h : phase.succeeds = false) :
    Reports (.panic reason) phase :=
  ⟨iff_of_false (by simp) (by simp [h]), fun hreturns => absurd hreturns (by simp)⟩

theorem keeps_fusermountUnmount (bin : String) :
    (protocol fuseDevice mount).Keeps (fusermountUnmount bin mount.mountpoint) .refused
      Reports := by
  refine (Monitor.keeps_send (Q := fun x phase =>
    (∃ output, x = .ok output ∧ phase = .answered output.success) ∨
      ∃ err, x = .error err ∧ phase = .answered false) fun x _ => ?_).bind ?_
  · cases x with
    | ok output => exact ⟨_, .helper output, .inl ⟨output, rfl, rfl⟩⟩
    | error err => exact ⟨_, .helperFailed err, .inr ⟨err, rfl, rfl⟩⟩
  · rintro x phase (⟨output, rfl, rfl⟩ | ⟨err, rfl, rfl⟩)
    · change Monitor.Keeps _ (if output.success then _ else _) _ _
      split
      next hsuccess => exact Monitor.keeps_pure (by rw [hsuccess]; exact .ok rfl rfl)
      next hsuccess =>
        rw [Bool.not_eq_true] at hsuccess
        exact Monitor.keeps_pure (.err (.inr (by rw [hsuccess])))
    · exact Monitor.keeps_pure (.err (.inr rfl))

theorem keeps_orLeave_pure {α β : Type} {x : Outcome MountError α}
    {k : α → Sys (Outcome MountError β)} {Q : Outcome MountError β → Phase → Prop}
    (hok : ∀ a, x = .ok a → (protocol fuseDevice mount).Keeps (k a) phase Q)
    (herr : ∀ y, (∀ b, y ≠ .ok b) → Q y phase) :
    (protocol fuseDevice mount).Keeps (.orLeave x (return ()) k) phase Q := by
  cases x with
  | ok a => exact hok a rfl
  | err e => exact Monitor.keeps_pure (herr _ (by simp))
  | panic p => exact Monitor.keeps_pure (herr _ (by simp))

theorem Reports.of_refused {result : Outcome MountError Unit} (h : ∀ a, result ≠ .ok a) :
    Reports result .refused :=
  ⟨iff_of_false (h ()) (by simp [Phase.succeeds]), fun _ => rfl⟩

theorem keeps_fuseUnmountPure :
    (protocol fuseDevice mount).Keeps (FusePure.fuseUnmountPure mount.mountpoint) .refused
      Reports := by
  refine keeps_detectFusermountBin.bind fun bin phase hphase => ?_
  subst hphase
  exact keeps_orLeave_pure (fun bin _ => keeps_fusermountUnmount bin)
    fun y hy => .of_refused hy

/-- The kernel is asked to unmount. -/
theorem keeps_libcUmount (fuseDevice : Nat) (mount : MountImpl) :
    (protocol fuseDevice mount).Keeps (libcUmount mount.mountpoint) .alive fun x phase =>
      (x = .ok () ∧ phase = .answered true) ∨ (x = .error .eperm ∧ phase = .refused) ∨
        ∃ err, x = .error err ∧ err ≠ .eperm ∧ phase = .answered false := by
  refine Monitor.keeps_send fun x _ => ?_
  match x with
  | .ok () => exact ⟨_, .unmounted, .inl ⟨rfl, rfl⟩⟩
  | .error err =>
      by_cases h : err = .eperm
      · subst h
        exact ⟨_, .refused, .inr (.inl ⟨rfl, rfl⟩)⟩
      · exact ⟨_, .unmountFailed h, .inr (.inr ⟨err, rfl, h, rfl⟩)⟩

theorem keeps_pureUmountImpl (mount : MountImpl) (socket : Option Nat) :
    (protocol fuseDevice mount).Keeps (FusePure.umountImpl mount.mountpoint socket) .alive
      fun done phase => Reports done.1 phase := by
  have hnow : (protocol fuseDevice mount).Keeps (FusePure.umountNow mount.mountpoint) .alive
      Reports := by
    refine (keeps_libcUmount fuseDevice mount).bind ?_
    rintro x phase (⟨rfl, rfl⟩ | ⟨rfl, rfl⟩ | ⟨err, rfl, herr, rfl⟩)
    · exact Monitor.keeps_pure (.ok rfl rfl)
    · exact keeps_fuseUnmountPure
    · change Monitor.Keeps _ (if err = .eperm then _ else _) _ _
      rw [if_neg herr]
      exact Monitor.keeps_pure (.err (.inr rfl))
  refine hnow.bind fun result phase hreports => ?_
  cases result with
  | panic reason => exact Monitor.keeps_pure hreports
  | ok value =>
      refine (keeps_closeSocket socket).bind fun _ phase' hphase => ?_
      subst hphase
      exact Monitor.keeps_pure hreports
  | err e =>
      refine (keeps_closeSocket socket).bind fun _ phase' hphase => ?_
      subst hphase
      exact Monitor.keeps_pure hreports

theorem keeps_fuse2UmountImpl (mount : MountImpl) :
    (protocol fuseDevice mount).Keeps (Fuse2.umountImpl mount.mountpoint) .alive
      fun done phase => Reports done.1 phase := by
  refine (keeps_libcUmount fuseDevice mount).bind ?_
  rintro x phase (⟨rfl, rfl⟩ | ⟨rfl, rfl⟩ | ⟨err, rfl, herr, rfl⟩)
  · exact Monitor.keeps_pure (.ok rfl rfl)
  · exact (keeps_fusermountUnmount "fusermount").bind fun result phase hreports =>
      Monitor.keeps_pure hreports
  · change Monitor.Keeps _ (if err = .eperm then _ else _) _ _
    rw [if_neg herr]
    exact Monitor.keeps_pure (.err (.inr rfl))

theorem keeps_fuse3UmountImpl (fuseSession : Nat) (mountpoint : OsStr) :
    (protocol fuseDevice (.fuse3 fuseSession mountpoint)).Keeps
      (Fuse3.umountImpl fuseSession mountpoint) .alive fun done phase => Reports done.1 phase := by
  refine (keeps_libcUmount fuseDevice (.fuse3 fuseSession mountpoint)).bind ?_
  rintro x phase (⟨rfl, rfl⟩ | ⟨rfl, rfl⟩ | ⟨err, rfl, herr, rfl⟩)
  · exact Monitor.keeps_pure (.ok rfl rfl)
  · refine (Monitor.keeps_send (Q := fun _ phase => phase = .entrusted)
      fun _ _ => ⟨_, Phase.Step.libfuse rfl, rfl⟩).bind fun _ phase hphase => ?_
    subst hphase
    refine (keeps_other rfl rfl).bind fun _ phase hphase => ?_
    subst hphase
    exact Monitor.keeps_pure (.ok rfl rfl)
  · change Monitor.Keeps _ (if err = .eperm then _ else _) _ _
    rw [if_neg herr]
    exact Monitor.keeps_pure (.err (.inr rfl))

theorem keeps_umountImpl (mount : MountImpl) :
    (protocol fuseDevice mount).Keeps mount.umountImpl .alive
      fun done phase => Reports done.1 phase := by
  cases mount with
  | pure mountpoint socket =>
      exact keeps_pureUmountImpl (.pure mountpoint socket) socket
  | fuse2 mountpoint => exact keeps_fuse2UmountImpl (.fuse2 mountpoint)
  | fuse3 fuseSession mountpoint => exact keeps_fuse3UmountImpl fuseSession mountpoint

theorem keeps_isMounted :
    (protocol fuseDevice mount).Keeps (isMounted fuseDevice) .polling fun alive phase =>
      (alive = .ok true ∧ phase = .alive) ∨ (alive = .ok false ∧ phase = .dead) ∨
        ∃ reason, alive = .panic reason ∧ phase = .crashed := by
  intro x _
  refine ⟨fun hagain => ?_, fun hanswered => ?_⟩
  · rw [of_decide_eq_true hagain]
    exact .interrupted
  · cases x with
    | quiet => exact ⟨_, .quiet, .inl ⟨rfl, rfl⟩⟩
    | ready pollerr =>
        cases pollerr with
        | true => exact ⟨_, .dead, .inr (.inl ⟨rfl, rfl⟩)⟩
        | false => exact ⟨_, .ready, .inl ⟨rfl, rfl⟩⟩
    | error err =>
        have herr : err ≠ .eintr := by simpa using hanswered
        exact ⟨_, .failed herr, .inr (.inr ⟨_, rfl, rfl⟩)⟩

theorem keeps_teardown (self : Mount) (mount : MountImpl) :
    (protocol self.fuseDevice mount).Keeps (self.teardown mount) .polling Reports := by
  refine keeps_isMounted.bind ?_
  rintro alive phase (⟨rfl, rfl⟩ | ⟨rfl, rfl⟩ | ⟨reason, rfl, rfl⟩)
  · refine (keeps_umountImpl mount).bind fun done phase hreports => ?_
    refine (keeps_dropImpl done.2).bind fun _ phase' hphase => ?_
    subst hphase
    exact Monitor.keeps_pure hreports
  · refine (keeps_dropImpl mount).bind fun _ phase' hphase => ?_
    subst hphase
    exact Monitor.keeps_pure (.ok rfl rfl)
  · refine (keeps_dropImpl mount).bind fun _ phase' hphase => ?_
    subst hphase
    exact Monitor.keeps_pure (.panic rfl)

theorem keeps_umount {self : Mount} {mount : MountImpl} (hmount : self.mountImpl = some mount) :
    (protocol self.fuseDevice mount).Keeps self.umount .polling Reports := by
  rw [Mount.umount, hmount]
  refine (keeps_teardown self mount).bind fun result phase hreports => ?_
  refine (keeps_other rfl rfl).bind fun _ phase' hphase => ?_
  subst hphase
  exact Monitor.keeps_pure hreports

end Protocol

/-! A teardown by its calls is one of the teardowns of `Fuser.Mounting`, where the
implementation unmounts in one step. -/

/-- A teardown from one state to another, with its events. -/
inductive Teardowns : Mounting.Teardown → List Mounting.Event → Mounting.Teardown → Prop where
  | refl (teardown : Mounting.Teardown) : Teardowns teardown [] teardown
  | head {teardown teardown' teardown'' : Mounting.Teardown} {events events' : List Mounting.Event}
      (h : teardown.Step events teardown') (hrest : Teardowns teardown' events' teardown'') :
      Teardowns teardown (events ++ events') teardown''

/-- What a poll that is answered says of the connection. -/
def Call.connected : (c : Call) → c.Answer → Option Bool
  | .poll _, .quiet => some true
  | .poll _, .ready pollerr => some !pollerr
  | _, _ => none

def connectedAt (log : Log) : List Bool := log.filterMap fun event => event.1.connected event.2

/-- What the answers to the polls of a teardown are by the time of each phase. -/
def Phase.polled : Phase → List Bool
  | .polling | .crashed => []
  | .dead => [false]
  | .alive | .refused | .answered _ | .entrusted => [true]

/-- The events of a teardown whose poll was answered, and which came to `io` if it unmounts. -/
def eventsOf (connected : Bool) (io : IoResult) : List Mounting.Event :=
  .shouldUnmount connected :: if connected then [.umountImpl io] else []

section Simulation

variable {fuseDevice : Nat} {mount : MountImpl} {phase phase' : Phase}

theorem Call.connected_of_polls {c : Call} (h : c.polls = false) (x : c.Answer) :
    c.connected x = none := by
  cases c with
  | poll => cases h
  | _ => rfl

theorem Phase.Step.polled {c : Call} {x : c.Answer}
    (h : Phase.Step fuseDevice mount phase c x phase') :
    phase'.polled = phase.polled ++ (c.connected x).toList := by
  cases h with
  | other hunmounts hpolls =>
      rw [Call.connected_of_polls hpolls, Option.toList_none, List.append_nil]
  | _ => rfl

theorem Phase.polled_follows {log : Log}
    (h : (protocol fuseDevice mount).Follows phase log phase') :
    phase'.polled = phase.polled ++ connectedAt log := by
  induction h with
  | nil phase => exact (List.append_nil _).symm
  | @cons _ _ _ c x log hstep hlog ih =>
      have hlog : connectedAt (⟨c, x⟩ :: log) = (c.connected x).toList ++ connectedAt log := by
        rw [connectedAt, List.filterMap_cons]
        cases c.connected x with
        | none => rfl
        | some connected => rfl
      rw [ih, Phase.Step.polled hstep, hlog, List.append_assoc]

/-- A teardown that ends in a phase is one by the events of that phase. -/
theorem Phase.teardowns (hends : phase.ends = true) :
    ∃ connected io, phase.polled = [connected] ∧ (io = .ok () ↔ phase.succeeds = true) ∧
      Teardowns (.begun ⟨some {}⟩) (eventsOf connected io) (.ended io) := by
  have halive (io : IoResult) :
      Teardowns (.begun ⟨some {}⟩) [.shouldUnmount true, .umountImpl io] (.ended io) :=
    .head (.alive rfl) (.head (.umountImpl io) (.refl _))
  have hfailed : (.error (.new .other "") : IoResult) ≠ .ok () := by simp
  cases phase with
  | polling | crashed | alive => cases hends
  | dead => exact ⟨false, .ok (), rfl, by simp [succeeds], .head (.dead rfl) (.refl _)⟩
  | entrusted => exact ⟨true, .ok (), rfl, by simp [succeeds], halive _⟩
  | refused => exact ⟨true, .error (.new .other ""), rfl, by simp [succeeds], halive _⟩
  | answered undone =>
      cases undone with
      | true => exact ⟨true, .ok (), rfl, by simp [succeeds], halive _⟩
      | false => exact ⟨true, .error (.new .other ""), rfl, by simp [succeeds], halive _⟩

end Simulation

/-- A mount is undone by the protocol, and `Ok` is reported exactly where the connection
was found dead, where one of those who were asked to unmount has said that it did, and
where libfuse was asked, which says nothing. What the poll said and what became of the
unmount are the events of one teardown of the state machine. -/
theorem Mount.umount_reports {self : Mount} {mount : MountImpl}
    (hmount : self.mountImpl = some mount) {log : Log} {result : Outcome MountError Unit}
    (h : self.umount.Run log result) :
    ∃ phase, (protocol self.fuseDevice mount).Follows .polling log phase ∧
      (result = .ok () ↔ phase = .dead ∨ phase = .answered true ∨ phase = .entrusted) ∧
      (result.Returns → ∃ connected io, connectedAt log = [connected] ∧
        Teardowns (.begun ⟨some {}⟩) (eventsOf connected io) (.ended io) ∧
        (io = .ok () ↔ result = .ok ())) := by
  obtain ⟨phase, hfollows, hok, hends⟩ := (keeps_umount hmount).follows h fun _ _ => True.intro
  have hsucceeds : phase.succeeds = true ↔
      phase = .dead ∨ phase = .answered true ∨ phase = .entrusted := by
    cases phase <;> simp [Phase.succeeds]
  refine ⟨phase, hfollows, hok.trans hsucceeds, fun hreturns => ?_⟩
  obtain ⟨connected, io, hpolled, hio, hteardown⟩ := Phase.teardowns (hends hreturns)
  exact ⟨connected, io, (Phase.polled_follows hfollows).symm.trans hpolled, hteardown,
    hio.trans hok.symm⟩

/-- An unmount that the kernel leaves to libfuse, after a poll that was interrupted. -/
theorem Mount.umount_reports_refused :
    let self : Mount := ⟨some (.fuse3 7 (utf8 "/mnt")), utf8 "/mnt", 5⟩
    let log : Log := [⟨.poll 5, .error .eintr⟩, ⟨.poll 5, .quiet⟩,
      ⟨.umount2 (utf8 "/mnt"), .error .eperm⟩, ⟨.fuseSessionUnmount 7, ()⟩,
      ⟨.fuseSessionDestroy 7, ()⟩, ⟨.dropDevice 5, ()⟩]
    self.umount.Run log (.ok ()) ∧
      ∃ phase, (protocol 5 (.fuse3 7 (utf8 "/mnt"))).Follows .polling log phase ∧
        (phase = .dead ∨ phase = .answered true ∨ phase = .entrusted) ∧
        ∃ connected io, [true] = [connected] ∧
          Teardowns (.begun ⟨some {}⟩) (eventsOf connected io) (.ended io) ∧ io = .ok () := by
  intro self log
  have hrun : self.umount.Run log (.ok ()) :=
    .again _ rfl (.answered _ rfl (.call _ (.call _ (.call _ (.call _ (.ret _))))))
  obtain ⟨phase, hfollows, hok, hevents⟩ := Mount.umount_reports rfl hrun
  obtain ⟨connected, io, halive, hteardown, hio⟩ := hevents (by simp)
  exact ⟨hrun, phase, hfollows, hok.mp rfl, connected, io, halive, hteardown, hio.mpr rfl⟩

end Fuser.Mnt
