import Fuser.KernelConfig

/-!
The session: how it was mounted, and what the handshake settled with the kernel.
-/

namespace Fuser

inductive MountOption where
  | fsName (name : String)
  | subtype (name : String)
  | custom (option : String)
  | autoUnmount
  | defaultPermissions
  | dev
  | noDev
  | suid
  | noSuid
  | ro
  | rw
  | exec
  | noExec
  | atime
  | noAtime
  | dirSync
  | sync
  | async
  deriving DecidableEq

structure Session where
  /-- `None` after `destroy` was called. -/
  filesystemPresent : Bool
  allowed : SessionACL
  sessionOwner : UInt32
  protoVersion : Option Version
  negotiated : InitFlags
  kernelCapabilities : InitFlags
  mountOptions : List MountOption
  deriving DecidableEq

namespace Session

/-- The session before the handshake. -/
def new (allowed : SessionACL) (sessionOwner : UInt32) (mountOptions : List MountOption) :
    Session where
  filesystemPresent := true
  allowed := allowed
  sessionOwner := sessionOwner
  protoVersion := none
  negotiated := 0
  kernelCapabilities := 0
  mountOptions := mountOptions

/-- The configuration that the filesystem's `init` gets to change. -/
def kernelConfig (self : Session) (init : Op.Init) : KernelConfig :=
  .new init.capabilities init.maxReadahead init.version
    (self.mountOptions.contains .defaultPermissions) self.allowed

/-- What the session remembers of the handshake. -/
def initialized (self : Session) (init : Op.Init) (config : KernelConfig) : Session :=
  { self with
    protoVersion := some init.version
    negotiated := init.capabilities &&& config.requested
    kernelCapabilities := init.capabilities }

end Session

end Fuser
