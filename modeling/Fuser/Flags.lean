import Fuser.Foundation.Bitflags

/-!
The flag words of the protocol. `from_bits_retain` keeps every bit of a word,
named or not, so a flag set is the word itself. Only the capability set of the
handshake is used as a set, with union, intersection and complement.
-/

namespace Fuser

/-- The capabilities the two sides exchange in the handshake. -/
abbrev InitFlags := BitVec 64

namespace InitFlags

def fuseAsyncRead : InitFlags := .twoPow 64 0

def fusePosixLocks : InitFlags := .twoPow 64 1

def fuseFileOps : InitFlags := .twoPow 64 2

def fuseAtomicOTrunc : InitFlags := .twoPow 64 3

def fuseExportSupport : InitFlags := .twoPow 64 4

def fuseBigWrites : InitFlags := .twoPow 64 5

def fuseDontMask : InitFlags := .twoPow 64 6

def fuseSpliceWrite : InitFlags := .twoPow 64 7

def fuseSpliceMove : InitFlags := .twoPow 64 8

def fuseSpliceRead : InitFlags := .twoPow 64 9

def fuseFlockLocks : InitFlags := .twoPow 64 10

def fuseHasIoctlDir : InitFlags := .twoPow 64 11

def fuseAutoInvalData : InitFlags := .twoPow 64 12

def fuseDoReaddirplus : InitFlags := .twoPow 64 13

def fuseReaddirplusAuto : InitFlags := .twoPow 64 14

def fuseAsyncDio : InitFlags := .twoPow 64 15

def fuseWritebackCache : InitFlags := .twoPow 64 16

def fuseNoOpenSupport : InitFlags := .twoPow 64 17

def fuseParallelDirops : InitFlags := .twoPow 64 18

def fuseHandleKillpriv : InitFlags := .twoPow 64 19

def fusePosixAcl : InitFlags := .twoPow 64 20

def fuseAbortError : InitFlags := .twoPow 64 21

def fuseMaxPages : InitFlags := .twoPow 64 22

def fuseCacheSymlinks : InitFlags := .twoPow 64 23

def fuseNoOpendirSupport : InitFlags := .twoPow 64 24

def fuseExplicitInvalData : InitFlags := .twoPow 64 25

def fuseMapAlignment : InitFlags := .twoPow 64 26

def fuseSubmounts : InitFlags := .twoPow 64 27

def fuseHandleKillprivV2 : InitFlags := .twoPow 64 28

def fuseSetxattrExt : InitFlags := .twoPow 64 29

def fuseInitExt : InitFlags := .twoPow 64 30

def fuseInitReserved : InitFlags := .twoPow 64 31

def fuseSecurityCtx : InitFlags := .twoPow 64 32

def fuseHasInodeDax : InitFlags := .twoPow 64 33

def fuseCreateSuppGroup : InitFlags := .twoPow 64 34

def fuseHasExpireOnly : InitFlags := .twoPow 64 35

def fuseDirectIoAllowMmap : InitFlags := .twoPow 64 36

def fusePassthrough : InitFlags := .twoPow 64 37

def fuseNoExportSupport : InitFlags := .twoPow 64 38

def fuseHasResend : InitFlags := .twoPow 64 39

def fuseAllowIdmap : InitFlags := .twoPow 64 40

def fuseOverIoUring : InitFlags := .twoPow 64 41

def fuseRequestTimeout : InitFlags := .twoPow 64 42

/-- The named bits: every bit from 0 to 42 has a name. -/
def all : InitFlags := BitVec.ofNat 64 (2 ^ 43 - 1)

def contains (self other : InitFlags) : Bool := Bitflags.contains self other

/-- The `!` of the flag type, which yields named bits only. -/
def not (self : InitFlags) : InitFlags := Bitflags.complement all self

/-- The low and the high 32 bits. -/
def pair (self : InitFlags) : UInt32 × UInt32 :=
  (UInt32.ofBitVec (self.setWidth 32), UInt32.ofBitVec ((self >>> 32).setWidth 32))

end InitFlags

/-- Whether a 32-bit flag word contains all bits of `flag`. -/
def hasFlag (word flag : UInt32) : Bool := word &&& flag == flag

def fuseGetattrFh : UInt32 := 0x1

def fattrMode : UInt32 := 0x1

def fattrUid : UInt32 := 0x2

def fattrGid : UInt32 := 0x4

def fattrSize : UInt32 := 0x8

def fattrAtime : UInt32 := 0x10

def fattrMtime : UInt32 := 0x20

def fattrFh : UInt32 := 0x40

def fattrAtimeNow : UInt32 := 0x80

def fattrMtimeNow : UInt32 := 0x100

def fattrCtime : UInt32 := 0x400

def fattrKillSuidgid : UInt32 := 0x800

def fuseOpenKillSuidgid : UInt32 := 0x1

def fuseReadLockowner : UInt32 := 0x2

def fuseWriteLockowner : UInt32 := 0x2

def fuseReleaseFlush : UInt32 := 0x1

def fuseReleaseFlockUnlock : UInt32 := 0x2

def fuseFsyncFdatasync : UInt32 := 0x1

def fuseIoctlUnrestricted : UInt32 := 0x2

/-- Linux's `RENAME_WHITEOUT`. -/
def renameWhiteout : UInt32 := 0x4

structure FopenFlags where
  bits : UInt32
  deriving DecidableEq

structure PollEvents where
  bits : UInt32
  deriving DecidableEq

structure StatxMask where
  bits : UInt32
  deriving DecidableEq

def StatxMask.basicStats : StatxMask := ⟨0x7ff⟩

def StatxMask.btime : StatxMask := ⟨0x800⟩

structure StatxAttributes where
  bits : UInt64
  deriving DecidableEq

end Fuser
