import Mathlib.Tactic.Common

/-!
Error numbers, with the values they have on Linux. An `Errno` is never zero or
negative, which is what lets a reply carry it as a negated number.
-/

namespace Fuser

structure Errno where
  code : Int32
  positive : 0 < code
  deriving DecidableEq

namespace Errno

def eperm : Errno := ⟨1, by decide⟩

def enoent : Errno := ⟨2, by decide⟩

def eintr : Errno := ⟨4, by decide⟩

def eio : Errno := ⟨5, by decide⟩

def eagain : Errno := ⟨11, by decide⟩

def eacces : Errno := ⟨13, by decide⟩

def enodev : Errno := ⟨19, by decide⟩

def einval : Errno := ⟨22, by decide⟩

def enosys : Errno := ⟨38, by decide⟩

def eproto : Errno := ⟨71, by decide⟩

def enotsup : Errno := ⟨95, by decide⟩

def econnaborted : Errno := ⟨103, by decide⟩

/-- `EIO` stands in for a number that is no error number. -/
def fromI32 (err : Int32) : Errno :=
  if h : 0 < err then ⟨err, h⟩ else eio

end Errno

inductive IoErrorKind where
  | notConnected
  | invalidData
  | unsupported
  | invalidInput
  | other
  deriving DecidableEq

/-- An I/O error: one the system reported, or one made up by a program. -/
inductive IoError where
  | os (code : Int32)
  | new (kind : IoErrorKind) (message : String)
  deriving DecidableEq

abbrev IoResult := Except IoError Unit

def IoError.rawOsError : IoError → Option Int32
  | .os code => some code
  | .new _ _ => none

end Fuser
