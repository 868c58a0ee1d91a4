import Fuser.Foundation.Bitflags
import Fuser.Foundation.Escape
import Fuser.Session

/-!
Mount options: what of them is refused, and how the others reach mount(2), libfuse
and the fusermount helper.

All three take a list of options in one string. The kernel splits it at every comma;
libfuse and fusermount decode escapes as well. A value that is taken for more than
one option by one of them would let a caller pass options it was not asked for, in
the case of fusermount to a program with more rights than its own.
-/

namespace Fuser

open Rust

inductive MountOptionGroup where
  | kernelOption
  | kernelFlag
  | fusermount
  deriving DecidableEq

/-- The errors made of mount options, of the kind `InvalidInput`, and what their texts
name. -/
inductive MountOptionError where
  /-- Conflicting mount options found. -/
  | conflicting (intersection : List MountOption)
  /-- A mount option contains an invalid character. -/
  | invalidCharacter (option : MountOption) (c : Char)
  /-- Invalid mount option for flag conversion. -/
  | notAFlag (option : MountOption)
  deriving DecidableEq

def conflictsWith : MountOption → List MountOption
  | .fsName _ | .subtype _ | .custom _ | .dirSync | .autoUnmount | .defaultPermissions => []
  | .dev => [.noDev]
  | .noDev => [.dev]
  | .suid => [.noSuid]
  | .noSuid => [.suid]
  | .ro => [.rw]
  | .rw => [.ro]
  | .exec => [.noExec]
  | .noExec => [.exec]
  | .atime => [.noAtime]
  | .noAtime => [.atime]
  | .sync => [.async]
  | .async => [.sync]

def checkOptionConflicts (mountOptions : List MountOption) : Outcome MountOptionError Unit :=
  let optionsSet := mountOptions.dedup
  let conflicting := (mountOptions.flatMap conflictsWith).dedup
  let intersection := conflicting.filter (optionsSet.contains ·)
  if intersection.isEmpty then .ok () else .err (.conflicting intersection)

def checkOptionValue (option : MountOption) (value : String) (invalid : List Char) :
    Outcome MountOptionError Unit :=
  match value.toList.find? (invalid.contains ·) with
  | some c => .err (.invalidCharacter option c)
  | none => .ok ()

/-- The body of the loop of `check_option_values`, as it is on Linux. -/
def checkMountOption (option : MountOption) : Outcome MountOptionError Unit :=
  match option with
  | .fsName name => checkOptionValue option name ['\x00']
  | .subtype value | .custom value => checkOptionValue option value ['\x00', ',', '\\']
  | _ => .ok ()

def checkOptionValues : List MountOption → Outcome MountOptionError Unit
  | [] => .ok ()
  | option :: options => do
      checkMountOption option
      checkOptionValues options

def optionToString : MountOption → String
  | .fsName name => "fsname=" ++ name
  | .subtype subtype => "subtype=" ++ subtype
  | .custom value => value
  | .autoUnmount => "auto_unmount"
  | .defaultPermissions => "default_permissions"
  | .dev => "dev"
  | .noDev => "nodev"
  | .suid => "suid"
  | .noSuid => "nosuid"
  | .ro => "ro"
  | .rw => "rw"
  | .exec => "exec"
  | .noExec => "noexec"
  | .atime => "atime"
  | .noAtime => "noatime"
  | .dirSync => "dirsync"
  | .sync => "sync"
  | .async => "async"

def escapeOptionValue (value : String) : String :=
  .ofList (value.toList.flatMap fun c => if c = ',' ∨ c = '\\' then ['\\', c] else [c])

def optionToEscapedString : MountOption → String
  | .fsName name => "fsname=" ++ escapeOptionValue name
  | option => optionToString option

def optionGroup : MountOption → MountOptionGroup
  | .fsName _ | .subtype _ | .autoUnmount => .fusermount
  | .custom _ | .defaultPermissions => .kernelOption
  | .dev | .noDev | .suid | .noSuid | .ro | .rw | .exec | .noExec | .atime | .noAtime
  | .dirSync | .sync | .async => .kernelFlag

abbrev MsFlags := BitVec 64

namespace MsFlags

def msRdonly : MsFlags := .twoPow 64 0

def msNosuid : MsFlags := .twoPow 64 1

def msNodev : MsFlags := .twoPow 64 2

def msNoexec : MsFlags := .twoPow 64 3

def msSynchronous : MsFlags := .twoPow 64 4

def msDirsync : MsFlags := .twoPow 64 7

def msNoatime : MsFlags := .twoPow 64 10

end MsFlags

open MsFlags in
def optionToFlag : MountOption → Outcome MountOptionError MsFlags
  | .dev | .suid | .rw | .exec | .atime | .async => .ok 0
  | .noDev => .ok msNodev
  | .noSuid => .ok msNosuid
  | .ro => .ok msRdonly
  | .noExec => .ok msNoexec
  | .noAtime => .ok msNoatime
  | .sync => .ok msSynchronous
  | .dirSync => .ok msDirsync
  | option => .err (.notAFlag option)

/-- Both restrictions of access become the same option: the kernel knows no other. -/
def SessionACL.toMountOption : SessionACL → Option String
  | .all | .rootAndOwner => some "allow_other"
  | .owner => none

/-- The bytes of a string. -/
def utf8 (s : String) : List UInt8 := s.toList.flatMap String.utf8EncodeChar

/-- The arguments that `fuse_mount_fusermount` starts the helper with. -/
def fusermountArgs (mountpoint : OsStr) (options : List MountOption) (acl : SessionACL) :
    List OsStr :=
  let optionsStrs := options.map optionToEscapedString ++ acl.toMountOption.toList
  let optionArgs := if optionsStrs.isEmpty then [] else ["-o", ",".intercalate optionsStrs]
  optionArgs.map utf8 ++ [utf8 "--", mountpoint]

/-- `CString::new`, and `expect` on its result. -/
def cstring {ε : Type} (s : String) (message : String) : Outcome ε (List UInt8) :=
  if s.toList.contains '\x00' then .panic (.expect message) else .ok (utf8 s)

/-- The loop of `with_fuse_args`. -/
def optionArgs {ε : Type} : List MountOption → Outcome ε (List (List UInt8))
  | [] => .ok []
  | x :: options => do
      let arg ← cstring (optionToEscapedString x)
        "option values are checked for NUL by check_option_values()"
      let args ← optionArgs options
      return utf8 "-o" :: arg :: args

/-- The arguments that `with_fuse_args` hands to libfuse. -/
def fuseArgs {ε : Type} (options : List MountOption) (acl : SessionACL) :
    Outcome ε (List (List UInt8)) := do
  let args ← optionArgs options
  let aclArgs := match acl.toMountOption with
    | some acl => [utf8 "-o", utf8 acl]
    | none => []
  return utf8 "rust-fuse" :: args ++ aclArgs

/-- What `fuse_mount_sys` learns from the system. -/
structure MountEnv where
  fd : Nat
  mountpointMode : UInt32
  uid : UInt32
  gid : UInt32

/-- The arguments of mount(2). -/
structure MountCall where
  source : String
  mountpoint : OsStr
  fstype : String
  flags : MsFlags
  data : String

/-- The four items that every mount has. -/
def baseData (env : MountEnv) : String :=
  "fd=" ++ env.fd.repr ++ ",rootmode=" ++ String.ofList (Nat.toDigits 8 env.mountpointMode.toNat) ++
    ",user_id=" ++ env.uid.toNat.repr ++ ",group_id=" ++ env.gid.toNat.repr

def mountData (env : MountEnv) (options : List MountOption) (acl : SessionACL) : String :=
  let kernelOptions := options.filter (optionGroup · = .kernelOption)
  let data := kernelOptions.foldl (fun data option => data ++ "," ++ optionToString option)
    (baseData env)
  match acl.toMountOption with
  | some aclOption => data ++ "," ++ aclOption
  | none => data

open MsFlags in
def mountFlags (options : List MountOption) : Outcome MountOptionError MsFlags :=
  let flags : MsFlags := 0
  let flags := if options.contains .dev then flags else flags ||| msNodev
  let flags := if options.contains .suid then flags else flags ||| msNosuid
  (options.filter (optionGroup · = .kernelFlag)).foldlM
    (fun flags flag => do return flags ||| (← optionToFlag flag)) flags

/-- The name of the filesystem, or else its type, or else the device. -/
def mountSource (options : List MountOption) : String :=
  let subtype := options.findSome? fun | .subtype subtype => some subtype | _ => none
  let fsName := options.findSome? fun | .fsName name => some name | _ => none
  fsName.getD (subtype.getD "/dev/fuse")

/-- What `fuse_mount_sys` calls mount(2) with. -/
def fuseMountSys (env : MountEnv) (mountpoint : OsStr) (options : List MountOption)
    (acl : SessionACL) : Outcome MountOptionError MountCall :=
  if options.contains .autoUnmount then .panic .assertion
  else if ¬ env.fd > 2 then
    .panic (.explicit ("Conflict with stdin/stdout/stderr. fd=" ++ env.fd.repr))
  else do
    let flags ← mountFlags options
    return { source := mountSource options, mountpoint, fstype := "fuse", flags
             data := mountData env options acl }

/-- A byte that is a character by itself is only in the encoding of that character. -/
theorem toNat_of_mem_utf8EncodeChar {c : Char} {b : UInt8} (h : b ∈ String.utf8EncodeChar c)
    (hascii : b.toNat < 128) : c.toNat = b.toNat := by
  have hval : c.toNat = c.val.toNat := rfl
  rw [String.utf8EncodeChar] at h
  split at h
  · rw [List.mem_singleton.mp h, UInt8.toNat_ofNat']
    omega
  · split at h
    · simp only [List.mem_cons, List.not_mem_nil, or_false] at h
      obtain rfl | rfl := h
      all_goals
        rw [UInt8.toNat_ofNat'] at hascii
        omega
    · split at h
      · simp only [List.mem_cons, List.not_mem_nil, or_false] at h
        obtain rfl | rfl | rfl := h
        all_goals
          rw [UInt8.toNat_ofNat'] at hascii
          omega
      · simp only [List.mem_cons, List.not_mem_nil, or_false] at h
        obtain rfl | rfl | rfl | rfl := h
        all_goals
          rw [UInt8.toNat_ofNat'] at hascii
          omega

theorem mem_utf8_iff {s : String} {c : Char} (hc : c.toNat < 128) :
    UInt8.ofNat c.toNat ∈ utf8 s ↔ c ∈ s.toList := by
  have hbyte : (UInt8.ofNat c.toNat).toNat = c.toNat := by
    rw [UInt8.toNat_ofNat']
    omega
  rw [utf8, List.mem_flatMap]
  constructor
  · rintro ⟨c', hmem, hb⟩
    have hsame := toNat_of_mem_utf8EncodeChar hb (by omega)
    have hchar : c' = c := Char.toNat_inj.mp (hsame.trans hbyte)
    exact hchar ▸ hmem
  · intro hmem
    refine ⟨c, hmem, ?_⟩
    have hsmall : c.val.toNat ≤ 0x7f := Nat.le_of_lt_succ hc
    rw [String.utf8EncodeChar]
    simp only [if_pos hsmall]
    exact List.mem_singleton_self _

theorem utf8_append (s t : String) : utf8 (s ++ t) = utf8 s ++ utf8 t := by
  rw [utf8, String.toList_append, List.flatMap_append]
  rfl

theorem utf8_intercalate (ws : List String) :
    utf8 (",".intercalate ws) = [0x2c].intercalate (ws.map utf8) := by
  induction ws with
  | nil => rfl
  | cons w ws ih =>
      cases ws with
      | nil => rw [String.intercalate_singleton, List.map_singleton, List.intercalate_singleton]
      | cons w' ws =>
          rw [String.intercalate_cons_cons, utf8_append, utf8_append, ih, List.map_cons,
            List.map_cons, List.map_cons, List.intercalate_cons_cons]
          rfl

/-- The byte of three octal digits. The first is at most 3, or there would be no such
byte. -/
def octal (a b c : UInt8) : Option UInt8 :=
  if (0x30 ≤ a ∧ a ≤ 0x33) ∧ (0x30 ≤ b ∧ b ≤ 0x37) ∧ 0x30 ≤ c ∧ c ≤ 0x37 then
    some ((a - 0x30) * 64 + (b - 0x30) * 8 + (c - 0x30))
  else none

/-- How libfuse and fusermount read an option list: commas separate the options, and a
backslash goes before an octal code or a character that is meant as such. -/
def libfuse : Text.Quoting UInt8 where
  sep := 0x2c
  esc := 0x5c
  code := octal
  sep_ne_esc := by decide
  code_sep _ _ := if_neg fun h => absurd h.1.1 (by decide)
  code_esc _ _ := if_neg fun h => absurd h.1.2 (by decide)

/-- Escaping characters and escaping their bytes is the same. -/
theorem utf8_escapeOptionValue (value : String) :
    utf8 (escapeOptionValue value) = libfuse.escape (utf8 value) := by
  rw [utf8, escapeOptionValue, String.toList_ofList, Text.Quoting.escape, utf8, List.flatMap_assoc,
    List.flatMap_assoc]
  refine List.flatMap_congr fun c _ => ?_
  change _ = libfuse.escape (String.utf8EncodeChar c)
  by_cases hspecial : c = ',' ∨ c = '\\'
  · rw [if_pos hspecial]
    obtain rfl | rfl := hspecial
    · rfl
    · rfl
  · rw [if_neg hspecial, List.flatMap_singleton, libfuse.escape_of_plain]
    · intro hmem
      have hcomma := toNat_of_mem_utf8EncodeChar hmem (by decide)
      exact hspecial (.inl (Char.toNat_inj.mp hcomma))
    · intro hmem
      have hbackslash := toNat_of_mem_utf8EncodeChar hmem (by decide)
      exact hspecial (.inr (Char.toNat_inj.mp hbackslash))

/-- The characters that the value of an option must not contain. -/
def MountOption.Plain : MountOption → Prop
  | .fsName name => '\x00' ∉ name.toList
  | .subtype value | .custom value =>
      '\x00' ∉ value.toList ∧ ',' ∉ value.toList ∧ '\\' ∉ value.toList
  | _ => True

theorem checkOptionValue_eq_ok {option : MountOption} {value : String} {invalid : List Char}
    (h : checkOptionValue option value invalid = .ok ()) : ∀ c ∈ invalid, c ∉ value.toList := by
  intro c hinvalid hmem
  rw [checkOptionValue] at h
  cases hfind : value.toList.find? (invalid.contains ·) with
  | some c' =>
      rw [hfind] at h
      cases h
  | none =>
      have hnone := List.find?_eq_none.mp hfind c hmem
      exact hnone (List.contains_iff_mem.mpr hinvalid)

theorem plain_of_checkMountOption {option : MountOption} (h : checkMountOption option = .ok ()) :
    option.Plain := by
  cases option with
  | fsName name => exact checkOptionValue_eq_ok h '\x00' (by decide)
  | subtype value | custom value =>
      have hchars := checkOptionValue_eq_ok h
      exact ⟨hchars '\x00' (by decide), hchars ',' (by decide), hchars '\\' (by decide)⟩
  | _ => trivial

theorem plain_of_checkOptionValues {options : List MountOption}
    (h : checkOptionValues options = .ok ()) : ∀ option ∈ options, option.Plain := by
  induction options with
  | nil => exact List.forall_mem_nil _
  | cons option options ih =>
      rw [checkOptionValues] at h
      cases hcheck : checkMountOption option with
      | ok u =>
          rw [hcheck, Outcome.ok_bind] at h
          exact List.forall_mem_cons.mpr ⟨plain_of_checkMountOption hcheck, ih h⟩
      | err e =>
          rw [hcheck, Outcome.err_bind] at h
          cases h
      | panic p =>
          rw [hcheck, Outcome.panic_bind] at h
          cases h

theorem not_mem_utf8 {s : String} {c : Char} {b : UInt8} (hb : b = UInt8.ofNat c.toNat)
    (hc : c.toNat < 128) (h : c ∉ s.toList) : b ∉ utf8 s := by
  rw [hb, mem_utf8_iff hc]
  exact h

/-- A string in which nothing is separated or escaped. -/
theorem escape_utf8 {s : String} (hcomma : ',' ∉ s.toList) (hbackslash : '\\' ∉ s.toList) :
    libfuse.escape (utf8 s) = utf8 s :=
  libfuse.escape_of_plain (not_mem_utf8 (c := ',') rfl (by decide) hcomma)
    (not_mem_utf8 (c := '\\') rfl (by decide) hbackslash)

/-- What is written for an option is its string, escaped. -/
theorem utf8_optionToEscapedString {option : MountOption} (h : option.Plain) :
    utf8 (optionToEscapedString option) = libfuse.escape (utf8 (optionToString option)) := by
  cases option with
  | fsName name =>
      have hkey : libfuse.escape (utf8 "fsname=") = utf8 "fsname=" :=
        escape_utf8 (by decide) (by decide)
      rw [optionToEscapedString, optionToString, utf8_append, utf8_append, libfuse.escape_append,
        utf8_escapeOptionValue, hkey]
  | subtype value =>
      rw [optionToEscapedString, optionToString, utf8_append, libfuse.escape_append,
        escape_utf8 (by decide) (by decide), escape_utf8 h.2.1 h.2.2]
      exact nofun
  | custom value => exact (escape_utf8 h.2.1 h.2.2).symm
  | _ => exact (escape_utf8 (by decide) (by decide)).symm

theorem nul_not_mem_escapeOptionValue {value : String} (h : '\x00' ∉ value.toList) :
    '\x00' ∉ (escapeOptionValue value).toList := by
  rw [escapeOptionValue, String.toList_ofList, List.mem_flatMap]
  rintro ⟨c, hmem, hnul⟩
  have hcases : '\x00' = c := by
    split at hnul
    · simpa using hnul
    · simpa using hnul
  exact h (hcases ▸ hmem)

theorem nul_not_mem_optionToEscapedString {option : MountOption} (h : option.Plain) :
    '\x00' ∉ (optionToEscapedString option).toList := by
  cases option with
  | fsName name =>
      rw [optionToEscapedString, String.toList_append, List.mem_append, not_or]
      exact ⟨by decide, nul_not_mem_escapeOptionValue h⟩
  | subtype value =>
      change '\x00' ∉ ("subtype=" ++ value).toList
      rw [String.toList_append, List.mem_append, not_or]
      exact ⟨by decide, h.1⟩
  | custom value => exact h.1
  | _ => decide

theorem cstring_eq {ε : Type} {s : String} (message : String) (h : '\x00' ∉ s.toList) :
    (cstring s message : Outcome ε (List UInt8)) = .ok (utf8 s) := by
  have hcontains : s.toList.contains '\x00' = false := by
    rw [List.contains_eq_mem, decide_eq_false h]
  rw [cstring, hcontains]
  rfl

/-- The arguments are the options, each behind a `-o`. -/
theorem optionArgs_eq {ε : Type} {options : List MountOption}
    (h : ∀ option ∈ options, option.Plain) :
    (optionArgs options : Outcome ε (List (List UInt8))) =
      .ok ((options.map fun x => utf8 (optionToEscapedString x)).flatMap
        fun arg => [utf8 "-o", arg]) := by
  induction options with
  | nil => rfl
  | cons option options ih =>
      obtain ⟨hplain, hrest⟩ := List.forall_mem_cons.mp h
      rw [optionArgs, cstring_eq _ (nul_not_mem_optionToEscapedString hplain), Outcome.ok_bind,
        ih hrest, Outcome.ok_bind]
      rfl

/-- What a list of options and an access list should come to. -/
def optionItems (options : List MountOption) (acl : SessionACL) : List String :=
  options.map optionToString ++ acl.toMountOption.toList

/-- The item of an access list stands for itself. -/
theorem acl_plain {acl : SessionACL} {item : String} (h : item ∈ acl.toMountOption.toList) :
    item = "allow_other" := by
  cases acl with
  | all | rootAndOwner => exact List.mem_singleton.mp h
  | owner => cases h

theorem utf8_optionsStrs {options : List MountOption} (acl : SessionACL)
    (h : ∀ option ∈ options, option.Plain) :
    (options.map optionToEscapedString ++ acl.toMountOption.toList).map utf8 =
      ((optionItems options acl).map utf8).map libfuse.escape := by
  rw [optionItems, List.map_append, List.map_append, List.map_append, List.map_map, List.map_map,
    List.map_map, List.map_map]
  congr 1
  · exact List.map_congr_left fun option hmem => utf8_optionToEscapedString (h option hmem)
  · refine List.map_congr_left fun item hmem => ?_
    rw [acl_plain hmem]
    rfl

/-- The four items that every mount has. -/
def baseItems (env : MountEnv) : List String :=
  ["fd=" ++ env.fd.repr, "rootmode=" ++ String.ofList (Nat.toDigits 8 env.mountpointMode.toNat),
    "user_id=" ++ env.uid.toNat.repr, "group_id=" ++ env.gid.toNat.repr]

theorem baseData_eq (env : MountEnv) : baseData env = ",".intercalate (baseItems env) := by
  have hmode : ",rootmode=" = "," ++ "rootmode=" := rfl
  have huser : ",user_id=" = "," ++ "user_id=" := rfl
  have hgroup : ",group_id=" = "," ++ "group_id=" := rfl
  rw [baseData, hmode, huser, hgroup, baseItems]
  simp only [String.intercalate_cons_cons, String.intercalate_singleton, String.append_assoc]

theorem comma_not_mem_append {s t : String} (hs : ',' ∉ s.toList) (ht : ',' ∉ t.toList) :
    ',' ∉ (s ++ t).toList := by
  rw [String.toList_append, List.mem_append]
  exact not_or.mpr ⟨hs, ht⟩

theorem comma_not_mem_toDigits {b n : Nat} (hpos : 0 < b) (hle : b ≤ 10) :
    ',' ∉ Nat.toDigits b n := by
  intro hmem
  exact absurd (Nat.isDigit_of_mem_toDigits hpos hle hmem) (by decide)

theorem comma_not_mem_repr (n : Nat) : ',' ∉ n.repr.toList := by
  rw [Nat.toList_repr]
  exact comma_not_mem_toDigits (by decide) (by decide)

theorem comma_not_mem_baseItems {env : MountEnv} {item : String} (h : item ∈ baseItems env) :
    ',' ∉ item.toList := by
  simp only [baseItems, List.mem_cons, List.not_mem_nil, or_false] at h
  obtain rfl | rfl | rfl | rfl := h
  · exact comma_not_mem_append (by decide) (comma_not_mem_repr _)
  · refine comma_not_mem_append (by decide) ?_
    rw [String.toList_ofList]
    exact comma_not_mem_toDigits (by decide) (by decide)
  · exact comma_not_mem_append (by decide) (comma_not_mem_repr _)
  · exact comma_not_mem_append (by decide) (comma_not_mem_repr _)

theorem comma_not_mem_kernelOption {option : MountOption} (h : option.Plain)
    (hgroup : optionGroup option = .kernelOption) : ',' ∉ (optionToString option).toList := by
  cases option with
  | custom value => exact h.2.1
  | defaultPermissions => decide
  | _ => cases hgroup

theorem intercalate_push {items : List String} (h : items ≠ []) (item : String) :
    ",".intercalate items ++ "," ++ item = ",".intercalate (items ++ [item]) := by
  rw [String.intercalate_append_of_ne_nil h (List.cons_ne_nil _ _), String.intercalate_singleton]

/-- Items pushed one by one behind a comma. -/
theorem foldl_push (f : MountOption → String) (options : List MountOption) {items : List String}
    (h : items ≠ []) :
    options.foldl (fun data option => data ++ "," ++ f option) (",".intercalate items) =
      ",".intercalate (items ++ options.map f) := by
  induction options generalizing items with
  | nil => rw [List.foldl_nil, List.map_nil, List.append_nil]
  | cons option options ih =>
      have hne : items ++ [f option] ≠ [] :=
        List.append_ne_nil_of_right_ne_nil _ (List.cons_ne_nil _ _)
      rw [List.foldl_cons, intercalate_push h, ih hne, List.append_assoc, List.singleton_append,
        List.map_cons]

theorem mountData_eq (env : MountEnv) (options : List MountOption) (acl : SessionACL) :
    mountData env options acl =
      ",".intercalate (baseItems env ++
        optionItems (options.filter (optionGroup · = .kernelOption)) acl) := by
  have hbase : baseItems env ≠ [] := List.cons_ne_nil _ _
  have hitems := foldl_push optionToString (options.filter (optionGroup · = .kernelOption)) hbase
  rw [← baseData_eq] at hitems
  rw [optionItems, ← List.append_assoc]
  have hne : baseItems env ++
      (options.filter (optionGroup · = .kernelOption)).map optionToString ≠ [] :=
    List.append_ne_nil_of_left_ne_nil hbase _
  cases acl with
  | owner =>
      change List.foldl _ _ _ = _
      rw [hitems]
      exact congrArg _ (List.append_nil _).symm
  | all | rootAndOwner =>
      change List.foldl _ _ _ ++ "," ++ "allow_other" = _
      rw [hitems, intercalate_push hne]
      rfl

theorem fusermountArgs_read {options : List MountOption} (acl : SessionACL)
    (h : ∀ option ∈ options, option.Plain) (mountpoint : OsStr) :
    optionItems options acl = [] ∧
      fusermountArgs mountpoint options acl = [utf8 "--", mountpoint] ∨
    ∃ arg, fusermountArgs mountpoint options acl = [utf8 "-o", arg, utf8 "--", mountpoint] ∧
      libfuse.words arg = (optionItems options acl).map utf8 := by
  have hstrs := utf8_optionsStrs acl h
  rw [fusermountArgs]
  cases hitems : options.map optionToEscapedString ++ acl.toMountOption.toList with
  | nil =>
      rw [hitems, List.map_nil, eq_comm, List.map_eq_nil_iff, List.map_eq_nil_iff] at hstrs
      exact .inl ⟨hstrs, rfl⟩
  | cons item items =>
      refine .inr ⟨utf8 (",".intercalate (item :: items)), rfl, ?_⟩
      have hne : (optionItems options acl).map utf8 ≠ [] := by
        intro hnil
        rw [hnil, hitems] at hstrs
        cases hstrs
      rw [utf8_intercalate, ← hitems, hstrs]
      exact libfuse.words_intercalate hne

theorem fuseArgs_read {options : List MountOption} (acl : SessionACL)
    (h : ∀ option ∈ options, option.Plain) :
    ∃ args : List (List UInt8), (fuseArgs options acl : Outcome Empty _) =
        .ok (utf8 "rust-fuse" :: args.flatMap fun arg => [utf8 "-o", arg]) ∧
      args.map libfuse.words = (optionItems options acl).map (fun item => [utf8 item]) ∧
      ∀ arg ∈ args, 0 ∉ arg := by
  refine ⟨(options.map optionToEscapedString ++ acl.toMountOption.toList).map utf8, ?_, ?_, ?_⟩
  · rw [fuseArgs, optionArgs_eq h, Outcome.ok_bind, List.map_append, List.map_map,
      List.flatMap_append]
    cases acl <;> rfl
  · rw [utf8_optionsStrs acl h, List.map_map, List.map_map]
    refine List.map_congr_left fun item _ => ?_
    exact libfuse.words_escape (utf8 item)
  · intro arg harg
    obtain ⟨item, hitem, rfl⟩ := List.mem_map.mp harg
    refine not_mem_utf8 (c := '\x00') rfl (by decide) ?_
    cases List.mem_append.mp hitem with
    | inl hoption =>
        obtain ⟨option, hmem, rfl⟩ := List.mem_map.mp hoption
        exact nul_not_mem_optionToEscapedString (h option hmem)
    | inr hacl =>
        rw [acl_plain hacl]
        decide

theorem mountData_read {options : List MountOption} (acl : SessionACL)
    (h : ∀ option ∈ options, option.Plain) (env : MountEnv) :
    (utf8 (mountData env options acl)).splitOn 0x2c =
      (baseItems env ++ optionItems (options.filter (optionGroup · = .kernelOption)) acl).map
        utf8 := by
  have hbase : baseItems env ≠ [] := List.cons_ne_nil _ _
  rw [mountData_eq, utf8_intercalate]
  refine List.splitOn_intercalate _ (fun arg harg => ?_) ?_
  · obtain ⟨item, hitem, rfl⟩ := List.mem_map.mp harg
    refine not_mem_utf8 (c := ',') rfl (by decide) ?_
    rw [optionItems, List.mem_append, List.mem_append] at hitem
    obtain hbase | hoption | hacl := hitem
    · exact comma_not_mem_baseItems hbase
    · obtain ⟨option, hmem, rfl⟩ := List.mem_map.mp hoption
      obtain ⟨hmem, hgroup⟩ := List.mem_filter.mp hmem
      exact comma_not_mem_kernelOption (h option hmem) (of_decide_eq_true hgroup)
    · rw [acl_plain hacl]
      decide
  · rw [ne_eq, List.map_eq_nil_iff]
    exact List.append_ne_nil_of_left_ne_nil hbase _

/-- No option can inject or hide another. What fusermount and libfuse decode, and what
the kernel splits, are the options in their order and the item of the access list. -/
theorem options_read_back (options : List MountOption) (acl : SessionACL)
    (h : checkOptionValues options = .ok ()) :
    (∀ mountpoint,
      optionItems options acl = [] ∧
        fusermountArgs mountpoint options acl = [utf8 "--", mountpoint] ∨
      ∃ arg, fusermountArgs mountpoint options acl = [utf8 "-o", arg, utf8 "--", mountpoint] ∧
        libfuse.words arg = (optionItems options acl).map utf8) ∧
    (∃ args : List (List UInt8), (fuseArgs options acl : Outcome Empty _) =
        .ok (utf8 "rust-fuse" :: args.flatMap fun arg => [utf8 "-o", arg]) ∧
      args.map libfuse.words = (optionItems options acl).map (fun item => [utf8 item]) ∧
      ∀ arg ∈ args, 0 ∉ arg) ∧
    (∀ env, (utf8 (mountData env options acl)).splitOn 0x2c =
      (baseItems env ++ optionItems (options.filter (optionGroup · = .kernelOption)) acl).map
        utf8) := by
  have hplain := plain_of_checkOptionValues h
  exact ⟨fusermountArgs_read acl hplain, fuseArgs_read acl hplain, mountData_read acl hplain⟩

/-- A name with a comma and a backslash, next to an option of the kernel. -/
theorem options_read_back_name :
    checkOptionValues [.fsName "a,ro\\1", .custom "max_read=4096"] = .ok () ∧
    ∃ arg, fusermountArgs [] [.fsName "a,ro\\1", .custom "max_read=4096"] .all =
        [utf8 "-o", arg, utf8 "--", []] ∧
      libfuse.words arg =
        [utf8 "fsname=a,ro\\1", utf8 "max_read=4096", utf8 "allow_other"] := by
  have hcheck : checkOptionValues [.fsName "a,ro\\1", .custom "max_read=4096"] = .ok () := by
    decide
  refine ⟨hcheck, ?_⟩
  obtain ⟨hnil, -⟩ | hread := (options_read_back _ .all hcheck).1 []
  · cases hnil
  · exact hread

/-- The options that cannot be had together. -/
def exclusivePairs : List (MountOption × MountOption) :=
  [(.dev, .noDev), (.suid, .noSuid), (.ro, .rw), (.exec, .noExec), (.atime, .noAtime),
    (.sync, .async)]

theorem checkOptionConflicts_eq_ok_iff (options : List MountOption) :
    checkOptionConflicts options = .ok () ↔
      ∀ option ∈ options, ∀ other ∈ conflictsWith option, other ∉ options := by
  have hempty : ((options.flatMap conflictsWith).dedup.filter (options.dedup.contains ·)).isEmpty =
      true ↔ ∀ option ∈ options, ∀ other ∈ conflictsWith option, other ∉ options := by
    rw [List.isEmpty_iff, List.filter_eq_nil_iff]
    simp only [List.mem_dedup, List.mem_flatMap, List.contains_iff_mem, forall_exists_index,
      and_imp]
    exact ⟨fun h option hoption other hother => h other option hoption hother,
      fun h other option hoption hother => h option hoption other hother⟩
  rw [← hempty, checkOptionConflicts]
  split
  next h => exact iff_of_true rfl h
  next h => exact iff_of_false nofun h

theorem checkOptionConflicts_ne_panic (options : List MountOption) (p : Panic) :
    checkOptionConflicts options ≠ .panic p := by
  rw [checkOptionConflicts]
  split <;> exact nofun

/-- Conflicts go both ways. -/
theorem conflictsWith_iff (option other : MountOption) :
    other ∈ conflictsWith option ↔
      (option, other) ∈ exclusivePairs ∨ (other, option) ∈ exclusivePairs := by
  cases option <;> simp [conflictsWith, exclusivePairs]

theorem exists_checkOptionConflicts_eq_err_iff (options : List MountOption) :
    (∃ e, checkOptionConflicts options = .err e) ↔
      ∃ pair ∈ exclusivePairs, pair.1 ∈ options ∧ pair.2 ∈ options := by
  constructor
  · rintro ⟨e, he⟩
    have hfail : ¬ checkOptionConflicts options = .ok () := by
      rw [he]
      exact nofun
    rw [checkOptionConflicts_eq_ok_iff] at hfail
    push Not at hfail
    obtain ⟨option, hoption, other, hother, hmem⟩ := hfail
    obtain hpair | hpair := (conflictsWith_iff option other).mp hother
    · exact ⟨_, hpair, hoption, hmem⟩
    · exact ⟨_, hpair, hmem, hoption⟩
  · rintro ⟨pair, hpair, hfst, hsnd⟩
    cases hcheck : checkOptionConflicts options with
    | ok u =>
        have hother : pair.2 ∈ conflictsWith pair.1 := (conflictsWith_iff _ _).mpr (.inl hpair)
        exact absurd hsnd ((checkOptionConflicts_eq_ok_iff options).mp hcheck _ hfst _ hother)
    | err e => exact ⟨e, rfl⟩
    | panic p => exact absurd hcheck (checkOptionConflicts_ne_panic options p)

/-- The bits of mount(2), each with the option that sets it. -/
def optionBits : List (Nat × MountOption) :=
  [(0, .ro), (1, .noSuid), (2, .noDev), (3, .noExec), (4, .sync), (7, .dirSync), (10, .noAtime)]

theorem optionToFlag_bits {option : MountOption} (h : optionGroup option = .kernelFlag) :
    ∃ flag, optionToFlag option = .ok flag ∧
      ∀ i, flag.getLsbD i = true ↔ (i, option) ∈ optionBits := by
  cases option with
  | fsName | subtype | custom | autoUnmount | defaultPermissions => cases h
  | dev | suid | rw | exec | atime | async => exact ⟨0, rfl, fun i => by simp [optionBits]⟩
  | noDev | noSuid | ro | noExec | noAtime | dirSync | sync =>
      refine ⟨_, rfl, fun i => ?_⟩
      simp [optionBits, MsFlags.msRdonly, MsFlags.msNosuid, MsFlags.msNodev, MsFlags.msNoexec,
        MsFlags.msSynchronous, MsFlags.msDirsync, MsFlags.msNoatime, BitVec.getLsbD_twoPow,
        eq_comm]

theorem optionGroup_of_mem_optionBits {i : Nat} {option : MountOption}
    (h : (i, option) ∈ optionBits) : optionGroup option = .kernelFlag := by
  simp only [optionBits, List.mem_cons, Prod.mk.injEq, List.not_mem_nil, or_false] at h
  obtain ⟨-, rfl⟩ | ⟨-, rfl⟩ | ⟨-, rfl⟩ | ⟨-, rfl⟩ | ⟨-, rfl⟩ | ⟨-, rfl⟩ | ⟨-, rfl⟩ := h
  all_goals rfl

/-- The loop over the options that are flags adds the bits of each. -/
theorem foldlM_optionToFlag (options : List MountOption) (flags : MsFlags) :
    ∃ flags' : MsFlags, (options.filter (optionGroup · = .kernelFlag)).foldlM
        (fun flags flag => do return flags ||| (← optionToFlag flag)) flags = .ok flags' ∧
      ∀ i, flags'.getLsbD i = true ↔
        flags.getLsbD i = true ∨ ∃ option ∈ options, (i, option) ∈ optionBits := by
  induction options generalizing flags with
  | nil => exact ⟨flags, rfl, fun i => by simp⟩
  | cons option options ih =>
      by_cases hgroup : optionGroup option = .kernelFlag
      · obtain ⟨flag, hflag, hbits⟩ := optionToFlag_bits hgroup
        obtain ⟨flags', hrest, hbits'⟩ := ih (flags ||| flag)
        refine ⟨flags', ?_, fun i => ?_⟩
        · rw [List.filter_cons_of_pos (by simpa using hgroup), List.foldlM_cons, hflag]
          exact hrest
        · rw [hbits', BitVec.getLsbD_or, Bool.or_eq_true, hbits, List.exists_mem_cons_iff, or_assoc]
      · obtain ⟨flags', hrest, hbits'⟩ := ih flags
        refine ⟨flags', ?_, fun i => ?_⟩
        · rw [List.filter_cons_of_neg (by simpa using hgroup)]
          exact hrest
        · rw [hbits', List.exists_mem_cons_iff]
          have hnot : (i, option) ∉ optionBits := fun hmem =>
            hgroup (optionGroup_of_mem_optionBits hmem)
          simp only [hnot, false_or]

theorem mountFlags_bits (options : List MountOption) :
    ∃ flags, mountFlags options = .ok flags ∧
      ∀ i, flags.getLsbD i = true ↔
        (i = 2 ∧ .dev ∉ options ∨ i = 1 ∧ .suid ∉ options) ∨
          ∃ option ∈ options, (i, option) ∈ optionBits := by
  obtain ⟨flags, hflags, hbits⟩ := foldlM_optionToFlag options
    (let flags : MsFlags := if options.contains .dev then 0 else 0 ||| MsFlags.msNodev
      if options.contains .suid then flags else flags ||| MsFlags.msNosuid)
  refine ⟨flags, hflags, fun i => ?_⟩
  rw [hbits]
  refine or_congr_left ?_
  by_cases hdev : MountOption.dev ∈ options <;> by_cases hsuid : MountOption.suid ∈ options
  all_goals
    simp [hdev, hsuid, MsFlags.msNodev, MsFlags.msNosuid, BitVec.getLsbD_twoPow, @eq_comm _ i]

/-- Only what is in the list counts, not where or how often. -/
theorem mountFlags_eq_of_mem_iff {options options' : List MountOption}
    (h : ∀ option, option ∈ options' ↔ option ∈ options) :
    mountFlags options' = mountFlags options := by
  obtain ⟨flags, hflags, hbits⟩ := mountFlags_bits options
  obtain ⟨flags', hflags', hbits'⟩ := mountFlags_bits options'
  rw [hflags, hflags']
  refine congrArg _ (BitVec.eq_of_getLsbD_eq fun i _ => ?_)
  rw [Bool.eq_iff_iff, hbits, hbits']
  simp only [h]

theorem fuseMountSys_flags {options : List MountOption} {flags : MsFlags}
    (hflags : mountFlags options = .ok flags) (hauto : .autoUnmount ∉ options) (env : MountEnv)
    (mountpoint : OsStr) (acl : SessionACL) (hfd : 2 < env.fd) :
    ∃ call, fuseMountSys env mountpoint options acl = .ok call ∧ call.flags = flags := by
  have hcontains : ¬ options.contains .autoUnmount = true := by
    rw [List.contains_iff_mem]
    exact hauto
  rw [fuseMountSys, if_neg hcontains, if_neg (not_not.mpr hfd), hflags]
  exact ⟨_, rfl, rfl⟩

/-- A mount is refused for the pairs that exclude each other. Any other has the flags
its options ask for, and allows neither devices nor set-user-id programs by default. -/
theorem conflicts_and_flags (options : List MountOption) :
    ((∃ e, checkOptionConflicts options = .err e) ↔
      ∃ pair ∈ exclusivePairs, pair.1 ∈ options ∧ pair.2 ∈ options) ∧
    (checkOptionConflicts options = .ok () → .autoUnmount ∉ options →
      ∃ flags,
        (∀ options', (∀ option, option ∈ options' ↔ option ∈ options) →
          mountFlags options' = .ok flags ∧
          ∀ env mountpoint acl, 2 < env.fd →
            ∃ call, fuseMountSys env mountpoint options' acl = .ok call ∧ call.flags = flags) ∧
        (Bitflags.contains flags MsFlags.msNodev = true ↔ .dev ∉ options) ∧
        (Bitflags.contains flags MsFlags.msNosuid = true ↔ .suid ∉ options) ∧
        (Bitflags.contains flags MsFlags.msRdonly = true ↔ .ro ∈ options) ∧
        (Bitflags.contains flags MsFlags.msNoexec = true ↔ .noExec ∈ options) ∧
        (Bitflags.contains flags MsFlags.msNoatime = true ↔ .noAtime ∈ options) ∧
        (Bitflags.contains flags MsFlags.msSynchronous = true ↔ .sync ∈ options) ∧
        (Bitflags.contains flags MsFlags.msDirsync = true ↔ .dirSync ∈ options) ∧
        ∀ i, flags.getLsbD i = true → i ∈ [0, 1, 2, 3, 4, 7, 10]) := by
  refine ⟨exists_checkOptionConflicts_eq_err_iff options, fun hcheck hauto => ?_⟩
  obtain ⟨flags, hflags, hbits⟩ := mountFlags_bits options
  have hcontains {k : Nat} (hk : k < 64) :=
    (Bool.eq_iff_iff.mp (Bitflags.contains_twoPow flags hk)).trans (hbits k)
  have hcheck := (checkOptionConflicts_eq_ok_iff options).mp hcheck
  have hdev : .noDev ∈ options → .dev ∉ options := fun h =>
    hcheck _ h _ (List.mem_singleton_self _)
  have hsuid : .noSuid ∈ options → .suid ∉ options := fun h =>
    hcheck _ h _ (List.mem_singleton_self _)
  refine ⟨flags, fun options' h => ?_, ?_, ?_, ?_, ?_, ?_, ?_, ?_, fun i hi => ?_⟩
  · have hflags' : mountFlags options' = .ok flags := (mountFlags_eq_of_mem_iff h).trans hflags
    have hauto' : .autoUnmount ∉ options' := fun hmem => hauto ((h _).mp hmem)
    exact ⟨hflags', fuseMountSys_flags hflags' hauto'⟩
  · rw [MsFlags.msNodev, hcontains (by decide)]
    simp [optionBits, or_iff_left_of_imp hdev]
  · rw [MsFlags.msNosuid, hcontains (by decide)]
    simp [optionBits, or_iff_left_of_imp hsuid]
  · rw [MsFlags.msRdonly, hcontains (by decide)]
    simp [optionBits]
  · rw [MsFlags.msNoexec, hcontains (by decide)]
    simp [optionBits]
  · rw [MsFlags.msNoatime, hcontains (by decide)]
    simp [optionBits]
  · rw [MsFlags.msSynchronous, hcontains (by decide)]
    simp [optionBits]
  · rw [MsFlags.msDirsync, hcontains (by decide)]
    simp [optionBits]
  · obtain (⟨rfl, -⟩ | ⟨rfl, -⟩) | ⟨option, -, hmem⟩ := (hbits i).mp hi
    · decide
    · decide
    · exact List.mem_map_of_mem (f := Prod.fst) hmem

/-- A list that repeats an option, in two orders. -/
theorem conflicts_and_flags_repeated :
    checkOptionConflicts [.noExec, .dev, .noExec, .ro] = .ok () ∧
    ∃ flags, mountFlags [.noExec, .dev, .noExec, .ro] = .ok flags ∧
      mountFlags [.ro, .noExec, .dev] = .ok flags ∧
      Bitflags.contains flags MsFlags.msNosuid = true ∧
      ¬ Bitflags.contains flags MsFlags.msNodev = true := by
  have hcheck : checkOptionConflicts [.noExec, .dev, .noExec, .ro] = .ok () := by decide
  obtain ⟨flags, hflags, hnodev, hnosuid, -⟩ :=
    (conflicts_and_flags [.noExec, .dev, .noExec, .ro]).2 hcheck (by decide)
  refine ⟨hcheck, flags, (hflags _ fun _ => Iff.rfl).1, (hflags _ fun option => ?_).1,
    hnosuid.mpr (by decide), fun h => absurd (hnodev.mp h) (by decide)⟩
  simp only [List.mem_cons, List.not_mem_nil, or_false]
  grind

end Fuser
