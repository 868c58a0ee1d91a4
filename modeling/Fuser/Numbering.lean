import Fuser.SimpleFs

/-!
The numbers that the simple example gives out. An inode number is the next one that the
superblock keeps, and a file handle the next one of the mount. Nothing takes either back, so
that no number is given out twice, not even when what had it is gone: the generation of an
inode can stay zero.

This is so where one event loop serves the requests, one after the other. The superblock is
read and written again without a lock, and several loops may give out one number twice.
-/

namespace Fuser

open Rust Wire

namespace Simple

/-- The last inode number that was given out. -/
def Disk.last (self : Disk) : Nat := (self.superblock.getD 1).toNat

/-- What is on the disk has numbers that were given out. -/
structure Disk.Numbered (disk : Disk) : Prop where
  root : INodeNo.root.raw.toNat ≤ disk.last
  inodes : ∀ i attrs, disk.inodes i = some attrs → attrs.inode = i ∧ i.toNat ≤ disk.last
  contents : ∀ i content, disk.contents i = some content → i.toNat ≤ disk.last

/-- Neither counter goes back. -/
structure Later (s s' : SimpleFS) : Prop where
  last : s.disk.last ≤ s'.disk.last
  next : s.nextFileHandle.toNat ≤ s'.nextFileHandle.toNat

instance : Std.Refl Later where
  refl _ := ⟨Nat.le_refl _, Nat.le_refl _⟩

instance : IsTrans SimpleFS Later where
  trans _ _ _ h h' := ⟨h.last.trans h'.last, h.next.trans h'.next⟩

/-- What holds on each exit of a method, a panic too: the numbers that were given out before
`base` are never given out again. -/
structure Kept (base : Nat) (s : SimpleFS) : Prop where
  numbered : s.disk.Numbered
  base : base ≤ s.disk.last

abbrev Orderly (base : Nat) {ε α : Type} (method : Method SimpleFS ε α) (s : SimpleFS)
    (Q : α → SimpleFS → Prop) : Prop :=
  method.Moves (Kept base) Later s Q

theorem Later.trans {s s' s'' : SimpleFS} (h : Later s s') (h' : Later s' s'') : Later s s'' :=
  IsTrans.trans _ _ _ h h'

/-- A number that was given out. -/
def Known (s : SimpleFS) (inode : UInt64) : Prop := inode.toNat ≤ s.disk.last

theorem Known.later {s s' : SimpleFS} {inode : UInt64} (h : Known s inode) (hlater : Later s s') :
    Known s' inode :=
  Nat.le_trans h hlater.last

/-- A method that gives out nothing and of which the value does not matter. -/
abbrev Keeps (base : Nat) {ε α : Type} (method : Method SimpleFS ε α) (s : SimpleFS) : Prop :=
  Orderly base method s fun _ _ => True

variable {base : Nat} {ε : Type} {host : Host} {req : Request} {s : SimpleFS}

theorem Orderly.keeps {α : Type} {method : Method SimpleFS ε α} {Q : α → SimpleFS → Prop}
    (h : Orderly base method s Q) : Keeps base method s :=
  h.imp fun _ _ _ _ _ => trivial

theorem keeps_failIf {c : Prop} [Decidable c] {e : ε} :
    Keeps base (Method.failIf c e : Method SimpleFS ε Unit) s :=
  Orderly.keeps Method.moves_failIf

/-! ### The clock and the caller -/

theorem keeps_timeNow : Keeps base (timeNow host) s := by
  intro hs
  unfold timeNow Method.run
  dsimp only
  have hkept : Kept base { s with ticks := s.ticks + 1 } := ⟨hs.numbered, hs.base⟩
  cases timeFromSystemTime (host.clock s.ticks) with
  | ok => exact ⟨hkept, ⟨Nat.le_refl _, Nat.le_refl _⟩, trivial⟩
  | err => exact ⟨hkept, Nat.le_refl _, Nat.le_refl _⟩
  | panic => exact hkept

theorem keeps_creationMode {mode : UInt32} : Keeps base (creationMode mode) s :=
  fun hs => ⟨hs, Std.Refl.refl s, trivial⟩

theorem keeps_getGroups {pid : UInt32} : Keeps base (getGroups host pid) s := by
  unfold getGroups
  split
  next => exact Method.moves_pure fun _ => trivial
  next => exact Method.moves_abort

theorem keeps_callerOutsideGroup {gid : UInt32} :
    Keeps base (callerOutsideGroup host req gid) s := by
  unfold callerOutsideGroup
  split
  next => exact Method.moves_pure fun _ => trivial
  next =>
    split
    next => exact keeps_getGroups.bind fun _ _ _ _ => Method.moves_pure fun _ => trivial
    next => exact Method.moves_pure fun _ => trivial

/-- The attributes are those of the same inode. -/
theorem orderly_clearSuidSgid {attrs : InodeAttributes} {privilege : Privilege} :
    Orderly base (clearSuidSgid host attrs req privilege) s
      fun attrs' _ => attrs'.inode = attrs.inode := by
  unfold clearSuidSgid
  refine Method.moves_either (fun _ => keeps_callerOutsideGroup)
    (fun _ => Method.moves_pure fun _ => trivial) fun _ _ _ _ => ?_
  exact Method.moves_pure fun _ => rfl

theorem orderly_clearPrivilegesUnprompted {attrs : InodeAttributes} :
    Orderly base (clearPrivilegesUnprompted host attrs req) s
      fun attrs' _ => attrs'.inode = attrs.inode := by
  unfold clearPrivilegesUnprompted
  refine Method.moves_either (fun _ => Method.moves_pure fun _ => rfl)
    (fun _ => orderly_clearSuidSgid) fun _ _ _ hinode => ?_
  exact Method.moves_pure fun _ => hinode

theorem keeps_checkWritable {attrs : InodeAttributes} : Keeps base (checkWritable attrs) s :=
  keeps_failIf

theorem keeps_checkRemovable {attrs : InodeAttributes} : Keeps base (checkRemovable attrs) s :=
  keeps_failIf

theorem keeps_xattrAccessCheck {key : OsStr} {accessMask : Int32} {attrs : InodeAttributes} :
    Keeps base (xattrAccessCheck key accessMask attrs req) s := by
  unfold xattrAccessCheck
  refine Method.moves_ifThen (fun _ => keeps_checkRemovable) fun s' _ => ?_
  split
  next => exact Method.moves_fail
  next => exact keeps_failIf
  next => exact keeps_failIf
  next =>
    split
    next => exact keeps_failIf
    next => exact keeps_failIf
  next => exact keeps_failIf

/-! ### Storage -/

theorem Disk.Numbered.putInode {disk : Disk} {attrs : InodeAttributes} (h : disk.Numbered)
    (hattrs : attrs.inode.toNat ≤ disk.last) : (disk.putInode attrs).Numbered where
  root := h.root
  inodes i attrs' hi := by
    change Function.update disk.inodes attrs.inode (some attrs) i = some attrs' at hi
    by_cases heq : i = attrs.inode
    · subst heq
      rw [Function.update_self, Option.some.injEq] at hi
      exact ⟨by rw [hi], hattrs⟩
    · rw [Function.update_of_ne heq] at hi
      exact h.inodes i attrs' hi
  contents := h.contents

theorem Disk.Numbered.putContent {disk : Disk} {inode : UInt64} (content : Content)
    (h : disk.Numbered) (hinode : inode.toNat ≤ disk.last) :
    (disk.putContent inode content).Numbered where
  root := h.root
  inodes := h.inodes
  contents i content' hi := by
    change Function.update disk.contents inode (some content) i = some content' at hi
    by_cases heq : i = inode
    · subst heq
      exact hinode
    · rw [Function.update_of_ne heq] at hi
      exact h.contents i content' hi

theorem keeps_writeInode {attrs : InodeAttributes} (h : Known s attrs.inode) :
    Keeps base (writeInode attrs) s :=
  fun hs => ⟨⟨hs.numbered.putInode h, hs.base⟩, ⟨Nat.le_refl _, Nat.le_refl _⟩, trivial⟩

theorem keeps_putContent {inode : INodeNo} {content : Content} (h : Known s inode.raw) :
    Keeps base (putContent inode content) s :=
  fun hs => ⟨⟨hs.numbered.putContent content h, hs.base⟩, ⟨Nat.le_refl _, Nat.le_refl _⟩, trivial⟩

theorem orderly_getInode {inode : INodeNo} :
    Orderly base (getInode inode) s
      fun attrs s' => attrs.inode = inode.raw ∧ Known s' attrs.inode := by
  intro hs
  unfold getInode Method.run
  dsimp only
  cases hinode : s.disk.inodes inode.raw with
  | none => exact ⟨hs, Std.Refl.refl s⟩
  | some attrs =>
      obtain ⟨heq, hlast⟩ := hs.numbered.inodes _ _ hinode
      exact ⟨hs, Std.Refl.refl s, heq, heq ▸ hlast⟩

theorem orderly_openContent {inode : INodeNo} {missing : Errno} :
    Orderly base (openContent inode missing) s fun _ s' => Known s' inode.raw := by
  intro hs
  unfold openContent Method.run
  dsimp only
  cases hcontent : s.disk.contents inode.raw with
  | none => exact ⟨hs, Std.Refl.refl s⟩
  | some content => exact ⟨hs, Std.Refl.refl s, hs.numbered.contents _ _ hcontent⟩

theorem orderly_getDirectoryContent {inode : INodeNo} :
    Orderly base (getDirectoryContent host inode) s fun _ s' => Known s' inode.raw := by
  unfold getDirectoryContent
  refine orderly_openContent.bind fun content s' _ hinode => ?_
  split
  next => exact Method.moves_pure fun _ => hinode
  next =>
    split
    next => exact Method.moves_pure fun _ => hinode
    next => exact Method.moves_abort

theorem keeps_touchAtime {attrs : InodeAttributes} (h : Known s attrs.inode) :
    Keeps base (touchAtime host attrs) s := by
  unfold touchAtime
  split
  next => exact Method.moves_pure fun _ => trivial
  next =>
    refine keeps_timeNow.bind fun now s₁ h₁ _ => ?_
    refine (Method.moves_ofOutcome _).bind fun aDayAgo s₂ h₂ _ => ?_
    split
    next => exact keeps_writeInode ((h.later h₁).later h₂)
    next => exact Method.moves_pure fun _ => trivial

theorem keeps_removeInodeFile {inode : UInt64} : Keeps base (removeInodeFile inode) s := by
  intro hs
  unfold removeInodeFile Method.run
  dsimp only
  cases s.disk.inodes inode with
  | none => exact hs
  | some attrs =>
      refine ⟨⟨⟨hs.numbered.root, fun i attrs' hi => ?_, hs.numbered.contents⟩, hs.base⟩,
        ⟨Nat.le_refl _, Nat.le_refl _⟩, trivial⟩
      change Function.update s.disk.inodes inode none i = some attrs' at hi
      by_cases heq : i = inode
      · rw [heq, Function.update_self] at hi
        cases hi
      · rw [Function.update_of_ne heq] at hi
        exact hs.numbered.inodes i attrs' hi

theorem keeps_removeContentFile {inode : UInt64} : Keeps base (removeContentFile inode) s := by
  intro hs
  unfold removeContentFile Method.run
  dsimp only
  cases s.disk.contents inode with
  | none => exact hs
  | some content =>
      refine ⟨⟨⟨hs.numbered.root, hs.numbered.inodes, fun i content' hi => ?_⟩, hs.base⟩,
        ⟨Nat.le_refl _, Nat.le_refl _⟩, trivial⟩
      change Function.update s.disk.contents inode none i = some content' at hi
      by_cases heq : i = inode
      · rw [heq, Function.update_self] at hi
        cases hi
      · rw [Function.update_of_ne heq] at hi
        exact hs.numbered.contents i content' hi

theorem keeps_gcInode {attrs : InodeAttributes} : Keeps base (gcInode attrs) s := by
  unfold gcInode
  split
  next =>
    refine keeps_removeInodeFile.bind fun _ _ _ _ => ?_
    refine keeps_removeContentFile.bind fun _ _ _ _ => ?_
    exact Method.moves_pure fun _ => trivial
  next => exact Method.moves_pure fun _ => trivial

theorem keeps_closeHandle {attrs : InodeAttributes} (h : Known s attrs.inode) :
    Keeps base (closeHandle attrs) s := by
  unfold closeHandle
  refine (keeps_writeInode ?_).bind fun _ _ _ _ => ?_
  · exact h
  · exact keeps_gcInode.bind fun _ _ _ _ => Method.moves_pure fun _ => trivial

/-! ### What is given out -/

theorem run_allocateNextInode (s : SimpleFS) :
    allocateNextInode.run s = (writeSuperblock (s.disk.superblock.getD 1)).run s := rfl

/-- Nothing keeps two requests that are served at once from reading the superblock before
either has written to it, and they get the same number then. Hence requests are taken to be
served one after the other. -/
theorem allocateNextInode_races (s s' s'' : SimpleFS) {currentInode currentInode' : UInt64}
    {inode inode' : INodeNo} (hread : readSuperblock.run s = (.ok currentInode, s))
    (hread' : readSuperblock.run s = (.ok currentInode', s))
    (hwrite : (writeSuperblock currentInode).run s = (.ok inode, s'))
    (hwrite' : (writeSuperblock currentInode').run s' = (.ok inode', s'')) : inode = inode' := by
  cases hread.symm.trans hread'
  have hnumber {s s' : SimpleFS} {inode : INodeNo}
      (h : (writeSuperblock currentInode).run s = (.ok inode, s')) :
      inode = ⟨currentInode + 1⟩ := by
    simp only [Method.run, writeSuperblock] at h
    split at h
    · cases h
      rfl
    · cases h
  exact (hnumber hwrite).trans (hnumber hwrite').symm

/-- The next number is one that nothing on the disk has. -/
theorem orderly_allocateNextInode :
    Orderly base allocateNextInode s
      fun inode s' => s.disk.last < inode.raw.toNat ∧ Known s' inode.raw := by
  intro hs
  by_cases hroom : (s.disk.superblock.getD 1).toNat + 1 < 2 ^ 64
  · have hnext : (s.disk.superblock.getD 1 + 1).toNat = s.disk.last + 1 := by
      rw [UInt64.toNat_add]
      exact Nat.mod_eq_of_lt hroom
    have hlast : Disk.last { s.disk with superblock := some (s.disk.superblock.getD 1 + 1) } =
        s.disk.last + 1 := hnext
    have hle : s.disk.last ≤ s.disk.last + 1 := Nat.le_succ _
    rw [run_allocateNextInode]
    simp only [Method.run, writeSuperblock, if_pos hroom]
    refine ⟨⟨⟨?_, ?_, ?_⟩, ?_⟩, ⟨?_, Nat.le_refl _⟩, ?_, ?_⟩
    · rw [hlast]
      exact hs.numbered.root.trans hle
    · intro i attrs hi
      rw [hlast]
      exact ⟨(hs.numbered.inodes i attrs hi).1, (hs.numbered.inodes i attrs hi).2.trans hle⟩
    · intro i content hi
      rw [hlast]
      exact (hs.numbered.contents i content hi).trans hle
    · exact hs.base.trans (hle.trans hlast.ge)
    · exact hle.trans hlast.ge
    · exact hnext ▸ Nat.lt_succ_self _
    · exact (hnext.trans hlast.symm).le
  · rw [run_allocateNextInode]
    simp only [Method.run, writeSuperblock, if_neg hroom]
    exact hs

/-- What a handle counts, without what it may be used for. -/
def index (handle : FileHandle) : Nat :=
  (handle.raw &&& ~~~(fileHandleReadBit ||| fileHandleWriteBit)).toNat

theorem and_indexBits (fh : UInt64) :
    (fh &&& ~~~(fileHandleReadBit ||| fileHandleWriteBit)).toNat = fh.toNat % 2 ^ 62 := by
  have hbits : (~~~(fileHandleReadBit ||| fileHandleWriteBit)).toNat = 2 ^ 62 - 1 := by decide
  rw [UInt64.toNat_and, hbits, Nat.and_two_pow_sub_one_eq_mod]

/-- The bits for the access do not change what a handle counts. -/
theorem index_or (fh : UInt64) (bits : UInt64)
    (hbits : bits &&& ~~~(fileHandleReadBit ||| fileHandleWriteBit) = 0) :
    index ⟨fh ||| bits⟩ = index ⟨fh⟩ := by
  have hzero : bits.toNat &&& (~~~(fileHandleReadBit ||| fileHandleWriteBit)).toNat = 0 := by
    rw [← UInt64.toNat_and, hbits, UInt64.toNat_zero]
  rw [index, index, UInt64.toNat_and, UInt64.toNat_or, Nat.and_or_distrib_right, hzero,
    Nat.or_zero, UInt64.toNat_and]

/-- A handle that was given out between two states. -/
structure Handed (s s' : SimpleFS) (handle : FileHandle) : Prop where
  least : s.nextFileHandle.toNat ≤ index handle
  before : index handle < s'.nextFileHandle.toNat

theorem orderly_allocateNextFileHandle {read write : Bool} :
    Orderly base (allocateNextFileHandle read write) s fun handle s' => Handed s s' handle := by
  intro hs
  by_cases hroom : s.nextFileHandle < min fileHandleReadBit fileHandleWriteBit
  · have hlt : s.nextFileHandle.toNat < 2 ^ 62 := hroom
    have hnext : (s.nextFileHandle + 1).toNat = s.nextFileHandle.toNat + 1 := by
      rw [UInt64.toNat_add]
      exact Nat.mod_eq_of_lt (by
        rw [UInt64.toNat_one]
        omega)
    have hindex (bits : UInt64)
        (hbits : bits &&& ~~~(fileHandleReadBit ||| fileHandleWriteBit) = 0) :
        index ⟨s.nextFileHandle ||| bits⟩ = s.nextFileHandle.toNat := by
      rw [index_or _ _ hbits, index, and_indexBits, Nat.mod_eq_of_lt hlt]
    have hhandle : index
        ⟨let fh := if read then s.nextFileHandle ||| fileHandleReadBit else s.nextFileHandle
          if write then fh ||| fileHandleWriteBit else fh⟩ = s.nextFileHandle.toNat := by
      cases read <;> cases write
      · exact (congrArg (fun fh => index ⟨fh⟩) UInt64.or_zero).symm.trans (hindex 0 (by decide))
      · exact hindex fileHandleWriteBit (by decide)
      · exact hindex fileHandleReadBit (by decide)
      · exact (congrArg (fun fh => index ⟨fh⟩) (UInt64.or_assoc ..)).trans (hindex _ (by decide))
    simp only [Method.run, allocateNextFileHandle, if_pos hroom]
    refine ⟨⟨hs.numbered, hs.base⟩, ⟨Nat.le_refl _, ?_⟩, ?_, ?_⟩
    · exact hnext ▸ Nat.le_succ _
    · exact hhandle.ge
    · exact hhandle.trans_lt (hnext ▸ Nat.lt_succ_self _)
  · simp only [Method.run, allocateNextFileHandle, if_neg hroom]
    exact ⟨hs.numbered, hs.base⟩

/-! ### Entries -/

theorem orderly_lookupName {parent : INodeNo} {name : OsStr} :
    Orderly base (lookupName host parent name) s fun attrs s' => Known s' attrs.inode := by
  unfold lookupName
  refine orderly_getDirectoryContent.bind fun entries s' _ _ => ?_
  split
  next => exact orderly_getInode.imp fun _ _ _ _ hinode => hinode.2
  next => exact Method.moves_fail

theorem keeps_nameTaken {parent : INodeNo} {name : OsStr} :
    Keeps base (nameTaken host parent name) s := by
  unfold nameTaken
  refine (Method.moves_attempt orderly_lookupName).bind fun _ _ _ _ => ?_
  split
  next => exact Method.moves_pure fun _ => trivial
  next => exact Method.moves_pure fun _ => trivial

theorem keeps_insertEntry {parent : INodeNo} {name : OsStr} {entry : UInt64 × FileKind} :
    Keeps base (insertEntry host parent name entry) s := by
  unfold insertEntry
  refine (Method.moves_unwrap orderly_getDirectoryContent).bind fun _ _ _ hparent => ?_
  exact keeps_putContent hparent

theorem keeps_removeEntry {parent : INodeNo} {name : OsStr} :
    Keeps base (removeEntry host parent name) s := by
  unfold removeEntry
  refine (Method.moves_unwrap orderly_getDirectoryContent).bind fun _ _ _ hparent => ?_
  exact keeps_putContent hparent

theorem keeps_refuseTaken {parent : INodeNo} {name : OsStr} :
    Keeps base (refuseTaken host parent name) s := by
  unfold refuseTaken
  exact keeps_nameTaken.bind fun _ _ _ _ => keeps_failIf

theorem keeps_insertLink {parent inode : INodeNo} {name : OsStr} {kind : FileKind} :
    Keeps base (insertLink host req parent name inode kind) s := by
  unfold insertLink
  refine keeps_refuseTaken.bind fun _ _ _ _ => ?_
  refine orderly_getInode.bind fun parentAttrs _ _ hparent => ?_
  refine keeps_checkWritable.bind fun _ _ h₁ _ => ?_
  refine keeps_failIf.bind fun _ _ h₂ _ => ?_
  refine keeps_timeNow.bind fun now _ h₃ _ => ?_
  refine (keeps_writeInode ?_).bind fun _ _ _ _ => keeps_insertEntry
  exact ((hparent.2.later h₁).later h₂).later h₃

/-! ### What replies name -/

theorem orderly_fileAttr {attrs : InodeAttributes} :
    Orderly base (fileAttr host attrs) s fun attr _ => attr.ino = ⟨attrs.inode⟩ := by
  unfold fileAttr
  refine (Method.moves_ofOutcome _).bind fun _ _ _ _ => ?_
  refine (Method.moves_ofOutcome _).bind fun _ _ _ _ => ?_
  refine (Method.moves_ofOutcome _).bind fun _ _ _ _ => ?_
  refine (Method.moves_ofOutcome _).bind fun _ _ _ _ => ?_
  exact Method.moves_pure fun _ => rfl

/-- An entry that names the inode, with no generation but the first. -/
def Names (inode : UInt64) (reply : ReplyCall .entry) : Prop :=
  ∃ attr, reply = .entry noTtl attr ⟨0⟩ ∧ attr.ino = ⟨inode⟩

theorem orderly_replyEntry {attrs : InodeAttributes} :
    Orderly base (replyEntry host attrs) s fun reply _ => Names attrs.inode reply := by
  unfold replyEntry
  refine orderly_fileAttr.bind fun attr _ _ hino => ?_
  exact Method.moves_pure fun _ => ⟨attr, rfl, hino⟩

theorem keeps_replyAttr {attrs : InodeAttributes} : Keeps base (replyAttr host attrs) s := by
  unfold replyAttr
  refine orderly_fileAttr.bind fun attr _ _ _ => ?_
  exact Method.moves_pure fun _ => trivial

/-! ### The methods that make no inode and open none -/

theorem keeps_truncate {inode : INodeNo} {newLength : UInt64} {killSuidGid enforceAccess : Bool} :
    Keeps base (truncate host req inode newLength killSuidGid enforceAccess) s := by
  unfold truncate
  refine keeps_failIf.bind fun _ _ _ _ => ?_
  refine orderly_getInode.bind fun attrs _ _ hattrs => ?_
  refine keeps_failIf.bind fun _ _ h₁ _ => ?_
  refine keeps_failIf.bind fun _ _ h₂ _ => ?_
  refine (Method.moves_unwrap orderly_openContent).bind fun _ _ h₃ hcontent => ?_
  refine (keeps_putContent hcontent).bind fun _ _ h₄ _ => ?_
  refine keeps_timeNow.bind fun now _ h₅ _ => ?_
  have hknown := ((((hattrs.2.later h₁).later h₂).later h₃).later h₄).later h₅
  refine Method.moves_either (fun _ => orderly_clearSuidSgid)
    (fun _ => Method.moves_pure fun _ => rfl) fun attrs' _ h₆ hinode => ?_
  refine (keeps_writeInode ?_).bind fun _ _ _ _ => Method.moves_pure fun _ => trivial
  have heq : (clearFileCapabilities attrs').inode = attrs.inode := hinode
  rw [heq]
  exact hknown.later h₆

theorem keeps_lookup {parent : INodeNo} {name : OsStr} :
    Keeps base (lookup host req parent name) s := by
  unfold lookup
  refine keeps_failIf.bind fun _ _ _ _ => ?_
  refine orderly_getInode.bind fun _ _ _ _ => ?_
  refine keeps_failIf.bind fun _ _ _ _ => ?_
  refine orderly_lookupName.bind fun _ _ _ _ => ?_
  exact orderly_replyEntry.keeps

theorem keeps_getattr {ino : INodeNo} : Keeps base (getattr host ino) s := by
  unfold getattr
  refine orderly_getInode.bind fun _ _ _ _ => ?_
  exact keeps_replyAttr

theorem keeps_statx {ino : INodeNo} : Keeps base (statx host ino) s := by
  unfold statx
  refine orderly_getInode.bind fun _ _ _ _ => ?_
  refine (Method.moves_ofOutcome _).bind fun _ _ _ _ => ?_
  refine orderly_fileAttr.bind fun _ _ _ _ => ?_
  exact Method.moves_pure fun _ => trivial

theorem keeps_setattrMode {attrs : InodeAttributes} {mode : UInt32} (hattrs : Known s attrs.inode) :
    Keeps base (setattrMode host req attrs mode) s := by
  unfold setattrMode
  refine keeps_failIf.bind fun _ _ h₁ _ => ?_
  refine Method.moves_either (fun _ => Method.moves_pure fun _ => trivial)
    (fun _ => keeps_callerOutsideGroup) fun _ _ h₂ _ => ?_
  refine keeps_timeNow.bind fun _ _ h₃ _ => ?_
  refine (keeps_writeInode ?_).bind fun _ _ _ _ => keeps_replyAttr
  exact ((hattrs.later h₁).later h₂).later h₃

theorem keeps_checkGroup {gid : Option UInt32} : Keeps base (checkGroup host req gid) s := by
  unfold checkGroup
  split
  next =>
    split
    next => exact keeps_getGroups.bind fun _ _ _ _ => keeps_failIf
    next => exact Method.moves_pure fun _ => trivial
  next => exact Method.moves_pure fun _ => trivial

theorem keeps_checkUser {attrs : InodeAttributes} {uid : Option UInt32} :
    Keeps base (checkUser req attrs uid) s := by
  unfold checkUser
  split
  next => exact keeps_failIf
  next => exact Method.moves_pure fun _ => trivial

theorem keeps_setattrOwner {attrs : InodeAttributes} {uid gid : Option UInt32} {killSuidGid : Bool}
    (hattrs : Known s attrs.inode) :
    Keeps base (setattrOwner host req attrs uid gid killSuidGid) s := by
  unfold setattrOwner
  refine keeps_checkGroup.bind fun _ _ h₁ _ => ?_
  refine keeps_checkUser.bind fun _ _ h₂ _ => ?_
  refine keeps_failIf.bind fun _ _ h₃ _ => ?_
  refine Method.moves_either (fun _ => orderly_clearSuidSgid)
    (fun _ => Method.moves_pure fun _ => rfl) fun attrs' _ h₄ hinode => ?_
  refine keeps_timeNow.bind fun _ _ h₅ _ => ?_
  refine (keeps_writeInode ?_).bind fun _ _ _ _ => keeps_replyAttr
  have heq : (clearFileCapabilities attrs').inode = attrs.inode := hinode
  rw [heq]
  exact ((((hattrs.later h₁).later h₂).later h₃).later h₄).later h₅

theorem keeps_setattrSize {ino : INodeNo} {size : Option UInt64} {fh : Option FileHandle}
    {killSuidGid : Bool} : Keeps base (setattrSize host req ino size fh killSuidGid) s := by
  unfold setattrSize
  split
  next =>
    refine keeps_failIf.bind fun _ _ _ _ => ?_
    exact keeps_truncate.bind fun _ _ _ _ => Method.moves_pure fun _ => trivial
  next => exact keeps_truncate.bind fun _ _ _ _ => Method.moves_pure fun _ => trivial
  next => exact Method.moves_pure fun _ => trivial

theorem keeps_timeOrNow {time : TimeOrNow} {now : Timestamp} :
    Keeps base (timeOrNow time now) s := by
  unfold timeOrNow
  split
  next => exact Orderly.keeps (Method.moves_ofOutcome _)
  next => exact Method.moves_pure fun _ => trivial

theorem orderly_setattrTime {attrs : InodeAttributes} {time : Option TimeOrNow} {now : Timestamp}
    {set : InodeAttributes → Timestamp → InodeAttributes}
    (hset : ∀ value, (set attrs value).inode = attrs.inode) (hattrs : Known s attrs.inode) :
    Orderly base (setattrTime req attrs time now set) s fun attrs' s' => Known s' attrs'.inode := by
  unfold setattrTime
  split
  next =>
    refine keeps_failIf.bind fun _ _ h₁ _ => ?_
    refine keeps_failIf.bind fun _ _ h₂ _ => ?_
    refine keeps_timeOrNow.bind fun value s₃ h₃ _ => ?_
    have hknown : Known s₃ (set attrs value).inode := by
      rw [hset]
      exact ((hattrs.later h₁).later h₂).later h₃
    refine (keeps_writeInode ?_).bind fun _ _ h₄ _ => Method.moves_pure fun _ => ?_
    · exact hknown
    · exact hknown.later h₄
  next => exact Method.moves_pure fun _ => hattrs

theorem keeps_setattrTimes {attrs : InodeAttributes} {atime mtime : Option TimeOrNow}
    (hattrs : Known s attrs.inode) : Keeps base (setattrTimes host req attrs atime mtime) s := by
  unfold setattrTimes
  refine keeps_timeNow.bind fun _ _ h₁ _ => ?_
  refine (orderly_setattrTime (fun _ => rfl) (hattrs.later h₁)).bind fun _ _ _ hattrs' => ?_
  refine (orderly_setattrTime (fun _ => rfl) hattrs').bind fun _ _ _ _ => ?_
  exact Method.moves_pure fun _ => trivial

theorem keeps_setattr {ino : INodeNo} {mode uid gid : Option UInt32} {size : Option UInt64}
    {atime mtime : Option TimeOrNow} {fh : Option FileHandle} {killSuidGid : Bool} :
    Keeps base (setattr host req ino mode uid gid size atime mtime fh killSuidGid) s := by
  unfold setattr
  refine orderly_getInode.bind fun attrs _ _ hattrs => ?_
  refine keeps_failIf.bind fun _ _ h₁ _ => ?_
  split
  next => exact keeps_setattrMode (hattrs.2.later h₁)
  next =>
    split
    next => exact keeps_setattrOwner (hattrs.2.later h₁)
    next =>
      refine keeps_setattrSize.bind fun _ _ h₂ _ => ?_
      refine (keeps_setattrTimes ((hattrs.2.later h₁).later h₂)).bind fun _ _ _ _ => ?_
      refine (Method.moves_unwrap orderly_getInode).bind fun _ _ _ _ => ?_
      exact keeps_replyAttr

theorem keeps_touchIfThere {ino : INodeNo} : Keeps base (touchIfThere host ino) s := by
  unfold touchIfThere
  refine (Method.moves_attempt orderly_getInode).bind fun result _ _ hresult => ?_
  split
  next attrs => exact keeps_touchAtime (hresult attrs rfl).2
  next => exact Method.moves_pure fun _ => trivial

theorem keeps_readlink {ino : INodeNo} : Keeps base (readlink host ino) s := by
  unfold readlink
  refine orderly_openContent.bind fun _ _ _ _ => ?_
  refine keeps_touchIfThere.bind fun _ _ _ _ => ?_
  exact Method.moves_pure fun _ => trivial

theorem keeps_openParent {parent : INodeNo} :
    Keeps base (openParent host req parent) s := by
  unfold openParent
  refine orderly_getInode.bind fun _ _ _ hparent => ?_
  refine keeps_checkWritable.bind fun _ _ h₁ _ => ?_
  refine keeps_failIf.bind fun _ _ h₂ _ => ?_
  refine keeps_timeNow.bind fun _ _ h₃ _ => ?_
  refine (keeps_writeInode ?_).bind fun _ _ _ _ => Method.moves_pure fun _ => trivial
  exact ((hparent.2.later h₁).later h₂).later h₃

theorem keeps_unlinkEntry {parent : INodeNo} {name : OsStr} {parentAttrs attrs : InodeAttributes}
    {lower : UInt32 → Outcome Errno UInt32} (hparent : Known s parentAttrs.inode)
    (hattrs : Known s attrs.inode) :
    Keeps base (unlinkEntry host parent name parentAttrs attrs lower) s := by
  unfold unlinkEntry
  refine keeps_timeNow.bind fun _ _ h₁ _ => ?_
  refine (keeps_writeInode ?_).bind fun _ _ h₂ _ => ?_
  · exact hparent.later h₁
  refine (Method.moves_ofOutcome _).bind fun _ _ h₃ _ => ?_
  refine (keeps_writeInode ?_).bind fun _ _ _ _ => ?_
  · exact ((hattrs.later h₁).later h₂).later h₃
  refine keeps_gcInode.bind fun _ _ _ _ => ?_
  refine keeps_removeEntry.bind fun _ _ _ _ => ?_
  exact Method.moves_pure fun _ => trivial

theorem keeps_unlink {parent : INodeNo} {name : OsStr} :
    Keeps base (unlink host req parent name) s := by
  unfold unlink
  refine orderly_lookupName.bind fun _ _ _ hattrs => ?_
  refine orderly_getInode.bind fun _ _ h₁ hparent => ?_
  refine keeps_checkRemovable.bind fun _ _ h₂ _ => ?_
  refine keeps_checkRemovable.bind fun _ _ h₃ _ => ?_
  refine keeps_failIf.bind fun _ _ h₄ _ => ?_
  refine keeps_failIf.bind fun _ _ h₅ _ => ?_
  refine keeps_unlinkEntry ?_ ?_
  · exact (((hparent.2.later h₂).later h₃).later h₄).later h₅
  · exact ((((hattrs.later h₁).later h₂).later h₃).later h₄).later h₅

theorem keeps_rmdir {parent : INodeNo} {name : OsStr} :
    Keeps base (rmdir host req parent name) s := by
  unfold rmdir
  refine orderly_lookupName.bind fun _ _ _ hattrs => ?_
  refine orderly_getInode.bind fun _ _ h₁ hparent => ?_
  refine keeps_checkRemovable.bind fun _ _ h₂ _ => ?_
  refine keeps_checkRemovable.bind fun _ _ h₃ _ => ?_
  refine (Method.moves_unwrap orderly_getDirectoryContent).bind fun _ _ h₄ _ => ?_
  refine keeps_failIf.bind fun _ _ h₅ _ => ?_
  refine keeps_failIf.bind fun _ _ h₆ _ => ?_
  refine keeps_failIf.bind fun _ _ h₇ _ => ?_
  refine keeps_unlinkEntry ?_ ?_
  · exact (((((hparent.2.later h₂).later h₃).later h₄).later h₅).later h₆).later h₇
  · exact ((((((hattrs.later h₁).later h₂).later h₃).later h₄).later h₅).later h₆).later h₇

theorem keeps_setParent {attrs : InodeAttributes} {parent : INodeNo} :
    Keeps base (setParent host attrs parent) s := by
  unfold setParent
  split
  next => exact keeps_insertEntry
  next => exact Method.moves_pure fun _ => trivial

theorem keeps_exchange {parent newparent : INodeNo} {name newname : OsStr}
    {inodeAttrs parentAttrs newParentAttrs : InodeAttributes} (hinode : Known s inodeAttrs.inode)
    (hparent : Known s parentAttrs.inode) (hnewparent : Known s newParentAttrs.inode) :
    Keeps base (exchange host parent name newparent newname inodeAttrs parentAttrs newParentAttrs)
      s := by
  unfold exchange
  refine orderly_lookupName.bind fun newInodeAttrs s₁ h₁ hnew => ?_
  refine keeps_insertEntry.bind fun _ _ h₂ _ => ?_
  refine keeps_insertEntry.bind fun _ _ h₃ _ => ?_
  refine keeps_timeNow.bind fun _ s₄ h₄ _ => ?_
  have hlater : Later s₁ s₄ := (h₂.trans h₃).trans h₄
  refine (keeps_writeInode ?_).bind fun _ _ h₅ _ => ?_
  · exact (hparent.later h₁).later hlater
  refine (keeps_writeInode ?_).bind fun _ _ h₆ _ => ?_
  · exact ((hnewparent.later h₁).later hlater).later h₅
  refine (keeps_writeInode ?_).bind fun _ _ h₇ _ => ?_
  · exact (((hinode.later h₁).later hlater).later h₅).later h₆
  refine (keeps_writeInode ?_).bind fun _ _ _ _ => ?_
  · exact (((hnew.later hlater).later h₅).later h₆).later h₇
  refine keeps_setParent.bind fun _ _ _ _ => ?_
  refine keeps_setParent.bind fun _ _ _ _ => ?_
  exact Method.moves_pure fun _ => trivial

theorem keeps_refuseFull {parent : INodeNo} {name : OsStr} :
    Keeps base (refuseFull host parent name) s := by
  unfold refuseFull
  refine (Method.moves_attempt orderly_lookupName).bind fun _ _ _ _ => ?_
  split
  next =>
    split
    next =>
      refine (Method.moves_unwrap orderly_getDirectoryContent).bind fun _ _ _ _ => ?_
      exact keeps_failIf
    next => exact Method.moves_pure fun _ => trivial
  next => exact Method.moves_pure fun _ => trivial

theorem keeps_replaceExisting {parent : INodeNo} {name : OsStr} {now : Timestamp} :
    Keeps base (replaceExisting host parent name now) s := by
  unfold replaceExisting
  refine (Method.moves_attempt orderly_lookupName).bind fun result _ _ hresult => ?_
  split
  next existing =>
    refine keeps_removeEntry.bind fun _ _ h₁ _ => ?_
    refine Method.moves_either (fun _ => Method.moves_pure fun _ => trivial)
      (fun _ => Orderly.keeps (Method.moves_ofOutcome _)) fun _ _ h₂ _ => ?_
    refine (keeps_writeInode ?_).bind fun _ _ _ _ => ?_
    · exact ((hresult existing rfl).later h₁).later h₂
    refine keeps_gcInode.bind fun _ _ _ _ => ?_
    exact Method.moves_pure fun _ => trivial
  next => exact Method.moves_pure fun _ => trivial

theorem keeps_makeWhiteout {now : Timestamp} {parentAttrs : InodeAttributes}
    {owner : Option Owner} : Keeps base (makeWhiteout now parentAttrs owner) s := by
  unfold makeWhiteout
  split
  next => exact Method.moves_fail
  next =>
    refine orderly_allocateNextInode.bind fun inode _ _ hinode => ?_
    refine (keeps_writeInode ?_).bind fun _ _ h₁ _ => ?_
    · exact hinode.2
    refine (keeps_putContent (hinode.2.later h₁)).bind fun _ _ _ _ => ?_
    exact Method.moves_pure fun _ => trivial

theorem keeps_leaveBehind {parent : INodeNo} {name : OsStr} {now : Timestamp}
    {parentAttrs : InodeAttributes} {whiteout : Bool} {owner : Option Owner} :
    Keeps base (leaveBehind host parent name now parentAttrs whiteout owner) s := by
  unfold leaveBehind
  refine (Method.moves_unwrap orderly_getDirectoryContent).bind fun _ _ _ hparent => ?_
  dsimp only
  split
  next =>
    refine keeps_makeWhiteout.bind fun _ _ h _ => ?_
    exact keeps_putContent (hparent.later h)
  next => exact keeps_putContent hparent

theorem keeps_replace {parent newparent : INodeNo} {name newname : OsStr}
    {inodeAttrs parentAttrs newParentAttrs : InodeAttributes} {noReplace whiteout : Bool}
    {owner : Option Owner} (hinode : Known s inodeAttrs.inode)
    (hparent : Known s parentAttrs.inode) (hnewparent : Known s newParentAttrs.inode) :
    Keeps base (replace host req parent name newparent newname inodeAttrs parentAttrs newParentAttrs
      noReplace whiteout owner) s := by
  unfold replace
  refine Method.moves_ifThen (fun _ => keeps_refuseTaken) fun _ h₁ => ?_
  refine keeps_refuseFull.bind fun _ _ h₂ _ => ?_
  refine keeps_failIf.bind fun _ _ h₃ _ => ?_
  refine keeps_timeNow.bind fun _ _ h₄ _ => ?_
  refine keeps_replaceExisting.bind fun _ _ h₅ _ => ?_
  refine keeps_leaveBehind.bind fun _ _ h₆ _ => ?_
  refine keeps_insertEntry.bind fun _ s₇ h₇ _ => ?_
  have hlater : Later s s₇ := (((((h₁.trans h₂).trans h₃).trans h₄).trans h₅).trans h₆).trans h₇
  refine (keeps_writeInode ?_).bind fun _ _ h₈ _ => ?_
  · exact hparent.later hlater
  refine (keeps_writeInode ?_).bind fun _ _ h₉ _ => ?_
  · exact (hnewparent.later hlater).later h₈
  refine (keeps_writeInode ?_).bind fun _ _ _ _ => ?_
  · exact ((hinode.later hlater).later h₈).later h₉
  refine keeps_setParent.bind fun _ _ _ _ => ?_
  exact Method.moves_pure fun _ => trivial

theorem keeps_checkDestination {newparent : INodeNo} {newname : OsStr}
    {newParentAttrs : InodeAttributes} :
    Keeps base (checkDestination host req newparent newname newParentAttrs) s := by
  unfold checkDestination
  split
  next =>
    refine (Method.moves_attempt orderly_lookupName).bind fun _ _ _ _ => ?_
    split
    next => exact keeps_failIf
    next => exact Method.moves_pure fun _ => trivial
  next => exact Method.moves_pure fun _ => trivial

theorem keeps_checkExisting {destination : Except Errno InodeAttributes} :
    Keeps base (checkExisting destination) s := by
  unfold checkExisting
  split
  next => exact keeps_checkRemovable
  next => exact Method.moves_pure fun _ => trivial

theorem keeps_rename {parent newparent : INodeNo} {name newname : OsStr} {flags : UInt32}
    {owner : Option Owner} :
    Keeps base (rename host req parent name newparent newname flags owner) s := by
  unfold rename
  refine orderly_lookupName.bind fun _ _ _ hinode => ?_
  refine orderly_getInode.bind fun _ _ h₁ hparent => ?_
  refine keeps_failIf.bind fun _ _ h₂ _ => ?_
  refine keeps_failIf.bind fun _ _ h₃ _ => ?_
  refine orderly_getInode.bind fun _ _ h₄ hnewparent => ?_
  refine keeps_failIf.bind fun _ _ h₅ _ => ?_
  refine keeps_checkDestination.bind fun _ _ h₆ _ => ?_
  refine (Method.moves_attempt orderly_lookupName).bind fun _ _ h₇ _ => ?_
  refine keeps_checkRemovable.bind fun _ _ h₈ _ => ?_
  refine keeps_checkRemovable.bind fun _ _ h₉ _ => ?_
  refine keeps_checkWritable.bind fun _ _ h₁₀ _ => ?_
  refine keeps_checkExisting.bind fun _ _ h₁₁ _ => ?_
  refine keeps_failIf.bind fun _ _ h₁₂ _ => ?_
  refine keeps_failIf.bind fun _ _ h₁₃ _ => ?_
  have hafter := (((((((h₅.trans h₆).trans h₇).trans h₈).trans h₉).trans h₁₀).trans h₁₁).trans
    h₁₂).trans h₁₃
  have hbetween := (h₂.trans h₃).trans h₄
  have hinode' := ((hinode.later h₁).later hbetween).later hafter
  have hparent' := (hparent.2.later hbetween).later hafter
  have hnewparent' := hnewparent.2.later hafter
  split
  next => exact keeps_exchange hinode' hparent' hnewparent'
  next => exact keeps_replace hinode' hparent' hnewparent'

theorem keeps_link {ino newparent : INodeNo} {newname : OsStr} :
    Keeps base (link host req ino newparent newname) s := by
  unfold link
  refine orderly_getInode.bind fun _ _ _ hattrs => ?_
  refine keeps_checkRemovable.bind fun _ _ h₁ _ => ?_
  refine keeps_insertLink.bind fun _ _ h₂ _ => ?_
  refine (Method.moves_ofOutcome _).bind fun _ _ h₃ _ => ?_
  refine keeps_timeNow.bind fun _ _ h₄ _ => ?_
  refine (keeps_writeInode ?_).bind fun _ _ _ _ => orderly_replyEntry.keeps
  exact (((hattrs.2.later h₁).later h₂).later h₃).later h₄

theorem keeps_read {ino : INodeNo} {fh : FileHandle} {offset : UInt64} {size : UInt32}
    {flags : OpenFlags} : Keeps base (read host ino fh offset size flags) s := by
  unfold read
  refine keeps_failIf.bind fun _ _ _ _ => ?_
  refine orderly_openContent.bind fun _ _ _ _ => ?_
  refine Method.moves_ifThen (fun _ => keeps_touchIfThere) fun _ _ => ?_
  exact Method.moves_pure fun _ => trivial

theorem keeps_write {ino : INodeNo} {fh : FileHandle} {offset : UInt64} {data : List UInt8}
    {writeFlags : UInt32} : Keeps base (write host req ino fh offset data writeFlags) s := by
  unfold write
  refine keeps_failIf.bind fun _ _ _ _ => ?_
  refine orderly_openContent.bind fun _ _ _ hcontent => ?_
  refine keeps_failIf.bind fun _ _ h₁ _ => ?_
  refine (keeps_putContent (hcontent.later h₁)).bind fun _ _ _ _ => ?_
  refine orderly_getInode.bind fun attrs _ _ hattrs => ?_
  refine keeps_timeNow.bind fun now _ h₂ _ => ?_
  have hinode : (if data.length + offset.toNat > (attrs.changedAt now).size.toNat then
      { attrs.changedAt now with size := UInt64.ofNat (data.length + offset.toNat) }
      else attrs.changedAt now).inode = attrs.inode := by
    split <;> rfl
  refine Method.moves_either (fun _ => orderly_clearSuidSgid)
    (fun _ => Method.moves_pure fun _ => rfl) fun attrs' _ h₃ hcleared => ?_
  refine (keeps_writeInode ?_).bind fun _ _ _ _ => Method.moves_pure fun _ => trivial
  have heq : (clearFileCapabilities attrs').inode = attrs.inode := hcleared.trans hinode
  rw [heq]
  exact (hattrs.2.later h₂).later h₃

theorem keeps_closeIfThere {ino : INodeNo} : Keeps base (closeIfThere ino) s := by
  unfold closeIfThere
  refine (Method.moves_attempt orderly_getInode).bind fun result _ _ hresult => ?_
  split
  next attrs => exact keeps_closeHandle (hresult attrs rfl).2
  next => exact Method.moves_pure fun _ => trivial

theorem keeps_release {ino : INodeNo} : Keeps base (release ino) s := by
  unfold release
  exact keeps_closeIfThere.bind fun _ _ _ _ => Method.moves_pure fun _ => trivial

theorem keeps_readdir {ino : INodeNo} {offset : UInt64} {size : Nat} :
    Keeps base (readdir host ino offset size) s := by
  unfold readdir
  refine orderly_getDirectoryContent.bind fun _ _ _ _ => ?_
  refine keeps_touchIfThere.bind fun _ _ _ _ => ?_
  exact Method.moves_pure fun _ => trivial

theorem keeps_statfs : Keeps base (statfs host) s := by
  unfold statfs
  split
  next => exact Method.moves_fail
  next => exact Method.moves_pure fun _ => trivial

theorem orderly_inodeOrEbadf {ino : INodeNo} :
    Orderly base (inodeOrEbadf ino) s fun attrs s' => Known s' attrs.inode := by
  unfold inodeOrEbadf
  refine (Method.moves_attempt orderly_getInode).bind fun result _ _ hresult => ?_
  split
  next attrs => exact Method.moves_pure fun _ => (hresult attrs rfl).2
  next => exact Method.moves_fail

theorem keeps_setxattr {ino : INodeNo} {name : OsStr} {value : List UInt8} :
    Keeps base (setxattr host req ino name value) s := by
  unfold setxattr
  refine orderly_inodeOrEbadf.bind fun _ _ _ hattrs => ?_
  refine keeps_xattrAccessCheck.bind fun _ _ h₁ _ => ?_
  refine keeps_timeNow.bind fun _ _ h₂ _ => ?_
  refine (keeps_writeInode ?_).bind fun _ _ _ _ => Method.moves_pure fun _ => trivial
  exact (hattrs.later h₁).later h₂

theorem keeps_replyXattr {size : UInt32} {data : List UInt8} :
    Keeps base (replyXattr size data) s := by
  unfold replyXattr
  split
  next => exact Method.moves_pure fun _ => trivial
  next =>
    split
    next => exact Method.moves_pure fun _ => trivial
    next => exact Method.moves_fail

theorem keeps_getxattr {ino : INodeNo} {key : OsStr} {size : UInt32} :
    Keeps base (getxattr req ino key size) s := by
  unfold getxattr
  refine orderly_inodeOrEbadf.bind fun _ _ _ _ => ?_
  refine keeps_xattrAccessCheck.bind fun _ _ _ _ => ?_
  split
  next => exact keeps_replyXattr
  next => exact Method.moves_fail

theorem keeps_listxattr {ino : INodeNo} {size : UInt32} : Keeps base (listxattr ino size) s := by
  unfold listxattr
  exact orderly_inodeOrEbadf.bind fun _ _ _ _ => keeps_replyXattr

theorem keeps_removexattr {ino : INodeNo} {key : OsStr} :
    Keeps base (removexattr host req ino key) s := by
  unfold removexattr
  refine orderly_inodeOrEbadf.bind fun _ _ _ hattrs => ?_
  refine Method.moves_ifThen (fun _ => keeps_xattrAccessCheck) fun _ h₁ => ?_
  refine keeps_failIf.bind fun _ _ h₂ _ => ?_
  refine keeps_timeNow.bind fun _ _ h₃ _ => ?_
  refine (keeps_writeInode ?_).bind fun _ _ _ _ => Method.moves_pure fun _ => trivial
  exact ((hattrs.later h₁).later h₂).later h₃

theorem keeps_access {ino : INodeNo} {mask : Int32} : Keeps base (access req ino mask) s := by
  unfold access
  refine orderly_getInode.bind fun _ _ _ _ => ?_
  exact keeps_failIf.bind fun _ _ _ _ => Method.moves_pure fun _ => trivial

theorem keeps_requestedFlags {cmd : UInt32} {inData : List UInt8} :
    Keeps base (requestedFlags cmd inData) s := by
  unfold requestedFlags
  split
  next =>
    refine keeps_failIf.bind fun _ _ _ _ => ?_
    exact keeps_failIf.bind fun _ _ _ _ => Method.moves_pure fun _ => trivial
  next =>
    split
    next =>
      refine keeps_failIf.bind fun _ _ _ _ => ?_
      split
      next => exact Method.moves_pure fun _ => trivial
      next => exact Method.moves_fail
    next => exact Method.moves_fail

theorem keeps_setFlags {attrs : InodeAttributes} {newFlags : UInt32}
    (hattrs : Known s attrs.inode) : Keeps base (setFlags host attrs newFlags) s := by
  unfold setFlags
  exact keeps_timeNow.bind fun _ _ h _ => keeps_writeInode (hattrs.later h)

theorem keeps_ioctl {ino : INodeNo} {cmd : UInt32} {inData : List UInt8} :
    Keeps base (ioctl host ino cmd inData) s := by
  unfold ioctl
  refine orderly_getInode.bind fun _ _ _ hattrs => ?_
  split
  next => exact Method.moves_pure fun _ => trivial
  next =>
    split
    next => exact Method.moves_pure fun _ => trivial
    next =>
      refine keeps_requestedFlags.bind fun _ _ h _ => ?_
      refine Method.moves_ifThen (fun _ => keeps_setFlags (hattrs.2.later h)) fun _ _ => ?_
      exact Method.moves_pure fun _ => trivial

theorem orderly_grownTo {attrs : InodeAttributes} {offset length : UInt64} :
    Orderly base (grownTo attrs offset length) s fun attrs' _ => attrs'.inode = attrs.inode := by
  unfold grownTo
  refine (Method.moves_ofOutcome _).bind fun _ _ _ _ => Method.moves_pure fun _ => ?_
  split <;> rfl

theorem orderly_clearIfNegotiated {attrs : InodeAttributes} :
    Orderly base (clearIfNegotiated host attrs req) s
      fun attrs' _ => attrs'.inode = attrs.inode := by
  by_cases hnegotiated : s.killprivNegotiated
  · intro hs
    simp only [Method.run, clearIfNegotiated, if_pos hnegotiated]
    exact orderly_clearPrivilegesUnprompted hs
  · intro hs
    simp only [Method.run, clearIfNegotiated, if_neg hnegotiated]
    exact ⟨hs, Std.Refl.refl s, trivial⟩

theorem keeps_fallocate {ino : INodeNo} {offset length : UInt64} {mode : Int32} :
    Keeps base (fallocate host req ino offset length mode) s := by
  unfold fallocate
  refine orderly_getInode.bind fun _ _ _ _ => ?_
  refine keeps_failIf.bind fun _ _ _ _ => ?_
  refine keeps_failIf.bind fun _ _ _ _ => ?_
  refine orderly_openContent.bind fun _ _ _ hcontent => ?_
  split
  next => exact Method.moves_fail
  next =>
    refine (keeps_putContent hcontent).bind fun _ _ _ _ => ?_
    refine (Method.moves_unwrap orderly_getInode).bind fun attrs _ _ hattrs => ?_
    refine keeps_timeNow.bind fun _ _ h₁ _ => ?_
    refine Method.moves_either (fun _ => orderly_grownTo)
      (fun _ => Method.moves_pure fun _ => rfl) fun _ _ h₂ hgrown => ?_
    refine orderly_clearIfNegotiated.bind fun attrs' _ h₃ hcleared => ?_
    refine (keeps_writeInode ?_).bind fun _ _ _ _ => Method.moves_pure fun _ => trivial
    have heq : attrs'.inode = attrs.inode := hcleared.trans hgrown
    rw [heq]
    exact ((hattrs.2.later h₁).later h₂).later h₃

theorem keeps_copyFileRange {srcInode destInode : INodeNo} {srcFh destFh : FileHandle}
    {srcOffset destOffset size : UInt64} :
    Keeps base (copyFileRange host req srcInode srcFh srcOffset destInode destFh destOffset size)
      s := by
  unfold copyFileRange
  refine keeps_failIf.bind fun _ _ _ _ => ?_
  refine keeps_failIf.bind fun _ _ _ _ => ?_
  refine orderly_getInode.bind fun _ _ _ _ => ?_
  refine keeps_checkWritable.bind fun _ _ _ _ => ?_
  refine orderly_openContent.bind fun content _ _ _ => ?_
  refine keeps_touchIfThere.bind fun _ _ _ _ => ?_
  refine orderly_openContent.bind fun _ _ _ hcontent => ?_
  refine (keeps_putContent hcontent).bind fun _ _ _ _ => ?_
  refine (Method.moves_unwrap orderly_getInode).bind fun attrs _ _ hattrs => ?_
  refine keeps_timeNow.bind fun _ _ h₁ _ => ?_
  refine keeps_failIf.bind fun _ _ h₂ _ => ?_
  refine orderly_clearIfNegotiated.bind fun attrs' _ h₃ hcleared => ?_
  refine (keeps_writeInode ?_).bind fun _ _ _ _ => Method.moves_pure fun _ => trivial
  have heq : attrs'.inode = attrs.inode := by
    rw [hcleared]
    split <;> rfl
  rw [heq]
  exact ((hattrs.2.later h₁).later h₂).later h₃

/-! ### The methods that give out a number -/

/-- A number that was given out between two states. -/
def Fresh (s s' : SimpleFS) (inode : UInt64) : Prop :=
  s.disk.last < inode.toNat ∧ Known s' inode

theorem Fresh.after {s₀ s s' s'' : SimpleFS} {inode : UInt64} (h : Fresh s s' inode)
    (hbefore : Later s₀ s) (hafter : Later s' s'') : Fresh s₀ s'' inode :=
  ⟨Nat.lt_of_le_of_lt hbefore.last h.1, h.2.later hafter⟩

theorem Handed.after {s₀ s s' s'' : SimpleFS} {handle : FileHandle} (h : Handed s s' handle)
    (hbefore : Later s₀ s) (hafter : Later s' s'') : Handed s₀ s'' handle :=
  ⟨hbefore.next.trans h.least, Nat.lt_of_lt_of_le h.before hafter.next⟩

/-- An entry for an inode that was not there. -/
def Makes (s s' : SimpleFS) (reply : ReplyCall .entry) : Prop :=
  ∃ inode, Names inode reply ∧ Fresh s s' inode

/-- Once a number was given out, there is an entry to be made for it. -/
theorem Orderly.makes {method : Op (ReplyCall .entry)} {s₀ s₁ : SimpleFS} {inode : UInt64}
    (hfresh : Fresh s₁ s inode) (hbefore : Later s₀ s₁)
    (h : Orderly base method s fun reply _ => Names inode reply) :
    Orderly base method s fun reply s' => Makes s₀ s' reply :=
  h.imp fun _ _ _ hafter hnames => ⟨inode, hnames, hfresh.after hbefore hafter⟩

theorem orderly_mknod {parent : INodeNo} {name : OsStr} {mode rdev : UInt32} {owner : Owner} :
    Orderly base (mknod host req parent name mode rdev owner) s
      fun reply s' => Makes s s' reply := by
  unfold mknod
  refine keeps_failIf.bind fun _ _ h₁ _ => ?_
  refine keeps_refuseTaken.bind fun _ _ h₂ _ => ?_
  refine keeps_openParent.bind fun _ _ h₃ _ => ?_
  refine orderly_allocateNextInode.bind fun inode _ _ hfresh => ?_
  refine Orderly.makes hfresh ((h₁.trans h₂).trans h₃) ?_
  refine (Method.moves_ofOutcome _).bind fun kind _ h₄ _ => ?_
  refine keeps_creationMode.bind fun _ s₅ h₅ _ => ?_
  have hinode : Known s₅ inode.raw := (hfresh.2.later h₄).later h₅
  refine (keeps_writeInode ?_).bind fun _ _ h₆ _ => ?_
  · exact hinode
  refine (keeps_putContent (hinode.later h₆)).bind fun _ _ h₇ _ => ?_
  refine Method.moves_ifThen
    (fun _ => keeps_putContent ((hinode.later h₆).later h₇)) fun _ _ => ?_
  exact keeps_insertEntry.bind fun _ _ _ _ => orderly_replyEntry

theorem orderly_mkdir {parent : INodeNo} {name : OsStr} {mode : UInt32} {owner : Owner} :
    Orderly base (mkdir host req parent name mode owner) s
      fun reply s' => Makes s s' reply := by
  unfold mkdir
  refine keeps_refuseTaken.bind fun _ _ h₁ _ => ?_
  refine keeps_openParent.bind fun _ _ h₂ _ => ?_
  refine orderly_allocateNextInode.bind fun inode _ _ hfresh => ?_
  refine Orderly.makes hfresh (h₁.trans h₂) ?_
  refine keeps_creationMode.bind fun _ _ h₃ _ => ?_
  refine (keeps_writeInode ?_).bind fun _ _ h₄ _ => ?_
  · exact hfresh.2.later h₃
  refine (keeps_putContent ((hfresh.2.later h₃).later h₄)).bind fun _ _ _ _ => ?_
  exact keeps_insertEntry.bind fun _ _ _ _ => orderly_replyEntry

theorem orderly_symlink {parent : INodeNo} {linkName target : OsStr} {owner : Owner} :
    Orderly base (symlink host req parent linkName target owner) s
      fun reply s' => Makes s s' reply := by
  unfold symlink
  refine keeps_openParent.bind fun _ _ h₁ _ => ?_
  refine orderly_allocateNextInode.bind fun inode _ _ hfresh => ?_
  refine Orderly.makes hfresh h₁ ?_
  refine keeps_insertLink.bind fun _ _ h₂ _ => ?_
  refine (keeps_writeInode ?_).bind fun _ _ h₃ _ => ?_
  · exact hfresh.2.later h₂
  refine (keeps_putContent ((hfresh.2.later h₂).later h₃)).bind fun _ _ _ _ => ?_
  exact orderly_replyEntry

/-- A handle that was not there. -/
def Opens (s s' : SimpleFS) (reply : ReplyCall .open) : Prop :=
  ∃ handle flags, reply = .opened handle flags ∧ Handed s s' handle

theorem keeps_openAccess {flags : OpenFlags} {readMask : Int32} :
    Keeps base (openAccess flags readMask) s := by
  unfold openAccess
  split
  next => exact keeps_failIf.bind fun _ _ _ _ => Method.moves_pure fun _ => trivial
  next => exact Method.moves_pure fun _ => trivial
  next => exact Method.moves_pure fun _ => trivial

theorem orderly_openHandle {attr : InodeAttributes} {accessMask : Int32} {read write : Bool}
    (hattr : Known s attr.inode) :
    Orderly base (openHandle req attr accessMask read write) s
      fun reply s' => Opens s s' reply := by
  unfold openHandle
  refine keeps_failIf.bind fun _ _ h₁ _ => ?_
  refine (Method.moves_ofOutcome _).bind fun _ _ h₂ _ => ?_
  refine (keeps_writeInode ?_).bind fun _ _ h₃ _ => ?_
  · exact (hattr.later h₁).later h₂
  refine orderly_allocateNextFileHandle.bind fun handle s₄ _ hhanded => ?_
  intro hs
  refine ⟨hs, Std.Refl.refl s₄, handle, _, rfl, ?_⟩
  exact hhanded.after ((h₁.trans h₂).trans h₃) (Std.Refl.refl s₄)

theorem orderly_open {ino : INodeNo} {flags : OpenFlags} :
    Orderly base («open» req ino flags) s fun reply s' => Opens s s' reply := by
  unfold «open»
  refine keeps_openAccess.bind fun _ _ h₁ _ => ?_
  refine orderly_getInode.bind fun _ _ h₂ hattr => ?_
  refine keeps_failIf.bind fun _ _ h₃ _ => ?_
  refine keeps_failIf.bind fun _ s₄ h₄ _ => ?_
  refine (orderly_openHandle ((hattr.2.later h₃).later h₄)).imp ?_
  rintro _ s' _ _ ⟨handle, flags', rfl, hhanded⟩
  have hbefore := ((h₁.trans h₂).trans h₃).trans h₄
  exact ⟨handle, flags', rfl, hhanded.after hbefore (Std.Refl.refl s')⟩

theorem orderly_opendir {ino : INodeNo} {flags : OpenFlags} :
    Orderly base (opendir req ino flags) s fun reply s' => Opens s s' reply := by
  unfold opendir
  refine keeps_openAccess.bind fun _ _ h₁ _ => ?_
  refine orderly_getInode.bind fun _ _ h₂ hattr => ?_
  refine (orderly_openHandle hattr.2).imp ?_
  rintro _ s' _ _ ⟨handle, flags', rfl, hhanded⟩
  exact ⟨handle, flags', rfl, hhanded.after (h₁.trans h₂) (Std.Refl.refl s')⟩

/-- An entry and a handle that were not there. -/
def Creates (s s' : SimpleFS) (reply : ReplyCall .create) : Prop :=
  ∃ attr handle, reply = .created noTtl attr ⟨0⟩ handle ⟨0⟩ ∧ Fresh s s' attr.ino.raw ∧
    Handed s s' handle

theorem keeps_createAccess {flags : Int32} {reads : Bool} :
    Keeps base (createAccess flags reads) s := by
  unfold createAccess
  dsimp only
  split_ifs
  · exact Method.moves_pure fun _ => trivial
  · exact Method.moves_pure fun _ => trivial
  · exact Method.moves_pure fun _ => trivial
  · exact Method.moves_fail

theorem orderly_replyCreated {attrs : InodeAttributes} {read write : Bool} {s₀ s₁ s₂ : SimpleFS}
    (hfresh : Fresh s₁ s₂ attrs.inode) (hbefore : Later s₀ s₁) (hmade : Later s₁ s₂)
    (hafter : Later s₂ s) :
    Orderly base (replyCreated host attrs read write) s fun reply s' => Creates s₀ s' reply := by
  unfold replyCreated
  refine orderly_fileAttr.bind fun attr _ h₁ hino => ?_
  refine orderly_allocateNextFileHandle.bind fun handle s' h₂ hhanded => ?_
  refine Method.moves_pure fun _ => ⟨attr, handle, rfl, ?_, ?_⟩
  · rw [hino]
    exact hfresh.after hbefore ((hafter.trans h₁).trans h₂)
  · exact hhanded.after (((hbefore.trans hmade).trans hafter).trans h₁) (Std.Refl.refl s')

theorem orderly_create {parent : INodeNo} {name : OsStr} {mode : UInt32} {flags : Int32}
    {owner : Owner} :
    Orderly base (create host req parent name mode flags owner) s
      fun reply s' => Creates s s' reply := by
  unfold create
  refine keeps_refuseTaken.bind fun _ _ h₁ _ => ?_
  refine keeps_createAccess.bind fun _ _ h₂ _ => ?_
  refine keeps_openParent.bind fun _ _ h₃ _ => ?_
  refine orderly_allocateNextInode.bind fun inode _ hmade hfresh => ?_
  refine (Method.moves_ofOutcome _).bind fun kind _ h₄ _ => ?_
  refine keeps_creationMode.bind fun _ s₅ h₅ _ => ?_
  have hinode : Known s₅ inode.raw := (hfresh.2.later h₄).later h₅
  refine (keeps_writeInode ?_).bind fun _ _ h₆ _ => ?_
  · exact hinode
  refine (keeps_putContent (hinode.later h₆)).bind fun _ _ h₇ _ => ?_
  refine Method.moves_ifThen
    (fun _ => keeps_putContent ((hinode.later h₆).later h₇)) fun _ h₈ => ?_
  refine keeps_insertEntry.bind fun _ _ h₉ _ => ?_
  refine orderly_replyCreated ?_ ((h₁.trans h₂).trans h₃) hmade
    (((((h₄.trans h₅).trans h₆).trans h₇).trans h₈).trans h₉)
  exact hfresh

theorem orderly_tmpfile {parent : INodeNo} {mode : UInt32} {flags : Int32} {owner : Owner} :
    Orderly base (tmpfile host req parent mode flags owner) s
      fun reply s' => Creates s s' reply := by
  unfold tmpfile
  refine keeps_createAccess.bind fun _ _ h₁ _ => ?_
  refine orderly_getInode.bind fun _ _ h₂ _ => ?_
  refine keeps_failIf.bind fun _ _ h₃ _ => ?_
  refine keeps_checkWritable.bind fun _ _ h₄ _ => ?_
  refine keeps_failIf.bind fun _ _ h₅ _ => ?_
  refine keeps_timeNow.bind fun _ _ h₆ _ => ?_
  refine orderly_allocateNextInode.bind fun inode _ hmade hfresh => ?_
  refine keeps_creationMode.bind fun _ _ h₇ _ => ?_
  refine (keeps_writeInode ?_).bind fun _ _ h₈ _ => ?_
  · exact hfresh.2.later h₇
  refine (keeps_putContent ((hfresh.2.later h₇).later h₈)).bind fun _ _ h₉ _ => ?_
  refine orderly_replyCreated ?_ (((((h₁.trans h₂).trans h₃).trans h₄).trans h₅).trans h₆) hmade
    ((h₇.trans h₈).trans h₉)
  exact hfresh

/-! ### Serving a request -/

/-- The inode that a reply names, if that is what it does. -/
def named {t : ReplyType} : ReplyCall t → Option (INodeNo × Generation)
  | .entry _ attr generation => some (attr.ino, generation)
  | .entryWithTtls _ _ attr generation => some (attr.ino, generation)
  | .created _ attr generation _ _ => some (attr.ino, generation)
  | .createdPassthrough _ attr generation _ _ _ => some (attr.ino, generation)
  | _ => none

/-- The handle that a reply gives out. -/
def handle {t : ReplyType} : ReplyCall t → Option FileHandle
  | .opened fh _ => some fh
  | .openedPassthrough fh _ _ => some fh
  | .created _ _ _ fh _ => some fh
  | .createdPassthrough _ _ _ fh _ _ => some fh
  | _ => none

def makesInode : FsMethod → Bool
  | .mknod .. | .mkdir .. | .symlink .. | .create .. | .tmpfile .. => true
  | _ => false

/-- A request that was served, with the answer. -/
abbrev Served : Type := FsCall × Option Answer

/-- The inode that a request made, as the kernel knows it. -/
def made (served : Served) : Option (INodeNo × Generation) :=
  if makesInode served.1.method then served.2.bind fun answer => named answer.call else none

def opened (served : Served) : Option FileHandle := served.2.bind fun answer => handle answer.call

/-- What a request gave out was not there before it. -/
structure Given (s : SimpleFS) (served : Served) (s' : SimpleFS) : Prop where
  inode : ∀ inode ∈ made served, Fresh s s' inode.1.raw ∧ inode.2 = ⟨0⟩
  handle : ∀ fh ∈ opened served, Handed s s' fh

theorem given_nothing {served : Served} {s' : SimpleFS} (hmade : made served = none)
    (hopened : opened served = none) : Given s served s' where
  inode := by
    rw [hmade]
    exact nofun
  handle := by
    rw [hopened]
    exact nofun

theorem given_error {call : FsCall} {t : ReplyType} {e : Errno} {s' : SimpleFS} :
    Given s (call, some ⟨t, .error e⟩) s' :=
  given_nothing (ite_self none) rfl

theorem orderly_answered {t : ReplyType} {method : Op (ReplyCall t)} {call : FsCall}
    {Q : ReplyCall t → SimpleFS → Prop} (h : Orderly base method s Q)
    (hgiven : ∀ reply s', Q reply s' → Given s (call, some ⟨t, reply⟩) s') :
    Orderly base (answered method) s fun answer s' => Given s (call, answer) s' := by
  unfold answered
  refine (Method.moves_attempt h).bind fun result s' _ hresult => ?_
  split
  next reply => exact Method.moves_pure fun _ => hgiven reply s' (hresult reply rfl)
  next => exact Method.moves_pure fun _ => given_error

theorem handle_eq_none {t : ReplyType} (reply : ReplyCall t) (hopen : t ≠ .open)
    (hcreate : t ≠ .create) : handle reply = none := by
  cases reply
  case opened | openedPassthrough => exact absurd rfl hopen
  case created | createdPassthrough => exact absurd rfl hcreate
  all_goals rfl

theorem orderly_plain {t : ReplyType} {method : Op (ReplyCall t)} {call : FsCall}
    (h : Keeps base method s) (hmakes : makesInode call.method = false) (hopen : t ≠ .open)
    (hcreate : t ≠ .create) :
    Orderly base (answered method) s fun answer s' => Given s (call, answer) s' := by
  refine orderly_answered h fun reply _ _ => given_nothing ?_ ?_
  · rw [made, hmakes]
    rfl
  · exact handle_eq_none reply hopen hcreate

theorem Makes.given {call : FsCall} {reply : ReplyCall .entry} {s' : SimpleFS}
    (h : Makes s s' reply) : Given s (call, some ⟨.entry, reply⟩) s' := by
  obtain ⟨inode, ⟨attr, rfl, hino⟩, hfresh⟩ := h
  constructor
  · intro named hnamed
    rw [made] at hnamed
    split at hnamed
    next =>
      cases hnamed
      rw [hino]
      exact ⟨hfresh, rfl⟩
    next => cases hnamed
  · exact nofun

theorem Opens.given {call : FsCall} {reply : ReplyCall .open} {s' : SimpleFS}
    (h : Opens s s' reply) : Given s (call, some ⟨.open, reply⟩) s' := by
  obtain ⟨fh, flags, rfl, hhanded⟩ := h
  constructor
  · intro inode hinode
    rw [made] at hinode
    split at hinode <;> cases hinode
  · rintro _ ⟨⟩
    exact hhanded

theorem Creates.given {call : FsCall} {reply : ReplyCall .create} {s' : SimpleFS}
    (h : Creates s s' reply) : Given s (call, some ⟨.create, reply⟩) s' := by
  obtain ⟨attr, fh, rfl, hfresh, hhanded⟩ := h
  constructor
  · intro inode hinode
    rw [made] at hinode
    split at hinode
    next =>
      cases hinode
      exact ⟨hfresh, rfl⟩
    next => cases hinode
  · rintro _ ⟨⟩
    exact hhanded

/-- Each request: what it makes and opens has a number that is new. -/
theorem orderly_serve (call : FsCall) :
    Orderly base (serve host call) s fun answer s' => Given s (call, answer) s' := by
  obtain ⟨req, method, reply⟩ := call
  cases method with
  | mknod => exact orderly_answered orderly_mknod fun _ _ => Makes.given
  | mkdir => exact orderly_answered orderly_mkdir fun _ _ => Makes.given
  | symlink => exact orderly_answered orderly_symlink fun _ _ => Makes.given
  | create => exact orderly_answered orderly_create fun _ _ => Creates.given
  | tmpfile => exact orderly_answered orderly_tmpfile fun _ _ => Creates.given
  | «open» => exact orderly_answered orderly_open fun _ _ => Opens.given
  | opendir => exact orderly_answered orderly_opendir fun _ _ => Opens.given
  | lookup => exact orderly_plain keeps_lookup rfl nofun nofun
  | getattr => exact orderly_plain keeps_getattr rfl nofun nofun
  | statx => exact orderly_plain keeps_statx rfl nofun nofun
  | setattr => exact orderly_plain keeps_setattr rfl nofun nofun
  | readlink => exact orderly_plain keeps_readlink rfl nofun nofun
  | unlink => exact orderly_plain keeps_unlink rfl nofun nofun
  | rmdir => exact orderly_plain keeps_rmdir rfl nofun nofun
  | rename => exact orderly_plain keeps_rename rfl nofun nofun
  | link => exact orderly_plain keeps_link rfl nofun nofun
  | read => exact orderly_plain keeps_read rfl nofun nofun
  | write => exact orderly_plain keeps_write rfl nofun nofun
  | release => exact orderly_plain keeps_release rfl nofun nofun
  | releasedir => exact orderly_plain keeps_release rfl nofun nofun
  | readdir => exact orderly_plain keeps_readdir rfl nofun nofun
  | statfs => exact orderly_plain keeps_statfs rfl nofun nofun
  | setxattr => exact orderly_plain keeps_setxattr rfl nofun nofun
  | getxattr => exact orderly_plain keeps_getxattr rfl nofun nofun
  | listxattr => exact orderly_plain keeps_listxattr rfl nofun nofun
  | removexattr => exact orderly_plain keeps_removexattr rfl nofun nofun
  | access => exact orderly_plain keeps_access rfl nofun nofun
  | ioctl => exact orderly_plain keeps_ioctl rfl nofun nofun
  | fallocate => exact orderly_plain keeps_fallocate rfl nofun nofun
  | copyFileRange => exact orderly_plain keeps_copyFileRange rfl nofun nofun
  | forget | batchForget => exact Method.moves_pure fun _ => given_nothing rfl rfl
  | flush | fsync | readdirplus | fsyncdir | getlk | setlk | bmap | poll | lseek | syncfs =>
      exact Method.moves_pure fun _ => given_error

/-! ### A mount -/

theorem keeps_settleIdmap {config : KernelConfig} : Keeps base (settleIdmap config) s := by
  intro hs
  have hkept : Kept base { s with idmapped := false } := ⟨hs.numbered, hs.base⟩
  simp only [Method.run, settleIdmap]
  split_ifs
  · rcases KernelConfig.addCapabilities .fuseAllowIdmap config with ⟨_ | _ | _, config'⟩
    · exact ⟨hs, Std.Refl.refl s, trivial⟩
    · exact ⟨hkept, Nat.le_refl _, Nat.le_refl _⟩
    · exact ⟨hkept, Nat.le_refl _, Nat.le_refl _⟩
  · exact ⟨hs, Std.Refl.refl s, trivial⟩

theorem keeps_settleKillpriv {config : KernelConfig} : Keeps base (settleKillpriv config) s := by
  intro hs
  have hkept : Kept base { s with suidSupport := false } := ⟨hs.numbered, hs.base⟩
  simp only [Method.run, settleKillpriv]
  split_ifs
  · exact ⟨hkept, ⟨Nat.le_refl _, Nat.le_refl _⟩, trivial⟩
  · rcases KernelConfig.addCapabilities .fuseHandleKillprivV2 config with ⟨_ | _ | _, config'⟩
    · exact ⟨⟨hs.numbered, hs.base⟩, ⟨Nat.le_refl _, Nat.le_refl _⟩, trivial⟩
    · exact ⟨hkept, ⟨Nat.le_refl _, Nat.le_refl _⟩, trivial⟩
    · exact ⟨hkept, ⟨Nat.le_refl _, Nat.le_refl _⟩, trivial⟩

/-- The root has the number before those that are given out. -/
theorem keeps_initRoot : Keeps base (initRoot host) s := by
  unfold initRoot
  refine keeps_timeNow.bind fun now s₁ _ _ => Method.moves_of_inv fun hs => ?_
  have hroot : Known s₁ INodeNo.root.raw := hs.numbered.root
  refine (keeps_writeInode ?_).bind fun _ _ h _ => ?_
  · exact hroot
  · exact keeps_putContent (hroot.later h)

theorem keeps_init {config : KernelConfig} : Keeps base (init host config) s := by
  unfold init
  refine keeps_settleIdmap.bind fun _ _ _ _ => ?_
  refine keeps_settleKillpriv.bind fun _ _ _ _ => ?_
  refine (Method.moves_attempt orderly_getInode).bind fun _ _ _ _ => ?_
  split
  next => exact Method.moves_pure fun _ => trivial
  next =>
    refine (Method.moves_unwrap keeps_initRoot).bind fun _ _ _ _ => ?_
    exact Method.moves_pure fun _ => trivial

/-- Requests that one loop serves, one after the other. The host may be another one each time. -/
inductive Serves (s : SimpleFS) : List Served → SimpleFS → Prop where
  | start : Serves s [] s
  | serve {trace : List Served} {s' s'' : SimpleFS} {answer : Option Answer}
      (h : Serves s trace s') (host : Host) (call : FsCall)
      (hrun : (serve host call).run s' = (.ok answer, s'')) :
      Serves s (trace ++ [(call, answer)]) s''

/-- The numbers that were given out between two states are new, and go up. -/
structure Counted (s : SimpleFS) (trace : List Served) (s' : SimpleFS) : Prop where
  later : Later s s'
  inodes : ∀ inode ∈ trace.filterMap made, Fresh s s' inode.1.raw ∧ inode.2 = ⟨0⟩
  handles : ∀ fh ∈ trace.filterMap opened, Handed s s' fh
  inodesUp : (trace.filterMap made).Pairwise fun a b => a.1.raw.toNat < b.1.raw.toNat
  handlesUp : (trace.filterMap opened).Pairwise fun a b => index a < index b

theorem counted_nil : Counted s [] s where
  later := Std.Refl.refl s
  inodes := nofun
  handles := nofun
  inodesUp := .nil
  handlesUp := .nil

theorem filterMap_concat {α β : Type} (f : α → Option β) (l : List α) (a : α) :
    (l ++ [a]).filterMap f = l.filterMap f ++ (f a).toList := by
  rw [List.filterMap_append]
  cases ha : f a <;> simp only [List.filterMap, ha, Option.toList]

theorem pairwise_concat {α : Type} {R : α → α → Prop} {l : List α} {a : Option α}
    (hl : l.Pairwise R) (ha : ∀ x ∈ l, ∀ y ∈ a, R x y) : (l ++ a.toList).Pairwise R := by
  refine List.pairwise_append.mpr ⟨hl, ?_, fun x hx y hy => ha x hx y (Option.mem_toList.mp hy)⟩
  cases a with
  | none => exact .nil
  | some a => exact List.pairwise_singleton R a

/-- One more request gives out what is above all that came before it. -/
theorem Counted.step {trace : List Served} {served : Served} {s' s'' : SimpleFS}
    (h : Counted s trace s') (hlater : Later s' s'') (hgiven : Given s' served s'') :
    Counted s (trace ++ [served]) s'' where
  later := h.later.trans hlater
  inodes inode hinode := by
    rw [filterMap_concat, List.mem_append, Option.mem_toList] at hinode
    obtain hold | hnew := hinode
    · obtain ⟨hfresh, hzero⟩ := h.inodes inode hold
      exact ⟨hfresh.after (Std.Refl.refl s) hlater, hzero⟩
    · obtain ⟨hfresh, hzero⟩ := hgiven.inode inode hnew
      exact ⟨hfresh.after h.later (Std.Refl.refl s''), hzero⟩
  handles fh hfh := by
    rw [filterMap_concat, List.mem_append, Option.mem_toList] at hfh
    obtain hold | hnew := hfh
    · exact (h.handles fh hold).after (Std.Refl.refl s) hlater
    · exact (hgiven.handle fh hnew).after h.later (Std.Refl.refl s'')
  inodesUp := by
    rw [filterMap_concat]
    refine pairwise_concat h.inodesUp fun a ha b hb => ?_
    exact Nat.lt_of_le_of_lt (h.inodes a ha).1.2 (hgiven.inode b hb).1.1
  handlesUp := by
    rw [filterMap_concat]
    refine pairwise_concat h.handlesUp fun a ha b hb => ?_
    exact Nat.lt_of_lt_of_le (h.handles a ha).before (hgiven.handle b hb).least

theorem counted_of_serves {trace : List Served} {s' : SimpleFS} (hs : Kept base s)
    (h : Serves s trace s') : Kept base s' ∧ Counted s trace s' := by
  induction h with
  | start => exact ⟨hs, counted_nil⟩
  | serve _ host call hrun ih =>
      obtain ⟨hkept, hlater, hgiven⟩ := (orderly_serve call).ok ih.1 hrun
      exact ⟨hkept, ih.2.step hlater hgiven⟩

/-! ### The life of a disk -/

/-- A disk is mounted again and again, each time until the program ends: between two
requests, within one that panics, or before the first. -/
inductive Lives (disk : Disk) : List (List Served) → Disk → Prop where
  | start : Lives disk [] disk
  | failed {mounts : List (List Served)} {disk' : Disk} (h : Lives disk mounts disk')
      (host : Host) (config : KernelConfig) (directIo suidSupport idmap : Bool) :
      Lives disk mounts ((init host config).run (.new disk' directIo suidSupport idmap)).2.disk
  | mounted {mounts : List (List Served)} {disk' : Disk} {config' : KernelConfig}
      {trace : List Served} {s s' : SimpleFS} (h : Lives disk mounts disk') (host : Host)
      (config : KernelConfig) (directIo suidSupport idmap : Bool)
      (hinit : (init host config).run (.new disk' directIo suidSupport idmap) = (.ok config', s))
      (hserves : Serves s trace s') : Lives disk (mounts ++ [trace]) s'.disk
  | panicked {mounts : List (List Served)} {disk' : Disk} {config' : KernelConfig}
      {trace : List Served} {s s' : SimpleFS} (h : Lives disk mounts disk') (host : Host)
      (config : KernelConfig) (directIo suidSupport idmap : Bool)
      (hinit : (init host config).run (.new disk' directIo suidSupport idmap) = (.ok config', s))
      (hserves : Serves s trace s') (host' : Host) (call : FsCall) :
      Lives disk (mounts ++ [trace]) ((serve host' call).run s').2.disk

/-- The numbers that were given out between two states of a disk. -/
structure Disk.Counted (disk : Disk) (mounts : List (List Served)) (disk' : Disk) : Prop where
  numbered : disk'.Numbered
  last : disk.last ≤ disk'.last
  inodes : ∀ inode ∈ mounts.flatten.filterMap made,
    disk.last < inode.1.raw.toNat ∧ inode.1.raw.toNat ≤ disk'.last ∧ inode.2 = ⟨0⟩
  inodesUp : (mounts.flatten.filterMap made).Pairwise fun a b => a.1.raw.toNat < b.1.raw.toNat
  handlesUp : ∀ trace ∈ mounts, (trace.filterMap opened).Pairwise fun a b => index a < index b

/-- A mount that serves no request. -/
theorem Disk.Counted.further {disk disk' : Disk} {mounts : List (List Served)}
    (h : disk.Counted mounts disk') (hend : Kept disk'.last s) : disk.Counted mounts s.disk where
  numbered := hend.numbered
  last := h.last.trans hend.base
  inodes inode hinode := by
    obtain ⟨habove, hbelow, hzero⟩ := h.inodes inode hinode
    exact ⟨habove, hbelow.trans hend.base, hzero⟩
  inodesUp := h.inodesUp
  handlesUp := h.handlesUp

/-- A mount that serves requests, and ends with the disk as it is then, or further on. -/
theorem Disk.Counted.mount {disk disk' : Disk} {mounts : List (List Served)}
    {trace : List Served} {s' s'' : SimpleFS} (h : disk.Counted mounts disk')
    (hstart : disk'.last ≤ s.disk.last) (hcounted : Simple.Counted s trace s')
    (hend : Kept s'.disk.last s'') : disk.Counted (mounts ++ [trace]) s''.disk := by
  have hgrown : disk'.last ≤ s''.disk.last := (hstart.trans hcounted.later.last).trans hend.base
  have hflat : (mounts ++ [trace]).flatten.filterMap made =
      mounts.flatten.filterMap made ++ trace.filterMap made := by
    rw [List.flatten_concat, List.filterMap_append]
  refine ⟨hend.numbered, h.last.trans hgrown, ?_, ?_, ?_⟩
  · intro inode hinode
    rw [hflat, List.mem_append] at hinode
    obtain hold | hnew := hinode
    · obtain ⟨habove, hbelow, hzero⟩ := h.inodes inode hold
      exact ⟨habove, hbelow.trans hgrown, hzero⟩
    · obtain ⟨⟨habove, hbelow⟩, hzero⟩ := hcounted.inodes inode hnew
      exact ⟨Nat.lt_of_le_of_lt (h.last.trans hstart) habove, Nat.le_trans hbelow hend.base, hzero⟩
  · rw [hflat]
    refine List.pairwise_append.mpr ⟨h.inodesUp, hcounted.inodesUp, fun a ha b hb => ?_⟩
    calc
      a.1.raw.toNat ≤ disk'.last := (h.inodes a ha).2.1
      _ ≤ s.disk.last := hstart
      _ < b.1.raw.toNat := (hcounted.inodes b hb).1.1
  · intro trace' htrace
    rw [List.mem_append, List.mem_singleton] at htrace
    obtain hold | rfl := htrace
    · exact h.handlesUp trace' hold
    · exact hcounted.handlesUp

theorem Disk.Numbered.new {disk : Disk} {directIo suidSupport idmap : Bool} (h : disk.Numbered) :
    Kept disk.last (.new disk directIo suidSupport idmap) :=
  ⟨h, Nat.le_refl _⟩

theorem counted_of_lives {disk disk' : Disk} {mounts : List (List Served)}
    (hdisk : disk.Numbered) (h : Lives disk mounts disk') : disk.Counted mounts disk' := by
  induction h with
  | start => exact ⟨hdisk, Nat.le_refl _, nofun, .nil, nofun⟩
  | failed _ host config directIo suidSupport idmap ih =>
      exact ih.further (keeps_init.inv ih.numbered.new)
  | mounted _ host config directIo suidSupport idmap hinit hserves ih =>
      obtain ⟨hkept, hlater, -⟩ := keeps_init.ok ih.numbered.new hinit
      obtain ⟨hkept', hcounted⟩ := counted_of_serves hkept hserves
      exact ih.mount hlater.last hcounted ⟨hkept'.numbered, Nat.le_refl _⟩
  | panicked _ host config directIo suidSupport idmap hinit hserves host' call ih =>
      obtain ⟨hkept, hlater, -⟩ := keeps_init.ok ih.numbered.new hinit
      obtain ⟨hkept', hcounted⟩ := counted_of_serves hkept hserves
      exact ih.mount hlater.last hcounted
        ((orderly_serve call).inv ⟨hkept'.numbered, Nat.le_refl _⟩)

/-- A number above the last one is nobody's. -/
theorem Disk.Numbered.absent {disk : Disk} {inode : UInt64} (h : disk.Numbered)
    (habove : disk.last < inode.toNat) :
    disk.inodes inode = none ∧ disk.contents inode = none := by
  constructor
  · cases hinode : disk.inodes inode with
    | none => rfl
    | some attrs => exact absurd (h.inodes inode attrs hinode).2 (Nat.not_le_of_lt habove)
  · cases hcontent : disk.contents inode with
    | none => rfl
    | some content => exact absurd (h.contents inode content hcontent) (Nat.not_le_of_lt habove)

theorem Disk.Numbered.ne_root {disk : Disk} {inode : INodeNo} (h : disk.Numbered)
    (habove : disk.last < inode.raw.toNat) : inode ≠ .root := by
  rintro rfl
  exact Nat.not_le_of_lt habove h.root

/-- Over the life of a disk, no two inodes that are made have the same number and generation,
and none has those of an inode that was there before. While it is mounted no two handles that
are given out count the same. -/
theorem numbers_unique {disk disk' : Disk} {mounts : List (List Served)} (hdisk : disk.Numbered)
    (hlives : Lives disk mounts disk') :
    disk'.Numbered ∧
      (∀ inode ∈ mounts.flatten.filterMap made, inode.1 ≠ .root ∧ inode.2 = ⟨0⟩ ∧
        disk.inodes inode.1.raw = none ∧ disk.contents inode.1.raw = none) ∧
      ((mounts.flatten.filterMap made).map Prod.fst).Nodup ∧
      ∀ trace ∈ mounts, ((trace.filterMap opened).map index).Nodup := by
  have hcounted := counted_of_lives hdisk hlives
  refine ⟨hcounted.numbered, ?_, ?_, ?_⟩
  · intro inode hinode
    obtain ⟨habove, -, hzero⟩ := hcounted.inodes inode hinode
    exact ⟨hdisk.ne_root habove, hzero, hdisk.absent habove⟩
  · refine List.pairwise_map.mpr (hcounted.inodesUp.imp ?_)
    intro a b hlt heq
    exact Nat.ne_of_lt hlt (congrArg (fun ino : INodeNo => ino.raw.toNat) heq)
  · intro trace htrace
    refine List.pairwise_map.mpr ((hcounted.handlesUp trace htrace).imp ?_)
    exact fun hlt => Nat.ne_of_lt hlt

/-- A disk that nothing was written to. -/
def Disk.empty : Disk := ⟨none, fun _ => none, fun _ => none⟩

theorem numbered_empty : Disk.empty.Numbered := ⟨Nat.le_refl _, nofun, nofun⟩

/-- A host on which it is the epoch. -/
def epochHost : Host where
  clock _ := .unixEpoch
  groups _ := none
  capEff _ := none
  blocks _ := none
  statvfs := .error .eio
  fallocate64 _ _ _ bytes := .ok bytes
  encode _ := []
  decode _ := none

def bareConfig : KernelConfig := .new 0 0 ⟨7, 31⟩ false .all

/-- Root asks for an unnamed file, to write to. -/
def tmpfileCall : FsCall :=
  ⟨⟨⟨0, 0, 0, 0, 0, 0, 0, 0⟩⟩, .tmpfile .root 0o600 0 1 false ⟨0, 0⟩, none⟩

/-- Two files of the first mount and one of the second. -/
theorem numbers_unique_remounted :
    ∃ mounts disk', Lives .empty mounts disk' ∧
      mounts.map (fun trace => (trace.filterMap made).length) = [2, 1] ∧
      ((mounts.flatten.filterMap made).map Prod.fst).Nodup := by
  have hstart : Lives .empty [] .empty := .start
  have hfirst := hstart.mounted epochHost bareConfig false true false rfl
    (.serve (.serve .start epochHost tmpfileCall rfl) epochHost tmpfileCall rfl)
  have hsecond := hfirst.mounted epochHost bareConfig false true false rfl
    (.serve .start epochHost tmpfileCall rfl)
  exact ⟨_, _, hsecond, rfl, (numbers_unique numbered_empty hsecond).2.2.1⟩

end Simple

end Fuser
