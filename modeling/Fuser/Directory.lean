import Fuser.Attr
import Fuser.Foundation.Records
import Fuser.Reply

/-!
Directory listings. A reply to READDIR or READDIRPLUS is a buffer of the size
that the kernel asked for, and the filesystem adds entries to it until one does
not fit. The kernel walks the buffer record by record, so that an entry it gets
wrong spoils every entry behind it.
-/

namespace Fuser

open Rust Wire

structure EntListBuf where
  maxSize : Nat
  buf : List UInt8
  deriving DecidableEq

namespace EntListBuf

def new (maxSize : Nat) : EntListBuf := ⟨maxSize, []⟩

def remainingCapacity (self : EntListBuf) : Nat := self.maxSize - self.buf.length

/-- `true` if the buffer is full. A debug build asserts that the buffer is aligned. -/
def push (header name : List UInt8) : Method EntListBuf Empty Bool := fun self =>
  let entlen := header.length + name.length
  let entsize := nextMultipleOf entlen 8
  if self.buf.length % 8 ≠ 0 then (.panic .assertion, self)
  else if self.buf.length + entsize > self.maxSize then (.ok true, self)
  else (.ok false,
    { self with buf := self.buf ++ header ++ name ++ List.replicate (entsize - entlen) 0 })

/-- `ResponseData::new_directory`. -/
def newDirectory {ε : Type} (list : EntListBuf) : Outcome ε Response :=
  if list.buf.length ≤ list.maxSize then .ok (.ofData list.buf) else .panic .assertion

end EntListBuf

/-- The length of a name as a directory entry holds it. -/
def namelen (name : OsStr) : Method EntListBuf Empty UInt32 :=
  if name.length < 2 ^ 32 then return UInt32.ofNat name.length
  else .abort (.expect "Name too long")

structure DirEntry where
  ino : INodeNo
  offset : UInt64
  kind : FileType
  name : OsStr
  deriving DecidableEq

/-- The inode of the attributes stands in for `ino`. -/
structure DirEntryPlus where
  ino : INodeNo
  generation : Generation
  offset : UInt64
  name : OsStr
  entryValid : Duration
  attr : FuseAttr
  attrValid : Duration
  deriving DecidableEq

def DirEntry.header (ent : DirEntry) (namelen : UInt32) : FuseDirent where
  ino := ent.ino.raw
  off := ent.offset
  namelen := namelen
  typ := modeFromKindAndPerm ent.kind 0 >>> 12

def DirEntryPlus.header (x : DirEntryPlus) (namelen : UInt32) : FuseDirentplus where
  entryOut := {
    nodeid := x.attr.ino
    generation := x.generation.raw
    entryValid := x.entryValid.secs
    attrValid := x.attrValid.secs
    entryValidNsec := x.entryValid.nanos
    attrValidNsec := x.attrValid.nanos
    attr := x.attr }
  dirent := {
    ino := x.attr.ino
    off := x.offset
    namelen := namelen
    typ := x.attr.mode >>> 12 }

def DirEntList.push (ent : DirEntry) : Method EntListBuf Empty Bool := do
  let namelen ← namelen ent.name
  EntListBuf.push (toBytes (ent.header namelen)) ent.name

def DirEntPlusList.push (x : DirEntryPlus) : Method EntListBuf Empty Bool := do
  let namelen ← namelen x.name
  EntListBuf.push (toBytes (x.header namelen)) x.name

/-- `ReplyDirectory` and `ReplyDirectoryPlus`, which differ in their entries. -/
structure DirectoryReply where
  reply : ReplyRaw
  data : EntListBuf
  deriving DecidableEq

namespace DirectoryReply

def new (unique : RequestId) (size : Nat) : DirectoryReply := ⟨.new unique, .new size⟩

def remainingCapacity (self : DirectoryReply) : Nat := self.data.remainingCapacity

/-- A method of the list in a reply. -/
def onData {α : Type} (m : Method EntListBuf Empty α) : Method DirectoryReply Empty α :=
  fun self => ((m.run self.data).1, { self with data := (m.run self.data).2 })

/-- A reply whose buffer is refused is dropped unsent. -/
def ok : Method (DirectoryReply × List (List UInt8)) Empty Unit := fun (self, sent) =>
  match (self.data.newDirectory : Outcome Empty Response) with
  | .ok response =>
      let (result, (reply, sent)) := (ReplyRaw.sendLl response).run (self.reply, sent)
      (result, ({ self with reply }, sent))
  | .err e => nomatch e
  | .panic reason =>
      let (_, (reply, sent)) := ReplyRaw.drop.run (self.reply, sent)
      (.panic reason, ({ self with reply }, sent))

end DirectoryReply

/-- The arguments of `ReplyDirectory::add`. -/
structure ReplyDirectory.Add where
  ino : INodeNo
  offset : UInt64
  kind : FileType
  name : OsStr
  deriving DecidableEq

def ReplyDirectory.add (args : ReplyDirectory.Add) : Method DirectoryReply Empty Bool :=
  DirectoryReply.onData (DirEntList.push ⟨args.ino, args.offset, args.kind, args.name⟩)

/-- The arguments of `ReplyDirectoryPlus::add`. -/
structure ReplyDirectoryPlus.Add where
  ino : INodeNo
  offset : UInt64
  name : OsStr
  ttl : Duration
  attr : FileAttr
  generation : Generation
  deriving DecidableEq

/-- The entry that a call to `ReplyDirectoryPlus::add` makes. -/
def ReplyDirectoryPlus.entry (args : ReplyDirectoryPlus.Add) : DirEntryPlus where
  ino := args.ino
  generation := args.generation
  offset := args.offset
  name := args.name
  entryValid := args.ttl
  attr := fuseAttrFromAttr args.attr
  attrValid := args.ttl

def ReplyDirectoryPlus.add (args : ReplyDirectoryPlus.Add) : Method DirectoryReply Empty Bool :=
  DirectoryReply.onData (DirEntPlusList.push (ReplyDirectoryPlus.entry args))

/-- A sequence of calls to `add`, and what each of them returned. -/
def addAll {γ : Type} (add : γ → Method DirectoryReply Empty Bool) :
    List γ → Method DirectoryReply Empty (List Bool)
  | [] => return []
  | args :: rest => do
      let full ← add args
      let fulls ← addAll add rest
      return full :: fulls

/-- The calls that added their entry. -/
def added {γ : Type} (calls : List γ) (fulls : List Bool) : List γ :=
  ((calls.zip fulls).filter fun call => !call.2).map Prod.fst

/-- A directory entry as the kernel sees it. -/
structure KernelDirent where
  ino : UInt64
  off : UInt64
  kind : Option FileType
  name : List UInt8
  deriving DecidableEq

structure KernelDirentplus where
  nodeid : UInt64
  generation : UInt64
  entryValid : UInt64 × UInt32
  attrValid : UInt64 × UInt32
  attr : FuseAttr
  dirent : KernelDirent
  deriving DecidableEq

def KernelDirent.ofRecord (dirent : FuseDirent) (name : List UInt8) : KernelDirent :=
  ⟨dirent.ino, dirent.off, FileType.ofTyp dirent.typ, name⟩

/-- The kernel's walk over the buffer of a READDIR, and what it leaves. -/
def kernelReaddir (buf : List UInt8) : List KernelDirent × List UInt8 :=
  let (records, left) := walk (fun dirent : FuseDirent => dirent.namelen.toNat) buf
  (records.map fun (dirent, name) => .ofRecord dirent name, left)

/-- The kernel's walk over the buffer of a READDIRPLUS, and what it leaves. -/
def kernelReaddirplus (buf : List UInt8) : List KernelDirentplus × List UInt8 :=
  let (records, left) := walk (fun plus : FuseDirentplus => plus.dirent.namelen.toNat) buf
  (records.map fun (plus, name) =>
    { nodeid := plus.entryOut.nodeid
      generation := plus.entryOut.generation
      entryValid := (plus.entryOut.entryValid, plus.entryOut.entryValidNsec)
      attrValid := (plus.entryOut.attrValid, plus.entryOut.attrValidNsec)
      attr := plus.entryOut.attr
      dirent := .ofRecord plus.dirent name }, left)

theorem run_push {α : Type} [ReprC α] (header : α) (name : OsStr) {self : EntListBuf}
    (haligned : self.buf.length % 8 = 0) (hbounded : self.buf.length ≤ self.maxSize) :
    (EntListBuf.push (toBytes header) name).run self =
      if self.remainingCapacity < recordLen α name.length then (.ok true, self)
      else (.ok false, { self with buf := self.buf ++ record header name }) := by
  have hfull : self.buf.length + recordLen α name.length > self.maxSize ↔
      self.remainingCapacity < recordLen α name.length := by
    rw [EntListBuf.remainingCapacity]
    omega
  simp only [Method.run, EntListBuf.push, length_toBytes]
  rw [if_neg (not_not.mpr haligned)]
  change (if self.buf.length + recordLen α name.length > self.maxSize then _ else _) = _
  by_cases h : self.remainingCapacity < recordLen α name.length
  · rw [if_pos (hfull.mpr h), if_pos h]
  · rw [if_neg (fun hgt => h (hfull.mp hgt)), if_neg h, record]
    simp only [List.append_assoc]
    rfl

section Listing

variable {γ α β : Type} [ReprC α]

/-- What both kinds of `add` do: they push a record made from their arguments,
unless the name is too long for its length field. -/
structure Adds (add : γ → Method DirectoryReply Empty Bool) (header : γ → UInt32 → α)
    (name : γ → OsStr) : Prop where
  short : ∀ args, (name args).length < 2 ^ 32 →
    add args = DirectoryReply.onData (EntListBuf.push
      (toBytes (header args (UInt32.ofNat (name args).length))) (name args))
  long : ∀ args self, 2 ^ 32 ≤ (name args).length →
    (add args).run self = (.panic (.expect "Name too long"), self)

/-- A reply that holds the given records and nothing else. -/
structure Filled (unique : RequestId) (size : Nat) (tailLen : α → Nat)
    (records : List (α × OsStr)) (dir : DirectoryReply) : Prop where
  reply : dir.reply = .new unique
  maxSize : dir.data.maxSize = size
  buf : dir.data.buf = records.flatMap fun entry => record entry.1 entry.2
  bounded : dir.data.buf.length ≤ size
  tails : ∀ entry ∈ records, tailLen entry.1 = entry.2.length

variable {add : γ → Method DirectoryReply Empty Bool} {header : γ → UInt32 → α} {name : γ → OsStr}
variable {unique : RequestId} {size : Nat} {tailLen : α → Nat}
variable {records : List (α × OsStr)} {self : DirectoryReply}

theorem filled_new (unique : RequestId) (size : Nat) (tailLen : α → Nat) :
    Filled unique size tailLen [] (.new unique size) :=
  ⟨rfl, rfl, rfl, Nat.zero_le size, nofun⟩

theorem Filled.aligned (h : Filled unique size tailLen records self) :
    self.data.buf.length % 8 = 0 := by
  rw [h.buf]
  exact length_records_mod records

theorem Filled.remaining (h : Filled unique size tailLen records self) :
    self.remainingCapacity = size - self.data.buf.length := by
  rw [DirectoryReply.remainingCapacity, EntListBuf.remainingCapacity, h.maxSize]

/-- The record of an entry. -/
def entryOf (header : γ → UInt32 → α) (name : γ → OsStr) (args : γ) : α × OsStr :=
  (header args (UInt32.ofNat (name args).length), name args)

theorem Filled.run_add (h : Filled unique size tailLen records self) (hadds : Adds add header name)
    {args : γ} (hname : (name args).length < 2 ^ 32) :
    (add args).run self =
      if self.remainingCapacity < recordLen α (name args).length then (.ok true, self)
      else (.ok false, { self with data := { self.data with
        buf := self.data.buf ++
          record (entryOf header name args).1 (entryOf header name args).2 } }) := by
  have hbounded : self.data.buf.length ≤ self.data.maxSize := h.maxSize ▸ h.bounded
  have hpush := run_push (entryOf header name args).1 (name args) h.aligned hbounded
  change (_ = if self.remainingCapacity < _ then _ else _) at hpush
  rw [hadds.short args hname]
  change ((EntListBuf.push (toBytes (entryOf header name args).1) (name args)).run self.data |>.1,
    { self with data :=
      ((EntListBuf.push (toBytes (entryOf header name args).1) (name args)).run self.data).2 }) = _
  rw [hpush]
  by_cases hfull : self.remainingCapacity < recordLen α (name args).length
  · simp only [if_pos hfull]
  · simp only [if_neg hfull]
    rfl

theorem Filled.append (h : Filled unique size tailLen records self)
    (htail : ∀ args len, tailLen (header args len) = len.toNat) {args : γ}
    (hname : (name args).length < 2 ^ 32)
    (hroom : ¬ self.remainingCapacity < recordLen α (name args).length) :
    Filled unique size tailLen (records ++ [entryOf header name args])
      { self with data := { self.data with
        buf := self.data.buf ++
          record (entryOf header name args).1 (entryOf header name args).2 } } := by
  refine ⟨h.reply, h.maxSize, ?_, ?_, ?_⟩
  · rw [List.flatMap_append, ← h.buf]
    simp
  · rw [h.remaining] at hroom
    have hbounded := h.bounded
    rw [List.length_append, length_record]
    change _ + recordLen α (name args).length ≤ size
    omega
  · intro entry hentry
    cases List.mem_append.mp hentry with
    | inl hold => exact h.tails entry hold
    | inr hnew =>
        rw [List.mem_singleton.mp hnew]
        exact (htail args _).trans (Nat.mod_eq_of_lt hname)

theorem Filled.run_add_step (h : Filled unique size tailLen records self) (hadds : Adds add header name)
    (htail : ∀ args len, tailLen (header args len) = len.toNat) {args : γ}
    (hname : (name args).length < 2 ^ 32) :
    ∃ full self', (add args).run self = (.ok full, self') ∧
      Filled unique size tailLen
        (records ++ (added [args] [full]).map (entryOf header name)) self' := by
  rw [h.run_add hadds hname]
  by_cases hfull : self.remainingCapacity < recordLen α (name args).length
  · rw [if_pos hfull]
    refine ⟨true, self, rfl, ?_⟩
    change Filled unique size tailLen (records ++ []) self
    rw [List.append_nil]
    exact h
  · rw [if_neg hfull]
    exact ⟨false, _, rfl, h.append htail hname hfull⟩

theorem added_cons (args : γ) (full : Bool) (calls : List γ) (fulls : List Bool) :
    added (args :: calls) (full :: fulls) = added [args] [full] ++ added calls fulls := by
  cases full <;> rfl

/-- What a sequence of calls leaves in a reply. -/
theorem Filled.addAll_ok (hadds : Adds add header name)
    (htail : ∀ args len, tailLen (header args len) = len.toNat) {calls : List γ}
    {fulls : List Bool} {self' : DirectoryReply} (h : Filled unique size tailLen records self)
    (hall : (addAll add calls).run self = (.ok fulls, self')) :
    fulls.length = calls.length ∧
      Filled unique size tailLen
        (records ++ (added calls fulls).map (entryOf header name)) self' := by
  induction calls generalizing records self fulls with
  | nil =>
      cases hall
      refine ⟨rfl, ?_⟩
      rw [added, List.zip_nil_left, List.filter_nil, List.map_nil, List.map_nil, List.append_nil]
      exact h
  | cons args calls ih =>
      by_cases hname : (name args).length < 2 ^ 32
      · obtain ⟨full, next, hrun, hfilled⟩ := h.run_add_step hadds htail hname
        rw [addAll, Method.run_bind_of_ok _ hrun] at hall
        rcases hrest : (addAll add calls).run next with ⟨outcome, last⟩
        cases outcome with
        | ok rest =>
            rw [Method.run_bind_of_ok _ hrest] at hall
            cases hall
            obtain ⟨hlength, hlast⟩ := ih hfilled hrest
            refine ⟨congrArg (· + 1) hlength, ?_⟩
            rw [added_cons, List.map_append, ← List.append_assoc]
            exact hlast
        | err e => exact nomatch e
        | panic reason =>
            rw [Method.run_bind_of_panic _ hrest] at hall
            cases hall
      · rw [addAll, Method.run_bind_of_panic _ (hadds.long args self (Nat.not_lt.mp hname))] at hall
        cases hall

theorem Filled.addAll_returns (hadds : Adds add header name)
    (htail : ∀ args len, tailLen (header args len) = len.toNat) (calls : List γ)
    (h : Filled unique size tailLen records self)
    (hnames : ∀ args ∈ calls, (name args).length < 2 ^ 32) :
    ∃ fulls self', (addAll add calls).run self = (.ok fulls, self') := by
  induction calls generalizing records self with
  | nil => exact ⟨[], self, rfl⟩
  | cons args calls ih =>
      obtain ⟨hname, hnames⟩ := List.forall_mem_cons.mp hnames
      obtain ⟨full, next, hrun, hfilled⟩ := h.run_add_step hadds htail hname
      obtain ⟨fulls, self', hrest⟩ := ih hfilled hnames
      refine ⟨full :: fulls, self', ?_⟩
      rw [addAll, Method.run_bind_of_ok _ hrun, Method.run_bind_of_ok _ hrest]
      rfl

/-- The buffer goes out as it is. -/
theorem Filled.run_ok (h : Filled unique size tailLen records self)
    (hfits : 16 + self.data.buf.length < 2 ^ 32) (sent : List (List UInt8)) :
    DirectoryReply.ok.run (self, sent) =
      (.ok (), { self with reply := ⟨unique, none⟩ },
        sent ++ [(Response.ofData self.data.buf).message unique]) := by
  have hbounded : self.data.buf.length ≤ self.data.maxSize := h.maxSize ▸ h.bounded
  have hresponse : (self.data.newDirectory : Outcome Empty Response) = .ok (.ofData self.data.buf) :=
    if_pos hbounded
  have hsend := ReplyRaw.run_sendLl (Response.fits_ofData hfits) unique {} sent
  simp only [Method.run, DirectoryReply.ok, hresponse, h.reply, ReplyRaw.new] at hsend ⊢
  rw [hsend]

/-- What a directory reply of the given size does with a sequence of calls that
returned `fulls`. `decode` is how the kernel reads the buffer, and `view` what it
should get from a call. -/
structure Lists (size headerSize : Nat) (add : γ → Method DirectoryReply Empty Bool)
    (name : γ → OsStr) (decode : List UInt8 → List β × List UInt8) (view : γ → β)
    (calls : List γ) (fulls : List Bool) (unique : RequestId) (dir : DirectoryReply) : Prop where
  answered : fulls.length = calls.length
  aligned : dir.data.buf.length % 8 = 0
  bounded : dir.data.buf.length ≤ size
  remaining : dir.remainingCapacity = size - dir.data.buf.length
  /-- What any further call would do. -/
  next : ∀ args, (name args).length < 2 ^ 32 →
    ((add args).run dir).1 = .ok (decide
      (dir.remainingCapacity < nextMultipleOf (headerSize + (name args).length) 8)) ∧
    (((add args).run dir).1 = .ok true → ((add args).run dir).2 = dir)
  /-- What `ok` would send. -/
  sends : 16 + dir.data.buf.length < 2 ^ 32 → ∀ sent, ∃ left message,
    DirectoryReply.ok.run (dir, sent) = (.ok (), left, sent ++ [message]) ∧
    messageUnique message = unique.raw ∧ message.drop 16 = dir.data.buf
  decoded : decode dir.data.buf = ((added calls fulls).map view, [])

theorem mem_of_mem_added {args : γ} {calls : List γ} {fulls : List Bool}
    (h : args ∈ added calls fulls) : args ∈ calls := by
  obtain ⟨⟨args', full⟩, hmem, rfl⟩ := List.mem_map.mp h
  exact (List.of_mem_zip (List.mem_filter.mp hmem).1).1

theorem Filled.lists {calls : List γ} {fulls : List Bool} {decode : List UInt8 → List β × List UInt8}
    {view : γ → β} {f : α × OsStr → β} (hadds : Adds add header name)
    (h : Filled unique size tailLen ((added calls fulls).map (entryOf header name)) self)
    (hanswered : fulls.length = calls.length)
    (hdecode : ∀ buf, decode buf = ((walk tailLen buf).1.map f, (walk tailLen buf).2))
    (hsize : 0 < ReprC.size α)
    (hview : ∀ args ∈ calls, f (entryOf header name args) = view args) :
    Lists size (ReprC.size α) add name decode view calls fulls unique self := by
  refine ⟨hanswered, h.aligned, h.bounded, h.remaining, fun args hname => ?_, fun hfits sent => ?_,
    ?_⟩
  · rw [h.run_add hadds hname]
    change _ = Outcome.ok (decide
      (self.remainingCapacity < recordLen α (name args).length)) ∧ _
    by_cases hfull : self.remainingCapacity < recordLen α (name args).length
    · rw [if_pos hfull, decide_eq_true hfull]
      exact ⟨rfl, fun _ => rfl⟩
    · rw [if_neg hfull, decide_eq_false hfull]
      exact ⟨rfl, nofun⟩
  · refine ⟨_, _, h.run_ok hfits sent, messageUnique_message .., ?_⟩
    rw [Response.message, Response.payload_ofData]
    exact List.drop_left' (length_toBytes _)
  · rw [hdecode, h.buf, walk_records hsize _ h.tails, List.map_map]
    refine Prod.ext (List.map_congr_left fun args hmem => ?_) rfl
    exact hview args (mem_of_mem_added hmem)

end Listing

theorem adds_replyDirectory :
    Adds ReplyDirectory.add
      (fun args => DirEntry.header ⟨args.ino, args.offset, args.kind, args.name⟩)
      ReplyDirectory.Add.name where
  short args hname := by
    rw [ReplyDirectory.add, DirEntList.push, namelen, if_pos hname]
    rfl
  long args self hname := by
    rw [ReplyDirectory.add, DirEntList.push, namelen, if_neg (Nat.not_lt.mpr hname)]
    rfl

theorem adds_replyDirectoryPlus :
    Adds ReplyDirectoryPlus.add (fun args => (ReplyDirectoryPlus.entry args).header)
      ReplyDirectoryPlus.Add.name where
  short args hname := by
    have hlen : (ReplyDirectoryPlus.entry args).name.length < 2 ^ 32 := hname
    rw [ReplyDirectoryPlus.add, DirEntPlusList.push, namelen, if_pos hlen]
    rfl
  long args self hname := by
    have hlen : ¬ (ReplyDirectoryPlus.entry args).name.length < 2 ^ 32 := Nat.not_lt.mpr hname
    rw [ReplyDirectoryPlus.add, DirEntPlusList.push, namelen, if_neg hlen]
    rfl

/-- What the kernel should see of a call to `ReplyDirectory::add`. -/
def ReplyDirectory.view (args : ReplyDirectory.Add) : KernelDirent :=
  ⟨args.ino.raw, args.offset, some args.kind, args.name⟩

/-- What the kernel should see of a call to `ReplyDirectoryPlus::add`. -/
def ReplyDirectoryPlus.view (args : ReplyDirectoryPlus.Add) : KernelDirentplus where
  nodeid := args.attr.ino.raw
  generation := args.generation.raw
  entryValid := (args.ttl.secs, args.ttl.nanos)
  attrValid := (args.ttl.secs, args.ttl.nanos)
  attr := fuseAttrFromAttr args.attr
  dirent := ⟨args.attr.ino.raw, args.offset, some args.attr.kind, args.name⟩

/-- Whatever a filesystem adds to a listing, the kernel gets back the entries that
were added, and the filesystem is told of every entry that was not. A call comes
back unless its name is longer than its length field can say. -/
theorem directory_lists (unique : RequestId) (size : Nat) :
    (∀ calls : List ReplyDirectory.Add,
      ((∀ args ∈ calls, args.name.length < 2 ^ 32) → ∃ fulls dir,
        (addAll ReplyDirectory.add calls).run (.new unique size) = (.ok fulls, dir)) ∧
      ∀ fulls dir, (addAll ReplyDirectory.add calls).run (.new unique size) = (.ok fulls, dir) →
        Lists size 24 ReplyDirectory.add ReplyDirectory.Add.name kernelReaddir
          ReplyDirectory.view calls fulls unique dir) ∧
    (∀ calls : List ReplyDirectoryPlus.Add,
      ((∀ args ∈ calls, args.name.length < 2 ^ 32) → ∃ fulls dir,
        (addAll ReplyDirectoryPlus.add calls).run (.new unique size) = (.ok fulls, dir)) ∧
      ((∀ args ∈ calls, args.attr.perm.toNat ≤ 0o7777) →
        ∀ fulls dir,
          (addAll ReplyDirectoryPlus.add calls).run (.new unique size) = (.ok fulls, dir) →
          Lists size 152 ReplyDirectoryPlus.add ReplyDirectoryPlus.Add.name kernelReaddirplus
            ReplyDirectoryPlus.view calls fulls unique dir)) := by
  refine ⟨fun calls => ?_, fun calls => ?_⟩
  · have hnew := filled_new unique size fun dirent : FuseDirent => dirent.namelen.toNat
    refine ⟨hnew.addAll_returns adds_replyDirectory (fun _ _ => rfl) calls, ?_⟩
    intro fulls dir hrun
    obtain ⟨hanswered, hfilled⟩ := hnew.addAll_ok adds_replyDirectory (fun _ _ => rfl) hrun
    refine hfilled.lists adds_replyDirectory hanswered (fun _ => rfl) (by decide) ?_
    intro args _
    have hkind := ofTyp_mode args.kind 0 (by decide)
    change KernelDirent.mk _ _ (FileType.ofTyp (modeFromKindAndPerm args.kind 0 >>> 12)) _ = _
    rw [hkind]
    rfl
  · have hnew := filled_new unique size fun plus : FuseDirentplus => plus.dirent.namelen.toNat
    refine ⟨hnew.addAll_returns adds_replyDirectoryPlus (fun _ _ => rfl) calls, ?_⟩
    intro hperm fulls dir hrun
    obtain ⟨hanswered, hfilled⟩ := hnew.addAll_ok adds_replyDirectoryPlus (fun _ _ => rfl) hrun
    refine hfilled.lists adds_replyDirectoryPlus hanswered (fun _ => rfl) (by decide) ?_
    intro args hmem
    have hkind := ofTyp_mode args.attr.kind args.attr.perm (hperm args hmem)
    change KernelDirentplus.mk _ _ _ _ _ (KernelDirent.mk _ _ (FileType.ofTyp
      (modeFromKindAndPerm args.attr.kind args.attr.perm >>> 12)) _) = _
    rw [hkind]
    rfl

/-- A call that adds a directory. -/
def helloAdd : ReplyDirectoryPlus.Add where
  ino := ⟨2⟩
  offset := 1
  name := [104, 101, 108, 108, 111]
  ttl := ⟨1, 0, zero_lt_nanosPerSec⟩
  attr := {
    ino := ⟨2⟩
    size := 0
    blocks := 0
    atime := .unixEpoch
    mtime := .unixEpoch
    ctime := .unixEpoch
    kind := .directory
    perm := 0o755
    nlink := 2
    uid := 0
    gid := 0
    rdev := 0
    blksize := 512 }
  generation := ⟨0⟩

theorem directory_lists_hello :
    let run := (addAll ReplyDirectoryPlus.add [helloAdd, helloAdd]).run (.new ⟨7⟩ 200)
    run.1 = .ok [false, true] ∧
      kernelReaddirplus run.2.data.buf = ([ReplyDirectoryPlus.view helloAdd], []) := by
  have hperm : ∀ args ∈ [helloAdd, helloAdd], args.attr.perm.toNat ≤ 0o7777 := by decide
  have hrun : ((addAll ReplyDirectoryPlus.add [helloAdd, helloAdd]).run (.new ⟨7⟩ 200)).1 =
      .ok [false, true] := by
    decide +kernel
  have hlists := ((directory_lists ⟨7⟩ 200).2 [helloAdd, helloAdd]).2 hperm [false, true]
  generalize (addAll ReplyDirectoryPlus.add [helloAdd, helloAdd]).run (.new ⟨7⟩ 200) = run
    at hlists hrun ⊢
  exact ⟨hrun, (hlists run.2 (Prod.ext hrun rfl)).decoded⟩

/-- What a call that adds its entry appends. -/
theorem Adds.appends {γ α : Type} [ReprC α] {add : γ → Method DirectoryReply Empty Bool}
    {header : γ → UInt32 → α} {name : γ → OsStr} (h : Adds add header name) {args : γ}
    {self after : DirectoryReply} (hrun : (add args).run self = (.ok false, after)) :
    after.data.buf = self.data.buf ++
      record (header args (UInt32.ofNat (name args).length)) (name args) := by
  by_cases hname : (name args).length < 2 ^ 32
  · rw [h.short args hname, Method.run, DirectoryReply.onData, Method.run, EntListBuf.push] at hrun
    split at hrun
    · cases hrun
    · split at hrun
      · cases hrun
      · cases hrun
        simp only [record, recordLen, length_toBytes, List.append_assoc]
  · rw [h.long args self (Nat.not_lt.mp hname)] at hrun
    cases hrun

/-- The permissions set no bit of a file type that the file does not have. -/
def FileType.Covers (kind : FileType) (perm : UInt16) : Prop :=
  kind.mode >>> 12 ||| perm.toUInt32 >>> 12 = kind.mode >>> 12

theorem ReplyDirectoryPlus.header_dirent (args : ReplyDirectoryPlus.Add) (len : UInt32) :
    ((ReplyDirectoryPlus.entry args).header len).dirent =
      ⟨args.attr.ino.raw, args.offset, len,
        modeFromKindAndPerm args.attr.kind args.attr.perm >>> 12⟩ := rfl

/-- The inode number of a plus entry is that of its attributes. Otherwise it describes
the entry as a plain one does, as long as its permissions leave the type alone. -/
theorem ReplyDirectoryPlus.add_agrees (args : ReplyDirectoryPlus.Add)
    {self after self' after' : DirectoryReply}
    (hplus : (ReplyDirectoryPlus.add args).run self = (.ok false, after))
    (hplain : (ReplyDirectory.add ⟨args.ino, args.offset, args.attr.kind, args.name⟩).run self' =
      (.ok false, after')) :
    let len := UInt32.ofNat args.name.length
    let plus := (ReplyDirectoryPlus.entry args).header len
    let plain (ino : INodeNo) := DirEntry.header ⟨ino, args.offset, args.attr.kind, args.name⟩ len
    (after.data.buf = self.data.buf ++ record plus args.name ∧
      after'.data.buf = self'.data.buf ++ record (plain args.ino) args.name) ∧
    (plus.dirent.ino = args.attr.ino.raw ∧ plus.dirent.off = (plain args.ino).off ∧
      plus.dirent.namelen = (plain args.ino).namelen) ∧
    (args.attr.kind.Covers args.attr.perm →
      plus.dirent = plain args.attr.ino ∧
      (plus.dirent = plain args.ino ↔ args.ino = args.attr.ino)) := by
  intro len plus plain
  have hdirent : plus.dirent = _ := ReplyDirectoryPlus.header_dirent args len
  have hplus' := adds_replyDirectoryPlus.appends hplus
  have hplain' := adds_replyDirectory.appends hplain
  refine ⟨⟨hplus', hplain'⟩, ?_, ?_⟩
  · rw [hdirent]
    exact ⟨rfl, rfl, rfl⟩
  · intro hcovers
    have hsame : plus.dirent = plain args.attr.ino := by
      rw [hdirent, mode_shiftRight_or, hcovers]
      have hplain : (0 : UInt16).toNat ≤ 0o7777 := by decide
      simp only [plain, DirEntry.header, mode_shiftRight _ _ hplain]
    rw [hsame]
    refine ⟨rfl, fun heq => ?_, fun heq => by rw [heq]⟩
    exact congrArg INodeNo.mk (congrArg FuseDirent.ino heq).symm

/-- The plain entry of the same arguments. -/
def ReplyDirectoryPlus.Add.plain (args : ReplyDirectoryPlus.Add) : ReplyDirectory.Add :=
  ⟨args.ino, args.offset, args.attr.kind, args.name⟩

theorem ReplyDirectoryPlus.add_agrees_hello :
    ((ReplyDirectoryPlus.add helloAdd).run (.new ⟨7⟩ 200)).1 = .ok false ∧
    ((ReplyDirectory.add helloAdd.plain).run (.new ⟨7⟩ 200)).1 = .ok false ∧
    ((ReplyDirectoryPlus.entry helloAdd).header 5).dirent =
      DirEntry.header ⟨⟨2⟩, 1, .directory, helloAdd.name⟩ 5 := by
  have hplus : ((ReplyDirectoryPlus.add helloAdd).run (.new ⟨7⟩ 200)).1 = .ok false := by
    decide +kernel
  have hplain : ((ReplyDirectory.add helloAdd.plain).run (.new ⟨7⟩ 200)).1 = .ok false := by
    decide +kernel
  have hagrees := ReplyDirectoryPlus.add_agrees helloAdd (Method.run_eq_mk hplus)
    (Method.run_eq_mk hplain)
  have hcovers : helloAdd.attr.kind.Covers helloAdd.attr.perm := by
    rw [FileType.Covers]
    decide
  exact ⟨hplus, hplain, (hagrees.2.2 hcovers).1⟩

/-- The dirents that both kinds of reply make of an entry, read back from their buffers. -/
def ReplyDirectoryPlus.Add.dirents (args : ReplyDirectoryPlus.Add) : FuseDirent × FuseDirent :=
  let plus := ((ReplyDirectoryPlus.add args).run (.new ⟨7⟩ 200)).2
  let plain := ((ReplyDirectory.add args.plain).run (.new ⟨7⟩ 200)).2
  ((ofBytes FuseDirentplus plus.data.buf).dirent, ofBytes FuseDirent plain.data.buf)

/-- An inode number that is not that of the attributes, and permissions that hold the
type of a regular file: one reply has a directory, the other a socket. -/
theorem ReplyDirectoryPlus.not_add_agrees :
    let mismatched : ReplyDirectoryPlus.Add := { helloAdd with ino := ⟨3⟩ }
    let overlapping : ReplyDirectoryPlus.Add :=
      { helloAdd with attr := { helloAdd.attr with perm := 0o100755 } }
    (mismatched.dirents = (⟨2, 1, 5, 4⟩, ⟨3, 1, 5, 4⟩) ∧
      mismatched.dirents.1 ≠ mismatched.dirents.2) ∧
    (overlapping.dirents = (⟨2, 1, 5, 12⟩, ⟨2, 1, 5, 4⟩) ∧
      overlapping.dirents.1 ≠ overlapping.dirents.2) := by
  decide +kernel

end Fuser
