import Fuser.Foundation.Paging
import Fuser.Replies

/-!
How the example filesystems list a directory. A READDIR asks for the entries from an
offset on. Every entry is sent along with the offset of the one behind it, and the
kernel asks again from the offset of the last entry that it got, until it gets none.

The offsets are positions in the list of entries. They are counted in one of two ways,
depending on whether the entries are numbered before or after the first ones are skipped.
-/

namespace Fuser

open Rust Wire Paging

/-- An entry of a directory. -/
structure DirItem where
  ino : INodeNo
  kind : FileType
  name : OsStr
  deriving DecidableEq

/-- Entries are added up to the first for which the buffer is full. -/
def addUntilFull {γ : Type} (add : γ → Method DirectoryReply Empty Bool) :
    List γ → Method DirectoryReply Empty Unit
  | [] => return ()
  | args :: rest => do
      let full ← add args
      if full then return () else addUntilFull add rest

/-- `entries.into_iter().enumerate().skip(offset as usize)`. -/
def enumerateSkip (entries : List DirItem) (offset : UInt64) : List ReplyDirectory.Add :=
  (entries.zipIdx.drop offset.toNat).map fun (entry, i) =>
    ⟨entry.ino, UInt64.ofNat (i + 1), entry.kind, entry.name⟩

/-- `entries.iter().skip(offset as usize).enumerate()`. -/
def skipEnumerate (entries : List DirItem) (offset : UInt64) : List ReplyDirectory.Add :=
  (entries.drop offset.toNat).zipIdx.map fun (entry, index) =>
    ⟨entry.ino, offset + UInt64.ofNat index + 1, entry.kind, entry.name⟩

/-- The rest of `readdir`, once the entries are known. -/
def readdir (args : List ReplyDirectory.Add) (unique : RequestId) (size : Nat) :
    Method (List (List UInt8)) Empty Unit := fun sent =>
  match (addUntilFull ReplyDirectory.add args).run (.new unique size) with
  | (.ok (), dir) =>
      let (outcome, (_, sent)) := DirectoryReply.ok.run (dir, sent)
      (outcome, sent)
  | (.err e, _) => nomatch e
  | (.panic reason, dir) =>
      let (_, sent) := dir.reply.drops.run sent
      (.panic reason, sent)

/-- What the kernel reads in the answer. -/
def kernelPage (args : List ReplyDirectory.Add) (unique : RequestId) (size : Nat) :
    List KernelDirent :=
  match ((readdir args unique size).run []).2 with
  | [message] => (kernelReaddir (message.drop 16)).1
  | _ => []

/-- What the kernel reads with one request after the other, each from the offset of the
last entry before it. -/
def kernelList (serve : UInt64 → List ReplyDirectory.Add) (size : Nat) :
    List RequestId → UInt64 → List KernelDirent
  | [], _ => []
  | unique :: uniques, offset =>
      let page := kernelPage (serve offset) unique size
      match page.getLast? with
      | none => []
      | some last => page ++ kernelList serve size uniques last.off

section Fill

variable {γ α : Type} [ReprC α] {add : γ → Method DirectoryReply Empty Bool}
variable {header : γ → UInt32 → α} {name : γ → OsStr}
variable {unique : RequestId} {size : Nat} {tailLen : α → Nat}
variable {records : List (α × OsStr)} {self : DirectoryReply}

/-- The loop leaves in the buffer what there is room for. -/
theorem Filled.run_addUntilFull (h : Filled unique size tailLen records self)
    (hadds : Adds add header name) (htail : ∀ args len, tailLen (header args len) = len.toNat)
    {calls : List γ} (hnames : ∀ args ∈ calls, (name args).length < 2 ^ 32) :
    ∃ self', (addUntilFull add calls).run self = (.ok (), self') ∧
      Filled unique size tailLen
        (records ++ (fill (fun args => recordLen α (name args).length) self.remainingCapacity
          calls).map (entryOf header name)) self' := by
  induction calls generalizing records self with
  | nil =>
      refine ⟨self, rfl, ?_⟩
      rw [fill, List.map_nil, List.append_nil]
      exact h
  | cons args calls ih =>
      obtain ⟨hname, hnames⟩ := List.forall_mem_cons.mp hnames
      have hadd := h.run_add hadds hname
      by_cases hfull : self.remainingCapacity < recordLen α (name args).length
      · rw [if_pos hfull] at hadd
        rw [addUntilFull, Method.run_bind_of_ok _ hadd, fill, if_neg (Nat.not_le.mpr hfull),
          List.map_nil, List.append_nil]
        exact ⟨self, rfl, h⟩
      · rw [if_neg hfull] at hadd
        have hnext := h.append htail hname hfull
        obtain ⟨self', hrun, hfilled⟩ := ih hnext hnames
        refine ⟨self', ?_, ?_⟩
        · rw [addUntilFull, Method.run_bind_of_ok _ hadd]
          exact hrun
        · have hremaining := hnext.remaining
          rw [hremaining, List.append_assoc, List.length_append, length_record] at hfilled
          rw [fill, if_pos (Nat.not_lt.mp hfull), h.remaining]
          rw [h.remaining] at hfull
          have hsub : size - self.data.buf.length - recordLen α (name args).length =
              size - (self.data.buf.length + recordLen α (name args).length) := by omega
          rw [hsub]
          exact hfilled

end Fill

/-- The room that an entry takes up. -/
def entrySize (args : ReplyDirectory.Add) : Nat := nextMultipleOf (24 + args.name.length) 8

theorem view_entryOf (args : ReplyDirectory.Add) (len : UInt32) :
    KernelDirent.ofRecord (DirEntry.header ⟨args.ino, args.offset, args.kind, args.name⟩ len)
      args.name = ReplyDirectory.view args := by
  have hkind := ofTyp_mode args.kind 0 (by decide)
  change KernelDirent.mk _ _ (FileType.ofTyp (modeFromKindAndPerm args.kind 0 >>> 12)) _ = _
  rw [hkind]
  rfl

/-- The kernel reads the entries that there was room for. -/
theorem kernelPage_eq {args : List ReplyDirectory.Add} {size : Nat}
    (hnames : ∀ call ∈ args, call.name.length < 2 ^ 32) (hsize : 16 + size < 2 ^ 32)
    (unique : RequestId) :
    kernelPage args unique size = (fill entrySize size args).map ReplyDirectory.view := by
  have hnew := filled_new unique size fun dirent : FuseDirent => dirent.namelen.toNat
  obtain ⟨dir, hrun, hfilled⟩ :=
    hnew.run_addUntilFull adds_replyDirectory (fun _ _ => rfl) hnames
  have hroom : (DirectoryReply.new unique size).remainingCapacity = size := rfl
  rw [List.nil_append, hroom] at hfilled
  have hfits : 16 + dir.data.buf.length < 2 ^ 32 := by
    have hbounded := hfilled.bounded
    omega
  have hbuf : ((Response.ofData dir.data.buf).message unique).drop 16 = dir.data.buf := by
    rw [Response.message, Response.payload_ofData]
    exact List.drop_left' (length_toBytes _)
  have hsent : ((readdir args unique size).run []).2 =
      [(Response.ofData dir.data.buf).message unique] := by
    have hok := hfilled.run_ok hfits []
    rw [Method.run] at hok
    simp only [Method.run, readdir] at hrun ⊢
    simp only [hrun, hok, List.nil_append]
  have hpositive : 0 < ReprC.size FuseDirent := by decide
  have hwalk := @walk_records _ _ (fun dirent : FuseDirent => dirent.namelen.toNat) hpositive _
    hfilled.tails
  rw [← hfilled.buf] at hwalk
  rw [kernelPage, hsent]
  simp only [hbuf, kernelReaddir, hwalk, List.map_map]
  exact List.map_congr_left fun call _ => view_entryOf call _

section Offsets

variable {entries : List DirItem}

/-- An entry with its position, as a call of `add`. -/
def addAt (item : DirItem × Nat) : ReplyDirectory.Add :=
  ⟨item.1.ino, UInt64.ofNat (item.2 + 1), item.1.kind, item.1.name⟩

theorem enumerateSkip_eq (entries : List DirItem) (offset : UInt64) :
    enumerateSkip entries offset = (entries.zipIdx.drop offset.toNat).map addAt := rfl

theorem drop_zipIdx (entries : List DirItem) (start count : Nat) :
    (entries.zipIdx start).drop count = (entries.drop count).zipIdx (start + count) := by
  induction entries generalizing start count with
  | nil => simp
  | cons entry entries ih =>
      cases count with
      | zero => rfl
      | succ count =>
          rw [List.zipIdx_cons, List.drop_succ_cons, List.drop_succ_cons, ih,
            Nat.add_right_comm, Nat.add_assoc]

/-- It does not matter whether the entries are numbered before or after the first ones
are skipped. -/
theorem skipEnumerate_eq (entries : List DirItem) (offset : UInt64) :
    skipEnumerate entries offset = enumerateSkip entries offset := by
  have hoffset (index : Nat) :
      offset + UInt64.ofNat index + 1 = UInt64.ofNat (offset.toNat + index + 1) := by
    rw [UInt64.ofNat_add, UInt64.ofNat_add, UInt64.ofNat_toNat]
    rfl
  rw [skipEnumerate, enumerateSkip, drop_zipIdx, Nat.zero_add,
    @List.zipIdx_eq_map_add _ _ offset.toNat, List.map_map]
  refine List.map_congr_left fun item _ => ?_
  simp only [Function.comp, hoffset]

/-- What the kernel sees of an entry and its position. -/
def viewAt (item : DirItem × Nat) : KernelDirent := ReplyDirectory.view (addAt item)

/-- The last entry of a page has the offset of the entry behind it. -/
theorem getLast?_fill {size : DirItem × Nat → Nat} {room position : Nat}
    (hposition : position ≤ entries.length) {item : DirItem × Nat} {page : List (DirItem × Nat)}
    (h : fill size room (entries.zipIdx.drop position) = item :: page) :
    ∃ last, ((item :: page).map viewAt).getLast? = some last ∧
      last.off = UInt64.ofNat (position + (page.length + 1)) ∧
      position + (page.length + 1) ≤ entries.length := by
  have happend := fill_append size room (entries.zipIdx.drop position)
  rw [h] at happend
  have hpage : (item :: page).length ≤ (entries.zipIdx.drop position).length := by
    rw [← happend, List.length_append]
    exact Nat.le_add_right ..
  rw [List.length_drop, List.length_zipIdx, List.length_cons] at hpage
  have hindex : position + page.length < entries.length := by omega
  have hlast : (item :: page).getLast? =
      some (entries[position + page.length], position + page.length) := by
    have hprefix : (item :: page)[page.length]? = (entries.zipIdx.drop position)[page.length]? := by
      rw [← happend, List.getElem?_append_left (Nat.lt_succ_self _)]
    rw [List.getLast?_eq_getElem?, List.length_cons, Nat.add_sub_cancel, hprefix,
      List.getElem?_drop, List.getElem?_zipIdx, List.getElem?_eq_getElem hindex, Option.map_some,
      Nat.zero_add]
  refine ⟨_, by rw [List.getLast?_map, hlast, Option.map_some], rfl, by omega⟩

theorem names_short (h : ∀ entry ∈ entries, entry.name.length < 2 ^ 32) (position : Nat) :
    ∀ call ∈ (entries.zipIdx.drop position).map addAt, call.name.length < 2 ^ 32 := by
  intro call hcall
  obtain ⟨item, hitem, rfl⟩ := List.mem_map.mp hcall
  exact h item.1 (List.fst_mem_of_mem_zipIdx (List.mem_of_mem_drop hitem))

theorem fill_map_addAt (size : Nat) (items : List (DirItem × Nat)) :
    fill entrySize size (items.map addAt) =
      (fill (fun item => entrySize (addAt item)) size items).map addAt := by
  induction items generalizing size with
  | nil => rfl
  | cons item items ih =>
      rw [List.map_cons, fill, fill]
      split
      · rw [ih, List.map_cons]
      · rfl

/-- The kernel collects the pages. -/
theorem kernelList_eq {size : Nat} (hnames : ∀ entry ∈ entries, entry.name.length < 2 ^ 32)
    (hlength : entries.length < 2 ^ 64) (hsize : 16 + size < 2 ^ 32) (uniques : List RequestId)
    {position : Nat} (hposition : position ≤ entries.length) :
    kernelList (enumerateSkip entries) size uniques (UInt64.ofNat position) =
      (collect (fun position => fill (fun item => entrySize (addAt item)) size
        (entries.zipIdx.drop position)) uniques.length position).map viewAt := by
  induction uniques generalizing position with
  | nil => rfl
  | cons unique uniques ih =>
      have hoffset : (UInt64.ofNat position).toNat = position := by
        rw [UInt64.toNat_ofNat']
        exact Nat.mod_eq_of_lt (by omega)
      have hpage : kernelPage (enumerateSkip entries (UInt64.ofNat position)) unique size =
          (fill (fun item => entrySize (addAt item)) size
            (entries.zipIdx.drop position)).map viewAt := by
        rw [enumerateSkip_eq, hoffset,
          kernelPage_eq (names_short hnames position) hsize unique, fill_map_addAt, List.map_map]
        rfl
      rw [kernelList, List.length_cons, collect]
      simp only [hpage]
      split
      next hnone =>
          rw [List.getLast?_eq_none_iff, List.map_eq_nil_iff] at hnone
          rw [hnone]
          rfl
      next last hlast =>
          split
          next hnil =>
              rw [hnil] at hlast
              cases hlast
          next item page hfill =>
              obtain ⟨last', hlast', hoff, hle⟩ := getLast?_fill hposition hfill
              rw [hfill] at hlast ⊢
              cases hlast.symm.trans hlast'
              rw [hoff, ih hle, List.map_append]

end Offsets

/-- A directory that does not change is listed completely: with enough requests, the kernel
gets every entry once and in order, whichever way the offsets are counted. Only an entry
that does not fit a buffer of the size that the kernel asks for ends the list early. -/
theorem readdir_complete (entries : List DirItem) (size : Nat) (uniques : List RequestId)
    (hnames : ∀ entry ∈ entries, entry.name.length < 2 ^ 32) (hlength : entries.length < 2 ^ 64)
    (hsize : 16 + size < 2 ^ 32) (hrequests : entries.length < uniques.length) :
    let seen := fun serve : UInt64 → List ReplyDirectory.Add =>
      (kernelList serve size uniques 0).map fun dirent => (dirent.ino, dirent.kind, dirent.name)
    let listed := (entries.takeWhile fun entry =>
        decide (nextMultipleOf (24 + entry.name.length) 8 ≤ size)).map fun entry =>
      (entry.ino.raw, some entry.kind, entry.name)
    seen (enumerateSkip entries) = listed ∧ seen (skipEnumerate entries) = listed := by
  intro seen listed
  have hskip : skipEnumerate entries = enumerateSkip entries := funext (skipEnumerate_eq entries)
  have hcollect := collect_fill (fun item => entrySize (addAt item)) size entries.zipIdx
    uniques.length 0 (by rw [List.length_zipIdx]; omega)
  have hseen : seen (enumerateSkip entries) = listed := by
    change (kernelList (enumerateSkip entries) size uniques (UInt64.ofNat 0)).map _ = _
    have hfst : entries = entries.zipIdx.map Prod.fst := (List.zipIdx_map_fst 0 entries).symm
    have htake : entries.takeWhile (fun entry =>
          decide (nextMultipleOf (24 + entry.name.length) 8 ≤ size)) =
        (entries.zipIdx.takeWhile fun item => decide (entrySize (addAt item) ≤ size)).map
          Prod.fst := by
      rw [hfst, List.takeWhile_map, ← hfst]
      rfl
    rw [kernelList_eq hnames hlength hsize uniques (Nat.zero_le _), hcollect, List.drop_zero,
      List.map_map]
    change _ = (entries.takeWhile _).map _
    rw [htake, List.map_map]
    rfl
  rw [hskip]
  exact ⟨hseen, hseen⟩

/-- The first three entries of the hello example: ".", ".." and "hello.txt". -/
def helloEntries : List DirItem :=
  [⟨⟨1⟩, .directory, [46]⟩, ⟨⟨1⟩, .directory, [46, 46]⟩,
    ⟨⟨2⟩, .regularFile, [104, 101, 108, 108, 111, 46, 116, 120, 116]⟩]

/-- A buffer with room for two of them takes two requests, and a third one for the end. -/
theorem readdir_complete_hello :
    (kernelPage (enumerateSkip helloEntries 0) ⟨7⟩ 72).length = 2 ∧
    (kernelList (enumerateSkip helloEntries) 72 [⟨7⟩, ⟨8⟩, ⟨9⟩, ⟨10⟩] 0).map
        (fun dirent => (dirent.ino, dirent.kind, dirent.name)) =
      helloEntries.map fun entry => (entry.ino.raw, some entry.kind, entry.name) := by
  have hlist := readdir_complete helloEntries 72 [⟨7⟩, ⟨8⟩, ⟨9⟩, ⟨10⟩] (by decide) (by decide)
    (by decide) (by decide)
  exact ⟨by decide +kernel, hlist.1⟩

end Fuser
