import Fuser.Foundation.Shared
import Fuser.Passthrough

/-!
The cache of the passthrough example: at most one `BackingId` for each inode, shared by
the file handles that are open on it. Every handle has a strong reference. The table by
inode has weak ones, and so does not keep a backing file open that nobody uses.

A call of `open` takes its references under the lock of the cache, answers after it has
let go of the lock, and drops its own reference when it returns; and a value is dropped
after its last reference. Other calls may come in between at each of these points.
-/

namespace Fuser

open Rust Wire Shared

/-- References are positions in the list of all values that were ever shared. -/
structure BackingCache where
  byHandle : Table UInt64
  byInode : Table INodeNo
  nextFh : UInt64

/-- A call of `open` that has a handle and has yet to answer. It holds a reference. -/
structure Opening where
  fh : UInt64
  ref : Nat

/-- The cache and the values that were put into an `Arc`; the calls of `open` that are under
way, and the references of those that have answered and are about to return; the values
without a reference that are about to be dropped; the inodes that the handles were opened
on; and the answers that were given, each with whether the file that it named was open. -/
structure Passing (δ : Type) where
  cache : BackingCache
  arcs : List (BackingId δ)
  opening : List Opening
  returning : List Nat
  dropping : List (BackingId δ)
  backing : Backing δ Unit
  opened : List (UInt64 × INodeNo)
  replies : List (ReplyCall .open × Bool)

namespace Passing

variable {δ : Type}

/-- All devices are of one connection. -/
abbrev connection : δ → Unit := fun _ => ()

def start : Passing δ := ⟨⟨∅, ∅, 0⟩, [], [], [], [], .start, [], []⟩

/-- The strong references to a value. -/
def strong (s : Passing δ) (ref : Nat) : Nat :=
  holds s.cache.byHandle ref + (s.opening.map Opening.ref).count ref + s.returning.count ref

/-- An addition that overflows panics. -/
def nextFh : Method (Passing δ) IoError UInt64 := fun s =>
  if s.cache.nextFh.toNat + 1 < 2 ^ 64 then
    (.ok (s.cache.nextFh + 1), { s with cache := { s.cache with nextFh := s.cache.nextFh + 1 } })
  else (.panic (.explicit "attempt to add with overflow"), s)

/-- The value for an inode: the one there is, if it is still alive, or a new one. -/
def share (ino : INodeNo) (channel : δ) (answer : Except IoError UInt32) :
    Method (Passing δ) IoError Nat := fun s =>
  match (s.cache.byInode.lookup ino).filter fun ref => 0 < s.strong ref with
  | some ref => (.ok ref, s)
  | none =>
      match BackingId.create connection channel answer s.backing with
      | (.ok id, backing) =>
          (.ok s.arcs.length, { s with
            arcs := s.arcs ++ [id]
            cache := { s.cache with byInode := s.cache.byInode.insert ino s.arcs.length }
            backing := { backing with held := id :: backing.held } })
      | (.error e, backing) => (.err e, { s with backing })

def insertHandle (fh : UInt64) (ref : Nat) : Method (Passing δ) IoError Unit := fun s =>
  (.ok (), { s with cache := { s.cache with byHandle := s.cache.byHandle.insert fh ref } })

/-- The callback opens a backing file through the reply object of the call. -/
def getOr (ino : INodeNo) (channel : δ) (answer : Except IoError UInt32) :
    Method (Passing δ) IoError Opening := do
  let fh ← nextFh
  let ref ← share ino channel answer
  insertHandle fh ref
  return ⟨fh, ref⟩

/-- A strong reference was dropped, and the value is to be dropped if it was the last. -/
def letGo (ref : Nat) (s : Passing δ) : Passing δ :=
  { s with dropping := (if s.strong ref = 0 then s.arcs[ref]?.toList else []) ++ s.dropping }

/-- Without a reference the call panics, and its reply object answers for it. -/
def onOpen (ino : INodeNo) (channel : δ) (answer : Except IoError UInt32) (s : Passing δ) :
    Passing δ :=
  match (getOr ino channel answer).run s with
  | (.ok opening, s) =>
      { s with opening := opening :: s.opening, opened := (opening.fh, ino) :: s.opened }
  | (.err _, s) => s
  | (.panic _, s) => s

/-- A call of `open` answers. -/
def onReply (index : Nat) (s : Passing δ) : Passing δ :=
  match s.opening[index]? with
  | none => s
  | some opening =>
      match s.arcs[opening.ref]? with
      | none => s
      | some id =>
          { s with
            opening := s.opening.eraseIdx index
            returning := opening.ref :: s.returning
            replies := s.replies ++ [(.openedPassthrough ⟨opening.fh⟩ ⟨0⟩ id.backingId,
              (Backing.registered s.backing.log).contains (id.entry connection))] }

/-- A call of `open` that has answered returns, and its reference goes. -/
def onReturn (index : Nat) (s : Passing δ) : Passing δ :=
  match s.returning[index]? with
  | none => s
  | some ref => letGo ref { s with returning := s.returning.eraseIdx index }

/-- `release` of a handle that is not in the table changes nothing. -/
def put (fh : UInt64) (s : Passing δ) : Passing δ :=
  match s.cache.byHandle.lookup fh with
  | none => s
  | some ref =>
      letGo ref { s with cache := { s.cache with byHandle := s.cache.byHandle.erase fh } }

variable [DecidableEq δ]

/-- A value without references is dropped. -/
def onDrop (index : Nat) (answer : Except IoError Unit) (s : Passing δ) : Passing δ :=
  match s.dropping[index]? with
  | none => s
  | some id =>
      { s with
        dropping := s.dropping.eraseIdx index
        backing := { id.drop connection answer s.backing with held := s.backing.held.erase id } }

/-- One step: a call of `open` gets at the cache, answers or returns, a handle is released,
a value is dropped, or a device goes. The device that a call is answered through is there.
What the kernel answers to a close is not known, and of the numbers that it gives out only
that they are not in use. -/
inductive Step (s : Passing δ) : Passing δ → Prop where
  | onOpen (ino : INodeNo) (channel : δ) (answer : Except IoError UInt32)
      (halive : s.backing.alive channel = true)
      (hfree : ∀ id, answer = .ok id → ⟨(), id⟩ ∉ Backing.registered s.backing.log) :
      Step s (s.onOpen ino channel answer)
  | onReply (index : Nat) : Step s (s.onReply index)
  | onReturn (index : Nat) : Step s (s.onReturn index)
  | put (fh : UInt64) : Step s (s.put fh)
  | onDrop (index : Nat) (answer : Except IoError Unit) : Step s (s.onDrop index answer)
  | hangUp (channel : δ) :
      Step s { s with backing := { s.backing with
        alive := Function.update s.backing.alive channel false } }

def Runs : Passing δ → Passing δ → Prop := Relation.ReflTransGen Step

/-- What the tables and the owners know of the values that are shared. The count of
references is any function here; only which of them are alive matters. -/
structure Sharing (strong : Nat → Nat) (arcs : List (BackingId δ)) (byInode : Table INodeNo)
    (dropping : List (BackingId δ)) (backing : Backing δ Unit) : Prop where
  runs : Backing.Runs connection .start backing
  raw : backing.raw = []
  live : ∀ ref, 0 < strong ref → ∃ ino id, arcs[ref]? = some id ∧ id ∈ backing.held ∧
    id ∉ dropping ∧ byInode.lookup ino = some ref
  held : ∀ id ∈ backing.held, id ∈ dropping ∨ ∃ ref, 0 < strong ref ∧ arcs[ref]? = some id
  pending : ∀ id ∈ dropping, id ∈ backing.held
  once : dropping.Nodup
  unshared : ∀ ref ref' id, 0 < strong ref → 0 < strong ref' →
    arcs[ref]? = some id → arcs[ref']? = some id → ref = ref'
  made : ∀ ino ref, byInode.lookup ino = some ref → ref < arcs.length
  ofInode : ∀ ino ino' ref, byInode.lookup ino = some ref → byInode.lookup ino' = some ref →
    ino = ino'

section Sharing

variable {strong strong' : Nat → Nat} {arcs : List (BackingId δ)} {byInode : Table INodeNo}
variable {dropping : List (BackingId δ)} {backing : Backing δ Unit}

theorem sharing_start : Sharing (fun _ => 0) ([] : List (BackingId δ)) ∅ [] .start := by
  refine ⟨.refl, rfl, ?_, ?_, ?_, List.nodup_nil, ?_, ?_, ?_⟩
  · intro ref hpos
    exact absurd hpos (Nat.lt_irrefl 0)
  · intro id hid
    cases hid
  · intro id hid
    cases hid
  · intro ref ref' id hpos
    exact absurd hpos (Nat.lt_irrefl 0)
  · intro ino ref hlookup
    rw [AList.lookup_empty] at hlookup
    cases hlookup
  · intro ino ino' ref hlookup
    rw [AList.lookup_empty] at hlookup
    cases hlookup

theorem Sharing.congr (h : Sharing strong arcs byInode dropping backing)
    (hpos : ∀ ref, 0 < strong' ref ↔ 0 < strong ref) :
    Sharing strong' arcs byInode dropping backing := by
  refine ⟨h.runs, h.raw, fun ref hlive => h.live ref ((hpos ref).mp hlive), ?_, h.pending,
    h.once, ?_, h.made, h.ofInode⟩
  · intro id hid
    refine (h.held id hid).imp_right ?_
    rintro ⟨ref, hlive, harc⟩
    exact ⟨ref, (hpos ref).mpr hlive, harc⟩
  · intro ref ref' id hlive hlive'
    exact h.unshared ref ref' id ((hpos ref).mp hlive) ((hpos ref').mp hlive')

/-- A value that is not dropped yet is open in the kernel. -/
theorem Sharing.registered (h : Sharing strong arcs byInode dropping backing)
    {id : BackingId δ} (hid : id ∈ backing.held) :
    id.entry connection ∈ Backing.registered backing.log := by
  refine (Backing.owned_of_runs h.runs).mem_registered (List.mem_append_left _ ?_)
  exact List.mem_map_of_mem hid

theorem Sharing.nodup_entries (h : Sharing strong arcs byInode dropping backing) :
    (backing.held.map (BackingId.entry connection)).Nodup := by
  have howned := Backing.owned_of_runs h.runs
  have hnodup := howned.owned.nodup_iff.mpr howned.nodup
  exact hnodup.of_append_left.of_append_left

theorem Sharing.nodup_held (h : Sharing strong arcs byInode dropping backing) :
    backing.held.Nodup := h.nodup_entries.of_map _

/-- A new value for an inode that has none alive. -/
theorem Sharing.create (h : Sharing strong arcs byInode dropping backing) {ino : INodeNo}
    (hino : ∀ ref, byInode.lookup ino = some ref → strong ref = 0) {channel : δ} {number : UInt32}
    (halive : backing.alive channel = true)
    (hfree : ⟨(), number⟩ ∉ Backing.registered backing.log)
    (hpos : ∀ ref, 0 < strong' ref ↔ 0 < strong ref ∨ ref = arcs.length) :
    Sharing strong' (arcs ++ [⟨channel, number⟩]) (byInode.insert ino arcs.length) dropping
      { (BackingId.create connection channel (.ok number) backing).2 with
        held := ⟨channel, number⟩ :: backing.held } := by
  have hnew : (arcs ++ [(⟨channel, number⟩ : BackingId δ)])[arcs.length]? =
      some ⟨channel, number⟩ := by
    rw [List.getElem?_append_right (Nat.le_refl _), Nat.sub_self]
    rfl
  have hold {ref : Nat} (hlive : 0 < strong ref) :
      (arcs ++ [(⟨channel, number⟩ : BackingId δ)])[ref]? = arcs[ref]? := by
    obtain ⟨_, _, harc, -⟩ := h.live ref hlive
    exact List.getElem?_append_left (List.getElem?_eq_some_iff.mp harc).1
  have hfresh {id : BackingId δ} (hid : id ∈ backing.held) : id ≠ ⟨channel, number⟩ := by
    rintro rfl
    exact hfree (h.registered hid)
  -- What the table by inode has now is what it had, or the new value for its inode.
  have hinsert {ino' : INodeNo} {ref : Nat}
      (hlookup : (byInode.insert ino arcs.length).lookup ino' = some ref) :
      (ino' = ino ∧ ref = arcs.length) ∨ byInode.lookup ino' = some ref := by
    by_cases heq : ino' = ino
    · subst heq
      rw [AList.lookup_insert] at hlookup
      exact .inl ⟨rfl, (Option.some.inj hlookup).symm⟩
    · rw [AList.lookup_insert_ne heq] at hlookup
      exact .inr hlookup
  refine ⟨h.runs.tail (.openBacking channel number halive hfree), h.raw, ?_, ?_, ?_, h.once, ?_, ?_,
    ?_⟩
  · intro ref hlive
    cases (hpos ref).mp hlive with
    | inl hlive =>
        obtain ⟨ino', id, harc, hid, hkept, hlookup⟩ := h.live ref hlive
        refine ⟨ino', id, (hold hlive).trans harc, List.mem_cons_of_mem _ hid, hkept, ?_⟩
        rw [AList.lookup_insert_ne, hlookup]
        rintro rfl
        exact absurd hlive (by rw [hino ref hlookup]; exact Nat.lt_irrefl 0)
    | inr heq =>
        subst heq
        exact ⟨ino, _, hnew, List.mem_cons_self, fun hdrop => hfresh (h.pending _ hdrop) rfl,
          AList.lookup_insert _⟩
  · intro id hid
    cases List.mem_cons.mp hid with
    | inl heq =>
        subst heq
        exact .inr ⟨arcs.length, (hpos _).mpr (.inr rfl), hnew⟩
    | inr hid =>
        refine (h.held id hid).imp_right ?_
        rintro ⟨ref, hlive, harc⟩
        exact ⟨ref, (hpos ref).mpr (.inl hlive), (hold hlive).trans harc⟩
  · intro id hid
    exact List.mem_cons_of_mem _ (h.pending id hid)
  · intro ref ref' id hlive hlive' harc harc'
    -- Two old values are told apart as before, and the new one by its number.
    have hsplit {r : Nat} (hlive : 0 < strong' r)
        (harc : (arcs ++ [(⟨channel, number⟩ : BackingId δ)])[r]? = some id) :
        (0 < strong r ∧ arcs[r]? = some id ∧ id ≠ ⟨channel, number⟩) ∨
          (r = arcs.length ∧ id = ⟨channel, number⟩) := by
      cases (hpos r).mp hlive with
      | inl hlive =>
          rw [hold hlive] at harc
          obtain ⟨_, _, harc', hid, -⟩ := h.live r hlive
          cases harc.symm.trans harc'
          exact .inl ⟨hlive, harc, hfresh hid⟩
      | inr heq =>
          subst heq
          cases hnew.symm.trans harc
          exact .inr ⟨rfl, rfl⟩
    obtain ⟨hold₁, harc₁, hne₁⟩ | ⟨heq₁, hid₁⟩ := hsplit hlive harc
    · obtain ⟨hold₂, harc₂, -⟩ | ⟨-, hid₂⟩ := hsplit hlive' harc'
      · exact h.unshared ref ref' id hold₁ hold₂ harc₁ harc₂
      · exact absurd hid₂ hne₁
    · obtain ⟨-, -, hne₂⟩ | ⟨heq₂, -⟩ := hsplit hlive' harc'
      · exact absurd hid₁ hne₂
      · exact heq₁.trans heq₂.symm
  · intro ino' ref hlookup
    rw [List.length_append, List.length_singleton]
    obtain ⟨-, rfl⟩ | hlookup := hinsert hlookup
    · exact Nat.lt_succ_self _
    · exact Nat.lt_succ_of_lt (h.made ino' ref hlookup)
  · intro ino₁ ino₂ ref hlookup₁ hlookup₂
    obtain ⟨rfl, rfl⟩ | hlookup₁ := hinsert hlookup₁
    · obtain ⟨rfl, -⟩ | hlookup₂ := hinsert hlookup₂
      · rfl
      · exact absurd (h.made ino₂ _ hlookup₂) (Nat.lt_irrefl _)
    · obtain ⟨-, rfl⟩ | hlookup₂ := hinsert hlookup₂
      · exact absurd (h.made ino₁ _ hlookup₁) (Nat.lt_irrefl _)
      · exact h.ofInode ino₁ ino₂ ref hlookup₁ hlookup₂

/-- The last reference to a value goes. -/
theorem Sharing.release (h : Sharing strong arcs byInode dropping backing) {last : Nat}
    {id : BackingId δ} (hlast : 0 < strong last) (harc : arcs[last]? = some id)
    (hpos : ∀ ref, 0 < strong' ref ↔ 0 < strong ref ∧ ref ≠ last) :
    Sharing strong' arcs byInode (id :: dropping) backing := by
  have hid : id ∈ backing.held ∧ id ∉ dropping := by
    obtain ⟨_, _, harc', hid, hkept, -⟩ := h.live last hlast
    cases harc.symm.trans harc'
    exact ⟨hid, hkept⟩
  refine ⟨h.runs, h.raw, ?_, ?_, List.forall_mem_cons.mpr ⟨hid.1, h.pending⟩,
    List.nodup_cons.mpr ⟨hid.2, h.once⟩, ?_, h.made, h.ofInode⟩
  · intro ref hlive
    obtain ⟨hlive, hne⟩ := (hpos ref).mp hlive
    obtain ⟨ino, id', harc', hid', hkept, hlookup⟩ := h.live ref hlive
    refine ⟨ino, id', harc', hid', List.not_mem_cons_of_ne_of_not_mem ?_ hkept, hlookup⟩
    rintro rfl
    exact hne (h.unshared ref last id' hlive hlast harc' harc)
  · intro id' hid'
    obtain hdrop | ⟨ref, hlive, harc'⟩ := h.held id' hid'
    · exact .inl (List.mem_cons_of_mem _ hdrop)
    · by_cases heq : ref = last
      · subst heq
        cases harc.symm.trans harc'
        exact .inl List.mem_cons_self
      · exact .inr ⟨ref, (hpos ref).mpr ⟨hlive, heq⟩, harc'⟩
  · intro ref ref' id' hlive hlive'
    exact h.unshared ref ref' id' ((hpos ref).mp hlive).1 ((hpos ref').mp hlive').1

/-- A value is dropped that has no references. -/
theorem Sharing.drop (h : Sharing strong arcs byInode dropping backing) {index : Nat}
    {id : BackingId δ} (hindex : dropping[index]? = some id) (answer : Except IoError Unit) :
    Sharing strong arcs byInode (dropping.eraseIdx index)
      { id.drop connection answer backing with held := backing.held.erase id } := by
  obtain ⟨hlt, rfl⟩ := List.getElem?_eq_some_iff.mp hindex
  have hperm := List.getElem_cons_eraseIdx_perm hlt
  have hnodup := List.nodup_cons.mp (hperm.nodup_iff.mpr h.once)
  have hdrop : dropping[index] ∈ dropping := List.getElem_mem hlt
  obtain ⟨before, after, -, hheld, herase⟩ := List.exists_erase_eq (h.pending _ hdrop)
  have hraw : (dropping[index].drop connection answer backing).raw = backing.raw := by
    rw [BackingId.drop.eq_def]
    split
    · cases answer <;> rfl
    · rfl
  refine ⟨h.runs.tail (herase ▸ .drop _ answer hheld), hraw.trans h.raw, ?_, ?_, ?_, hnodup.2,
    h.unshared, h.made, h.ofInode⟩
  · intro ref hlive
    obtain ⟨ino, id, harc, hid, hkept, hlookup⟩ := h.live ref hlive
    refine ⟨ino, id, harc, (List.mem_erase_of_ne ?_).mpr hid, ?_, hlookup⟩
    · rintro rfl
      exact hkept hdrop
    · exact fun hmem => hkept (List.mem_of_mem_eraseIdx hmem)
  · intro id hid
    obtain ⟨hne, hid⟩ := h.nodup_held.mem_erase_iff.mp hid
    refine (h.held id hid).imp_left fun hmem => ?_
    exact List.mem_of_ne_of_mem hne (hperm.symm.subset hmem)
  · intro id hid
    refine (List.mem_erase_of_ne ?_).mpr (h.pending id (List.mem_of_mem_eraseIdx hid))
    rintro rfl
    exact hnodup.1 hid

end Sharing

/-- Every state that is reached: handles are given out in order, each for an inode whose
value it holds, and every answer named a file that was open. -/
structure Tracks (s : Passing δ) : Prop where
  sharing : Sharing s.strong s.arcs s.cache.byInode s.dropping s.backing
  handles : ∀ fh ref, s.cache.byHandle.lookup fh = some ref →
    ∃ ino, (fh, ino) ∈ s.opened ∧ s.cache.byInode.lookup ino = some ref
  given : ∀ handle ∈ s.opened, handle.1 ≤ s.cache.nextFh
  once : (s.opened.map Prod.fst).Nodup
  replies : ∀ reply ∈ s.replies, reply.2 = true

theorem tracks_start : (start : Passing δ).Tracks := by
  refine ⟨sharing_start.congr fun _ => Iff.rfl, ?_, ?_, List.nodup_nil, ?_⟩
  · intro fh ref hlookup
    cases (AList.lookup_empty fh).symm.trans hlookup
  · intro handle hhandle
    cases hhandle
  · intro reply hreply
    cases hreply

variable {s : Passing δ}

/-- A reference was taken out of the tables. -/
theorem Sharing.letGo {strong : Nat → Nat} {ref : Nat}
    (h : Sharing strong s.arcs s.cache.byInode s.dropping s.backing)
    (hstrong : ∀ r, strong r = s.strong r + if ref = r then 1 else 0) :
    Sharing s.strong s.arcs s.cache.byInode (s.letGo ref).dropping s.backing := by
  have hlive : 0 < strong ref := by
    rw [hstrong ref, if_pos rfl]
    omega
  obtain ⟨ino, id, harc, -⟩ := h.live ref hlive
  rw [Passing.letGo]
  by_cases hzero : s.strong ref = 0
  · simp only [if_pos hzero, harc, Option.toList_some, List.singleton_append]
    refine h.release hlive harc fun r => ?_
    have hr := hstrong r
    constructor
    · intro hpos
      refine ⟨by omega, ?_⟩
      rintro rfl
      omega
    · rintro ⟨hpos, hne⟩
      rw [if_neg (fun heq => hne heq.symm)] at hr
      omega
  · simp only [if_neg hzero, List.nil_append]
    refine h.congr fun r => ?_
    have hr := hstrong r
    by_cases heq : ref = r
    · subst heq
      omega
    · rw [if_neg heq] at hr
      omega

theorem Tracks.put (h : s.Tracks) (fh : UInt64) : (s.put fh).Tracks := by
  rw [Passing.put]
  split
  · exact h
  next ref hlookup =>
      let next : Passing δ := { s with
        cache := { s.cache with byHandle := s.cache.byHandle.erase fh } }
      have hsharing : Sharing s.strong next.arcs next.cache.byInode next.dropping next.backing :=
        h.sharing
      refine ⟨hsharing.letGo fun r => ?_, ?_, h.given, h.once, h.replies⟩
      · have hholds := holds_erase hlookup r
        simp only [next, strong]
        omega
      · intro other ref' hother
        have hne : other ≠ fh := by
          rintro rfl
          cases (AList.lookup_erase ..).symm.trans hother
        exact h.handles other ref' ((AList.lookup_erase_ne hne).symm.trans hother)

theorem count_eraseIdx {refs : List Nat} {index ref : Nat} (h : refs[index]? = some ref) (r : Nat) :
    refs.count r = (refs.eraseIdx index).count r + if ref = r then 1 else 0 := by
  obtain ⟨hindex, hget⟩ := List.getElem?_eq_some_iff.mp h
  have hperm := List.getElem_cons_eraseIdx_perm hindex
  rw [hget] at hperm
  rw [← hperm.count_eq r, List.count_cons]
  simp only [beq_iff_eq]

theorem Tracks.onReturn (h : s.Tracks) (index : Nat) : (s.onReturn index).Tracks := by
  rw [Passing.onReturn]
  split
  · exact h
  next ref href =>
      let next : Passing δ := { s with returning := s.returning.eraseIdx index }
      have hsharing : Sharing s.strong next.arcs next.cache.byInode next.dropping next.backing :=
        h.sharing
      refine ⟨hsharing.letGo fun r => ?_, h.handles, h.given, h.once, h.replies⟩
      have hcount := count_eraseIdx href r
      simp only [next, strong]
      omega

/-- The reference of a call goes over from those that open to those that return. -/
theorem Tracks.onReply (h : s.Tracks) (index : Nat) : (s.onReply index).Tracks := by
  rw [Passing.onReply]
  split
  · exact h
  next opening hopening =>
      have hrefs : (s.opening.map Opening.ref)[index]? = some opening.ref := by
        rw [List.getElem?_map, hopening, Option.map_some]
      have hcount := count_eraseIdx hrefs
      have hlive : 0 < s.strong opening.ref := by
        have hself := hcount opening.ref
        rw [if_pos rfl] at hself
        simp only [strong]
        omega
      obtain ⟨ino, id, harc, hid, -⟩ := h.sharing.live opening.ref hlive
      rw [harc]
      refine ⟨h.sharing.congr fun r => ?_, h.handles, h.given, h.once, ?_⟩
      · have hr := hcount r
        rw [List.eraseIdx_map] at hr
        simp only [strong, List.count_cons, beq_iff_eq]
        omega
      · refine List.forall_mem_append.mpr ⟨h.replies, List.forall_mem_singleton.mpr ?_⟩
        exact List.contains_iff_mem.mpr (h.sharing.registered hid)

theorem Tracks.onDrop (h : s.Tracks) (index : Nat) (answer : Except IoError Unit) :
    (s.onDrop index answer).Tracks := by
  rw [Passing.onDrop]
  split
  · exact h
  next id hid =>
      exact ⟨h.sharing.drop hid answer, h.handles, h.given, h.once, h.replies⟩

/-- What the value for an inode can come to. -/
inductive Shares (ino : INodeNo) (channel : δ) (answer : Except IoError UInt32) (s : Passing δ) :
    Outcome IoError Nat × Passing δ → Prop where
  | hit (ref : Nat) (hlookup : s.cache.byInode.lookup ino = some ref) (hlive : 0 < s.strong ref) :
      Shares ino channel answer s (.ok ref, s)
  | miss (number : UInt32) (hdead : ∀ ref, s.cache.byInode.lookup ino = some ref → s.strong ref = 0)
      (hanswer : answer = .ok number) :
      Shares ino channel answer s (.ok s.arcs.length, { s with
        arcs := s.arcs ++ [⟨channel, number⟩]
        cache := { s.cache with byInode := s.cache.byInode.insert ino s.arcs.length }
        backing := { (BackingId.create connection channel (.ok number) s.backing).2 with
          held := ⟨channel, number⟩ :: s.backing.held } })
  | failed (e : IoError) : Shares ino channel answer s (.err e, s)

omit [DecidableEq δ] in
theorem shares_share (ino : INodeNo) (channel : δ) (answer : Except IoError UInt32)
    (s : Passing δ) : Shares ino channel answer s ((share ino channel answer).run s) := by
  rw [Method.run, share]
  cases hshared : (s.cache.byInode.lookup ino).filter fun ref => 0 < s.strong ref with
  | some ref =>
      obtain ⟨hlookup, hlive⟩ := Option.filter_eq_some_iff.mp hshared
      exact .hit ref hlookup (of_decide_eq_true hlive)
  | none =>
      have hdead : ∀ ref, s.cache.byInode.lookup ino = some ref → s.strong ref = 0 := by
        intro ref hlookup
        have hnone := Option.filter_eq_none_iff.mp hshared ref hlookup
        simp only [decide_eq_true_eq] at hnone
        omega
      cases answer with
      | ok number => exact .miss number hdead rfl
      | error e => exact .failed e

omit [DecidableEq δ] in
theorem strong_pos (s : Passing δ) {fh : UInt64} {ref : Nat}
    (hlookup : s.cache.byHandle.lookup fh = some ref) : 0 < s.strong ref :=
  Nat.add_pos_left (Nat.add_pos_left (holds_pos.mpr ⟨fh, hlookup⟩) _) _

omit [DecidableEq δ] in
/-- A new handle has one reference, and the call that it was made for another one. -/
theorem strong_opened (s : Passing δ) {fh : UInt64} (hfresh : fh ∉ s.cache.byHandle)
    (ref r : Nat) :
    holds (s.cache.byHandle.insert fh ref) r +
          (((⟨fh, ref⟩ : Opening) :: s.opening).map Opening.ref).count r + s.returning.count r =
      s.strong r + if ref = r then 2 else 0 := by
  rw [holds_insert hfresh, List.map_cons, List.count_cons, strong]
  simp only [beq_iff_eq]
  split <;> omega

/-- A handle is given out for an inode and the value that the inode has. -/
theorem handles_insert {byHandle : Table UInt64} {byInode : Table INodeNo}
    {opened : List (UInt64 × INodeNo)} {fh : UInt64} {ino : INodeNo} {ref : Nat}
    (hhandles : ∀ fh ref, byHandle.lookup fh = some ref →
      ∃ ino, (fh, ino) ∈ opened ∧ byInode.lookup ino = some ref)
    (hlookup : byInode.lookup ino = some ref) :
    ∀ fh' ref', (byHandle.insert fh ref).lookup fh' = some ref' →
      ∃ ino', (fh', ino') ∈ (fh, ino) :: opened ∧ byInode.lookup ino' = some ref' := by
  intro fh' ref' hinsert
  by_cases heq : fh' = fh
  · subst heq
    rw [AList.lookup_insert] at hinsert
    cases hinsert
    exact ⟨ino, List.mem_cons_self, hlookup⟩
  · rw [AList.lookup_insert_ne heq] at hinsert
    obtain ⟨ino', hmem, hino'⟩ := hhandles fh' ref' hinsert
    exact ⟨ino', List.mem_cons_of_mem _ hmem, hino'⟩

theorem Tracks.onOpen (h : s.Tracks) {ino : INodeNo} {channel : δ}
    {answer : Except IoError UInt32} (halive : s.backing.alive channel = true)
    (hfree : ∀ number, answer = .ok number → ⟨(), number⟩ ∉ Backing.registered s.backing.log) :
    (s.onOpen ino channel answer).Tracks := by
  rw [Passing.onOpen, getOr]
  by_cases hroom : s.cache.nextFh.toNat + 1 < 2 ^ 64
  · let next : Passing δ := { s with cache := { s.cache with nextFh := s.cache.nextFh + 1 } }
    have hnext : nextFh.run s = (.ok (s.cache.nextFh + 1), next) := if_pos hroom
    have hlt : s.cache.nextFh < s.cache.nextFh + 1 := by
      rw [UInt64.lt_iff_toNat_lt, UInt64.toNat_add]
      change _ < (_ + 1) % _
      omega
    have hgiven : ∀ handle ∈ s.opened, handle.1 ≤ s.cache.nextFh + 1 :=
      fun handle hhandle => UInt64.le_trans (h.given handle hhandle) (UInt64.le_of_lt hlt)
    have hnew : s.cache.nextFh + 1 ∉ s.opened.map Prod.fst := by
      intro hmem
      obtain ⟨handle, hhandle, heq⟩ := List.mem_map.mp hmem
      exact absurd (heq ▸ h.given handle hhandle) (UInt64.not_le.mpr hlt)
    have hfresh : s.cache.nextFh + 1 ∉ s.cache.byHandle := by
      intro hmem
      obtain ⟨ref, hlookup⟩ := Option.isSome_iff_exists.mp (AList.lookup_isSome.mpr hmem)
      obtain ⟨ino', hopened, -⟩ := h.handles _ ref hlookup
      exact hnew (List.mem_map_of_mem hopened)
    have hshares := shares_share ino channel answer next
    generalize hshare : (share ino channel answer).run next = result at hshares
    cases hshares with
    | hit ref hlookup hlive =>
        rw [Method.run_bind_of_ok _ hnext, Method.run_bind_of_ok _ hshare]
        refine ⟨h.sharing.congr fun r => ?_, handles_insert h.handles hlookup,
          List.forall_mem_cons.mpr ⟨UInt64.le_refl _, hgiven⟩, List.nodup_cons.mpr ⟨hnew, h.once⟩,
          h.replies⟩
        refine (iff_of_eq (congrArg (0 < ·) (s.strong_opened hfresh ref r))).trans ?_
        by_cases heq : ref = r
        · subst heq
          rw [if_pos rfl]
          exact iff_of_true (by omega) hlive
        · simp only [if_neg heq, Nat.add_zero]
    | miss number hdead hanswer =>
        rw [Method.run_bind_of_ok _ hnext, Method.run_bind_of_ok _ hshare]
        have hhandles : ∀ fh ref, s.cache.byHandle.lookup fh = some ref →
            ∃ ino', (fh, ino') ∈ s.opened ∧
              (s.cache.byInode.insert ino s.arcs.length).lookup ino' = some ref := by
          intro fh ref hlookup
          obtain ⟨ino', hopened, hino'⟩ := h.handles fh ref hlookup
          refine ⟨ino', hopened, (AList.lookup_insert_ne ?_).trans hino'⟩
          rintro rfl
          exact absurd (hdead ref hino') (Nat.ne_of_gt (s.strong_pos hlookup))
        refine ⟨?_, handles_insert hhandles (AList.lookup_insert _),
          List.forall_mem_cons.mpr ⟨UInt64.le_refl _, hgiven⟩, List.nodup_cons.mpr ⟨hnew, h.once⟩,
          h.replies⟩
        refine h.sharing.create hdead halive (hfree number hanswer) fun r => ?_
        refine (iff_of_eq (congrArg (0 < ·) (s.strong_opened hfresh s.arcs.length r))).trans ?_
        by_cases heq : s.arcs.length = r
        · subst heq
          rw [if_pos rfl]
          exact iff_of_true (by omega) (.inr rfl)
        · simp only [if_neg heq, Nat.add_zero]
          exact (or_iff_left fun hr => heq hr.symm).symm
    | failed e =>
        rw [Method.run_bind_of_ok _ hnext, Method.run_bind_of_err _ hshare]
        exact ⟨h.sharing, h.handles, hgiven, h.once, h.replies⟩
  · have hpanic : nextFh.run s =
        (.panic (.explicit "attempt to add with overflow"), s) := if_neg hroom
    rw [Method.run_bind_of_panic _ hpanic]
    exact h

theorem Tracks.step {s' : Passing δ} (h : s.Tracks) (hstep : Step s s') : s'.Tracks := by
  cases hstep with
  | onOpen ino channel answer halive hfree => exact h.onOpen halive hfree
  | onReply index => exact h.onReply index
  | onReturn index => exact h.onReturn index
  | put fh => exact h.put fh
  | onDrop index answer => exact h.onDrop index answer
  | hangUp channel =>
      refine ⟨?_, h.handles, h.given, h.once, h.replies⟩
      have hsharing := h.sharing
      exact ⟨hsharing.runs.tail (.hangUp channel), hsharing.raw, hsharing.live, hsharing.held,
        hsharing.pending, hsharing.once, hsharing.unshared, hsharing.made, hsharing.ofInode⟩

theorem tracks_of_runs (h : Runs start s) : s.Tracks := by
  induction h with
  | refl => exact tracks_start
  | tail _ hstep ih => exact ih.step hstep

/-- What a handle is for: its inode, the value that the inode has, and the file that is
open for it. -/
theorem Tracks.handle (h : s.Tracks) {fh : UInt64} {ref : Nat}
    (hlookup : s.cache.byHandle.lookup fh = some ref) :
    ∃ ino id, (fh, ino) ∈ s.opened ∧ s.cache.byInode.lookup ino = some ref ∧
      s.arcs[ref]? = some id ∧ id ∈ s.backing.held := by
  obtain ⟨ino, hopened, hino⟩ := h.handles fh ref hlookup
  obtain ⟨-, id, harc, hid, -⟩ := h.sharing.live ref (s.strong_pos hlookup)
  exact ⟨ino, id, hopened, hino, harc, hid⟩

/-- Two handles name the same file exactly if they were opened on the same inode. -/
theorem Tracks.backingId_eq_iff (h : s.Tracks) {fh fh' : UInt64} {ref ref' : Nat}
    {ino ino' : INodeNo} {id id' : BackingId δ} (hlookup : s.cache.byHandle.lookup fh = some ref)
    (hlookup' : s.cache.byHandle.lookup fh' = some ref') (hopened : (fh, ino) ∈ s.opened)
    (hopened' : (fh', ino') ∈ s.opened) (harc : s.arcs[ref]? = some id)
    (harc' : s.arcs[ref']? = some id') : id.backingId = id'.backingId ↔ ino = ino' := by
  have hunique {fh : UInt64} {ino₁ ino₂ : INodeNo} (h₁ : (fh, ino₁) ∈ s.opened)
      (h₂ : (fh, ino₂) ∈ s.opened) : ino₁ = ino₂ :=
    (Prod.mk.inj (List.inj_on_of_nodup_map h.once h₁ h₂ rfl)).2
  obtain ⟨ino₁, id₁, hopened₁, hino, harc₁, hid⟩ := h.handle hlookup
  obtain ⟨ino₂, id₂, hopened₂, hino', harc₂, hid'⟩ := h.handle hlookup'
  obtain rfl := hunique hopened₁ hopened
  obtain rfl := hunique hopened₂ hopened'
  cases harc₁.symm.trans harc
  cases harc₂.symm.trans harc'
  constructor
  · intro hnumber
    have hentry : id.entry connection = id'.entry connection :=
      congrArg (BackingEntry.mk ()) hnumber
    obtain rfl := List.inj_on_of_nodup_map h.sharing.nodup_entries hid hid' hentry
    obtain rfl := h.sharing.unshared ref ref' id (s.strong_pos hlookup) (s.strong_pos hlookup')
      harc harc'
    exact h.sharing.ofInode ino₁ ino₂ ref hino hino'
  · rintro rfl
    cases hino.symm.trans hino'
    cases harc.symm.trans harc'
    rfl

/-- In every state that is reached, however calls of `open` and `release` come in between
each other, and whatever the kernel answers: every handle has the value of the inode that
it was opened on, and the file of that is open; handles name the same file exactly if they
are of one inode; every answer named a file that was open; no close is asked for of a file
that is not; and once no handle and no call is left, nothing is open any more, except for
what had no device left to be closed through or what the kernel refused to close. -/
theorem cache_shares (s : Passing δ) (h : Runs start s) :
    (∀ fh ref, s.cache.byHandle.lookup fh = some ref → ∃ ino id,
      (fh, ino) ∈ s.opened ∧ s.cache.byInode.lookup ino = some ref ∧ s.arcs[ref]? = some id ∧
      id.entry connection ∈ Backing.registered s.backing.log) ∧
    (s.opened.map Prod.fst).Nodup ∧
    (∀ fh fh' ref ref' ino ino' id id', s.cache.byHandle.lookup fh = some ref →
      s.cache.byHandle.lookup fh' = some ref' → (fh, ino) ∈ s.opened → (fh', ino') ∈ s.opened →
      s.arcs[ref]? = some id → s.arcs[ref']? = some id' →
      (id.backingId = id'.backingId ↔ ino = ino')) ∧
    (∀ reply ∈ s.replies, reply.2 = true) ∧
    (∀ before entry ok, before ++ [.closed entry ok] <+: s.backing.log →
      entry ∈ Backing.registered before) ∧
    (s.cache.byHandle = ∅ → s.opening = [] → s.returning = [] → s.dropping = [] →
      (s.backing.lost.map (BackingId.entry connection)).Perm
        (Backing.registered s.backing.log) ∧
      ∀ backing ∈ s.backing.lost, s.backing.alive backing.channel = false ∨
        .closed (backing.entry connection) false ∈ s.backing.log) := by
  have htracks := tracks_of_runs h
  have hsharing := htracks.sharing
  have howned := Backing.owned_of_runs hsharing.runs
  refine ⟨?_, htracks.once, ?_, htracks.replies, howned.founded, ?_⟩
  · intro fh ref hlookup
    obtain ⟨ino, id, hopened, hino, harc, hid⟩ := htracks.handle hlookup
    exact ⟨ino, id, hopened, hino, harc, hsharing.registered hid⟩
  · intro fh fh' ref ref' ino ino' id id' hlookup hlookup' hopened hopened'
    exact htracks.backingId_eq_iff hlookup hlookup' hopened hopened'
  · intro hhandles hopening hreturning hdropping
    have hheld : s.backing.held = [] := by
      refine List.eq_nil_iff_forall_not_mem.mpr fun id hid => ?_
      obtain hdrop | ⟨ref, hpos, -⟩ := hsharing.held id hid
      · rw [hdropping] at hdrop
        cases hdrop
      · rw [strong, hhandles, hopening, hreturning] at hpos
        exact Nat.lt_irrefl 0 hpos
    have hperm := howned.owned
    rw [hheld, hsharing.raw] at hperm
    exact ⟨hperm, howned.lost⟩

/-- Two handles on one inode, of which the first is released before the second call has
answered. -/
def twoHandles : Passing Unit :=
  (((((start.onOpen ⟨2⟩ () (.ok 1)).onReply 0).onReturn 0).onOpen ⟨2⟩ () (.ok 7)).put 1).onReply 0

/-- The second handle is released as well, and the kernel refuses to close the file. -/
def refusedClose : Passing Unit :=
  ((twoHandles.onReturn 0).put 2).onDrop 0 (.error (.os 1))

theorem cache_shares_twoHandles :
    twoHandles.backing.log = [.opened ⟨(), 1⟩] ∧ (∀ reply ∈ twoHandles.replies, reply.2 = true) ∧
      refusedClose.backing.log = [.opened ⟨(), 1⟩, .closed ⟨(), 1⟩ false] ∧
      (refusedClose.backing.lost.map (BackingId.entry connection)).Perm
        (Backing.registered refusedClose.backing.log) := by
  have hopen : Step start (start.onOpen ⟨2⟩ () (.ok 1)) :=
    .onOpen ⟨2⟩ () (.ok 1) rfl fun _ _ => List.not_mem_nil
  have hopen' : Step (((start.onOpen ⟨2⟩ () (.ok 1)).onReply 0).onReturn 0)
      ((((start.onOpen ⟨2⟩ () (.ok 1)).onReply 0).onReturn 0).onOpen ⟨2⟩ () (.ok 7)) := by
    refine .onOpen ⟨2⟩ () (.ok 7) rfl fun number hnumber => ?_
    cases hnumber
    decide
  have hruns : Runs start twoHandles :=
    (((((Relation.ReflTransGen.single hopen).tail (.onReply 0)).tail (.onReturn 0)).tail
      hopen').tail (.put 1)).tail (.onReply 0)
  have hruns' : Runs start refusedClose :=
    ((hruns.tail (.onReturn 0)).tail (.put 2)).tail (.onDrop 0 (.error (.os 1)))
  obtain ⟨-, -, -, hreplies, -⟩ := cache_shares twoHandles hruns
  obtain ⟨-, -, -, -, -, hlost⟩ := cache_shares refusedClose hruns'
  exact ⟨rfl, hreplies, rfl, (hlost rfl rfl rfl rfl).1⟩

end Passing

end Fuser
