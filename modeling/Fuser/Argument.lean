import Fuser.Foundation.Outcome
import Fuser.Foundation.Layout

/-!
Decomposition of a byte slice into typed arguments, as `ll/argument.rs` does it.

A typed argument is a reference into the slice, so the address it would have
must be a multiple of the type's alignment. A wrong address is a panic, missing
bytes are a `None`. For a single value the address is checked first, for a
slice of values the size is.
-/

namespace Fuser

open Rust Wire

/-- A borrowed byte slice: where it lies and what it holds. -/
structure Slice where
  addr : Nat
  bytes : List UInt8
  deriving DecidableEq

namespace Slice

/-- The slice `&[]`, which points nowhere. -/
def empty : Slice := ⟨1, []⟩

def len (s : Slice) : Nat := s.bytes.length

def drop (s : Slice) (n : Nat) : Slice := ⟨s.addr + n, s.bytes.drop n⟩

/-- Indexing by `start..stop`. -/
def range {ε : Type} (s : Slice) (start stop : Nat) : Outcome ε Slice :=
  if start ≤ stop ∧ stop ≤ s.len then
    .ok ⟨s.addr + start, (s.bytes.drop start).take (stop - start)⟩
  else .panic .sliceIndex

end Slice

structure ArgumentIterator where
  data : Slice
  deriving DecidableEq

namespace ArgumentIterator

def new (data : Slice) : ArgumentIterator := ⟨data⟩

def len (self : ArgumentIterator) : Nat := self.data.len

def fetchAll : Method ArgumentIterator Unit (List UInt8) := fun self =>
  (.ok self.data.bytes, ⟨.empty⟩)

def fetch (α : Type) [ReprC α] : Method ArgumentIterator Unit α := fun self =>
  if self.data.addr % ReprC.align α ≠ 0 then (.panic (.explicit "Data unaligned"), self)
  else if self.len < ReprC.size α then (.err (), self)
  else (.ok (ofBytes α self.data.bytes), ⟨self.data.drop (ReprC.size α)⟩)

def fetchSlice (α : Type) [ReprC α] (count : Nat) : Method ArgumentIterator Unit (List α) :=
  fun self =>
    if self.len < count * ReprC.size α then (.err (), self)
    else if self.data.addr % ReprC.align α ≠ 0 then (.panic (.explicit "Data unaligned"), self)
    else (.ok (listOfBytes α count self.data.bytes), ⟨self.data.drop (count * ReprC.size α)⟩)

def fetchStr : Method ArgumentIterator Unit (List UInt8) := fun self =>
  match self.data.bytes.findIdx? (· == 0) with
  | some len => (.ok (self.data.bytes.take len), ⟨self.data.drop (len + 1)⟩)
  | none => (.err (), self)

variable {α : Type} [ReprC α]

theorem run_fetch_of_short {self : ArgumentIterator} (h : self.data.addr % ReprC.align α = 0)
    (hlen : self.len < ReprC.size α) : (fetch α).run self = (.err (), self) := by
  rw [Method.run, fetch, if_neg (not_not.mpr h), if_pos hlen]

theorem run_fetch_of_le {self : ArgumentIterator} (h : self.data.addr % ReprC.align α = 0)
    (hlen : ReprC.size α ≤ self.len) :
    (fetch α).run self =
      (.ok (ofBytes α self.data.bytes), ⟨self.data.drop (ReprC.size α)⟩) := by
  rw [Method.run, fetch, if_neg (not_not.mpr h), if_neg (Nat.not_lt.mpr hlen)]

theorem run_fetch_eq_ok {self rest : ArgumentIterator} {a : α}
    (h : (fetch α).run self = (.ok a, rest)) :
    ReprC.size α ≤ self.len ∧ a = ofBytes α self.data.bytes ∧
      rest = ⟨self.data.drop (ReprC.size α)⟩ := by
  rw [Method.run, fetch] at h
  split at h
  · cases h
  · split at h
    · cases h
    next hlen =>
        cases h
        exact ⟨Nat.not_lt.mp hlen, rfl, rfl⟩

/-- A typed argument at an aligned address is read back, and nothing more is
consumed. -/
theorem run_fetch_toBytes (addr : Nat) (a : α) (rest : List UInt8)
    (h : addr % ReprC.align α = 0) :
    (fetch α).run ⟨⟨addr, toBytes a ++ rest⟩⟩ = (.ok a, ⟨⟨addr + ReprC.size α, rest⟩⟩) := by
  have hlen : ReprC.size α ≤ (ArgumentIterator.mk ⟨addr, toBytes a ++ rest⟩).len := by
    simp [len, Slice.len]
  rw [run_fetch_of_le h hlen, Slice.drop]
  simp only [ofBytes_toBytes_append, List.drop_left' (length_toBytes a)]

theorem run_fetchSlice_listToBytes (addr : Nat) (xs : List α) (rest : List UInt8)
    (h : addr % ReprC.align α = 0) :
    (fetchSlice α xs.length).run ⟨⟨addr, listToBytes xs ++ rest⟩⟩ =
      (.ok xs, ⟨⟨addr + xs.length * ReprC.size α, rest⟩⟩) := by
  have hlen : ¬ (ArgumentIterator.mk ⟨addr, listToBytes xs ++ rest⟩).len <
      xs.length * ReprC.size α := by
    simp [len, Slice.len]
  rw [Method.run, fetchSlice, if_neg hlen, if_neg (not_not.mpr h), Slice.drop]
  simp only [listOfBytes_listToBytes_append, List.drop_left' (length_listToBytes xs)]

/-- A name without a NUL, followed by one, is read back. -/
theorem run_fetchStr_append (addr : Nat) (name rest : List UInt8) (h : 0 ∉ name) :
    fetchStr.run ⟨⟨addr, name ++ 0 :: rest⟩⟩ =
      (.ok name, ⟨⟨addr + (name.length + 1), rest⟩⟩) := by
  have hidx : (name ++ 0 :: rest).findIdx? (· == 0) = some name.length := by
    rw [List.findIdx?_append, List.findIdx?_eq_none_iff.mpr]
    · simp [List.findIdx?_cons]
    · intro b hb
      exact beq_false_of_ne (fun hzero => h (hzero ▸ hb))
  simp [Method.run, fetchStr, hidx, Slice.drop]

/-- What `fetchStr` consumes is a name without a NUL, and the NUL. -/
theorem run_fetchStr_cases (self : ArgumentIterator) :
    (0 ∉ self.data.bytes ∧ fetchStr.run self = (.err (), self)) ∨
      ∃ name rest, 0 ∉ name ∧ self.data.bytes = name ++ 0 :: rest ∧
        fetchStr.run self = (.ok name, ⟨⟨self.data.addr + (name.length + 1), rest⟩⟩) := by
  by_cases hmem : (0 : UInt8) ∈ self.data.bytes
  · obtain ⟨name, rest, hbytes, hname⟩ := List.eq_append_cons_of_mem hmem
    refine .inr ⟨name, rest, hname, hbytes, ?_⟩
    obtain ⟨⟨addr, bytes⟩⟩ := self
    cases hbytes
    exact run_fetchStr_append addr name rest hname
  · refine .inl ⟨hmem, ?_⟩
    have hidx : self.data.bytes.findIdx? (· == 0) = none := by
      rw [List.findIdx?_eq_none_iff]
      intro b hb
      exact beq_false_of_ne (fun hzero => hmem (hzero ▸ hb))
    rw [Method.run, fetchStr, hidx]

@[simp] theorem run_fetchAll (self : ArgumentIterator) :
    fetchAll.run self = (.ok self.data.bytes, ⟨.empty⟩) := rfl

theorem safe_fetch {self : ArgumentIterator} (h : self.data.addr % ReprC.align α = 0) :
    (fetch α).Safe self (fun _ rest => rest.data.addr = self.data.addr + ReprC.size α) := by
  by_cases hlen : self.len < ReprC.size α
  · simp [Method.Safe, run_fetch_of_short h hlen]
  · simp [Method.Safe, run_fetch_of_le h (Nat.not_lt.mp hlen), Slice.drop]

theorem safe_fetchSlice {self : ArgumentIterator} (count : Nat)
    (h : self.data.addr % ReprC.align α = 0) :
    (fetchSlice α count).Safe self (fun _ _ => True) := by
  rw [Method.Safe, Method.run, fetchSlice]
  by_cases hlen : self.len < count * ReprC.size α
  · simp [hlen]
  · simp [hlen, h]

theorem safe_fetchStr {self : ArgumentIterator} : fetchStr.Safe self (fun _ _ => True) := by
  rw [Method.Safe, Method.run, fetchStr]
  cases self.data.bytes.findIdx? (· == 0) <;> simp

theorem safe_fetchAll {self : ArgumentIterator} : fetchAll.Safe self (fun _ _ => True) :=
  True.intro

theorem run_fetchStr_eq_ok {self rest : ArgumentIterator} {name : List UInt8}
    (h : fetchStr.run self = (.ok name, rest)) :
    0 ∉ name ∧ self.data.bytes = name ++ 0 :: rest.data.bytes := by
  obtain ⟨-, hrun⟩ | ⟨name', _, hname, hbytes, hrun⟩ := run_fetchStr_cases self
  · rw [hrun] at h
    cases h
  · rw [hrun] at h
    cases h
    exact ⟨hname, hbytes⟩

theorem yields_fetchStr : fetchStr.Yields (0 ∉ ·) :=
  fun _ _ _ h => (run_fetchStr_eq_ok h).1

theorem yields_fetchSlice (count : Nat) : (fetchSlice α count).Yields (·.length = count) := by
  intro self xs rest h
  rw [Method.run, fetchSlice] at h
  split at h
  · cases h
  · split at h
    · cases h
    · cases h
      exact Codec.length_decodeList _ _ _

theorem run_fetch_of_unaligned {self : ArgumentIterator}
    (h : self.data.addr % ReprC.align α ≠ 0) :
    (fetch α).run self = (.panic (.explicit "Data unaligned"), self) :=
  if_pos h

theorem run_fetchSlice_of_short {self : ArgumentIterator} {count : Nat}
    (h : self.len < count * ReprC.size α) : (fetchSlice α count).run self = (.err (), self) :=
  if_pos h

theorem run_fetchSlice_of_unaligned {self : ArgumentIterator} {count : Nat}
    (hlen : count * ReprC.size α ≤ self.len) (h : self.data.addr % ReprC.align α ≠ 0) :
    (fetchSlice α count).run self = (.panic (.explicit "Data unaligned"), self) := by
  rw [Method.run, fetchSlice, if_neg (Nat.not_lt.mpr hlen), if_pos h]

theorem run_fetchSlice_of_le {self : ArgumentIterator} {count : Nat}
    (hlen : count * ReprC.size α ≤ self.len) (h : self.data.addr % ReprC.align α = 0) :
    (fetchSlice α count).run self =
      (.ok (listOfBytes α count self.data.bytes), ⟨self.data.drop (count * ReprC.size α)⟩) := by
  rw [Method.run, fetchSlice, if_neg (Nat.not_lt.mpr hlen), if_neg (not_not.mpr h)]

end ArgumentIterator

open ArgumentIterator

/-- A call of one of the methods of the iterator. -/
inductive FetchCall : Type 1 where
  | fetch (α : Type) [ReprC α]
  | fetchSlice (α : Type) [ReprC α] (count : Nat)
  | fetchStr
  | fetchAll

namespace FetchCall

def Item : FetchCall → Type
  | @fetch α _ => α
  | @fetchSlice α _ _ => List α
  | .fetchStr | .fetchAll => List UInt8

def method : (call : FetchCall) → Method ArgumentIterator Unit call.Item
  | @fetch α _ => ArgumentIterator.fetch α
  | @fetchSlice α _ count => ArgumentIterator.fetchSlice α count
  | .fetchStr => ArgumentIterator.fetchStr
  | .fetchAll => ArgumentIterator.fetchAll

/-- The bytes of an item, up to and including the NUL in the case of a string. -/
def raw : (call : FetchCall) → call.Item → List UInt8
  | @fetch α _, a => toBytes (α := α) a
  | @fetchSlice α _ _, xs => listToBytes (α := α) xs
  | .fetchStr, name =>
      let name : List UInt8 := name
      name ++ [0]
  | .fetchAll, bytes => bytes

/-- The bytes of the items that a sequence of calls fetches, and the iterator that it
leaves. A call without a result is followed by the next one, a panic by none. -/
def fetched : List FetchCall → ArgumentIterator → List (List UInt8) × ArgumentIterator
  | [], self => ([], self)
  | call :: calls, self =>
      match call.method.run self with
      | (.ok item, rest) => (call.raw item :: (fetched calls rest).1, (fetched calls rest).2)
      | (.err (), rest) => fetched calls rest
      | (.panic _, rest) => ([], rest)

/-- What one call can do: take the bytes of an item off the front, or leave
everything as it was. -/
theorem run_cases (call : FetchCall) (self : ArgumentIterator) :
    (∃ item rest, call.method.run self = (.ok item, rest) ∧
      self.data.bytes = call.raw item ++ rest.data.bytes) ∨
    call.method.run self = (.err (), self) ∨
    ∃ reason, call.method.run self = (.panic reason, self) := by
  cases call with
  | fetch α =>
      by_cases halign : self.data.addr % ReprC.align α = 0
      · by_cases hlen : self.len < ReprC.size α
        · exact .inr (.inl (run_fetch_of_short (α := α) halign hlen))
        · refine .inl ⟨_, _, run_fetch_of_le (α := α) halign (Nat.not_lt.mp hlen), ?_⟩
          have hbytes : toBytes (ofBytes α self.data.bytes) = self.data.bytes.take _ :=
            ReprC.toCodec.encode_decode _ (Nat.not_lt.mp hlen)
          exact (hbytes ▸ List.take_append_drop _ _).symm
      · exact .inr (.inr ⟨_, run_fetch_of_unaligned (α := α) halign⟩)
  | fetchSlice α count =>
      by_cases hlen : self.len < count * ReprC.size α
      · exact .inr (.inl (run_fetchSlice_of_short hlen))
      · by_cases halign : self.data.addr % ReprC.align α = 0
        · refine .inl ⟨_, _, run_fetchSlice_of_le (Nat.not_lt.mp hlen) halign, ?_⟩
          have hbytes : listToBytes (listOfBytes α count self.data.bytes) =
              self.data.bytes.take _ :=
            ReprC.toCodec.encodeList_decodeList _ _ (Nat.not_lt.mp hlen)
          exact (hbytes ▸ List.take_append_drop _ _).symm
        · exact .inr (.inr ⟨_, run_fetchSlice_of_unaligned (Nat.not_lt.mp hlen) halign⟩)
  | fetchStr =>
      obtain ⟨-, hrun⟩ | ⟨name, rest, -, hbytes, hrun⟩ := run_fetchStr_cases self
      · exact .inr (.inl hrun)
      · refine .inl ⟨name, _, hrun, hbytes.trans ?_⟩
        exact (List.append_assoc name [0] rest).symm
  | fetchAll => exact .inl ⟨_, _, rfl, (List.append_nil _).symm⟩

/-- Nothing is lost and nothing is read twice. -/
theorem fetched_append (calls : List FetchCall) (self : ArgumentIterator) :
    (fetched calls self).1.flatten ++ (fetched calls self).2.data.bytes = self.data.bytes := by
  induction calls generalizing self with
  | nil => rfl
  | cons call calls ih =>
      obtain ⟨item, rest, hrun, hbytes⟩ | hrun | ⟨reason, hrun⟩ := call.run_cases self
      · simp only [fetched, hrun, List.flatten_cons, List.append_assoc, ih, hbytes]
      · simp only [fetched, hrun, ih]
      · simp only [fetched, hrun, List.flatten_nil, List.nil_append]

end FetchCall

namespace ArgumentIterator

variable {α : Type} [ReprC α]

/-- A typed call gives its item, or none exactly when less than `need` bytes are left. -/
def FailsShort {β : Type} (m : Method ArgumentIterator Unit β) (need : Nat)
    (self : ArgumentIterator) : Prop :=
  ((m.run self).1 = .err () ↔ self.len < need) ∧
  (need ≤ self.len → ∃ item, (m.run self).1 = .ok item)

theorem failsShort_of_cases {β : Type} {m : Method ArgumentIterator Unit β} {need : Nat}
    {self : ArgumentIterator} (hshort : self.len < need → (m.run self).1 = .err ())
    (hle : need ≤ self.len → ∃ item, (m.run self).1 = .ok item) : FailsShort m need self := by
  refine ⟨⟨fun herr => ?_, hshort⟩, hle⟩
  by_contra hlen
  obtain ⟨item, hok⟩ := hle (Nat.not_lt.mp hlen)
  rw [herr] at hok
  cases hok

theorem failsShort_fetch {self : ArgumentIterator} (h : self.data.addr % ReprC.align α = 0) :
    FailsShort (fetch α) (ReprC.size α) self :=
  failsShort_of_cases (fun hlen => congrArg Prod.fst (run_fetch_of_short h hlen))
    fun hlen => ⟨_, congrArg Prod.fst (run_fetch_of_le h hlen)⟩

theorem failsShort_fetchSlice {self : ArgumentIterator} (count : Nat)
    (h : self.data.addr % ReprC.align α = 0) :
    FailsShort (fetchSlice α count) (count * ReprC.size α) self :=
  failsShort_of_cases (fun hlen => congrArg Prod.fst (run_fetchSlice_of_short hlen))
    fun hlen => ⟨_, congrArg Prod.fst (run_fetchSlice_of_le hlen h)⟩

/-- A string is missing exactly when there is no NUL, and ends at the first one. -/
theorem fetchStr_spec (self : ArgumentIterator) :
    ((fetchStr.run self).1 = .err () ↔ 0 ∉ self.data.bytes) ∧
    (0 ∈ self.data.bytes → ∃ name rest, fetchStr.run self = (.ok name, rest) ∧ 0 ∉ name ∧
      self.data.bytes = name ++ 0 :: rest.data.bytes) := by
  obtain ⟨hnul, hrun⟩ | ⟨name, rest, hname, hbytes, hrun⟩ := run_fetchStr_cases self
  · rw [hrun]
    exact ⟨⟨fun _ => hnul, fun _ => rfl⟩, fun hmem => absurd hmem hnul⟩
  · have hmem : 0 ∈ self.data.bytes := by
      rw [hbytes]
      exact List.mem_append_right name (.head rest)
    refine ⟨⟨fun herr => ?_, fun hnul => absurd hmem hnul⟩, fun _ => ?_⟩
    · rw [hrun] at herr
      cases herr
    · exact ⟨name, _, hrun, hname, hbytes⟩

/-- The iterator hands out the bytes it was given, in their order and once each, over
any sequence of calls. A typed item at a wrong address is a panic, whatever is left of the
data in the case of a single one. -/
theorem fetched_accounts (calls : List FetchCall) (self : ArgumentIterator) :
    self.data.bytes =
      (FetchCall.fetched calls self).1.flatten ++ (FetchCall.fetched calls self).2.data.bytes ∧
    (∀ (call : FetchCall) (rest : ArgumentIterator),
      call.method.run self = (.err (), rest) → rest = self) ∧
    (∀ (α : Type) [ReprC α],
      if self.data.addr % ReprC.align α = 0 then FailsShort (fetch α) (ReprC.size α) self
      else (fetch α).run self = (.panic (.explicit "Data unaligned"), self)) ∧
    (∀ (α : Type) [ReprC α] (count : Nat),
      if self.data.addr % ReprC.align α = 0 then
        FailsShort (fetchSlice α count) (count * ReprC.size α) self
      else (fetchSlice α count).run self =
        (if self.len < count * ReprC.size α then .err ()
          else .panic (.explicit "Data unaligned"), self)) ∧
    ((fetchStr.run self).1 = .err () ↔ 0 ∉ self.data.bytes) ∧
    (0 ∈ self.data.bytes → ∃ name rest, fetchStr.run self = (.ok name, rest) ∧ 0 ∉ name ∧
      self.data.bytes = name ++ 0 :: rest.data.bytes) ∧
    ∃ rest, fetchAll.run self = (.ok self.data.bytes, rest) ∧ rest.data.bytes = [] := by
  obtain ⟨hstr, hname⟩ := fetchStr_spec self
  refine ⟨(FetchCall.fetched_append calls self).symm, fun call rest hrun => ?_, fun α _ => ?_,
    fun α _ count => ?_, hstr, hname, _, rfl, rfl⟩
  · obtain ⟨item, rest', hok, -⟩ | herr | ⟨reason, hpanic⟩ := call.run_cases self
    · rw [hrun] at hok
      cases hok
    · rw [hrun] at herr
      exact congrArg Prod.snd herr
    · rw [hrun] at hpanic
      cases hpanic
  · by_cases halign : self.data.addr % ReprC.align α = 0
    · rw [if_pos halign]
      exact failsShort_fetch halign
    · rw [if_neg halign]
      exact run_fetch_of_unaligned halign
  · by_cases halign : self.data.addr % ReprC.align α = 0
    · rw [if_pos halign]
      exact failsShort_fetchSlice count halign
    · rw [if_neg halign]
      by_cases hlen : self.len < count * ReprC.size α
      · rw [if_pos hlen]
        exact run_fetchSlice_of_short hlen
      · rw [if_neg hlen]
        exact run_fetchSlice_of_unaligned (Nat.not_lt.mp hlen) halign

/-- At an odd address a word is not fetched although its bytes are there, and where
they are not, the call does not return without it either. -/
theorem not_failsShort_unaligned :
    (ArgumentIterator.mk ⟨1, [1, 2, 3, 4]⟩).len = ReprC.size UInt32 ∧
    ¬ (∃ item, ((fetch UInt32).run ⟨⟨1, [1, 2, 3, 4]⟩⟩).1 = .ok item) ∧
    (ArgumentIterator.mk ⟨1, []⟩).len < ReprC.size UInt32 ∧
    ((fetch UInt32).run ⟨⟨1, []⟩⟩).1 ≠ .err () := by
  have hodd (bytes : List UInt8) : (fetch UInt32).run ⟨⟨1, bytes⟩⟩ =
      (.panic (.explicit "Data unaligned"), ⟨⟨1, bytes⟩⟩) :=
    run_fetch_of_unaligned (show 1 % ReprC.align UInt32 ≠ 0 by decide)
  refine ⟨rfl, ?_, by decide, ?_⟩
  · rw [hodd]
    rintro ⟨item, hitem⟩
    cases hitem
  · rw [hodd]
    exact nofun

end ArgumentIterator

end Fuser
