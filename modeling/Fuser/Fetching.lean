import Fuser.Request

/-!
The calls that `op::parse` makes on its iterator, and the addresses it makes them at.

A body starts at a multiple of eight. Fixed-size arguments keep the iterator at
such an address, but a name does not, so nothing that needs an alignment may come
after one.
-/

namespace Fuser

open Rust Wire ArgumentIterator

/-- How a method is made of calls of the iterator. -/
inductive Fetching : {β : Type} → Method ArgumentIterator Unit β → Type 1 where
  | call (made : FetchCall) : Fetching made.method
  | pure {β : Type} (b : β) : Fetching (pure b)
  | fail {β : Type} : Fetching (.fail () : Method ArgumentIterator Unit β)
  | assertion {β : Type} : Fetching (.abort .assertion : Method ArgumentIterator Unit β)
  | ite {β : Type} {m m' : Method ArgumentIterator Unit β} (c : Prop) [Decidable c]
      (yes : Fetching m) (no : Fetching m') : Fetching (if c then m else m')
  | bind {β γ : Type} {m : Method ArgumentIterator Unit β}
      {k : β → Method ArgumentIterator Unit γ} (first : Fetching m)
      (next : ∀ b, Fetching (k b)) : Fetching (m >>= k)

namespace Fetching

variable {α β γ : Type} [ReprC α]

/-- The calls that are made, each with the state of the iterator it is made in. -/
def calls : {β : Type} → {m : Method ArgumentIterator Unit β} → Fetching m →
    ArgumentIterator → List (FetchCall × ArgumentIterator)
  | _, _, .call made, self => [(made, self)]
  | _, _, .pure _, _ => []
  | _, _, .fail, _ => []
  | _, _, .assertion, _ => []
  | _, _, @ite _ _ _ c _ yes no, self => if c then yes.calls self else no.calls self
  | _, _, .bind (m := m) first next, self =>
      first.calls self ++
        match m.run self with
        | (.ok b, rest) => (next b).calls rest
        | _ => []

def name (f : OsStr → β) : Fetching (do return f (← fetchStr)) :=
  .bind (.call .fetchStr) fun _ => .pure _

def names (f : OsStr → OsStr → β) : Fetching (do return f (← fetchStr) (← fetchStr)) :=
  .bind (.call .fetchStr) fun first => name (f first)

def arg (f : α → β) : Fetching (do return f (← fetch α)) :=
  .bind (.call (.fetch α)) fun _ => .pure _

def argName (f : α → OsStr → β) : Fetching (do return f (← fetch α) (← fetchStr)) :=
  .bind (.call (.fetch α)) fun arg => name (f arg)

def argNames (f : α → OsStr → OsStr → β) :
    Fetching (do return f (← fetch α) (← fetchStr) (← fetchStr)) :=
  .bind (.call (.fetch α)) fun arg => names (f arg)

def setxattrFlags (negotiated : InitFlags) : Fetching (fetchSetxattrFlags negotiated) :=
  .ite _ (arg FuseSetxattrInExt.setxattrFlags) (.pure 0)

/-- The arms of `op::parse`. -/
def parseArgs (header : FuseInHeader) (negotiated : InitFlags) :
    (opcode : FuseOpcode) → Fetching (Fuser.parseArgs header negotiated opcode)
  | .fuseReadlink | .fuseStatfs | .fuseDestroy => .pure _
  | .fuseLookup | .fuseUnlink | .fuseRmdir | .fuseRemovexattr => name _
  | .fuseSymlink => names fun linkName target => Operation.symLink ⟨header, target, linkName⟩
  | .fuseMknod | .fuseMkdir | .fuseLink | .fuseGetxattr | .fuseCreate | .fuseTmpfile => argName _
  | .fuseRename | .fuseRename2 => argNames _
  | .fuseWrite =>
      .bind (.call (.fetch FuseWriteIn)) fun _ =>
        .bind (.call .fetchAll) fun _ => .ite _ (.pure _) .assertion
  | .fuseSetxattr =>
      .bind (.call (.fetch FuseSetxattrIn)) fun _ =>
        .bind (setxattrFlags negotiated) fun _ =>
          .bind (.call .fetchStr) fun _ =>
            .bind (.call .fetchAll) fun _ => .ite _ .fail (.pure _)
  | .fuseInit => .bind (.call .fetchAll) fun _ => .ite _ .fail (.pure _)
  | .fuseIoctl =>
      .bind (.call (.fetch FuseIoctlIn)) fun _ => .bind (.call .fetchAll) fun _ => .pure _
  | .fuseNotifyReply => .bind (.call .fetchAll) fun _ => .pure _
  | .fuseBatchForget =>
      .bind (.call (.fetch FuseBatchForgetIn)) fun arg =>
        .bind (.call (.fetchSlice FuseForgetOne arg.count.toNat)) fun _ => .pure _
  | .fuseForget | .fuseGetattr | .fuseSetattr | .fuseOpen | .fuseRead | .fuseRelease
  | .fuseFsync | .fuseListxattr | .fuseFlush | .fuseOpendir | .fuseReaddir | .fuseReleasedir
  | .fuseFsyncdir | .fuseGetlk | .fuseSetlk | .fuseSetlkw | .fuseAccess | .fuseInterrupt
  | .fuseBmap | .fusePoll | .fuseFallocate | .fuseReaddirplus | .fuseLseek
  | .fuseCopyFileRange | .fuseSyncfs | .fuseStatx | .cuseInit => arg _

end Fetching

/-- A typed item lies at a multiple of its alignment, which is eight if it has a field of
64 bits and four if not. -/
def AlignedAt (α : Type) [ReprC α] (self : ArgumentIterator) : Prop :=
  ReprC.align α = (if 8 ∈ (ReprC.toCodec : Codec α).fields then 8 else 4) ∧
  self.data.addr % ReprC.align α = 0

/-- Strings and the rest of the data have no alignment. -/
def FetchCall.Aligned (self : ArgumentIterator) : FetchCall → Prop
  | @FetchCall.fetch α _ | @FetchCall.fetchSlice α _ _ => AlignedAt α self
  | .fetchStr | .fetchAll => True

/-- An address good for the widest scalar is good for any type. -/
theorem alignedAt_of_body {α : Type} [ReprC α] {self : ArgumentIterator}
    (haddr : self.data.addr % 8 = 0)
    (h : ReprC.align α = if 8 ∈ (ReprC.toCodec : Codec α).fields then 8 else 4) :
    AlignedAt α self := by
  refine ⟨h, ?_⟩
  rw [h]
  split
  · exact haddr
  · omega

theorem FetchCall.Aligned.safe {made : FetchCall} {self : ArgumentIterator}
    (h : made.Aligned self) : made.method.Safe self (fun _ _ => True) := by
  cases made with
  | fetch α => exact (safe_fetch h.2).imp fun _ _ _ => True.intro
  | fetchSlice α count => exact safe_fetchSlice count h.2
  | fetchStr => exact safe_fetchStr
  | fetchAll => exact safe_fetchAll

namespace Fetching

variable {α β γ : Type} [ReprC α] {self : ArgumentIterator}

def Aligned {m : Method ArgumentIterator Unit β} (h : Fetching m) (self : ArgumentIterator) :
    Prop :=
  ∀ made ∈ h.calls self, made.1.Aligned made.2

theorem aligned_call {made : FetchCall} (h : made.Aligned self) : (call made).Aligned self :=
  List.forall_mem_singleton.mpr h

theorem aligned_fetch (h : AlignedAt α self) :
    (call (.fetch α) : Fetching (ArgumentIterator.fetch α)).Aligned self :=
  aligned_call h

theorem aligned_fetchSlice (count : Nat) (h : AlignedAt α self) :
    (call (.fetchSlice α count) : Fetching (ArgumentIterator.fetchSlice α count)).Aligned self :=
  aligned_call h

theorem aligned_fetchStr :
    (call .fetchStr : Fetching ArgumentIterator.fetchStr).Aligned self :=
  aligned_call True.intro

theorem aligned_fetchAll :
    (call .fetchAll : Fetching ArgumentIterator.fetchAll).Aligned self :=
  aligned_call True.intro

theorem aligned_pure (b : β) : (pure b : Fetching _).Aligned self := nofun

theorem aligned_fail : (fail : Fetching (.fail () : Method _ _ β)).Aligned self := nofun

theorem aligned_assertion :
    (assertion : Fetching (.abort .assertion : Method _ _ β)).Aligned self := nofun

theorem Aligned.ite {m m' : Method ArgumentIterator Unit β} {c : Prop} [Decidable c]
    {yes : Fetching m} {no : Fetching m'} (hyes : c → yes.Aligned self)
    (hno : ¬ c → no.Aligned self) : (Fetching.ite c yes no).Aligned self := by
  intro made hmade
  rw [calls] at hmade
  by_cases hc : c
  · rw [if_pos hc] at hmade
    exact hyes hc made hmade
  · rw [if_neg hc] at hmade
    exact hno hc made hmade

theorem Aligned.bind {m : Method ArgumentIterator Unit β}
    {k : β → Method ArgumentIterator Unit γ} {first : Fetching m} {next : ∀ b, Fetching (k b)}
    (hfirst : first.Aligned self)
    (hnext : ∀ b rest, m.run self = (.ok b, rest) → (next b).Aligned rest) :
    (Fetching.bind first next).Aligned self := by
  intro made hmade
  rw [calls, List.mem_append] at hmade
  obtain hmade | hmade := hmade
  · exact hfirst made hmade
  · split at hmade
    next b rest hrun => exact hnext b rest hrun made hmade
    next => cases hmade

theorem aligned_name (f : OsStr → β) : (name f).Aligned self :=
  aligned_fetchStr.bind fun _ _ _ => aligned_pure _

theorem aligned_names (f : OsStr → OsStr → β) : (names f).Aligned self :=
  aligned_fetchStr.bind fun first _ _ => aligned_name (f first)

theorem aligned_arg (f : α → β) (h : AlignedAt α self) : (arg f).Aligned self :=
  (aligned_fetch h).bind fun _ _ _ => aligned_pure _

theorem aligned_argName (f : α → OsStr → β) (h : AlignedAt α self) : (argName f).Aligned self :=
  (aligned_fetch h).bind fun arg _ _ => aligned_name (f arg)

theorem aligned_argNames (f : α → OsStr → OsStr → β) (h : AlignedAt α self) :
    (argNames f).Aligned self :=
  (aligned_fetch h).bind fun arg _ _ => aligned_names (f arg)

theorem aligned_setxattrFlags (negotiated : InitFlags) (haddr : self.data.addr % 8 = 0) :
    (setxattrFlags negotiated).Aligned self :=
  .ite (fun _ => aligned_arg _ (alignedAt_of_body haddr (by decide))) fun _ => aligned_pure _

/-- After an argument of a multiple of eight bytes the iterator is where another one
may follow. -/
theorem addr_of_run_fetch {a : α} {rest : ArgumentIterator} (haddr : self.data.addr % 8 = 0)
    (hsize : ReprC.size α % 8 = 0) (h : (fetch α).run self = (.ok a, rest)) :
    rest.data.addr % 8 = 0 := by
  obtain ⟨-, -, rfl⟩ := run_fetch_eq_ok h
  change (self.data.addr + ReprC.size α) % 8 = 0
  omega

/-- Whatever the body of a request holds, no arm fetches at a wrong address. -/
theorem aligned_parseArgs (header : FuseInHeader) (negotiated : InitFlags) (opcode : FuseOpcode)
    (haddr : self.data.addr % 8 = 0) : (parseArgs header negotiated opcode).Aligned self := by
  cases opcode with
  | fuseReadlink | fuseStatfs | fuseDestroy => exact aligned_pure _
  | fuseLookup | fuseUnlink | fuseRmdir | fuseRemovexattr => exact aligned_name _
  | fuseSymlink => exact aligned_names _
  | fuseMknod | fuseMkdir | fuseLink | fuseGetxattr | fuseCreate | fuseTmpfile =>
      exact aligned_argName _ (alignedAt_of_body haddr (by decide))
  | fuseRename | fuseRename2 => exact aligned_argNames _ (alignedAt_of_body haddr (by decide))
  | fuseWrite =>
      refine (aligned_fetch (alignedAt_of_body haddr (by decide))).bind fun _ _ _ => ?_
      refine aligned_fetchAll.bind fun _ _ _ => ?_
      exact .ite (fun _ => aligned_pure _) fun _ => aligned_assertion
  | fuseSetxattr =>
      refine (aligned_fetch (alignedAt_of_body haddr (by decide))).bind fun _ rest hrun => ?_
      have hrest : rest.data.addr % 8 = 0 :=
        addr_of_run_fetch (α := FuseSetxattrIn) haddr rfl hrun
      refine (aligned_setxattrFlags negotiated hrest).bind fun _ _ _ => ?_
      refine aligned_fetchStr.bind fun _ _ _ => ?_
      refine aligned_fetchAll.bind fun _ _ _ => ?_
      exact .ite (fun _ => aligned_fail) fun _ => aligned_pure _
  | fuseInit =>
      refine aligned_fetchAll.bind fun _ _ _ => ?_
      exact .ite (fun _ => aligned_fail) fun _ => aligned_pure _
  | fuseIoctl =>
      refine (aligned_fetch (alignedAt_of_body haddr (by decide))).bind fun _ _ _ => ?_
      exact aligned_fetchAll.bind fun _ _ _ => aligned_pure _
  | fuseNotifyReply => exact aligned_fetchAll.bind fun _ _ _ => aligned_pure _
  | fuseBatchForget =>
      refine (aligned_fetch (alignedAt_of_body haddr (by decide))).bind fun _ rest hrun => ?_
      have hrest : rest.data.addr % 8 = 0 :=
        addr_of_run_fetch (α := FuseBatchForgetIn) haddr rfl hrun
      refine (aligned_fetchSlice _ (alignedAt_of_body hrest (by decide))).bind fun _ _ _ => ?_
      exact aligned_pure _
  | _ => exact aligned_arg _ (alignedAt_of_body haddr (by decide))

/-- The nodes of a BATCH_FORGET lie behind the eight bytes that count them. -/
example :
    ((parseArgs (ofBytes FuseInHeader []) 0 .fuseBatchForget).calls
      (.new ⟨48, 1 :: List.replicate 23 0⟩)).map (·.2.data.addr) = [48, 56] := by
  decide

/-- There is no assertion among the steps. -/
def AssertFree : {β : Type} → {m : Method ArgumentIterator Unit β} → Fetching m → Prop
  | _, _, .call _ => True
  | _, _, .pure _ => True
  | _, _, .fail => True
  | _, _, .assertion => False
  | _, _, @ite _ _ _ _ _ yes no => yes.AssertFree ∧ no.AssertFree
  | _, _, .bind first next => first.AssertFree ∧ ∀ b, (next b).AssertFree

/-- With all addresses right, only an assertion can panic. -/
theorem Aligned.safe {m : Method ArgumentIterator Unit β} {h : Fetching m}
    (haligned : h.Aligned self) (hfree : h.AssertFree) : m.Safe self (fun _ _ => True) := by
  induction h generalizing self with
  | call made => exact FetchCall.Aligned.safe (haligned _ (.head _))
  | pure b => exact Method.safe_pure True.intro
  | fail => exact Method.safe_fail
  | assertion => exact hfree.elim
  | ite c yes no ihyes ihno =>
      rw [Aligned, calls] at haligned
      by_cases hc : c
      · rw [if_pos hc] at haligned ⊢
        exact ihyes haligned hfree.1
      · rw [if_neg hc] at haligned ⊢
        exact ihno haligned hfree.2
  | bind first next ihfirst ihnext =>
      rw [Aligned, calls, List.forall_mem_append] at haligned
      refine (ihfirst haligned.1 hfree.1).with_run.bind fun b rest hrun => ?_
      have hnext := haligned.2
      simp only [hrun] at hnext
      exact ihnext b hnext (hfree.2 b)

theorem assertFree_parseArgs (header : FuseInHeader) (negotiated : InitFlags)
    {opcode : FuseOpcode} (h : opcode ≠ .fuseWrite) :
    (parseArgs header negotiated opcode).AssertFree := by
  cases opcode with
  | fuseWrite => exact absurd rfl h
  | _ =>
      simp [parseArgs, setxattrFlags, name, names, arg, argName, argNames, AssertFree]

end Fetching

end Fuser
