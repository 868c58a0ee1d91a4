import Fuser.Replies

/-!
Backing files. A program registers a file with the kernel for passthrough, and gets a
number for it, by which it is closed again. The number is owned by a `BackingId`, which
asks for the close when it is dropped, unless the device through which it was opened is
gone by then; or it is owned as a bare number, and ownership can change between the two.

With `clone_fd` every event loop has a device of its own, all of one connection, and
numbers are given out by connections. A `BackingId` keeps to the device of the loop that
its request came from.

What the kernel answers is not known here, and neither is what it does when a connection
ends. It is only taken to give out no number that, by its own answers, is still in use.
-/

namespace Fuser

open Rust Wire

/-- `channel` is the device that a weak reference is held to. -/
structure BackingId (δ : Type) where
  channel : δ
  backingId : UInt32
  deriving DecidableEq

/-- A number, which stands for a file on one connection only. -/
structure BackingEntry (κ : Type) where
  connection : κ
  number : UInt32
  deriving DecidableEq

/-- What the kernel was asked for: files that it opened, and closes with its answer. -/
inductive BackingIoctl (κ : Type) where
  | opened (entry : BackingEntry κ)
  | closed (entry : BackingEntry κ) (ok : Bool)
  deriving DecidableEq

/-- The devices that are still referenced, the owners of numbers, the values that were
dropped without a close that the kernel took, and what was asked of it. -/
structure Backing (δ κ : Type) where
  alive : δ → Bool
  held : List (BackingId δ)
  raw : List (BackingEntry κ)
  lost : List (BackingId δ)
  log : List (BackingIoctl κ)

namespace Backing

variable {δ κ : Type}

def start : Backing δ κ := ⟨fun _ => true, [], [], [], []⟩

def ask (ioctl : BackingIoctl κ) (self : Backing δ κ) : Backing δ κ :=
  { self with log := self.log ++ [ioctl] }

end Backing

namespace BackingId

variable {δ κ : Type} (connection : δ → κ)

def entry (self : BackingId δ) : BackingEntry κ := ⟨connection self.channel, self.backingId⟩

/-- `create_raw`, and a `BackingId` around it. The kernel's refusal changes nothing. -/
def create (channel : δ) (answer : Except IoError UInt32) (s : Backing δ κ) :
    Except IoError (BackingId δ) × Backing δ κ :=
  match answer with
  | .ok id => (.ok ⟨channel, id⟩, s.ask (.opened ⟨connection channel, id⟩))
  | .error e => (.error e, s)

def wrapRaw (channel : δ) (id : UInt32) : BackingId δ := ⟨channel, id⟩

/-- The weak reference is given up, and the value forgotten: nothing is dropped. -/
def intoRaw (self : BackingId δ) : UInt32 := self.backingId

/-- A failure to close is logged and otherwise ignored. -/
def drop (answer : Except IoError Unit) (self : BackingId δ) (s : Backing δ κ) : Backing δ κ :=
  if s.alive self.channel then
    match answer with
    | .ok () => s.ask (.closed (self.entry connection) true)
    | .error _ => { s.ask (.closed (self.entry connection) false) with lost := self :: s.lost }
  else { s with lost := self :: s.lost }

end BackingId

namespace Backing

variable {δ κ : Type} [DecidableEq κ]

/-- The files that the kernel has opened and not closed, by its own answers. -/
def registered (log : List (BackingIoctl κ)) : List (BackingEntry κ) :=
  log.foldl (fun table ioctl =>
    match ioctl with
    | .opened entry => entry :: table
    | .closed entry true => table.erase entry
    | .closed _ false => table) []

omit [DecidableEq κ] in
/-- The files that were opened so far. -/
def opened (log : List (BackingIoctl κ)) : List (BackingEntry κ) :=
  log.filterMap fun
    | .opened entry => some entry
    | .closed _ _ => none

omit [DecidableEq κ] in
/-- The files that were closed so far. -/
def closed (log : List (BackingIoctl κ)) : List (BackingEntry κ) :=
  log.filterMap fun
    | .closed entry true => some entry
    | _ => none

variable [DecidableEq δ] (connection : δ → κ)

/-- What a program may do with backing files. A number is wrapped or closed only by its
owner, as the documentation of `wrap_backing` and `into_raw` asks for. The owner of a bare
number keeps it if the kernel refuses to close it. -/
inductive Step (s : Backing δ κ) : Backing δ κ → Prop where
  | openBacking (channel : δ) (id : UInt32) (halive : s.alive channel = true)
      (hfree : ⟨connection channel, id⟩ ∉ registered s.log) :
      Step s { (BackingId.create connection channel (.ok id) s).2 with
        held := ⟨channel, id⟩ :: s.held }
  | createRaw (entry : BackingEntry κ) (hfree : entry ∉ registered s.log) :
      Step s { s.ask (.opened entry) with raw := entry :: s.raw }
  | wrapBacking (channel : δ) (id : UInt32) {before after : List (BackingEntry κ)}
      (halive : s.alive channel = true)
      (hraw : s.raw = before ++ ⟨connection channel, id⟩ :: after) :
      Step s { s with raw := before ++ after, held := BackingId.wrapRaw channel id :: s.held }
  | intoRaw (backing : BackingId δ) {before after : List (BackingId δ)}
      (hheld : s.held = before ++ backing :: after) :
      Step s { s with
        held := before ++ after
        raw := ⟨connection backing.channel, backing.intoRaw⟩ :: s.raw }
  | drop (backing : BackingId δ) (answer : Except IoError Unit)
      {before after : List (BackingId δ)} (hheld : s.held = before ++ backing :: after) :
      Step s { backing.drop connection answer s with held := before ++ after }
  | closeRaw (entry : BackingEntry κ) {before after : List (BackingEntry κ)}
      (hraw : s.raw = before ++ entry :: after) :
      Step s { s.ask (.closed entry true) with raw := before ++ after }
  | closeRawFailed (entry : BackingEntry κ) (hraw : entry ∈ s.raw) :
      Step s (s.ask (.closed entry false))
  | hangUp (channel : δ) :
      Step s { s with alive := Function.update s.alive channel false }

def Runs : Backing δ κ → Backing δ κ → Prop := Relation.ReflTransGen (Step connection)

section Log

omit [DecidableEq δ]

variable {log : List (BackingIoctl κ)} {entry : BackingEntry κ}

@[simp] theorem registered_opened (log : List (BackingIoctl κ)) (entry : BackingEntry κ) :
    registered (log ++ [.opened entry]) = entry :: registered log := List.foldl_append

@[simp] theorem registered_closed (log : List (BackingIoctl κ)) (entry : BackingEntry κ) :
    registered (log ++ [.closed entry true]) = (registered log).erase entry := List.foldl_append

@[simp] theorem registered_refused (log : List (BackingIoctl κ)) (entry : BackingEntry κ) :
    registered (log ++ [.closed entry false]) = registered log := List.foldl_append

omit [DecidableEq κ]

@[simp] theorem opened_append_opened (log : List (BackingIoctl κ)) (entry : BackingEntry κ) :
    opened (log ++ [.opened entry]) = opened log ++ [entry] := List.filterMap_append

@[simp] theorem opened_append_closed (log : List (BackingIoctl κ)) (entry : BackingEntry κ)
    (ok : Bool) : opened (log ++ [.closed entry ok]) = opened log :=
  List.filterMap_append.trans (List.append_nil _)

@[simp] theorem closed_append_opened (log : List (BackingIoctl κ)) (entry : BackingEntry κ) :
    closed (log ++ [.opened entry]) = closed log :=
  List.filterMap_append.trans (List.append_nil _)

@[simp] theorem closed_append_closed (log : List (BackingIoctl κ)) (entry : BackingEntry κ) :
    closed (log ++ [.closed entry true]) = closed log ++ [entry] := List.filterMap_append

@[simp] theorem closed_append_refused (log : List (BackingIoctl κ)) (entry : BackingEntry κ) :
    closed (log ++ [.closed entry false]) = closed log :=
  List.filterMap_append.trans (List.append_nil _)

end Log

/-- Whenever a close was asked for, the file was open. -/
def Founded (log : List (BackingIoctl κ)) : Prop :=
  ∀ before entry ok, before ++ [.closed entry ok] <+: log → entry ∈ registered before

omit [DecidableEq δ] in
theorem founded_nil : Founded ([] : List (BackingIoctl κ)) := by
  intro before entry ok hprefix
  exact absurd (List.prefix_nil.mp hprefix) (List.append_ne_nil_of_right_ne_nil _ (by simp))

omit [DecidableEq δ] in
theorem Founded.append {log : List (BackingIoctl κ)} {ioctl : BackingIoctl κ} (h : Founded log)
    (hlast : ∀ entry ok, ioctl = .closed entry ok → entry ∈ registered log) :
    Founded (log ++ [ioctl]) := by
  intro before entry ok hprefix
  cases List.prefix_concat_iff.mp hprefix with
  | inl heq =>
      obtain ⟨rfl, hioctl⟩ := List.append_inj' heq rfl
      exact hlast entry ok (List.singleton_inj.mp hioctl).symm
  | inr hold => exact h before entry ok hold

/-- The numbers that somebody can still close. -/
def owners (held : List (BackingId δ)) (raw : List (BackingEntry κ)) : List (BackingEntry κ) :=
  held.map (BackingId.entry connection) ++ raw

/-- Every file that is open belongs to one owner, or to a value that was lost, and what was
closed was open. -/
structure Owned (s : Backing δ κ) : Prop where
  nodup : (registered s.log).Nodup
  owned : (owners connection s.held s.raw ++ s.lost.map (BackingId.entry connection)).Perm
    (registered s.log)
  balanced : (opened s.log).Perm (closed s.log ++ registered s.log)
  founded : Founded s.log
  lost : ∀ backing ∈ s.lost, s.alive backing.channel = false ∨
    .closed (backing.entry connection) false ∈ s.log

section Owned

omit [DecidableEq δ]

variable {connection} {s : Backing δ κ}

theorem owned_start : (start : Backing δ κ).Owned connection := by
  refine ⟨List.nodup_nil, .refl _, .refl _, founded_nil, ?_⟩
  intro backing hmem
  cases hmem

/-- Ownership passes from one form to the other. -/
theorem Owned.transfer (h : s.Owned connection) {held : List (BackingId δ)}
    {raw : List (BackingEntry κ)}
    (howners : (owners connection held raw).Perm (owners connection s.held s.raw)) :
    ({ s with held, raw } : Backing δ κ).Owned connection :=
  ⟨h.nodup, (howners.append_right _).trans h.owned, h.balanced, h.founded, h.lost⟩

theorem Owned.lost_ask (h : s.Owned connection) (ioctl : BackingIoctl κ) :
    ∀ backing ∈ s.lost, s.alive backing.channel = false ∨
      .closed (backing.entry connection) false ∈ s.log ++ [ioctl] :=
  fun backing hmem => (h.lost backing hmem).imp id fun hlog => List.mem_append_left _ hlog

/-- A file is opened, and gets an owner. -/
theorem Owned.opened (h : s.Owned connection) {entry : BackingEntry κ}
    (hfree : entry ∉ registered s.log) {held : List (BackingId δ)} {raw : List (BackingEntry κ)}
    (howners : (owners connection held raw).Perm (entry :: owners connection s.held s.raw)) :
    ({ s.ask (.opened entry) with held, raw } : Backing δ κ).Owned connection := by
  refine ⟨?_, ?_, ?_, h.founded.append ?_, h.lost_ask _⟩
  · simp only [ask, registered_opened]
    exact List.nodup_cons.mpr ⟨hfree, h.nodup⟩
  · simp only [ask, registered_opened]
    exact (howners.append_right _).trans (h.owned.cons entry)
  · simp only [ask, opened_append_opened, closed_append_opened, registered_opened]
    have hopened := List.perm_append_singleton entry (Backing.opened s.log)
    exact hopened.trans ((h.balanced.cons entry).trans List.perm_middle.symm)
  · rintro other ok ⟨⟩

theorem Owned.mem_registered (h : s.Owned connection) {entry : BackingEntry κ}
    (hentry : entry ∈ owners connection s.held s.raw) : entry ∈ registered s.log :=
  h.owned.subset (List.mem_append_left _ hentry)

/-- An owner closes its file. -/
theorem Owned.closed (h : s.Owned connection) {entry : BackingEntry κ}
    {held : List (BackingId δ)} {raw : List (BackingEntry κ)}
    (howners : (owners connection s.held s.raw).Perm (entry :: owners connection held raw)) :
    ({ s.ask (.closed entry true) with held, raw } : Backing δ κ).Owned connection := by
  have hmem : entry ∈ registered s.log :=
    h.mem_registered (howners.symm.subset List.mem_cons_self)
  have htable := ((howners.append_right _).symm.trans h.owned).erase entry
  rw [List.cons_append, List.erase_cons_head] at htable
  refine ⟨?_, ?_, ?_, h.founded.append ?_, h.lost_ask _⟩
  · simp only [ask, registered_closed]
    exact h.nodup.erase entry
  · simp only [ask, registered_closed]
    exact htable
  · simp only [ask, opened_append_closed, closed_append_closed, registered_closed]
    have hbalanced :=
      h.balanced.trans ((List.perm_cons_erase hmem).append_left (Backing.closed s.log))
    rwa [List.append_assoc]
  · rintro other ok ⟨⟩
    exact hmem

/-- The kernel refuses to close the file of an owner. -/
theorem Owned.refused (h : s.Owned connection) {entry : BackingEntry κ}
    (hentry : entry ∈ owners connection s.held s.raw) :
    (s.ask (.closed entry false)).Owned connection := by
  refine ⟨?_, ?_, ?_, h.founded.append ?_, h.lost_ask _⟩
  · simp only [ask, registered_refused]
    exact h.nodup
  · simp only [ask, registered_refused]
    exact h.owned
  · simp only [ask, opened_append_closed, closed_append_refused, registered_refused]
    exact h.balanced
  · rintro other ok ⟨⟩
    exact h.mem_registered hentry

/-- An owner goes without having closed its file. -/
theorem Owned.lose (h : s.Owned connection) {backing : BackingId δ} {held : List (BackingId δ)}
    (howners : (owners connection s.held s.raw).Perm
      (backing.entry connection :: owners connection held s.raw))
    (hlost : s.alive backing.channel = false ∨
      .closed (backing.entry connection) false ∈ s.log) :
    ({ s with held, lost := backing :: s.lost } : Backing δ κ).Owned connection := by
  refine ⟨h.nodup, ?_, h.balanced, h.founded, List.forall_mem_cons.mpr ⟨hlost, h.lost⟩⟩
  exact List.perm_middle.trans ((howners.append_right _).symm.trans h.owned)

omit [DecidableEq κ] in
theorem owners_held (backing : BackingId δ) (before after : List (BackingId δ))
    (raw : List (BackingEntry κ)) :
    (owners connection (before ++ backing :: after) raw).Perm
      (backing.entry connection :: owners connection (before ++ after) raw) := by
  simp only [owners, List.map_append, List.map_cons, List.append_assoc, List.cons_append]
  exact List.perm_middle

omit [DecidableEq κ] in
theorem owners_raw (held : List (BackingId δ)) (entry : BackingEntry κ)
    (before after : List (BackingEntry κ)) :
    (owners connection held (before ++ entry :: after)).Perm
      (entry :: owners connection held (before ++ after)) := by
  simp only [owners, ← List.append_assoc]
  exact List.perm_middle

omit [DecidableEq κ] in
theorem owners_cons_raw (held : List (BackingId δ)) (entry : BackingEntry κ)
    (raw : List (BackingEntry κ)) :
    (owners connection held (entry :: raw)).Perm (entry :: owners connection held raw) :=
  owners_raw held entry [] raw

theorem Owned.drop (h : s.Owned connection) {backing : BackingId δ}
    (answer : Except IoError Unit) {before after : List (BackingId δ)}
    (hheld : s.held = before ++ backing :: after) :
    ({ backing.drop connection answer s with held := before ++ after } : Backing δ κ).Owned
      connection := by
  have howners : (owners connection s.held s.raw).Perm
      (backing.entry connection :: owners connection (before ++ after) s.raw) :=
    hheld ▸ owners_held backing before after s.raw
  rw [BackingId.drop.eq_def]
  split
  · cases answer with
    | ok => exact h.closed howners
    | error e =>
        have hrefused := h.refused (howners.symm.subset List.mem_cons_self)
        exact hrefused.lose howners (.inr (List.mem_append_right _ List.mem_cons_self))
  next hgone => exact h.lose howners (.inl (Bool.eq_false_of_not_eq_true hgone))

end Owned

variable {connection} {s s' : Backing δ κ}

theorem Owned.step (h : s.Owned connection) (hstep : Step connection s s') :
    s'.Owned connection := by
  cases hstep with
  | openBacking channel id halive hfree => exact h.opened hfree (.refl _)
  | createRaw entry hfree => exact h.opened hfree (owners_cons_raw s.held entry s.raw)
  | wrapBacking channel id halive hraw =>
      exact h.transfer (hraw ▸ (owners_raw s.held ⟨connection channel, id⟩ _ _).symm)
  | intoRaw backing hheld =>
      refine h.transfer (hheld ▸ ?_)
      exact (owners_cons_raw _ _ s.raw).trans (owners_held backing _ _ s.raw).symm
  | drop backing answer hheld => exact h.drop answer hheld
  | closeRaw entry hraw => exact h.closed (hraw ▸ owners_raw s.held entry _ _)
  | closeRawFailed entry hraw => exact h.refused (List.mem_append_right _ hraw)
  | hangUp channel =>
      refine ⟨h.nodup, h.owned, h.balanced, h.founded, fun backing hmem => ?_⟩
      refine (h.lost backing hmem).imp (fun hgone => ?_) id
      by_cases heq : backing.channel = channel
      · exact heq ▸ Function.update_self ..
      · exact (Function.update_of_ne heq ..).trans hgone

theorem owned_of_runs (h : Runs connection start s) : s.Owned connection := by
  induction h with
  | refl => exact owned_start
  | tail _ hstep ih => exact ih.step hstep

/-- Whatever a program does with its backing files, as long as each number has one owner,
and whatever the kernel answers: no close is asked for of a file that is not open, so that
none is closed twice; what is open is what was opened and not closed; and each open file
belongs to one owner, except for those whose owner was dropped after its device, or with
the kernel refusing the close. -/
theorem backing_closed_once (connection : δ → κ) (s : Backing δ κ) (h : Runs connection start s) :
    (∀ before entry ok, before ++ [.closed entry ok] <+: s.log → entry ∈ registered before) ∧
    (opened s.log).Perm (closed s.log ++ registered s.log) ∧
    (registered s.log).Nodup ∧
    (s.held.map (BackingId.entry connection) ++ s.raw ++
      s.lost.map (BackingId.entry connection)).Perm (registered s.log) ∧
    (∀ backing ∈ s.lost, s.alive backing.channel = false ∨
      .closed (backing.entry connection) false ∈ s.log) := by
  have howned := owned_of_runs h
  exact ⟨howned.founded, howned.balanced, howned.nodup, howned.owned, howned.lost⟩

/-- One number on each of two connections: the first file is given up as a bare number and
wrapped again before it is closed, and the second one the kernel refuses to close. -/
theorem backing_closed_once_rewrapped :
    ∃ s : Backing Bool Bool, Runs id start s ∧
      s.log = [.opened ⟨true, 1⟩, .opened ⟨false, 1⟩, .closed ⟨true, 1⟩ true,
        .closed ⟨false, 1⟩ false] ∧
      s.lost = [⟨false, 1⟩] ∧ (s.lost.map (BackingId.entry id)).Perm (registered s.log) := by
  let first : BackingId Bool := ⟨true, 1⟩
  let second : BackingId Bool := ⟨false, 1⟩
  let one : Backing Bool Bool := ⟨fun _ => true, [first], [], [], [.opened ⟨true, 1⟩]⟩
  let both : List (BackingIoctl Bool) := [.opened ⟨true, 1⟩, .opened ⟨false, 1⟩]
  let two : Backing Bool Bool := ⟨fun _ => true, [second, first], [], [], both⟩
  let bare : Backing Bool Bool := ⟨fun _ => true, [second], [⟨true, 1⟩], [], both⟩
  let wrapped : Backing Bool Bool := ⟨fun _ => true, [first, second], [], [], both⟩
  let closed : Backing Bool Bool :=
    ⟨fun _ => true, [second], [], [], both ++ [.closed ⟨true, 1⟩ true]⟩
  let refused : Backing Bool Bool := ⟨fun _ => true, [], [], [second],
    both ++ [.closed ⟨true, 1⟩ true, .closed ⟨false, 1⟩ false]⟩
  have hone : Step id start one := .openBacking true 1 rfl List.not_mem_nil
  have htwo : Step id one two := .openBacking false 1 rfl (by decide)
  have hbare : Step id two bare := @Step.intoRaw _ _ _ _ id two first [second] [] rfl
  have hwrapped : Step id bare wrapped := @Step.wrapBacking _ _ _ _ id bare true 1 [] [] rfl rfl
  have hclosed : Step id wrapped closed :=
    @Step.drop _ _ _ _ id wrapped first (.ok ()) [] [second] rfl
  have hrefused : Step id closed refused :=
    @Step.drop _ _ _ _ id closed second (.error (.os 1)) [] [] rfl
  have hruns : Runs id start refused :=
    .tail (.tail (.tail (.tail (.tail (.tail .refl hone) htwo) hbare) hwrapped) hclosed) hrefused
  obtain ⟨-, -, -, howners, -⟩ := backing_closed_once id refused hruns
  exact ⟨refused, hruns, rfl, rfl, howners⟩

end Backing

end Fuser
