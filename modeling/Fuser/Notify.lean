import Fuser.Filesystem
import Fuser.Ioslice
import Fuser.KernelConfig

/-!
Notifications, which the session sends to the kernel of its own accord.

A notification has the header of a reply, with no request to answer and with a
positive code where a reply has its error. Its length is taken twice: the header
holds that of the message, and a struct behind it that of the name or of the data
that follow, without the NUL at the end of a name.
-/

namespace Fuser

open Rust Wire

/-- A length that does not fit its field. -/
structure TryFromIntError where
  deriving DecidableEq

/-- A length for a field of 32 bits. -/
def u32TryFrom (n : Nat) : Outcome TryFromIntError UInt32 :=
  if n < 2 ^ 32 then .ok (UInt32.ofNat n) else .err {}

theorem u32TryFrom_of_lt {n : Nat} (h : n < 2 ^ 32) : u32TryFrom n = .ok (UInt32.ofNat n) :=
  if_pos h

theorem u32TryFrom_of_not_lt {n : Nat} (h : ¬ n < 2 ^ 32) : u32TryFrom n = .err {} :=
  if_neg h

inductive FuseNotifyCode where
  | fusePoll
  | fuseNotifyInvalInode
  | fuseNotifyInvalEntry
  | fuseNotifyStore
  | fuseNotifyRetrieve
  | fuseNotifyDelete
  | fuseNotifyResend
  | fuseNotifyIncEpoch
  deriving DecidableEq

def FuseNotifyCode.toI32 : FuseNotifyCode → Int32
  | .fusePoll => 1
  | .fuseNotifyInvalInode => 2
  | .fuseNotifyInvalEntry => 3
  | .fuseNotifyStore => 4
  | .fuseNotifyRetrieve => 5
  | .fuseNotifyDelete => 6
  | .fuseNotifyResend => 7
  | .fuseNotifyIncEpoch => 8

theorem FuseNotifyCode.toI32_pos (code : FuseNotifyCode) : 0 < code.toI32 := by
  cases code <;> decide

/-- `FUSE_NOTIFY_INC_EPOCH_VERSION`. -/
def fuseNotifyIncEpochVersion : Version := ⟨7, 44⟩

/-- `FUSE_EXPIRE_ONLY`. -/
def fuseExpireOnly : UInt32 := 1

structure FuseNotifyPollWakeupOut where
  kh : UInt64
  deriving DecidableEq

def FuseNotifyPollWakeupOut.codec : Codec FuseNotifyPollWakeupOut :=
  u64.map (fun ⟨kh⟩ => kh) (fun kh => ⟨kh⟩) (fun _ => rfl) (fun _ => rfl)

instance : ReprC FuseNotifyPollWakeupOut := ⟨FuseNotifyPollWakeupOut.codec, by decide⟩

structure FuseNotifyInvalInodeOut where
  ino : UInt64
  off : Int64
  len : Int64
  deriving DecidableEq

def FuseNotifyInvalInodeOut.codec : Codec FuseNotifyInvalInodeOut :=
  (u64.prod <| i64.prod i64).map
    (fun ⟨ino, off, len⟩ => (ino, off, len))
    (fun (ino, off, len) => ⟨ino, off, len⟩)
    (fun _ => rfl) (fun _ => rfl)

instance : ReprC FuseNotifyInvalInodeOut := ⟨FuseNotifyInvalInodeOut.codec, by decide⟩

structure FuseNotifyInvalEntryOut where
  parent : UInt64
  namelen : UInt32
  flags : UInt32
  deriving DecidableEq

def FuseNotifyInvalEntryOut.codec : Codec FuseNotifyInvalEntryOut :=
  (u64.prod <| u32.prod u32).map
    (fun ⟨parent, namelen, flags⟩ => (parent, namelen, flags))
    (fun (parent, namelen, flags) => ⟨parent, namelen, flags⟩)
    (fun _ => rfl) (fun _ => rfl)

instance : ReprC FuseNotifyInvalEntryOut := ⟨FuseNotifyInvalEntryOut.codec, by decide⟩

structure FuseNotifyDeleteOut where
  parent : UInt64
  child : UInt64
  namelen : UInt32
  padding : UInt32
  deriving DecidableEq

def FuseNotifyDeleteOut.codec : Codec FuseNotifyDeleteOut :=
  (u64.prod <| u64.prod <| u32.prod u32).map
    (fun ⟨parent, child, namelen, padding⟩ => (parent, child, namelen, padding))
    (fun (parent, child, namelen, padding) => ⟨parent, child, namelen, padding⟩)
    (fun _ => rfl) (fun _ => rfl)

instance : ReprC FuseNotifyDeleteOut := ⟨FuseNotifyDeleteOut.codec, by decide⟩

structure FuseNotifyStoreOut where
  nodeid : UInt64
  offset : UInt64
  size : UInt32
  padding : UInt32
  deriving DecidableEq

def FuseNotifyStoreOut.codec : Codec FuseNotifyStoreOut :=
  (u64.prod <| u64.prod <| u32.prod u32).map
    (fun ⟨nodeid, offset, size, padding⟩ => (nodeid, offset, size, padding))
    (fun (nodeid, offset, size, padding) => ⟨nodeid, offset, size, padding⟩)
    (fun _ => rfl) (fun _ => rfl)

instance : ReprC FuseNotifyStoreOut := ⟨FuseNotifyStoreOut.codec, by decide⟩

/-- `NotificationBuf`, whose room in place is that of four words. -/
abbrev NotificationBuf := SmallVec UInt8 32

inductive Notification where
  /-- For notifications with no additional data. -/
  | bare (buf : NotificationBuf)
  /-- For notifications that include a buffer of arbitrary data. -/
  | withData (buf : NotificationBuf) (data : List UInt8)
  /-- For notifications that include a NUL-terminated name. -/
  | withName (buf : NotificationBuf) (name : List UInt8)

namespace Notification

/-- The length behind the header. No slice is as long as half the address space, so the
sum has its place in a `usize`. -/
def datalen : Notification → Nat
  | .bare b => b.asSlice.length
  | .withData b d => b.asSlice.length + d.length
  | .withName b n => b.asSlice.length + n.length + 1

def slices : Notification → List IoSlice
  | .bare b => [b.asSlice]
  | .withData b d => [b.asSlice, d]
  | .withName b n => [b.asSlice, n, [0]]

def withIovec {τ : Type} (self : Notification) (code : FuseNotifyCode) (f : List IoSlice → τ) :
    Outcome TryFromIntError τ := do
  let len ← u32TryFrom (ReprC.size FuseOutHeader + self.datalen)
  let header : FuseOutHeader := { len, error := code.toI32, unique := 0 }
  let v : SmallVec IoSlice 4 := .fromIter (toBytes header :: self.slices)
  return f v.asSlice

def fromStruct {α : Type} [ReprC α] (data : α) : Notification := .bare (.fromSlice (toBytes data))

def fromStructWithName {α : Type} [ReprC α] (buf : α) (name : List UInt8) : Notification :=
  .withName (.fromSlice (toBytes buf)) name

def fromStructWithData {α : Type} [ReprC α] (buf : α) (data : List UInt8) : Notification :=
  .withData (.fromSlice (toBytes buf)) data

def newInvalEntry (parent : INodeNo) (name : OsStr) (flags : UInt32) :
    Outcome TryFromIntError Notification := do
  let namelen ← u32TryFrom name.length
  return fromStructWithName (⟨parent.raw, namelen, flags⟩ : FuseNotifyInvalEntryOut) name

def newInvalInode (ino : INodeNo) (offset len : Int64) : Notification :=
  fromStruct (⟨ino.raw, offset, len⟩ : FuseNotifyInvalInodeOut)

def newStore (ino : INodeNo) (offset : UInt64) (data : List UInt8) :
    Outcome TryFromIntError Notification := do
  let size ← u32TryFrom data.length
  return fromStructWithData (⟨ino.raw, offset, size, 0⟩ : FuseNotifyStoreOut) data

def newDelete (parent child : INodeNo) (name : OsStr) : Outcome TryFromIntError Notification := do
  let namelen ← u32TryFrom name.length
  return fromStructWithName (⟨parent.raw, child.raw, namelen, 0⟩ : FuseNotifyDeleteOut) name

/-- The kernel takes nothing but the code. -/
def newIncEpoch : Notification := .bare (.fromSlice [])

def newPoll (kh : PollHandle) : Notification := fromStruct (⟨kh.raw⟩ : FuseNotifyPollWakeupOut)

end Notification

/-- Whether `e.kind()` is `NotFound`. No error that the program makes up has that kind. -/
def IoError.isNotFound : IoError → Bool
  | .os code => code == Errno.enoent.code
  | .new _ _ => false

namespace Notifier

/-- The lower of what the kernel offered and what the session answered. -/
def negotiatedAbi (self : Notifier) : Option Version :=
  self.kernelAbi.map fun kernel =>
    ⟨min kernel.major fuseKernelVersion, min kernel.minor fuseKernelMinorVersion⟩

def tooBigErr (_tfie : TryFromIntError) : IoError :=
  .new .other "Data too large: TryFromIntError(())"

/-! A method of the notifier writes to the device, which holds the messages written to
it so far. `kernel` is the answer of the kernel to a message. -/

section

variable (kernel : List UInt8 → Except Errno Unit)

def send (code : FuseNotifyCode) (notification : Notification) :
    Method (List (List UInt8)) IoError Unit := fun written =>
  match notification.withIovec code id with
  | .ok iov =>
      (match kernel iov.flatten with
        | .ok () => .ok ()
        | .error errno => .err (.os errno.code), written ++ [iov.flatten])
  | .err tfie => (.err (tooBigErr tfie), written)
  | .panic reason => (.panic reason, written)

/-- An entry that the kernel has dropped by itself needs no invalidation. -/
def sendInval (code : FuseNotifyCode) (notification : Notification) :
    Method (List (List UInt8)) IoError Unit := fun written =>
  match (send kernel code notification).run written with
  | (.err e, written') => (if e.isNotFound then .ok () else .err e, written')
  | x => x

def poll (kh : PollHandle) : Method (List (List UInt8)) IoError Unit :=
  send kernel .fusePoll (.newPoll kh)

/-- `inval_entry` and `expire_entry` differ in the flags. -/
def invalEntryWith (flags : UInt32) (parent : INodeNo) (name : OsStr) :
    Method (List (List UInt8)) IoError Unit := do
  let notif ← .ofOutcome ((Notification.newInvalEntry parent name flags).mapErr tooBigErr)
  sendInval kernel .fuseNotifyInvalEntry notif

def invalEntry (parent : INodeNo) (name : OsStr) : Method (List (List UInt8)) IoError Unit :=
  invalEntryWith kernel 0 parent name

def expireEntry (self : Notifier) (parent : INodeNo) (name : OsStr) :
    Method (List (List UInt8)) IoError Unit :=
  if ¬ self.kernelCapabilities.contains .fuseHasExpireOnly then
    .fail (.os Errno.enotsup.code)
  else invalEntryWith kernel fuseExpireOnly parent name

def incEpoch (self : Notifier) : Method (List (List UInt8)) IoError Unit :=
  if self.negotiatedAbi.all (·.lt fuseNotifyIncEpochVersion) then .fail (.os Errno.enotsup.code)
  else send kernel .fuseNotifyIncEpoch .newIncEpoch

def invalInode (ino : INodeNo) (offset len : Int64) : Method (List (List UInt8)) IoError Unit :=
  sendInval kernel .fuseNotifyInvalInode (.newInvalInode ino offset len)

def store (ino : INodeNo) (offset : UInt64) (data : List UInt8) :
    Method (List (List UInt8)) IoError Unit := do
  let notif ← .ofOutcome ((Notification.newStore ino offset data).mapErr tooBigErr)
  sendInval kernel .fuseNotifyStore notif

def delete (parent child : INodeNo) (name : OsStr) : Method (List (List UInt8)) IoError Unit := do
  let notif ← .ofOutcome ((Notification.newDelete parent child name).mapErr tooBigErr)
  sendInval kernel .fuseNotifyDelete notif

end

end Notifier

/-- What a caller of the notifier tells the kernel. -/
inductive Notice where
  | poll (kh : PollHandle)
  | invalInode (ino : INodeNo) (offset len : Int64)
  | invalEntry (parent : INodeNo) (name : OsStr) (flags : UInt32)
  | store (ino : INodeNo) (offset : UInt64) (data : List UInt8)
  | delete (parent child : INodeNo) (name : OsStr)
  | incEpoch
  deriving DecidableEq

namespace Notice

def code : Notice → FuseNotifyCode
  | .poll _ => .fusePoll
  | .invalInode _ _ _ => .fuseNotifyInvalInode
  | .invalEntry _ _ _ => .fuseNotifyInvalEntry
  | .store _ _ _ => .fuseNotifyStore
  | .delete _ _ _ => .fuseNotifyDelete
  | .incEpoch => .fuseNotifyIncEpoch

/-- The name or the data of a notification. -/
def payload : Notice → List UInt8
  | .poll _ | .invalInode _ _ _ | .incEpoch => []
  | .invalEntry _ name _ | .delete _ _ name => name
  | .store _ _ data => data

/-- The length behind the header: a struct, and a name with its NUL or the data. -/
def bodyLen : Notice → Nat
  | .poll _ => 8
  | .invalInode _ _ _ => 24
  | .invalEntry _ name _ => 16 + name.length + 1
  | .store _ _ data => 24 + data.length
  | .delete _ _ name => 24 + name.length + 1
  | .incEpoch => 0

/-- The method of the notifier that sends it. -/
def submit (kernel : List UInt8 → Except Errno Unit) (notifier : Notifier) :
    Notice → Method (List (List UInt8)) IoError Unit
  | .poll kh => Notifier.poll kernel kh
  | .invalInode ino offset len => Notifier.invalInode kernel ino offset len
  | .invalEntry parent name flags => Notifier.invalEntryWith kernel flags parent name
  | .store ino offset data => Notifier.store kernel ino offset data
  | .delete parent child name => Notifier.delete kernel parent child name
  | .incEpoch => Notifier.incEpoch kernel notifier

end Notice

/-- A name and the NUL behind it, with nothing after. -/
def kernelName (tail : List UInt8) (namelen : UInt32) : Option OsStr :=
  if tail.length = namelen.toNat + 1 ∧ tail.getLast? = some 0 then
    some (tail.take namelen.toNat)
  else none

/-- What the kernel makes of a notification without its header. -/
def kernelNotifyBody (code : FuseNotifyCode) (body : List UInt8) : Option Notice :=
  match code with
  | .fusePoll =>
      let out := ofBytes FuseNotifyPollWakeupOut body
      if body.length = 8 then some (.poll ⟨out.kh⟩) else none
  | .fuseNotifyInvalInode =>
      let out := ofBytes FuseNotifyInvalInodeOut body
      if body.length = 24 then some (.invalInode ⟨out.ino⟩ out.off out.len) else none
  | .fuseNotifyInvalEntry =>
      let out := ofBytes FuseNotifyInvalEntryOut body
      (kernelName (body.drop 16) out.namelen).map fun name =>
        .invalEntry ⟨out.parent⟩ name out.flags
  | .fuseNotifyStore =>
      let out := ofBytes FuseNotifyStoreOut body
      let data := body.drop 24
      if data.length = out.size.toNat then some (.store ⟨out.nodeid⟩ out.offset data) else none
  | .fuseNotifyDelete =>
      let out := ofBytes FuseNotifyDeleteOut body
      (kernelName (body.drop 24) out.namelen).map fun name =>
        .delete ⟨out.parent⟩ ⟨out.child⟩ name
  | .fuseNotifyIncEpoch => if body.length = 0 then some .incEpoch else none
  | .fuseNotifyRetrieve | .fuseNotifyResend => none

def FuseNotifyCode.all : List FuseNotifyCode :=
  [.fusePoll, .fuseNotifyInvalInode, .fuseNotifyInvalEntry, .fuseNotifyStore,
    .fuseNotifyRetrieve, .fuseNotifyDelete, .fuseNotifyResend, .fuseNotifyIncEpoch]

/-- What the kernel makes of a message that answers no request. -/
def kernelNotify (message : List UInt8) : Option Notice :=
  let header := ofBytes FuseOutHeader message
  if 16 ≤ message.length ∧ header.len.toNat = message.length ∧ header.unique = 0 then do
    let code ← FuseNotifyCode.all.find? (·.toI32 = header.error)
    kernelNotifyBody code (message.drop 16)
  else none

namespace Notification

def header (self : Notification) (code : FuseNotifyCode) : FuseOutHeader where
  len := UInt32.ofNat (16 + self.datalen)
  error := code.toI32
  unique := 0

/-- The bytes of the message, if its length fits. -/
def message (self : Notification) (code : FuseNotifyCode) : List UInt8 :=
  toBytes (self.header code) ++ self.slices.flatten

theorem length_slices (self : Notification) : self.slices.flatten.length = self.datalen := by
  cases self with
  | bare b => simp [slices, datalen]
  | withData b d => simp [slices, datalen]
  | withName b n => simp [slices, datalen, Nat.add_assoc]

theorem length_message (self : Notification) (code : FuseNotifyCode) :
    (self.message code).length = 16 + self.datalen := by
  rw [message, List.length_append, length_toBytes, length_slices]
  rfl

/-- The header says what it should, and the rest is the notification. -/
theorem kernelNotify_message (self : Notification) (code : FuseNotifyCode)
    (hfits : 16 + self.datalen < 2 ^ 32) :
    ofBytes FuseOutHeader (self.message code) = self.header code ∧
    (self.header code).len.toNat = (self.message code).length ∧
    kernelNotify (self.message code) = kernelNotifyBody code self.slices.flatten := by
  have hheader : ofBytes FuseOutHeader (self.message code) = self.header code :=
    ofBytes_toBytes_append _ _
  have hlen : (self.header code).len.toNat = (self.message code).length := by
    rw [length_message]
    exact Nat.mod_eq_of_lt hfits
  have hcode : FuseNotifyCode.all.find? (·.toI32 = code.toI32) = some code := by
    cases code <;> rfl
  have hbody : (self.message code).drop 16 = self.slices.flatten :=
    List.drop_left' (length_toBytes _)
  refine ⟨hheader, hlen, ?_⟩
  have hlong : 16 ≤ (self.message code).length := by
    rw [length_message]
    exact Nat.le_add_right _ _
  rw [kernelNotify, hheader]
  simp only [hlen, hlong, hbody]
  change (if True ∧ True ∧ (self.header code).unique = 0 then _ else _) = _
  rw [if_pos ⟨trivial, trivial, rfl⟩]
  change (FuseNotifyCode.all.find? (·.toI32 = code.toI32) >>= _) = _
  rw [hcode]
  rfl

theorem withIovec_eq (self : Notification) (code : FuseNotifyCode) :
    self.withIovec code id =
      if 16 + self.datalen < 2 ^ 32 then
        .ok (toBytes (self.header code) :: self.slices)
      else .err {} := by
  have hsize : ReprC.size FuseOutHeader = 16 := rfl
  rw [withIovec, hsize]
  by_cases hfits : 16 + self.datalen < 2 ^ 32
  · rw [u32TryFrom_of_lt hfits, if_pos hfits, Outcome.ok_bind]
    simp only [SmallVec.asSlice_fromIter, id]
    rfl
  · rw [u32TryFrom_of_not_lt hfits, if_neg hfits, Outcome.err_bind]

end Notification

/-- The message says what the notice does and nothing else. -/
structure Conveys (message : List UInt8) (notice : Notice) : Prop where
  unique : (ofBytes FuseOutHeader message).unique = 0
  error : (ofBytes FuseOutHeader message).error = notice.code.toI32 ∧ 0 < notice.code.toI32
  len : (ofBytes FuseOutHeader message).len.toNat = message.length
  decoded : kernelNotify message = some notice

/-- A notice that is too long for a length field is refused and nothing is written. Any
other becomes one message, and the result is the answer of the kernel. -/
def Notifies (kernel : List UInt8 → Except Errno Unit) (m : Method (List (List UInt8)) IoError Unit)
    (notice : Notice) : Prop :=
  ∀ written,
    if 2 ^ 32 ≤ 16 + notice.bodyLen ∨ 2 ^ 32 ≤ notice.payload.length then
      m.run written = (.err (Notifier.tooBigErr {}), written)
    else ∃ message, (m.run written).2 = written ++ [message] ∧
      (kernel message = .ok () → (m.run written).1 = .ok ()) ∧ Conveys message notice

namespace Notice

theorem payload_le (notice : Notice) : notice.payload.length ≤ notice.bodyLen := by
  cases notice with
  | poll | invalInode | incEpoch => exact Nat.zero_le _
  | invalEntry parent name flags | delete parent child name =>
      simp only [payload, bodyLen]
      omega
  | store ino offset data =>
      simp only [payload, bodyLen]
      omega

/-- The notification has the length of the notice, and the kernel reads it as one. -/
structure Built (notice : Notice) (notification : Notification) : Prop where
  datalen : notification.datalen = notice.bodyLen
  body : kernelNotifyBody notice.code notification.slices.flatten = some notice

variable {notice : Notice} {notification : Notification}

theorem Built.conveys (h : notice.Built notification) (hfits : 16 + notice.bodyLen < 2 ^ 32) :
    Conveys (notification.message notice.code) notice := by
  rw [← h.datalen] at hfits
  obtain ⟨hheader, hlen, hdecoded⟩ := notification.kernelNotify_message notice.code hfits
  refine ⟨?_, ⟨?_, ?_⟩, ?_, hdecoded.trans h.body⟩
  · rw [hheader]
    rfl
  · rw [hheader]
    rfl
  · exact FuseNotifyCode.toI32_pos notice.code
  · rw [hheader, hlen]

variable (kernel : List UInt8 → Except Errno Unit)

theorem Built.notifies (h : notice.Built notification) :
    Notifies kernel (Notifier.send kernel notice.code notification) notice := by
  intro written
  have hpayload := notice.payload_le
  have hiovec := notification.withIovec_eq notice.code
  rw [h.datalen] at hiovec
  by_cases hfits : 16 + notice.bodyLen < 2 ^ 32
  · rw [if_pos hfits] at hiovec
    rw [if_neg (by omega)]
    refine ⟨notification.message notice.code, ?_, fun hkernel => ?_, h.conveys hfits⟩
    · simp only [Method.run, Notifier.send, hiovec]
      rfl
    · have hflatten : (toBytes (notification.header notice.code) :: notification.slices).flatten =
          notification.message notice.code := rfl
      simp only [Method.run, Notifier.send, hiovec, hflatten, hkernel]
  · rw [if_neg hfits] at hiovec
    rw [if_pos (by omega)]
    simp only [Method.run, Notifier.send, hiovec]

/-- An invalidation writes the same, and returns an error but for one of the kernel. -/
theorem run_sendInval (notification : Notification) (code : FuseNotifyCode)
    (written : List (List UInt8)) :
    ∃ outcome, (Notifier.sendInval kernel code notification).run written =
        (outcome, ((Notifier.send kernel code notification).run written).2) ∧
      (∀ e, ((Notifier.send kernel code notification).run written).1 = .err e →
        e.isNotFound = false → outcome = .err e) ∧
      (((Notifier.send kernel code notification).run written).1 = .ok () → outcome = .ok ()) := by
  rw [Method.run, Notifier.sendInval]
  rcases (Notifier.send kernel code notification).run written with ⟨outcome, written'⟩
  cases outcome with
  | ok u =>
      refine ⟨_, rfl, fun e he => ?_, fun _ => rfl⟩
      cases he
  | panic reason =>
      refine ⟨_, rfl, fun e he => ?_, fun hok => ?_⟩
      · cases he
      · cases hok
  | err e =>
      refine ⟨_, rfl, fun e' he hfound => ?_, fun hok => ?_⟩
      · cases he
        rw [hfound]
        rfl
      · cases hok

theorem Built.notifies_sendInval (h : notice.Built notification) :
    Notifies kernel (Notifier.sendInval kernel notice.code notification) notice := by
  intro written
  have hnotifies := h.notifies kernel written
  obtain ⟨outcome, hrun, herr, hok⟩ := run_sendInval kernel notification notice.code written
  rw [hrun]
  by_cases hlong : 2 ^ 32 ≤ 16 + notice.bodyLen ∨ 2 ^ 32 ≤ notice.payload.length
  · rw [if_pos hlong] at hnotifies ⊢
    rw [herr _ (congrArg Prod.fst hnotifies) rfl, hnotifies]
  · rw [if_neg hlong] at hnotifies ⊢
    obtain ⟨message, hwritten, hanswer, hconveys⟩ := hnotifies
    exact ⟨message, hwritten, fun hkernel => hok (hanswer hkernel), hconveys⟩

theorem datalen_fromStruct {α : Type} [ReprC α] (data : α) :
    (Notification.fromStruct data).datalen = ReprC.size α := by
  simp only [Notification.fromStruct, Notification.datalen, SmallVec.asSlice_fromSlice,
    length_toBytes]

theorem datalen_fromStructWithName {α : Type} [ReprC α] (buf : α) (name : List UInt8) :
    (Notification.fromStructWithName buf name).datalen = ReprC.size α + name.length + 1 := by
  simp only [Notification.fromStructWithName, Notification.datalen, SmallVec.asSlice_fromSlice,
    length_toBytes]

theorem datalen_fromStructWithData {α : Type} [ReprC α] (buf : α) (data : List UInt8) :
    (Notification.fromStructWithData buf data).datalen = ReprC.size α + data.length := by
  simp only [Notification.fromStructWithData, Notification.datalen, SmallVec.asSlice_fromSlice,
    length_toBytes]

theorem slices_fromStruct {α : Type} [ReprC α] (data : α) :
    (Notification.fromStruct data).slices.flatten = toBytes data := by
  simp [Notification.fromStruct, Notification.slices]

theorem slices_fromStructWithName {α : Type} [ReprC α] (buf : α) (name : List UInt8) :
    (Notification.fromStructWithName buf name).slices.flatten = toBytes buf ++ (name ++ [0]) := by
  simp [Notification.fromStructWithName, Notification.slices]

theorem slices_fromStructWithData {α : Type} [ReprC α] (buf : α) (data : List UInt8) :
    (Notification.fromStructWithData buf data).slices.flatten = toBytes buf ++ data := by
  simp [Notification.fromStructWithData, Notification.slices]

theorem kernelName_append {name : OsStr} (h : name.length < 2 ^ 32) :
    kernelName (name ++ [0]) (UInt32.ofNat name.length) = some name := by
  have hlen : (UInt32.ofNat name.length).toNat = name.length := Nat.mod_eq_of_lt h
  rw [kernelName, hlen]
  simp

theorem built_poll (kh : PollHandle) : (poll kh).Built (.newPoll kh) := by
  refine ⟨datalen_fromStruct _, ?_⟩
  rw [Notification.newPoll, slices_fromStruct]
  simp only [code, kernelNotifyBody, ofBytes_toBytes, length_toBytes]
  rfl

theorem built_invalInode (ino : INodeNo) (offset len : Int64) :
    (invalInode ino offset len).Built (.newInvalInode ino offset len) := by
  refine ⟨datalen_fromStruct _, ?_⟩
  rw [Notification.newInvalInode, slices_fromStruct]
  simp only [code, kernelNotifyBody, ofBytes_toBytes, length_toBytes]
  rfl

theorem built_incEpoch : incEpoch.Built .newIncEpoch := ⟨rfl, rfl⟩

theorem built_invalEntry (parent : INodeNo) {name : OsStr} (flags : UInt32)
    (h : name.length < 2 ^ 32) :
    ∃ notification, Notification.newInvalEntry parent name flags = .ok notification ∧
      (invalEntry parent name flags).Built notification := by
  refine ⟨_, by rw [Notification.newInvalEntry, u32TryFrom_of_lt h]; rfl, ?_, ?_⟩
  · exact datalen_fromStructWithName _ name
  · rw [slices_fromStructWithName]
    simp only [code, kernelNotifyBody, ofBytes_toBytes_append]
    rw [drop_toBytes (n := 16) _ _ rfl, kernelName_append h]
    rfl

theorem built_delete (parent child : INodeNo) {name : OsStr} (h : name.length < 2 ^ 32) :
    ∃ notification, Notification.newDelete parent child name = .ok notification ∧
      (delete parent child name).Built notification := by
  refine ⟨_, by rw [Notification.newDelete, u32TryFrom_of_lt h]; rfl, ?_, ?_⟩
  · exact datalen_fromStructWithName _ name
  · rw [slices_fromStructWithName]
    simp only [code, kernelNotifyBody, ofBytes_toBytes_append]
    rw [drop_toBytes (n := 24) _ _ rfl, kernelName_append h]
    rfl

theorem built_store (ino : INodeNo) (offset : UInt64) {data : List UInt8}
    (h : data.length < 2 ^ 32) :
    ∃ notification, Notification.newStore ino offset data = .ok notification ∧
      (store ino offset data).Built notification := by
  have hlen : (UInt32.ofNat data.length).toNat = data.length := Nat.mod_eq_of_lt h
  refine ⟨_, by rw [Notification.newStore, u32TryFrom_of_lt h]; rfl, ?_, ?_⟩
  · exact datalen_fromStructWithData _ data
  · rw [slices_fromStructWithData]
    simp only [code, kernelNotifyBody, ofBytes_toBytes_append]
    rw [drop_toBytes (n := 24) _ _ rfl, hlen, if_pos rfl]

/-- A notification whose construction may fail. -/
theorem notifies_of_new (notice : Notice) (new : Outcome TryFromIntError Notification)
    (hlong : ¬ notice.payload.length < 2 ^ 32 → new = .err {})
    (hshort : notice.payload.length < 2 ^ 32 → ∃ notification, new = .ok notification ∧
      notice.Built notification) :
    Notifies kernel (do
      let notif ← .ofOutcome (new.mapErr Notifier.tooBigErr)
      Notifier.sendInval kernel notice.code notif) notice := by
  by_cases hlen : notice.payload.length < 2 ^ 32
  · obtain ⟨notification, hnew, hbuilt⟩ := hshort hlen
    rw [hnew]
    exact hbuilt.notifies_sendInval kernel
  · rw [hlong hlen]
    intro written
    rw [if_pos (.inr (Nat.not_lt.mp hlen))]
    rfl

end Notice

/-- The kernel advertised an ABI that has the notification. -/
def Notifier.Supports (self : Notifier) : Notice → Prop
  | .incEpoch => ∃ abi, self.kernelAbi = some abi ∧ abi.major = 7 ∧ 44 ≤ abi.minor
  | .poll _ | .invalInode _ _ _ | .invalEntry _ _ _ | .store _ _ _ | .delete _ _ _ => True

namespace Notifier

variable {self : Notifier}

/-- A kernel of the same major version takes part with its minor version, up to the
session's own. -/
theorem negotiatedAbi_of_major {minor : UInt32} (habi : self.kernelAbi = some ⟨7, minor⟩) :
    self.negotiatedAbi = some ⟨7, if minor ≤ 44 then minor else 44⟩ := by
  rw [negotiatedAbi, habi]
  rfl

theorem incEpoch_of_negotiatedAbi {abi : Version} (habi : self.negotiatedAbi = some abi)
    (kernel : List UInt8 → Except Errno Unit) :
    self.incEpoch kernel =
      if abi.lt ⟨7, 44⟩ then .fail (.os Errno.enotsup.code)
      else send kernel .fuseNotifyIncEpoch .newIncEpoch := by
  have hall : (some abi).all (fun v => v.lt fuseNotifyIncEpochVersion) = true ↔
      abi.lt ⟨7, 44⟩ := decide_eq_true_iff
  rw [incEpoch, habi]
  by_cases hlt : abi.lt ⟨7, 44⟩
  · rw [if_pos hlt, if_pos (hall.mpr hlt)]
  · rw [if_neg hlt, if_neg (mt hall.mp hlt)]

theorem incEpoch_eq (h : self.Supports .incEpoch) (kernel : List UInt8 → Except Errno Unit) :
    self.incEpoch kernel = send kernel .fuseNotifyIncEpoch .newIncEpoch := by
  obtain ⟨⟨major, minor⟩, habi, hmajor, hminor⟩ := h
  obtain rfl : major = 7 := hmajor
  have hnew : self.negotiatedAbi = some ⟨7, 44⟩ := by
    rw [negotiatedAbi_of_major habi]
    split
    next hle => rw [UInt32.le_antisymm hle hminor]
    next => rfl
  rw [incEpoch_of_negotiatedAbi hnew, if_neg (by decide)]

end Notifier

namespace Notice

theorem submit_notifies (kernel : List UInt8 → Except Errno Unit) (notifier : Notifier)
    (notice : Notice) (h : notifier.Supports notice) :
    Notifies kernel (notice.submit kernel notifier) notice := by
  cases notice with
  | poll kh => exact (built_poll kh).notifies kernel
  | invalInode ino offset len => exact (built_invalInode ino offset len).notifies_sendInval kernel
  | incEpoch =>
      rw [submit, Notifier.incEpoch_eq h]
      exact built_incEpoch.notifies kernel
  | invalEntry parent name flags =>
      refine notifies_of_new kernel (.invalEntry parent name flags)
        (Notification.newInvalEntry parent name flags)
        (fun hlong => ?_) (built_invalEntry parent flags)
      rw [payload] at hlong
      rw [Notification.newInvalEntry, u32TryFrom_of_not_lt hlong]
      rfl
  | store ino offset data =>
      refine notifies_of_new kernel (.store ino offset data) (Notification.newStore ino offset data)
        (fun hlong => ?_) (built_store ino offset)
      rw [payload] at hlong
      rw [Notification.newStore, u32TryFrom_of_not_lt hlong]
      rfl
  | delete parent child name =>
      refine notifies_of_new kernel (.delete parent child name)
        (Notification.newDelete parent child name)
        (fun hlong => ?_) (built_delete parent child)
      rw [payload] at hlong
      rw [Notification.newDelete, u32TryFrom_of_not_lt hlong]
      rfl

end Notice

/-- Every notification of the notifier, those that the kernel may not have on a session
whose kernel has them, is either refused for its length or arrives as it was asked for. -/
theorem notifier_sends (kernel : List UInt8 → Except Errno Unit) (notifier : Notifier) :
    (∀ notice, notifier.Supports notice → Notifies kernel (notice.submit kernel notifier) notice) ∧
    (∀ parent name,
      Notifies kernel (Notifier.invalEntry kernel parent name) (.invalEntry parent name 0)) ∧
    (notifier.kernelCapabilities.contains .fuseHasExpireOnly = true → ∀ parent name,
      Notifies kernel (notifier.expireEntry kernel parent name)
        (.invalEntry parent name fuseExpireOnly)) := by
  refine ⟨Notice.submit_notifies kernel notifier, fun parent name => ?_, fun hcap parent name => ?_⟩
  · exact Notice.submit_notifies kernel notifier (.invalEntry parent name 0) trivial
  · rw [Notifier.expireEntry, if_neg (not_not.mpr hcap)]
    exact Notice.submit_notifies kernel notifier (.invalEntry parent name fuseExpireOnly) trivial

/-- A name of three bytes, on a kernel that takes every message. -/
theorem notifier_sends_entry :
    ∃ message, ((Notifier.invalEntry (fun _ => .ok ()) ⟨1⟩ [97, 98, 99]).run []).2 = [message] ∧
      message.length = 36 ∧ kernelNotify message = some (.invalEntry ⟨1⟩ [97, 98, 99] 0) := by
  have hnotifies := (notifier_sends (fun _ => .ok ()) ⟨0, none⟩).2.1 ⟨1⟩ [97, 98, 99] []
  rw [if_neg (by decide)] at hnotifies
  obtain ⟨message, hwritten, -, hconveys⟩ := hnotifies
  have hlength : (((Notifier.invalEntry (fun _ => .ok ()) ⟨1⟩ [97, 98, 99]).run []).2.map
      List.length) = [36] := by
    decide +kernel
  rw [hwritten] at hlength
  exact ⟨message, hwritten, by simpa using hlength, hconveys.decoded⟩

end Fuser
