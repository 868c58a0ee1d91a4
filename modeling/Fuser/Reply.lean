import Fuser.Abi
import Fuser.Errno
import Fuser.Operation

/-!
Replies to the kernel. A `ReplyRaw` owns the right to answer one request. Using
it gives the right up, and dropping it while the right is still there answers
with `EIO`, so that a request cannot be left unanswered by forgetting it.

A message is what one write to the device carries: the reply header and the
payload.
-/

namespace Fuser

open Rust Wire

/-- What the trait `Response` asks of a response. -/
structure Response where
  errno : Option Errno
  payload : List (List UInt8)
  deriving DecidableEq

namespace Response

def empty : Response := ⟨none, []⟩

def ofErrno (e : Errno) : Response := ⟨some e, []⟩

/-- `ResponseData`, which sends no slice at all when there is no data. -/
def ofData (data : List UInt8) : Response := ⟨none, if data.isEmpty then [] else [data]⟩

def sumLen (self : Response) : Nat := (self.payload.map List.length).sum

def header (self : Response) (unique : RequestId) : FuseOutHeader where
  len := UInt32.ofNat (ReprC.size FuseOutHeader + self.sumLen)
  error := match self.errno with
    | some e => -e.code
    | none => 0
  unique := unique.raw

/-- The slices handed to the system call. -/
def withIovec {ε : Type} (self : Response) (unique : RequestId) : Outcome ε (List (List UInt8)) :=
  if ReprC.size FuseOutHeader + self.sumLen < 2 ^ 32 then
    .ok (toBytes (self.header unique) :: self.payload)
  else .panic (.expect "Too much data")

/-- The response has room in the 32-bit length of a message. -/
def Fits (self : Response) : Prop := ReprC.size FuseOutHeader + self.sumLen < 2 ^ 32

instance (self : Response) : Decidable self.Fits := inferInstanceAs (Decidable (_ < _))

end Response

/-- The right to write to the device. -/
structure ChannelSender where
  deriving DecidableEq

structure ReplyRaw where
  unique : RequestId
  sender : Option ChannelSender
  deriving DecidableEq

/-- A reply object, and the messages written to the device so far. -/
abbrev Replying := ReplyRaw × List (List UInt8)

namespace ReplyRaw

def new (unique : RequestId) : ReplyRaw := ⟨unique, some {}⟩

/-- The sender is taken before the response is laid out. -/
def sendLlMut (response : Response) : Method Replying Empty Unit := fun (self, sent) =>
  match self.sender with
  | none => (.panic .assertion, (self, sent))
  | some _ =>
      match (response.withIovec self.unique : Outcome Empty _) with
      | .ok iov => (.ok (), ({ self with sender := none }, sent ++ [iov.flatten]))
      | .err e => nomatch e
      | .panic reason => (.panic reason, ({ self with sender := none }, sent))

/-- What happens to a reply object that goes out of scope. -/
def drop : Method Replying Empty Unit := fun (self, sent) =>
  if self.sender.isSome then sendLlMut (.ofErrno .eio) (self, sent) else (.ok (), (self, sent))

def sendLl (response : Response) : Method Replying Empty Unit := do
  sendLlMut response
  drop

/-- What using up a reply object sends. -/
def sends (self : ReplyRaw) (response : Response) : Method (List (List UInt8)) Empty Unit :=
  fun sent =>
    let (outcome, (_, sent)) := (sendLl response).run (self, sent)
    (outcome, sent)

/-- What letting a reply object go sends. -/
def drops (self : ReplyRaw) : Method (List (List UInt8)) Empty Unit := fun sent =>
  let (outcome, (_, sent)) := drop.run (self, sent)
  (outcome, sent)

def dropAll : List ReplyRaw → Method (List (List UInt8)) Empty Unit
  | [] => return ()
  | reply :: rest => do
      reply.drops
      dropAll rest

end ReplyRaw

namespace Response

/-- The message that answers the request `unique`. -/
def message (self : Response) (unique : RequestId) : List UInt8 :=
  toBytes (self.header unique) ++ self.payload.flatten

theorem fits_ofErrno (e : Errno) : (ofErrno e).Fits := by
  change 16 + 0 < 2 ^ 32
  decide

theorem fits_empty : empty.Fits := by
  change 16 + 0 < 2 ^ 32
  decide

theorem sumLen_ofData (data : List UInt8) : (ofData data).sumLen = data.length := by
  cases data with
  | nil => rfl
  | cons b bs => simp [sumLen, ofData]

theorem fits_ofData {data : List UInt8} (h : 16 + data.length < 2 ^ 32) : (ofData data).Fits := by
  rw [Fits, sumLen_ofData]
  exact h

theorem payload_ofData (data : List UInt8) : (ofData data).payload.flatten = data := by
  cases data with
  | nil => rfl
  | cons b bs => simp [ofData]

theorem withIovec_of_fits {ε : Type} {self : Response} (unique : RequestId) (h : self.Fits) :
    (self.withIovec unique : Outcome ε _) = .ok (toBytes (self.header unique) :: self.payload) :=
  if_pos h

end Response

/-- The request a message answers. -/
def messageUnique (message : List UInt8) : UInt64 := (ofBytes FuseOutHeader message).unique

@[simp] theorem messageUnique_message (response : Response) (unique : RequestId) :
    messageUnique (response.message unique) = unique.raw := by
  rw [messageUnique, Response.message, ofBytes_toBytes_append]
  rfl

namespace ReplyRaw

theorem run_sendLlMut {response : Response} (h : response.Fits) (unique : RequestId)
    (sender : ChannelSender) (sent : List (List UInt8)) :
    (sendLlMut response).run (⟨unique, some sender⟩, sent) =
      (.ok (), (⟨unique, none⟩, sent ++ [response.message unique])) := by
  simp only [Method.run, sendLlMut, Response.withIovec_of_fits unique h, List.flatten_cons]
  rfl

/-- Using a reply object sends one message, and dropping it afterwards none. -/
theorem run_sendLl {response : Response} (h : response.Fits) (unique : RequestId)
    (sender : ChannelSender) (sent : List (List UInt8)) :
    (sendLl response).run (⟨unique, some sender⟩, sent) =
      (.ok (), (⟨unique, none⟩, sent ++ [response.message unique])) := by
  rw [sendLl, Method.run_bind_of_ok _ (run_sendLlMut h unique sender sent)]
  rfl

/-- Dropping an unused reply object sends `EIO`. -/
theorem run_drop (unique : RequestId) (sender : ChannelSender) (sent : List (List UInt8)) :
    drop.run (⟨unique, some sender⟩, sent) =
      (.ok (), (⟨unique, none⟩, sent ++ [(Response.ofErrno .eio).message unique])) :=
  run_sendLlMut (Response.fits_ofErrno .eio) unique sender sent

theorem run_sends {response : Response} (h : response.Fits) (unique : RequestId)
    (sent : List (List UInt8)) :
    ((new unique).sends response).run sent = (.ok (), sent ++ [response.message unique]) := by
  have hsend := run_sendLl h unique {} sent
  simp only [Method.run, sends, new] at hsend ⊢
  rw [hsend]

theorem run_drops (unique : RequestId) (sent : List (List UInt8)) :
    (new unique).drops.run sent =
      (.ok (), sent ++ [(Response.ofErrno .eio).message unique]) := by
  have hdrop := run_drop unique {} sent
  simp only [Method.run, drops, new] at hdrop ⊢
  rw [hdrop]

end ReplyRaw

end Fuser
