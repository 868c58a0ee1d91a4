import Fuser.Directory
import Fuser.Foundation.Checked
import Fuser.Ioslice

/-!
The responses to a request, and how they are laid out for the device. Each kind
of response says which slices it carries; the header in front of them is made
from the sum of their lengths, and the two are handed on together.

The length is not read off the slices that are handed on. That the two agree,
for every response there is, is what the results of this module say.
-/

namespace Fuser

open Rust Wire IosliceConcat

/-- An implementation of the trait `Response`. -/
class ResponseImpl (ρ : Type) where
  Payload : Type
  [concat : IosliceConcat Payload]
  errno : ρ → Option Errno := fun _ => none
  payload : ρ → Payload

attribute [reducible, instance] ResponseImpl.concat

/-- A size as a 32-bit word, or a panic with the message. -/
def tryIntoU32 {ε : Type} (message : String) (size : Nat) : Outcome ε UInt32 :=
  if size < 2 ^ 32 then .ok (UInt32.ofNat size) else .panic (.expect message)

/-- The error of a header: the negated number of an error, or zero. -/
def headerError {ε : Type} : Option Errno → Outcome ε Int32
  | none => .ok 0
  | some e => Checked.neg32 e.code

namespace ResponseImpl

variable {ρ ε τ : Type} [ResponseImpl ρ]

def withIovec (self : ρ) (unique : RequestId) (f : List IoSlice → τ) : Outcome ε τ := do
  let payload := payload self
  let payloadLen ← sumLen payload
  let error ← headerError (errno self)
  let total ← Checked.addUsize (ReprC.size FuseOutHeader) payloadLen
  let len ← tryIntoU32 "Too much data" total
  let header : FuseOutHeader := { len, error, unique := unique.raw }
  let v : List.Vector IoSlice 1 × Payload ρ := (⟨[toBytes header], rfl⟩, payload)
  .ok (withIoslice v f)

/-- What the response asks for, without the shape its payload is kept in. -/
def response (self : ρ) : Response := ⟨errno self, iterSlices (payload self)⟩

end ResponseImpl

def inlineDataThreshold : Nat := 8 * 4

abbrev ResponseBuf := SmallVec UInt8 inlineDataThreshold

structure ResponseSlice where
  data : List UInt8

instance : ResponseImpl ResponseSlice where
  Payload := Option (List.Vector IoSlice 1)
  payload self := if self.data.isEmpty then none else some ⟨[self.data], rfl⟩

structure ResponseEmpty where

instance : ResponseImpl ResponseEmpty where
  Payload := List.Vector IoSlice 0
  payload _ := ⟨[], rfl⟩

structure ResponseErrno where
  err : Errno

instance : ResponseImpl ResponseErrno where
  Payload := List.Vector IoSlice 0
  errno self := some self.err
  payload _ := ⟨[], rfl⟩

structure ResponseStruct (S : Type) where
  value : S

instance {S : Type} [ReprC S] : ResponseImpl (ResponseStruct S) where
  Payload := List.Vector IoSlice 1
  payload self := ⟨[toBytes self.value], rfl⟩

namespace ResponseStruct

def newEntry (ino : INodeNo) (generation : Generation) (attr : FuseAttr)
    (attrTtl entryTtl : Duration) : ResponseStruct FuseEntryOut :=
  ⟨{ nodeid := ino.raw
     generation := generation.raw
     entryValid := entryTtl.secs
     attrValid := attrTtl.secs
     entryValidNsec := entryTtl.nanos
     attrValidNsec := attrTtl.nanos
     attr := attr }⟩

def newAttr (ttl : Duration) (attr : FuseAttr) : ResponseStruct FuseAttrOut :=
  ⟨{ attrValid := ttl.secs, attrValidNsec := ttl.nanos, dummy := 0, attr := attr }⟩

def newOpen (fh : FileHandle) (flags : FopenFlags) (backingId : UInt32) :
    ResponseStruct FuseOpenOut :=
  ⟨{ fh := fh.raw, openFlags := flags.bits, backingId := backingId }⟩

def newLock (lock : Lock) : ResponseStruct FuseLkOut :=
  ⟨⟨{ start := lock.range.1, stop := lock.range.2, typ := lock.typ, pid := lock.pid }⟩⟩

def newBmap (block : UInt64) : ResponseStruct FuseBmapOut := ⟨⟨block⟩⟩

def newWrite (written : UInt32) : ResponseStruct FuseWriteOut :=
  ⟨{ size := written, padding := 0 }⟩

def newStatfs (blocks bfree bavail files ffree : UInt64) (bsize namelen frsize : UInt32) :
    ResponseStruct FuseStatfsOut :=
  ⟨⟨{ blocks := blocks
      bfree := bfree
      bavail := bavail
      files := files
      ffree := ffree
      bsize := bsize
      namelen := namelen
      frsize := frsize
      padding := 0
      spare := .replicate 6 0 }⟩⟩

def newCreate (ttl : Duration) (attr : FuseAttr) (generation : Generation) (fh : FileHandle)
    (flags : FopenFlags) (backingId : UInt32) : ResponseStruct FuseCreateOut :=
  ⟨{ entry :=
       { nodeid := attr.ino
         generation := generation.raw
         entryValid := ttl.secs
         attrValid := ttl.secs
         entryValidNsec := ttl.nanos
         attrValidNsec := ttl.nanos
         attr := attr }
     opened := { fh := fh.raw, openFlags := flags.bits, backingId := backingId } }⟩

def newPoll (revents : PollEvents) : ResponseStruct FusePollOut :=
  ⟨{ revents := revents.bits, padding := 0 }⟩

def newXattrSize (size : UInt32) : ResponseStruct FuseGetxattrOut :=
  ⟨{ size := size, padding := 0 }⟩

def newLseek (offset : Int64) : ResponseStruct FuseLseekOut := ⟨⟨offset⟩⟩

def newStatx (ttl : Duration) (attr : StatxAttr) : ResponseStruct FuseStatxOut :=
  ⟨{ attrValid := ttl.secs
     attrValidNsec := ttl.nanos
     flags := 0
     spare := .replicate 2 0
     stat := fuseStatxFromAttr attr }⟩

end ResponseStruct

structure ResponseIoctl where
  out : FuseIoctlOut
  iovs : List IoSlice

instance : ResponseImpl ResponseIoctl where
  Payload := List.Vector IoSlice 1 × List IoSlice
  payload self := (⟨[toBytes self.out], rfl⟩, self.iovs)

def ResponseIoctl.newIoctl {ε : Type} (result : Int32) (iovs : List IoSlice) :
    Outcome ε ResponseIoctl := do
  let outIovs ← tryIntoU32 "Too many ioctls" iovs.length
  .ok { out := { result, flags := 0, inIovs := 1, outIovs }, iovs }

structure ResponseData where
  buf : ResponseBuf

instance : ResponseImpl ResponseData where
  Payload := Option (List.Vector IoSlice 1)
  payload self := if self.buf.asSlice.isEmpty then none else some ⟨[self.buf.asSlice], rfl⟩

namespace ResponseData

def newData (data : List UInt8) : ResponseData :=
  ⟨if data.length ≤ inlineDataThreshold then .fromSlice data else .fromVec data⟩

/-- The buffer of a directory reply is taken over as the pushes left it. -/
def newDirectory {ε : Type} (list : EntListBuf) : Outcome ε ResponseData :=
  if list.buf.length ≤ list.maxSize then .ok ⟨.fromIter list.buf⟩ else .panic .assertion

end ResponseData

/-- The responses that are sent, with the error each reports and the bytes it carries. -/
inductive Sends : {ρ : Type} → [ResponseImpl ρ] → ρ → Option Errno → List UInt8 → Prop
  | empty : Sends ResponseEmpty.mk none []
  | errno (e : Errno) : Sends (ResponseErrno.mk e) (some e) []
  | slice (data : List UInt8) : Sends (ResponseSlice.mk data) none data
  | data (data : List UInt8) : Sends (ResponseData.newData data) none data
  | directory {list : EntListBuf} {self : ResponseData}
      (h : (ResponseData.newDirectory list : Outcome Empty _) = .ok self) :
      Sends self none list.buf
  | entry (ino : INodeNo) (generation : Generation) (attr : FuseAttr)
      (attrTtl entryTtl : Duration) :
      Sends (ResponseStruct.newEntry ino generation attr attrTtl entryTtl) none
        (toBytes (ResponseStruct.newEntry ino generation attr attrTtl entryTtl).value)
  | attr (ttl : Duration) (attr : FuseAttr) :
      Sends (ResponseStruct.newAttr ttl attr) none
        (toBytes (ResponseStruct.newAttr ttl attr).value)
  | opened (fh : FileHandle) (flags : FopenFlags) (backingId : UInt32) :
      Sends (ResponseStruct.newOpen fh flags backingId) none
        (toBytes (ResponseStruct.newOpen fh flags backingId).value)
  | lock (lock : Lock) :
      Sends (ResponseStruct.newLock lock) none (toBytes (ResponseStruct.newLock lock).value)
  | bmap (block : UInt64) :
      Sends (ResponseStruct.newBmap block) none (toBytes (ResponseStruct.newBmap block).value)
  | write (written : UInt32) :
      Sends (ResponseStruct.newWrite written) none
        (toBytes (ResponseStruct.newWrite written).value)
  | statfs (blocks bfree bavail files ffree : UInt64) (bsize namelen frsize : UInt32) :
      Sends (ResponseStruct.newStatfs blocks bfree bavail files ffree bsize namelen frsize) none
        (toBytes
          (ResponseStruct.newStatfs blocks bfree bavail files ffree bsize namelen frsize).value)
  | create (ttl : Duration) (attr : FuseAttr) (generation : Generation) (fh : FileHandle)
      (flags : FopenFlags) (backingId : UInt32) :
      Sends (ResponseStruct.newCreate ttl attr generation fh flags backingId) none
        (toBytes (ResponseStruct.newCreate ttl attr generation fh flags backingId).value)
  | poll (revents : PollEvents) :
      Sends (ResponseStruct.newPoll revents) none
        (toBytes (ResponseStruct.newPoll revents).value)
  | xattrSize (size : UInt32) :
      Sends (ResponseStruct.newXattrSize size) none
        (toBytes (ResponseStruct.newXattrSize size).value)
  | lseek (offset : Int64) :
      Sends (ResponseStruct.newLseek offset) none
        (toBytes (ResponseStruct.newLseek offset).value)
  | statx (ttl : Duration) (attr : StatxAttr) :
      Sends (ResponseStruct.newStatx ttl attr) none
        (toBytes (ResponseStruct.newStatx ttl attr).value)
  | ioctl {result : Int32} {iovs : List IoSlice} {self : ResponseIoctl}
      (h : (ResponseIoctl.newIoctl result iovs : Outcome Empty _) = .ok self) :
      Sends self none (toBytes self.out ++ iovs.flatten)

/-- The slices are a header that answers `unique`, and the body. -/
structure Framed (slices : List IoSlice) (unique : RequestId) (errno : Option Errno)
    (body : List UInt8) (header : FuseOutHeader) : Prop where
  bytes : slices.flatten = toBytes header ++ body
  header_size : (toBytes header).length = 16
  len : header.len.toNat = slices.flatten.length
  unique : header.unique = unique.raw
  success : errno = none → header.error = 0
  failure : ∀ e, errno = some e → header.error < 0 ∧ header.error.toInt = -e.code.toInt ∧ body = []

namespace ResponseImpl

variable {ρ : Type} [ResponseImpl ρ]

/-- The header and the payload of the response are handed on, if the response has room. -/
theorem withIovec_of_fits {ε τ : Type} (self : ρ) (unique : RequestId) (f : List IoSlice → τ)
    (h : (response self).Fits) :
    (withIovec self unique f : Outcome ε τ) =
      .ok (f (toBytes ((response self).header unique) :: (response self).payload)) := by
  have hlength : (iterSlices (payload self)).flatten.length = (response self).sumLen := by
    rw [List.length_flatten]
    rfl
  have hsize : ReprC.size FuseOutHeader + (response self).sumLen < 2 ^ 32 := h
  have hsum : (sumLen (payload self) : Outcome ε Nat) = .ok (response self).sumLen := by
    rw [sumLen_eq, hlength]
    exact if_pos (by omega)
  have herror : (headerError (errno self) : Outcome ε Int32) =
      .ok ((response self).header unique).error := by
    simp only [Response.header, response]
    cases errno self with
    | none => rfl
    | some e => exact Checked.neg32_eq e.positive
  have htotal : (Checked.addUsize (ReprC.size FuseOutHeader) (response self).sumLen : Outcome ε Nat) =
      .ok (ReprC.size FuseOutHeader + (response self).sumLen) := Checked.addUsize_eq (by omega)
  have hlen : (tryIntoU32 "Too much data" (ReprC.size FuseOutHeader + (response self).sumLen) :
      Outcome ε UInt32) = .ok ((response self).header unique).len := if_pos hsize
  simp only [withIovec, hsum, Outcome.ok_bind, herror, htotal, hlen, withIoslice_eq]
  rfl

end ResponseImpl

theorem Response.sumLen_eq (self : Response) : self.sumLen = self.payload.flatten.length :=
  List.length_flatten.symm

/-- Only an error may stand in the header, and then nothing after it. -/
theorem framed_of_fits {self : Response} (h : self.Fits)
    (hempty : self.errno ≠ none → self.payload.flatten = []) (unique : RequestId) :
    Framed (toBytes (self.header unique) :: self.payload) unique self.errno self.payload.flatten
      (self.header unique) := by
  have hbytes : (toBytes (self.header unique) :: self.payload).flatten =
      toBytes (self.header unique) ++ self.payload.flatten := List.flatten_cons
  refine ⟨hbytes, length_toBytes _, ?_, rfl, ?_, ?_⟩
  · have hlen : (self.header unique).len.toNat =
        (ReprC.size FuseOutHeader + self.sumLen) % 2 ^ 32 := rfl
    have hlt : ReprC.size FuseOutHeader + self.sumLen < 2 ^ 32 := h
    rw [hlen, Nat.mod_eq_of_lt hlt, hbytes, List.length_append, length_toBytes, self.sumLen_eq]
  · intro herrno
    simp only [Response.header, herrno]
  · intro e herrno
    have herror : (self.header unique).error = -e.code := by simp only [Response.header, herrno]
    have hvalue : (-e.code).toInt = -e.code.toInt := Checked.toInt_neg32 e.positive
    have hpositive : 0 < e.code.toInt := Int32.lt_iff_toInt_lt.mp e.positive
    refine ⟨?_, by rw [herror, hvalue], hempty (by rw [herrno]; exact Option.some_ne_none e)⟩
    rw [herror, Int32.lt_iff_toInt_lt, hvalue]
    change _ < 0
    omega

namespace ResponseImpl

theorem payload_struct {S : Type} [ReprC S] (value : S) :
    (response (ResponseStruct.mk value)).payload.flatten = toBytes value := List.flatten_singleton

theorem response_data (self : ResponseData) : response self = .ofData self.buf.asSlice := by
  simp only [response, payload, Response.ofData]
  cases self.buf.asSlice with
  | nil => rfl
  | cons b bs => rfl

theorem response_slice (data : List UInt8) : response (ResponseSlice.mk data) = .ofData data := by
  cases data with
  | nil => rfl
  | cons b bs => rfl

/-- A response whose slices are those of `ResponseData` carries exactly the data. -/
theorem carries_ofData {ρ : Type} [ResponseImpl ρ] {self : ρ} {data : List UInt8}
    (h : response self = .ofData data) :
    (response self).errno = none ∧ (response self).payload.flatten = data := by
  rw [h]
  exact ⟨rfl, Response.payload_ofData data⟩

/-- The data is the same wherever the buffer keeps it. -/
theorem response_newData (data : List UInt8) :
    response (ResponseData.newData data) = .ofData data := by
  rw [response_data, ResponseData.newData]
  split
  · rw [SmallVec.asSlice_fromSlice]
  · rw [SmallVec.asSlice_fromVec]

theorem response_newDirectory {list : EntListBuf} {self : ResponseData}
    (h : (ResponseData.newDirectory list : Outcome Empty _) = .ok self) :
    response self = .ofData list.buf := by
  rw [ResponseData.newDirectory] at h
  split at h
  · injection h with hself
    rw [response_data, ← hself, SmallVec.asSlice_fromIter]
  · cases h

end ResponseImpl

open ResponseImpl

theorem ResponseIoctl.iovs_newIoctl {result : Int32} {iovs : List IoSlice} {self : ResponseIoctl}
    (h : (newIoctl result iovs : Outcome Empty _) = .ok self) : self.iovs = iovs := by
  rw [newIoctl, tryIntoU32] at h
  split at h
  · injection h with hself
    rw [← hself]
  · cases h

/-- What is sent is what the response carries. -/
theorem Sends.carries {ρ : Type} [ResponseImpl ρ] {self : ρ} {errno : Option Errno}
    {body : List UInt8} (h : Sends self errno body) :
    (response self).errno = errno ∧ (response self).payload.flatten = body := by
  cases h with
  | empty => exact ⟨rfl, rfl⟩
  | errno e => exact ⟨rfl, rfl⟩
  | slice data => exact carries_ofData (response_slice body)
  | data data => exact carries_ofData (response_newData body)
  | directory h => exact carries_ofData (response_newDirectory h)
  | entry | attr | opened | lock | bmap | write | statfs | create | poll | xattrSize | lseek | statx =>
      exact ⟨rfl, payload_struct _⟩
  | @ioctl result iovs self h =>
      have hpayload : (response self).payload = toBytes self.out :: self.iovs := rfl
      rw [hpayload, List.flatten_cons, ResponseIoctl.iovs_newIoctl h]
      exact ⟨rfl, rfl⟩

theorem Sends.body_nil {ρ : Type} [ResponseImpl ρ] {self : ρ} {errno : Option Errno}
    {body : List UInt8} (h : Sends self errno body) (herrno : errno ≠ none) : body = [] := by
  cases h with
  | errno e => rfl
  | _ => exact absurd rfl herrno

/-- A response is framed around what it carries, if that leaves room for the header. -/
theorem ResponseImpl.framed_of_carries {ρ : Type} [ResponseImpl ρ] {self : ρ}
    {errno : Option Errno} {body : List UInt8}
    (hcarries : (response self).errno = errno ∧ (response self).payload.flatten = body)
    (hempty : errno ≠ none → body = []) (hlength : body.length ≤ 2 ^ 32 - 1 - 16)
    (unique : RequestId) :
    ∃ (slices : List IoSlice) (header : FuseOutHeader),
      (∀ {ε τ : Type} (f : List IoSlice → τ),
        (withIovec self unique f : Outcome ε τ) = .ok (f slices)) ∧
      Framed slices unique errno body header := by
  obtain ⟨rfl, rfl⟩ := hcarries
  have hfits : (response self).Fits := by
    have hsum : (response self).sumLen = (response self).payload.flatten.length :=
      Response.sumLen_eq _
    change 16 + (response self).sumLen < 2 ^ 32
    omega
  exact ⟨_, _, fun f => withIovec_of_fits self unique f hfits,
    framed_of_fits hfits hempty unique⟩

/-- Every response reaches the device as one message: a header with the length of the
whole, and the bytes of the response. -/
theorem responses_framed :
    (∀ {ρ : Type} [ResponseImpl ρ] (self : ρ) (errno : Option Errno) (body : List UInt8)
        (unique : RequestId), Sends self errno body → body.length ≤ 2 ^ 32 - 1 - 16 →
      ∃ (slices : List IoSlice) (header : FuseOutHeader),
        (∀ {ε τ : Type} (f : List IoSlice → τ),
          (withIovec self unique f : Outcome ε τ) = .ok (f slices)) ∧
        Framed slices unique errno body header) ∧
    (∀ {α : Type} [IosliceConcat α] (x : α),
      (∀ {τ : Type} (f : List IoSlice → τ), withIoslice x f = f (iterSlices x)) ∧
      ∀ {ε : Type}, (sumLen x : Outcome ε Nat) =
        if (iterSlices x).flatten.length < 2 ^ 64 then .ok (iterSlices x).flatten.length
        else .panic (.expect "iovec size overflow")) := by
  constructor
  · intro ρ _ self errno body unique hsends hlength
    exact framed_of_carries hsends.carries hsends.body_nil hlength unique
  · intro α _ x
    exact ⟨withIoslice_eq x, sumLen_eq x⟩

theorem responses_framed_ioctl :
    ∃ (slices : List IoSlice) (header : FuseOutHeader),
      ((withIovec (ResponseIoctl.mk ⟨0, 0, 1, 2⟩ [[1], [2, 3]]) ⟨7⟩ id : Outcome Empty _) =
        .ok slices) ∧
      Framed slices ⟨7⟩ none (toBytes (FuseIoctlOut.mk 0 0 1 2) ++ [1, 2, 3]) header := by
  have hsends : Sends (ResponseIoctl.mk ⟨0, 0, 1, 2⟩ [[1], [2, 3]]) none
      (toBytes (FuseIoctlOut.mk 0 0 1 2) ++ [1, 2, 3]) :=
    Sends.ioctl (h := (rfl : (ResponseIoctl.newIoctl 0 [[1], [2, 3]] : Outcome Empty _) = _))
  obtain ⟨slices, header, hslices, hframed⟩ :=
    responses_framed.1 _ none _ ⟨7⟩ hsends (by rw [List.length_append, length_toBytes]; decide)
  exact ⟨slices, header, hslices id, hframed⟩

end Fuser
