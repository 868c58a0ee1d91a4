import Fuser.Epoch
import Fuser.Response

/-!
The reply objects by their types, and the answers that the requests ask for.

A method of the filesystem is handed a reply object of one type, and the type has
the methods to answer with. What such a method sends is fixed by the type, while
the structure of the answer, or its size, is fixed by the request. That the two fit
together for every request is nowhere checked; it rests on the type that each method
was given. What a kernel makes of an answer is not said here.
-/

namespace Fuser

open Rust Wire

inductive ReplyType where
  | empty
  | data
  | entry
  | attr
  | statx
  | open
  | write
  | statfs
  | create
  | lock
  | bmap
  | ioctl
  | poll
  | directory
  | directoryPlus
  | xattr
  | lseek
  deriving DecidableEq

/-- The reply object among the parameters of a method. -/
def FsMethod.replyType : FsMethod → Option ReplyType
  | .forget .. | .batchForget .. => none
  | .lookup .. | .mknod .. | .mkdir .. | .symlink .. | .link .. => some .entry
  | .getattr .. | .setattr .. => some .attr
  | .statx .. => some .statx
  | .readlink .. | .read .. => some .data
  | .unlink .. | .rmdir .. | .rename .. | .flush .. | .release .. | .fsync .. | .releasedir ..
  | .fsyncdir .. | .setxattr .. | .removexattr .. | .access .. | .setlk .. | .fallocate ..
  | .syncfs .. => some .empty
  | .open .. | .opendir .. => some .open
  | .write .. | .copyFileRange .. => some .write
  | .readdir .. => some .directory
  | .readdirplus .. => some .directoryPlus
  | .statfs .. => some .statfs
  | .getxattr .. | .listxattr .. => some .xattr
  | .create .. | .tmpfile .. => some .create
  | .getlk .. => some .lock
  | .bmap .. => some .bmap
  | .ioctl .. => some .ioctl
  | .poll .. => some .poll
  | .lseek .. => some .lseek

namespace FopenFlags

def fopenPassthrough : FopenFlags := ⟨0x80⟩

def contains (self flags : FopenFlags) : Bool := hasFlag self.bits flags.bits

def union (self flags : FopenFlags) : FopenFlags := ⟨self.bits ||| flags.bits⟩

end FopenFlags

/-- The identifier of a backing file as a reply carries it. -/
abbrev RawBackingId := UInt32

/-- The calls that use up a reply object, with their arguments. The two directory
replies come with the entries that were added before `ok`. -/
inductive ReplyCall : ReplyType → Type where
  | error {t : ReplyType} (err : Errno) : ReplyCall t
  | ok : ReplyCall .empty
  | data (data : List UInt8) : ReplyCall .data
  | entry (ttl : Duration) (attr : FileAttr) (generation : Generation) : ReplyCall .entry
  | entryWithTtls (attrTtl entryTtl : Duration) (attr : FileAttr) (generation : Generation) :
      ReplyCall .entry
  | attr (ttl : Duration) (attr : FileAttr) : ReplyCall .attr
  | statx (ttl : Duration) (attr : StatxAttr) : ReplyCall .statx
  | opened (fh : FileHandle) (flags : FopenFlags) : ReplyCall .open
  | openedPassthrough (fh : FileHandle) (flags : FopenFlags) (backingId : RawBackingId) :
      ReplyCall .open
  | written (size : UInt32) : ReplyCall .write
  | statfs (blocks bfree bavail files ffree : UInt64) (bsize namelen frsize : UInt32) :
      ReplyCall .statfs
  | created (ttl : Duration) (attr : FileAttr) (generation : Generation) (fh : FileHandle)
      (flags : FopenFlags) : ReplyCall .create
  | createdPassthrough (ttl : Duration) (attr : FileAttr) (generation : Generation)
      (fh : FileHandle) (flags : FopenFlags) (backingId : RawBackingId) : ReplyCall .create
  | locked (start stop : UInt64) (typ : Int32) (pid : UInt32) : ReplyCall .lock
  | bmap (block : UInt64) : ReplyCall .bmap
  | ioctl (result : Int32) (data : List UInt8) : ReplyCall .ioctl
  | poll (revents : PollEvents) : ReplyCall .poll
  | directory (adds : List ReplyDirectory.Add) : ReplyCall .directory
  | directoryPlus (adds : List ReplyDirectoryPlus.Add) : ReplyCall .directoryPlus
  | size (size : UInt32) : ReplyCall .xattr
  | xattrData (data : List UInt8) : ReplyCall .xattr
  | offset (offset : Int64) : ReplyCall .lseek

/-- A call that uses up a reply object, of whatever type. -/
structure Answer where
  type : ReplyType
  call : ReplyCall type

/-- A reply object as the dispatcher makes it; only a directory reply has a size. -/
def ReplyType.object (unique : RequestId) (size : Nat) : ReplyType → ReplyObject
  | .directory => .directory (.new unique size)
  | .directoryPlus => .directoryPlus (.new unique size)
  | _ => .raw (.new unique)

namespace ReplyCall

/-- `assert!(!flags.contains(FopenFlags::FOPEN_PASSTHROUGH))`. -/
def assertNoPassthrough (flags : FopenFlags) : Outcome Empty Unit :=
  if flags.contains .fopenPassthrough then .panic .assertion else .ok ()

/-- What `ok` makes of a directory reply after the entries were added. -/
def listing {γ : Type} (add : γ → Method DirectoryReply Empty Bool) (adds : List γ)
    (dir : DirectoryReply) : Outcome Empty Response :=
  let (outcome, dir) := (addAll add adds).run dir
  outcome >>= fun _ => dir.data.newDirectory

/-- `send_ll` of a response that is there. -/
def sending {ρ : Type} [ResponseImpl ρ] (self : ρ) : Outcome Empty Response :=
  .ok (ResponseImpl.response self)

/-- The response that a call sends, if it comes that far. -/
def response (unique : RequestId) (size : Nat) :
    {t : ReplyType} → ReplyCall t → Outcome Empty Response
  | _, .error err => sending (ResponseErrno.mk err)
  | _, .ok => sending ResponseEmpty.mk
  | _, .data bytes => sending (ResponseSlice.mk bytes)
  | _, .entry ttl file generation =>
      sending (ResponseStruct.newEntry file.ino generation (fuseAttrFromAttr file) ttl ttl)
  | _, .entryWithTtls attrTtl entryTtl file generation =>
      sending
        (ResponseStruct.newEntry file.ino generation (fuseAttrFromAttr file) attrTtl entryTtl)
  | _, .attr ttl file => sending (ResponseStruct.newAttr ttl (fuseAttrFromAttr file))
  | _, .statx ttl file => sending (ResponseStruct.newStatx ttl file)
  | _, .opened fh flags => do
      assertNoPassthrough flags
      sending (ResponseStruct.newOpen fh flags 0)
  | _, .openedPassthrough fh flags backingId =>
      let flags := flags.union .fopenPassthrough
      sending (ResponseStruct.newOpen fh flags backingId)
  | _, .written count => sending (ResponseStruct.newWrite count)
  | _, .statfs blocks bfree bavail files ffree bsize namelen frsize =>
      sending (ResponseStruct.newStatfs blocks bfree bavail files ffree bsize namelen frsize)
  | _, .created ttl file generation fh flags => do
      assertNoPassthrough flags
      sending (ResponseStruct.newCreate ttl (fuseAttrFromAttr file) generation fh flags 0)
  | _, .createdPassthrough ttl file generation fh flags backingId =>
      sending
        (ResponseStruct.newCreate ttl (fuseAttrFromAttr file) generation fh
          (flags.union .fopenPassthrough) backingId)
  | _, .locked start stop typ pid =>
      sending (ResponseStruct.newLock ⟨(start, stop), typ, pid⟩)
  | _, .bmap block => sending (ResponseStruct.newBmap block)
  | _, .ioctl result bytes => do
      let answer ← ResponseIoctl.newIoctl result [bytes]
      sending answer
  | _, .poll revents => sending (ResponseStruct.newPoll revents)
  | _, .directory adds => listing ReplyDirectory.add adds (.new unique size)
  | _, .directoryPlus adds => listing ReplyDirectoryPlus.add adds (.new unique size)
  | _, .size count => sending (ResponseStruct.newXattrSize count)
  | _, .xattrData bytes => sending (ResponseSlice.mk bytes)
  | _, .offset position => sending (ResponseStruct.newLseek position)

/-- What a call sends with a reply object as it was made. A panic on the way to the
response drops the object. -/
def perform {t : ReplyType} (call : ReplyCall t) (unique : RequestId) (size : Nat) :
    Method (List (List UInt8)) Empty Unit :=
  match call.response unique size with
  | .ok response => (ReplyRaw.new unique).sends response
  | .err e => nomatch e
  | .panic reason => do
      (ReplyRaw.new unique).drops
      .abort reason

end ReplyCall

/-- What follows the header of an answer that reports no error: so many bytes, and up to so
many more. -/
structure Room where
  fixed : Nat
  more : Nat
  deriving DecidableEq

def Room.Holds (room : Room) (length : Nat) : Prop :=
  room.fixed ≤ length ∧ length ≤ room.fixed + room.more

instance (room : Room) (length : Nat) : Decidable (room.Holds length) :=
  inferInstanceAs (Decidable (_ ∧ _))

/-- As much as a message can hold. -/
def Room.any : Room := ⟨0, 2 ^ 32⟩

/-- The room for a structure. -/
def Room.of (S : Type) [ReprC S] : Room := ⟨ReprC.size S, 0⟩

/-- The answers to GETXATTR and LISTXATTR: the size alone if it is asked for with a
size of zero. -/
def Room.xattr (size : UInt32) : Room :=
  if size = 0 then .of FuseGetxattrOut else ⟨0, size.toNat⟩

/-- What an operation asks for as its answer: one of the structures of the protocol, or data
up to the size that the request gives. READLINK gives none. -/
def Operation.room : Operation → Room
  | .lookup _ | .mkNod _ | .mkDir _ | .symLink _ | .link _ => .of FuseEntryOut
  | .getAttr _ | .setAttr _ => .of FuseAttrOut
  | .statX _ => .of FuseStatxOut
  | .readLink _ => .any
  | .open _ | .openDir _ => .of FuseOpenOut
  | .read x => ⟨0, x.size.toNat⟩
  | .readDir x => ⟨0, x.size.toNat⟩
  | .readDirPlus x => ⟨0, x.size.toNat⟩
  | .write _ | .copyFileRange _ => .of FuseWriteOut
  | .statFs _ => .of FuseStatfsOut
  | .getXAttr x => .xattr x.sizeU32
  | .listXAttr x => .xattr x.size
  | .create _ | .tmpFile _ => .of FuseCreateOut
  | .getLk _ => .of FuseLkOut
  | .bMap _ => .of FuseBmapOut
  | .ioCtl x => ⟨ReprC.size FuseIoctlOut, x.outSize.toNat⟩
  | .poll _ => .of FusePollOut
  | .lseek _ => .of FuseLseekOut
  | .init _ | .forget _ | .unlink _ | .rmDir _ | .rename _ | .release _ | .fSync _
  | .setXAttr _ | .removeXAttr _ | .flush _ | .releaseDir _ | .fSyncDir _ | .setLk _
  | .access _ | .interrupt _ | .destroy _ | .notifyReply _ | .batchForget _ | .fAllocate _
  | .rename2 _ | .syncFs _ | .cuseInit _ => ⟨0, 0⟩

/-- The size of the buffer that a listing was asked to fill. -/
def Operation.listSize : Operation → Nat
  | .readDir x => x.size.toNat
  | .readDirPlus x => x.size.toNat
  | _ => 0

/-- The message has the form of an answer to the request `unique`: it is as long as it says,
and carries an error and nothing else, or no error and what there is room for. -/
structure IsAnswer (room : Room) (unique : UInt64) (message : List UInt8) : Prop where
  header : ∃ (header : FuseOutHeader) (body : List UInt8), message = toBytes header ++ body ∧
    header.unique = unique ∧ header.len.toNat = message.length ∧
    (header.error < 0 ∧ body = [] ∨ header.error = 0 ∧ room.Holds body.length)

/-- An answer of any form is one that fits into a message. -/
theorem IsAnswer.any {room : Room} {unique : UInt64} {message : List UInt8}
    (h : IsAnswer room unique message) : IsAnswer .any unique message := by
  obtain ⟨header, body, hmessage, hunique, hlen, hbody⟩ := h
  refine ⟨header, body, hmessage, hunique, hlen, hbody.imp_right ?_⟩
  rintro ⟨herror, -⟩
  have hlength : message.length = (toBytes header).length + body.length := by
    rw [hmessage, List.length_append]
  have hlt := header.len.toNat_lt
  refine ⟨herror, Nat.zero_le _, ?_⟩
  simp only [Room.any]
  omega

/-- The data that a call was given is of the size that was asked for. Calls that are not
listed carry a structure, or entries that the reply object itself has counted. -/
def ReplyCall.Suits (room : Room) : {t : ReplyType} → ReplyCall t → Prop
  | _, .data bytes => room.Holds bytes.length
  | _, .xattrData bytes => room.Holds bytes.length
  | _, .size _ => room.Holds (ReprC.size FuseGetxattrOut)
  | _, .ioctl _ bytes => room.Holds (ReprC.size FuseIoctlOut + bytes.length)
  | _, _ => True

/-- The room that the methods of a reply type are made for. The types with data in them
leave it to the caller. -/
def ReplyType.MadeFor (size : Nat) (room : Room) : ReplyType → Prop
  | .empty => room = ⟨0, 0⟩
  | .entry => room = .of FuseEntryOut
  | .attr => room = .of FuseAttrOut
  | .statx => room = .of FuseStatxOut
  | .open => room = .of FuseOpenOut
  | .write => room = .of FuseWriteOut
  | .statfs => room = .of FuseStatfsOut
  | .create => room = .of FuseCreateOut
  | .lock => room = .of FuseLkOut
  | .bmap => room = .of FuseBmapOut
  | .poll => room = .of FusePollOut
  | .lseek => room = .of FuseLseekOut
  | .directory | .directoryPlus => room = ⟨0, size⟩
  | .data | .xattr | .ioctl => True

/-- The response reports an error and nothing else, or fills the room. -/
def Response.Fills (self : Response) (room : Room) : Prop :=
  self.errno ≠ none ∨ room.Holds self.sumLen

/-- An error is all that a response carries. -/
def Response.Clean (self : Response) : Prop := self.errno ≠ none → self.payload.flatten = []

theorem Response.fills_of_none {self : Response} {room : Room} {suits : Prop}
    (herrno : self.errno = none) (h : room.Holds self.sumLen ↔ suits) :
    self.Clean ∧ (self.Fills room ↔ suits) := by
  refine ⟨fun hsome => absurd herrno hsome, ?_⟩
  rw [Fills, h]
  exact or_iff_right fun hsome => hsome herrno

/-- The header and the body of a message can be told apart. -/
theorem append_inj_header {header header' : FuseOutHeader} {body body' : List UInt8}
    (h : toBytes header ++ body = toBytes header' ++ body') : header = header' ∧ body = body' := by
  have hheader : header = header' := by
    have hdecoded := congrArg (ofBytes FuseOutHeader) h
    simpa only [ofBytes_toBytes_append] using hdecoded
  subst hheader
  exact ⟨rfl, List.append_cancel_left h⟩

theorem answers_message {self : Response} (hfits : self.Fits) (hclean : self.Clean) (room : Room)
    (unique : RequestId) : IsAnswer room unique.raw (self.message unique) ↔ self.Fills room := by
  have hframed := framed_of_fits hfits hclean unique
  have hbytes : self.message unique = toBytes (self.header unique) ++ self.payload.flatten := rfl
  constructor
  · rintro ⟨header, body, hmessage, -, -, hbody⟩
    obtain ⟨rfl, rfl⟩ := append_inj_header (hbytes.symm.trans hmessage)
    cases herrno : self.errno with
    | some e => exact .inl (by rw [herrno]; exact Option.some_ne_none e)
    | none =>
        rw [hframed.success herrno] at hbody
        obtain ⟨hlt, -⟩ | ⟨-, hholds⟩ := hbody
        · exact absurd hlt (by decide)
        · exact .inr (self.sumLen_eq ▸ hholds)
  · intro hfills
    have hlen : (self.header unique).len.toNat = (self.message unique).length :=
      hframed.len.trans (congrArg List.length hframed.bytes)
    refine ⟨_, _, hbytes, rfl, hlen, ?_⟩
    cases herrno : self.errno with
    | some e =>
        obtain ⟨hlt, -, hempty⟩ := hframed.failure e herrno
        exact .inl ⟨hlt, hempty⟩
    | none =>
        refine .inr ⟨hframed.success herrno, ?_⟩
        rw [← self.sumLen_eq]
        exact hfills.resolve_left (fun hsome => hsome herrno)

theorem answers_any {self : Response} (hfits : self.Fits) (hclean : self.Clean)
    (unique : RequestId) : IsAnswer .any unique.raw (self.message unique) := by
  have hanswers : IsAnswer ⟨0, self.sumLen⟩ unique.raw (self.message unique) :=
    (answers_message hfits hclean _ unique).mpr (.inr ⟨Nat.zero_le _, by rw [Nat.zero_add]⟩)
  exact hanswers.any

theorem answers_errno (errno : Errno) (room : Room) (unique : RequestId) :
    IsAnswer room unique.raw ((Response.ofErrno errno).message unique) :=
  (answers_message (Response.fits_ofErrno errno) (fun _ => rfl) room unique).mpr
    (.inl (Option.some_ne_none errno))

namespace ReplyCall

variable {t : ReplyType} {unique : RequestId} {size : Nat} {room : Room} {response : Response}

theorem sumLen_struct {S : Type} [ReprC S] (value : S) :
    (ResponseImpl.response (ResponseStruct.mk value)).sumLen = ReprC.size S := by
  rw [Response.sumLen_eq, ResponseImpl.payload_struct, length_toBytes]

theorem holds_struct {S : Type} [ReprC S] (value : S) :
    (Room.of S).Holds (ResponseImpl.response (ResponseStruct.mk value)).sumLen := by
  rw [sumLen_struct]
  exact ⟨Nat.le_refl _, Nat.le_refl _⟩

theorem sumLen_ioctl (out : FuseIoctlOut) (data : List UInt8) :
    (ResponseImpl.response (ResponseIoctl.mk out [data])).sumLen =
      ReprC.size FuseIoctlOut + data.length := by
  have hpayload : (ResponseImpl.response (ResponseIoctl.mk out [data])).payload =
      [toBytes out, data] := rfl
  rw [Response.sumLen_eq, hpayload, List.flatten_cons, List.flatten_singleton, List.length_append,
    length_toBytes]

theorem sumLen_slice (data : List UInt8) :
    (ResponseImpl.response (ResponseSlice.mk data)).sumLen = data.length := by
  rw [ResponseImpl.response_slice, Response.sumLen_ofData]

/-- A listing reports no error, and is no longer than the buffer it was made in. -/
theorem listing_ok {γ α : Type} [ReprC α] {add : γ → Method DirectoryReply Empty Bool}
    {header : γ → UInt32 → α} {name : γ → OsStr} (tailLen : α → Nat) (hadds : Adds add header name)
    (htail : ∀ args len, tailLen (header args len) = len.toNat) {adds : List γ}
    (h : listing add adds (.new unique size) = .ok response) :
    response.errno = none ∧ Room.Holds ⟨0, size⟩ response.sumLen := by
  rw [listing] at h
  rcases hrun : (addAll add adds).run (.new unique size) with ⟨outcome, dir⟩
  rw [hrun] at h
  cases outcome with
  | ok fulls =>
      obtain ⟨-, hfilled⟩ := (filled_new unique size tailLen).addAll_ok hadds htail hrun
      have hbounded : dir.data.buf.length ≤ dir.data.maxSize := hfilled.maxSize ▸ hfilled.bounded
      have hdirectory : (dir.data.newDirectory : Outcome Empty _) = .ok (.ofData dir.data.buf) :=
        if_pos hbounded
      simp only [Outcome.ok_bind, hdirectory] at h
      cases h
      refine ⟨rfl, Nat.zero_le _, ?_⟩
      rw [Response.sumLen_ofData, Nat.zero_add]
      exact hfilled.bounded
  | err e => exact nomatch e
  | panic reason => cases h

theorem response_opened {fh : FileHandle} {flags : FopenFlags}
    (h : (ReplyCall.opened fh flags).response unique size = .ok response) :
    response = ResponseImpl.response (ResponseStruct.newOpen fh flags 0) := by
  simp only [ReplyCall.response, assertNoPassthrough] at h
  split at h
  · cases h
  · cases h
    rfl

theorem response_created {ttl : Duration} {attr : FileAttr} {generation : Generation}
    {fh : FileHandle} {flags : FopenFlags}
    (h : (ReplyCall.created ttl attr generation fh flags).response unique size = .ok response) :
    response = ResponseImpl.response
      (ResponseStruct.newCreate ttl (fuseAttrFromAttr attr) generation fh flags 0) := by
  simp only [ReplyCall.response, assertNoPassthrough] at h
  split at h
  · cases h
  · cases h
    rfl

/-- What a call sends fills the room exactly if the data that it was given does. -/
theorem fills_iff_suits (call : ReplyCall t) (hroom : t.MadeFor size room)
    (h : call.response unique size = .ok response) :
    response.Clean ∧ (response.Fills room ↔ call.Suits room) := by
  cases call with
  | error err =>
      cases h
      exact ⟨fun _ => rfl, fun _ => True.intro, fun _ => .inl (Option.some_ne_none err)⟩
  | ok =>
      cases h
      obtain rfl : room = ⟨0, 0⟩ := hroom
      exact ⟨fun _ => rfl, fun _ => True.intro, fun _ => .inr ⟨Nat.le_refl _, Nat.le_refl _⟩⟩
  | data bytes | xattrData bytes =>
      cases h
      refine Response.fills_of_none rfl ?_
      rw [sumLen_slice]
      rfl
  | size count =>
      cases h
      refine Response.fills_of_none rfl ?_
      rw [sumLen_struct]
      rfl
  | ioctl result bytes =>
      cases h
      refine Response.fills_of_none rfl ?_
      rw [sumLen_ioctl]
      rfl
  | directory adds =>
      obtain rfl : room = ⟨0, size⟩ := hroom
      obtain ⟨herrno, hholds⟩ := listing_ok
        (fun dirent : FuseDirent => dirent.namelen.toNat) adds_replyDirectory (fun _ _ => rfl) h
      exact Response.fills_of_none herrno (iff_of_true hholds True.intro)
  | directoryPlus adds =>
      obtain rfl : room = ⟨0, size⟩ := hroom
      obtain ⟨herrno, hholds⟩ := listing_ok
        (fun plus : FuseDirentplus => plus.dirent.namelen.toNat) adds_replyDirectoryPlus
        (fun _ _ => rfl) h
      exact Response.fills_of_none herrno (iff_of_true hholds True.intro)
  | opened fh flags =>
      rw [response_opened h]
      subst hroom
      exact Response.fills_of_none rfl (iff_of_true (holds_struct _) True.intro)
  | created ttl attr generation fh flags =>
      rw [response_created h]
      subst hroom
      exact Response.fills_of_none rfl (iff_of_true (holds_struct _) True.intro)
  | _ =>
      cases h
      subst hroom
      exact Response.fills_of_none rfl (iff_of_true (holds_struct _) True.intro)

/-- The call is given more than the length of a message can say. -/
def TooLong (call : ReplyCall t) (unique : RequestId) (size : Nat) : Prop :=
  ∃ response, call.response unique size = .ok response ∧ ¬ response.Fits

theorem run_sends_of_not_fits (h : ¬ response.Fits) (unique : RequestId)
    (sent : List (List UInt8)) :
    ((ReplyRaw.new unique).sends response).run sent = (.panic (.expect "Too much data"), sent) := by
  have hiovec : (response.withIovec unique : Outcome Empty _) = .panic (.expect "Too much data") :=
    if_neg h
  have hsend : (ReplyRaw.sendLlMut response).run (ReplyRaw.new unique, sent) =
      (.panic (.expect "Too much data"), (⟨unique, none⟩, sent)) := by
    simp only [Method.run, ReplyRaw.sendLlMut, ReplyRaw.new, hiovec]
  have hsend' := Method.run_bind_of_panic (fun _ => ReplyRaw.drop) hsend
  simp only [Method.run, ReplyRaw.sends, ReplyRaw.sendLl] at hsend' ⊢
  rw [hsend']

/-- The calls that do not get as far as a response: a flag that is for passthrough only,
or a name that is longer than its length field can say. -/
def Refused : {t : ReplyType} → ReplyCall t → Prop
  | _, .opened _ flags => flags.contains .fopenPassthrough = true
  | _, .created _ _ _ _ flags => flags.contains .fopenPassthrough = true
  | _, .directory adds => ∃ args ∈ adds, 2 ^ 32 ≤ args.name.length
  | _, .directoryPlus adds => ∃ args ∈ adds, 2 ^ 32 ≤ args.name.length
  | _, _ => False

theorem suits_of_refused {call : ReplyCall t} (h : call.Refused) (room : Room) :
    call.Suits room := by
  cases call with
  | opened | created | directory | directoryPlus => exact True.intro
  | _ => cases h

theorem short_of_addAll {γ α : Type} [ReprC α] {add : γ → Method DirectoryReply Empty Bool}
    {header : γ → UInt32 → α} {name : γ → OsStr} (hadds : Adds add header name) {adds : List γ}
    {self self' : DirectoryReply} {fulls : List Bool}
    (h : (addAll add adds).run self = (.ok fulls, self')) :
    ∀ args ∈ adds, (name args).length < 2 ^ 32 := by
  induction adds generalizing self self' fulls with
  | nil =>
      intro args hmem
      cases hmem
  | cons args adds ih =>
      obtain ⟨full, next, hadd, hrest⟩ := Method.run_bind_eq_ok h
      obtain ⟨rest, last, hadds', -⟩ := Method.run_bind_eq_ok hrest
      refine List.forall_mem_cons.mpr ⟨?_, ih hadds'⟩
      by_contra hlong
      rw [hadds.long args self (Nat.not_lt.mp hlong)] at hadd
      cases hadd

theorem listing_decides {γ α : Type} [ReprC α] {add : γ → Method DirectoryReply Empty Bool}
    {header : γ → UInt32 → α} {name : γ → OsStr} (tailLen : α → Nat) (hadds : Adds add header name)
    (htail : ∀ args len, tailLen (header args len) = len.toNat) (adds : List γ) :
    (∃ response, listing add adds (.new unique size) = .ok response) ↔
      ¬ ∃ args ∈ adds, 2 ^ 32 ≤ (name args).length := by
  have hnew := filled_new unique size tailLen
  constructor
  · rintro ⟨response, h⟩ ⟨args, hmem, hlong⟩
    rw [listing] at h
    rcases hrun : (addAll add adds).run (.new unique size) with ⟨outcome, dir⟩
    rw [hrun] at h
    cases outcome with
    | ok fulls => exact absurd (short_of_addAll hadds hrun args hmem) (Nat.not_lt.mpr hlong)
    | err e => exact nomatch e
    | panic reason => cases h
  · intro hshort
    obtain ⟨fulls, dir, hrun⟩ := hnew.addAll_returns hadds htail adds
      fun args hmem => Nat.lt_of_not_le fun hlong => hshort ⟨args, hmem, hlong⟩
    obtain ⟨-, hfilled⟩ := hnew.addAll_ok hadds htail hrun
    have hbounded : dir.data.buf.length ≤ dir.data.maxSize := hfilled.maxSize ▸ hfilled.bounded
    refine ⟨.ofData dir.data.buf, ?_⟩
    simp only [listing, hrun, Outcome.ok_bind]
    exact if_pos hbounded

theorem assertNoPassthrough_decides {flags : FopenFlags} {response : Response} :
    (∃ answer, (assertNoPassthrough flags >>= fun _ => .ok response) = .ok answer) ↔
      ¬ flags.contains .fopenPassthrough = true := by
  rw [assertNoPassthrough]
  split
  next h => simp [h]
  next h => simp [h]

theorem response_decides (call : ReplyCall t) (unique : RequestId) (size : Nat) :
    (∃ response, call.response unique size = .ok response) ↔ ¬ call.Refused := by
  cases call with
  | opened fh flags => exact assertNoPassthrough_decides
  | created ttl attr generation fh flags => exact assertNoPassthrough_decides
  | directory adds =>
      exact listing_decides (fun dirent : FuseDirent => dirent.namelen.toNat) adds_replyDirectory
        (fun _ _ => rfl) adds
  | directoryPlus adds =>
      exact listing_decides (fun plus : FuseDirentplus => plus.dirent.namelen.toNat)
        adds_replyDirectoryPlus (fun _ _ => rfl) adds
  | _ => exact iff_of_true ⟨_, rfl⟩ not_false

/-- What becomes of an answer. The response of the call is sent as the answer to its request,
and is of the form that was asked for exactly if the data in it is. A call that is refused
drops the reply object, which then answers itself. Of data beyond what a length can say
nothing is sent at all: by the time it is laid out the reply object has let go of its
sender. -/
inductive Delivered (call : ReplyCall t) (unique : RequestId) (size : Nat) (room : Room)
    (sent : List (List UInt8)) : Outcome Empty Unit × List (List UInt8) → Prop where
  | sent {response : Response} (hresponse : call.response unique size = .ok response)
      (hany : IsAnswer .any unique.raw (response.message unique))
      (hanswers : IsAnswer room unique.raw (response.message unique) ↔ call.Suits room)
      (hrefused : ¬ call.Refused) (hlong : ¬ call.TooLong unique size) :
      Delivered call unique size room sent (.ok (), sent ++ [response.message unique])
  | refused (reason : Panic) (hrefused : call.Refused) :
      Delivered call unique size room sent
        (.panic reason, sent ++ [(Response.ofErrno .eio).message unique])
  | lost (hlong : call.TooLong unique size) :
      Delivered call unique size room sent (.panic (.expect "Too much data"), sent)

theorem delivered_perform (call : ReplyCall t) (hroom : t.MadeFor size room)
    (sent : List (List UInt8)) :
    Delivered call unique size room sent ((call.perform unique size).run sent) := by
  have hdecides := call.response_decides unique size
  rw [perform]
  cases hresponse : call.response unique size with
  | ok response =>
      rw [hresponse] at hdecides
      obtain ⟨hclean, hsuits⟩ := call.fills_iff_suits hroom hresponse
      by_cases hfits : response.Fits
      · simp only [ReplyRaw.run_sends hfits unique sent]
        refine .sent hresponse (answers_any hfits hclean unique)
          ((answers_message hfits hclean room unique).trans hsuits)
          (hdecides.mp ⟨response, rfl⟩) ?_
        rintro ⟨response', hresponse', hfits'⟩
        rw [hresponse] at hresponse'
        cases hresponse'
        exact hfits' hfits
      · simp only [run_sends_of_not_fits hfits unique sent]
        exact .lost ⟨response, hresponse, hfits⟩
  | err e => exact nomatch e
  | panic reason =>
      rw [hresponse] at hdecides
      simp only [Method.run_bind_of_ok _ (ReplyRaw.run_drops unique sent)]
      refine .refused reason ?_
      by_contra hrefused
      obtain ⟨response, h⟩ := hdecides.mpr hrefused
      cases h

end ReplyCall

namespace RequestWithSender

/-- A call comes with a reply object of the type that the method asks for, as it was
made, and that type is one for the answers to the operation. -/
def HandsReply (self : RequestWithSender) (op : Operation) (call : FsCall) : Prop :=
  match call.method.replyType with
  | some t =>
      call.reply = some (t.object self.unique op.listSize) ∧
        t.MadeFor op.listSize op.room
  | none => call.reply = none

variable {self : RequestWithSender} {op : Operation}

theorem made_nil (P : FsCall → Prop) : Made P ⟨[], []⟩ := by
  intro call hcall
  cases hcall

theorem made_ofOutcome {α : Type} {P : FsCall → Prop} {x : Outcome Errno α}
    {f : α → Method Dispatching Errno Unit} (h : ∀ a, Made P ((f a).run ⟨[], []⟩).2) :
    Made P ((Method.ofOutcome x >>= f).run ⟨[], []⟩).2 := by
  cases x with
  | ok a => exact h a
  | err _ | panic _ => exact made_nil P

theorem made_callWithReply {P : FsCall → Prop} {method : FsMethod}
    (h : P ⟨self.requestHeader, method, some (.raw (.new self.unique))⟩) :
    Made P ((self.callWithReply method).run ⟨[], []⟩).2 := by
  rw [self.run_callWithReply method]
  exact List.forall_mem_singleton.mpr h

theorem made_call {P : FsCall → Prop} {method : FsMethod} {object : ReplyObject}
    (h : P ⟨self.requestHeader, method, some object⟩) :
    Made P ((self.call method (some object)).run ⟨[.new self.unique], []⟩).2 :=
  List.forall_mem_singleton.mpr h

theorem handsReply_dispatchOperation (se : SessionEventLoop) (op : Operation) :
    Made (self.HandsReply op) ((self.dispatchOperation se op).run ⟨[], []⟩).2 := by
  cases op with
  | init _ | destroy _ | interrupt _ | notifyReply _ | cuseInit _ => exact made_nil _
  | forget _ | batchForget _ => exact List.forall_mem_singleton.mpr rfl
  | readDir _ | readDirPlus _ => exact made_call ⟨rfl, rfl⟩
  | setAttr x =>
      refine made_ofOutcome fun _ => made_ofOutcome fun _ => made_ofOutcome fun _ => ?_
      exact made_callWithReply ⟨rfl, rfl⟩
  | read x => exact made_ofOutcome fun _ => made_callWithReply ⟨rfl, True.intro⟩
  | write x => exact made_ofOutcome fun _ => made_callWithReply ⟨rfl, rfl⟩
  | fAllocate x | copyFileRange x =>
      exact made_ofOutcome fun _ => made_ofOutcome fun _ => made_callWithReply ⟨rfl, rfl⟩
  | setXAttr x =>
      rw [dispatchOperation]
      split
      · exact made_nil _
      · exact made_callWithReply ⟨rfl, rfl⟩
  | ioCtl x =>
      rw [dispatchOperation]
      split
      · exact made_nil _
      · exact made_ofOutcome fun _ => made_callWithReply ⟨rfl, True.intro⟩
  | readLink _ | getXAttr _ | listXAttr _ => exact made_callWithReply ⟨rfl, True.intro⟩
  | _ => exact made_callWithReply ⟨rfl, rfl⟩

theorem handsReply_of_dispatch {se : SessionEventLoop}
    (hop : self.request.operation = .ok op) {sent sent' : List (List UInt8)}
    {calls : List FsCall} (h : (self.dispatch se).run sent = (.ok calls, sent')) :
    ∀ call ∈ calls, self.HandsReply op call := by
  rw [calls_of_dispatch h, dispatchReq_of_ok hop, dispatchAllowed]
  split
  · exact made_nil _
  · split
    · exact made_nil _
    · have hmade := self.handsReply_dispatchOperation se op
      rcases hrun : (self.dispatchOperation se op).run ⟨[], []⟩ with ⟨outcome, st⟩
      rw [hrun] at hmade
      cases outcome with
      | ok _ =>
          rw [Method.run_bind_of_ok _ hrun]
          exact hmade
      | err e =>
          rw [Method.run_bind_of_err _ hrun]
          exact hmade
      | panic reason =>
          rw [Method.run_bind_of_panic _ hrun]
          exact hmade

/-- However the filesystem answers with the reply object that it was handed for a
request, the answer has the form that the request asks for, as long as the data in it is
of the size that was asked for. -/
theorem dispatch_hands_reply (self : RequestWithSender) (se : SessionEventLoop)
    (op : Operation) (hop : self.request.operation = .ok op) (sent sent' : List (List UInt8))
    (calls : List FsCall) (hrun : (self.dispatch se).run sent = (.ok calls, sent')) :
    ∀ call ∈ calls,
      (call.method.replyType = none → call.reply = none) ∧
      ∀ t, call.method.replyType = some t →
        call.reply = some (t.object self.unique op.listSize) ∧
        ∀ (answer : ReplyCall t) (written : List (List UInt8)),
          answer.Delivered self.unique op.listSize op.room written
            ((answer.perform self.unique op.listSize).run written) := by
  intro call hcall
  have hhands := handsReply_of_dispatch hop hrun call hcall
  constructor
  · intro hnone
    simpa only [HandsReply, hnone] using hhands
  · intro t ht
    simp only [HandsReply, ht] at hhands
    exact ⟨hhands.1, fun answer written => answer.delivered_perform hhands.2 written⟩

/-- A LOOKUP is answered with an entry. -/
theorem dispatch_hands_reply_lookup :
    let se : SessionEventLoop := ⟨true, .all, 1000, 0, 0, none⟩
    (((lookupFrom 1000).dispatch se).run []).2 = [] ∧
    ∀ (answer : ReplyCall .entry) (written : List (List UInt8)),
      answer.Delivered ⟨5⟩ 0 (.of FuseEntryOut) written ((answer.perform ⟨5⟩ 0).run written) := by
  intro se
  have hparse : (lookupFrom 1000).request.operation =
      .ok (.lookup ⟨(lookupFrom 1000).request.header, [97]⟩) := rfl
  have hhands := dispatch_hands_reply (lookupFrom 1000) se _ hparse [] []
    [⟨(lookupFrom 1000).requestHeader, .lookup ⟨0⟩ [97], some (.raw (.new ⟨5⟩))⟩] rfl
    _ (List.mem_singleton_self _)
  exact ⟨rfl, (hhands.2 .entry rfl).2⟩

end RequestWithSender

end Fuser
