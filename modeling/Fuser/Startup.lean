import Fuser.Backend

/-!
How a session starts: the options are checked, the filesystem is mounted, and the
handshake is done with the kernel. Whatever fails, and wherever a panic comes from,
all that was acquired until then is given back on the way out: the descriptors are
closed, the handle of the helper is given up, libfuse's session is destroyed, the mount
is undone, and the filesystem is told by `destroy` if it had been given to a session.
A second panic on the way out aborts the process, and what happens then is left open.
-/

namespace Fuser.Mnt

open Rust Calls

/-- A session as `Session::new` and `Session::from_fd` make it. -/
structure Started where
  /-- The device of the channel. -/
  ch : Nat
  /-- What the mutex of `UmountOnDrop` guards. -/
  mount : Option Mount
  session : Session

namespace Started

/-- `Drop for FilesystemHolder`. -/
def dropFilesystem (filesystemPresent : Bool) : Sys (Option Panic) := do
  if filesystemPresent then
    let panicked ← sys .destroy
    sys .dropFilesystem
    return panicked
  else return none

/-- `Drop for UmountOnDrop`, which reports a failure to the log only. -/
def umountOnDrop : Option Mount → Sys (Option Panic)
  | some mount => mount.drop
  | none => return none

/-- A panic on top of what unwinds. A second one aborts the process, which is `none`. -/
def raise : Option Panic → Option Panic → Option (Option Panic)
  | unwinding, none => some unwinding
  | none, some reason => some (some reason)
  | some _, some _ => none

/-- The fields are dropped in their order, also while a panic unwinds. -/
def drop (self : Started) (unwinding : Option Panic) : Sys (Option (Option Panic)) := do
  let panicked ← dropFilesystem self.session.filesystemPresent
  match raise unwinding panicked with
  | none => return none
  | some unwinding =>
      sys (.dropDevice self.ch)
      let panicked ← umountOnDrop self.mount
      return raise unwinding panicked

/-- The session and the outcome that a handshake leaves. -/
def answered {env : HandshakeEnv} {session : Session} (answer : HandshakeAnswer env session) :
    Outcome IoError Unit × Session :=
  (answer.outcome, (Session.handshake env answer.events ⟨session, [], []⟩).state.session)

/-- What a start comes to; `none` is a process that was aborted. -/
abbrev Start : Type := Option (Outcome MountError Started)

/-- The handshake, and dropping the session if it fails. -/
def handshake (self : Started) (env : HandshakeEnv) : Sys Start := do
  let answer ← sys (.handshake self.ch env self.session)
  let self := { self with session := (answered answer).2 }
  match (answered answer).1 with
  | .ok () => return some (.ok self)
  | .err e =>
      match ← self.drop none with
      | none => return none
      | some none => return some (.err (.io e))
      | some (some reason) => return some (.panic reason)
  | .panic reason =>
      match ← self.drop (some reason) with
      | none => return none
      | some _ => return some (.panic reason)

/-- `?` where the filesystem is in scope. -/
def orDropFilesystem {α : Type} (x : Outcome MountError α) (k : α → Sys Start) : Sys Start :=
  match x with
  | .ok a => k a
  | .err e => do
      sys .dropFilesystem
      return some (.err e)
  | .panic reason => do
      sys .dropFilesystem
      return some (.panic reason)

end Started

/-- `Session::new`. -/
def Started.new (backend : Backend) (env : HandshakeEnv) (mountpoint : OsStr)
    (options : List MountOption) (acl : SessionACL) : Sys Started.Start :=
  orDropFilesystem ((checkOptionConflicts options).mapErr .option) fun () => do
    if options.contains .autoUnmount ∧ acl = .owner then
      sys .dropFilesystem
      return some
        (.err (.io (.new .invalidInput "auto_unmount requires acl != Owner, got: Owner")))
    else
      let made ← Mount.new backend mountpoint options acl
      orDropFilesystem made fun (file, mount) => do
        sys .hold
        let sessionOwner ← sys .geteuid
        Started.handshake ⟨file, some mount, .new acl sessionOwner options⟩ env

/-- `Session::from_fd`. -/
def Started.fromFd (env : HandshakeEnv) (fd : Nat) (acl : SessionACL)
    (options : List MountOption) : Sys Started.Start := do
  sys .hold
  let sessionOwner ← sys .geteuid
  Started.handshake ⟨fd, none, .new acl sessionOwner options⟩ env

/-! What the calls take and give -/

inductive Resource where
  /-- The filesystem, while it is not a session's. -/
  | filesystem
  /-- A `FilesystemHolder` with its filesystem, which `destroy` is due for. -/
  | holder
  /-- One reference to the device. -/
  | device (fd : Nat)
  | file (fd : Nat)
  /-- The handle of a helper. Dropping it neither waits for the helper nor ends it. -/
  | child (pid : Nat)
  | fuseSession (session : Nat)
  /-- A mount of the filesystem that is still to be undone. -/
  | mount
  deriving DecidableEq

def ControlMessage.fds : ControlMessage → List Int
  | .scmRights fds => fds
  | .other _ => []

def RecvMsg.fds (msg : RecvMsg) : List Int :=
  match msg.cmsgs with
  | .ok cmsgs => cmsgs.flatMap ControlMessage.fds
  | .error _ => []

/-- The helper sends one message, with the device and no more if it has mounted the
filesystem; the device may be missing when the message arrives. -/
def RecvMsg.OfHelper (msg : RecvMsg) : Prop :=
  msg.fds = [] ∨ msg.bytes ≠ 0 ∧ ∃ fd : Nat, msg.cmsgs = .ok [.scmRights [(fd : Int)]]

/-- What is known of the answers: of those that fusermount sends, and of the paths that the
system resolves, which hold no NUL. -/
def Documented : (c : Call) → c.Answer → Prop
  | .recvmsg _, .ok msg => msg.OfHelper
  | .canonicalize _, .ok path => 0 ∉ path
  | _, _ => True

/-- The answers after which a mount stays behind, or may. The device that a helper sent did
not arrive, or the helper could not be followed to its end, so that its mount is not known
of; something failed that comes after the mount was made; or nobody undid it: the poll
failed or found the connection dead, the kernel did not unmount, there was no helper to do
it or the helper failed, or it was left to libfuse, which does not say what it did. -/
def Mishap : (c : Call) → c.Answer → Prop
  | .recvmsg _, .error err => err ≠ .eintr
  | .recvmsg _, .ok msg => msg.bytes ≠ 0 ∧ msg.fds = []
  | .waitWithOutput _, .error _ => True
  | .fuseSessionFd _, fd => fd < 0
  | .dup _, .error _ => True
  | .poll _, .error err => err ≠ .eintr
  | .poll _, .ready pollerr => pollerr = true
  | .umount2 _, .error err => err ≠ .eperm
  | .fusermountPath, path => path = some none
  | .probe bin, started => started = false ∧ FusePure.candidates.getLast? = some bin
  | .output _ _ _, .error _ => True
  | .output _ _ none, .ok output => output.success = false
  | .fuseSessionUnmount _, _ => True
  | _, _ => False

/-- The answers that make what is being dropped panic. -/
def Panics : (c : Call) → c.Answer → Prop
  | .destroy, panicked => panicked ≠ none
  | .poll _, .error err => err ≠ .eintr
  | .fusermountPath, path => path = some none
  | _, _ => False

/-- The calls that only things that are owned are passed to. -/
def Call.needs : Call → Multiset Resource
  | .fileMode fd | .spawn _ _ fd | .recvmsg fd => {.file fd}
  | .cloneDevice fd | .setCloexec fd | .poll fd | .mount fd _ => {.device fd}
  | .output _ _ device => (device.map Resource.device).elim 0 ({·})
  | .readPipes child => {.child child}
  | .fuseSessionMount session _ | .fuseSessionFd session | .fuseSessionUnmount session =>
      {.fuseSession session}
  | .handshake fd _ _ => {.holder} + {.device fd}
  | _ => 0

/-- The mount is taken by who says that it undid it. -/
def Call.takes : (c : Call) → c.Answer → Multiset Resource
  | .close fd, _ => {.file fd}
  | .dropDevice fd, _ => {.device fd}
  | .umount2 _, .ok () => {.mount}
  | .output _ _ none, .ok done => if done.success then {.mount} else 0
  | .waitWithOutput child, _ | .dropChild child, _ => {.child child}
  | .fuseSessionDestroy session, _ => {.fuseSession session}
  | .hold, _ | .dropFilesystem, _ => {.filesystem}
  | .destroy, _ => {.holder}
  | _, _ => 0

/-- The device is sent for a filesystem that was mounted. Where it did not arrive with what
was sent, the mount counts all the same. -/
def RecvMsg.gives (msg : RecvMsg) : Multiset Resource :=
  match msg.fds with
  | [] => if msg.bytes = 0 then 0 else {.mount}
  | fd :: _ => {.device fd.toNat} + {.mount}

/-- A mount that may have been made counts as one. -/
def Call.gives : (c : Call) → c.Answer → Multiset Resource
  | .openFile _, .ok fd => {.file fd}
  | .openDevice, .ok fd | .dup _, .ok fd => {.device fd}
  | .cloneDevice fd, _ => {.device fd}
  | .mount _ _, .ok () => {.mount}
  | .socketPair, .ok (child, receive) => {.file child} + {.file receive}
  | .spawn _ _ _, .ok child => {.child child}
  | .recvmsg _, .error err => if err = .eintr then 0 else {.mount}
  | .recvmsg _, .ok msg => msg.gives
  | .output _ _ (some _), .error _ => {.mount}
  | .output _ _ (some _), .ok done => if done.success then {.mount} else 0
  | .fuseMountCompat25 _ _, fd => if 0 ≤ fd then {.device fd.toNat} + {.mount} else 0
  | .fuseSessionNew _, session => if session ≠ 0 then {.fuseSession session} else 0
  | .fuseSessionMount _ _, result => if result = 0 then {.mount} else 0
  | .hold, _ => {.holder}
  | .destroy, _ => {.filesystem}
  | _, _ => 0

/-- What is owned, with or without mishaps, and with or without panics. -/
def resources (calm steady : Prop) : Ownership Call Call.Answer Resource where
  allows c x := Documented c x ∧ (calm → ¬ Mishap c x) ∧ (steady → ¬ Panics c x)
  needs := Call.needs
  takes := Call.takes
  gives := Call.gives

def socketOwns : Option Nat → Multiset Resource
  | none => 0
  | some socket => {.file socket}

def MountImpl.owns : MountImpl → Multiset Resource
  | .pure _ socket => socketOwns socket
  | .fuse2 _ => 0
  | .fuse3 fuseSession _ => if fuseSession = 0 then 0 else {.fuseSession fuseSession}

/-- The implementation is there for as long as the mount is to be undone. -/
def Mount.owns (self : Mount) : Multiset Resource :=
  {.device self.fuseDevice} + self.mountImpl.elim 0 fun mount => {.mount} + mount.owns

def Started.owns (self : Started) : Multiset Resource :=
  (if self.session.filesystemPresent then {.holder} else 0) + {.device self.ch} +
    self.mount.elim 0 Mount.owns

/-- The session of libfuse is there until it is unmounted. -/
def MountImpl.Whole : MountImpl → Prop
  | .fuse3 fuseSession _ => fuseSession ≠ 0
  | .pure _ _ | .fuse2 _ => True

def Mount.Whole (self : Mount) : Prop := ∀ mount, self.mountImpl = some mount → mount.Whole

/-- What is left when all went well, or when something went wrong that is no fault here. -/
def Left (calm : Prop) (held : Multiset Resource) : Prop :=
  held = 0 ∨ ¬ calm ∧ held = {.mount}

/-- What a function returns, and what is owned then. -/
def Made {α : Type} (calm : Prop) (Q : α → Multiset Resource → Prop) :
    Outcome MountError α → Multiset Resource → Prop
  | .ok a, held => Q a held
  | .err _, held | .panic _, held => Left calm held

section Owns

variable {calm steady : Prop}

theorem left_zero : Left calm 0 := .inl rfl

theorem made_of_left {α : Type} {Q : α → Multiset Resource → Prop} {x : Outcome MountError α}
    {held : Multiset Resource} (hx : ∀ a, x ≠ .ok a) (h : Left calm held) : Made calm Q x held := by
  cases x with
  | ok a => exact absurd rfl (hx a)
  | err e => exact h
  | panic reason => exact h

/-- A result is passed on with `?` where nothing else is in scope. -/
theorem owns_orLeave_pure {α β : Type} {Q : α → Multiset Resource → Prop}
    {Q' : β → Multiset Resource → Prop} {x : Outcome MountError α}
    {k : α → Sys (Outcome MountError β)} {held : Multiset Resource} (hx : Made calm Q x held)
    (hk : ∀ a, Q a held → (resources calm steady).Owns (k a) held (Made calm Q')) :
    (resources calm steady).Owns (.orLeave x (return ()) k) held (Made calm Q') := by
  cases x with
  | ok a => exact hk a hx
  | err e => exact Ownership.owns_pure (made_of_left (by simp) hx)
  | panic reason => exact Ownership.owns_pure (made_of_left (by simp) hx)

/-- A call that takes nothing, and may give something. -/
theorem owns_ask {α : Type} {c : Call} {f : c.Answer → Sys α} {held : Multiset Resource}
    {Q : α → Multiset Resource → Prop} (hneeds : c.needs ≤ held) (htakes : ∀ x, c.takes x = 0)
    (h : ∀ x, Documented c x → (calm → ¬ Mishap c x) →
      ∃ held', held' = c.gives x + held ∧ (resources calm steady).Owns (f x) held' Q) :
    (resources calm steady).Owns (sys c >>= f) held Q := by
  refine Ownership.owns_send_bind hneeds fun x hx => ?_
  obtain ⟨held', rfl, hrest⟩ := h x hx.1 hx.2.1
  exact ⟨held, (congrArg (held = · + held) (htakes x)).mpr (zero_add held).symm, hrest⟩

/-- A call by which one thing is dropped. -/
theorem owns_drop (c : Call) {own : Multiset Resource} (held : Multiset Resource)
    (hneeds : c.needs = 0) (htakes : ∀ x, c.takes x = own) (hgives : ∀ x, c.gives x = 0) :
    (resources calm steady).Owns (sys c) (own + held) fun _ held' => held' = held := by
  refine Ownership.owns_send ?_ fun x _ => ⟨held, ?_, ?_⟩
  · exact (congrArg (· ≤ own + held) hneeds).mpr (Multiset.zero_le _)
  · exact (congrArg (own + held = · + held) (htakes x)).mpr rfl
  · exact (congrArg (· + held = held) (hgives x)).mpr (zero_add held)

/-- The same for what follows the call. -/
theorem owns_drop_bind {α : Type} {c : Call} {f : c.Answer → Sys α} {held : Multiset Resource}
    (own others : Multiset Resource) {Q : α → Multiset Resource → Prop} (hneeds : c.needs = 0)
    (htakes : ∀ x, c.takes x = own) (hgives : ∀ x, c.gives x = 0) (hheld : held = own + others)
    (h : ∀ x, (calm → ¬ Mishap c x) → (resources calm steady).Owns (f x) others Q) :
    (resources calm steady).Owns (sys c >>= f) held Q := by
  subst hheld
  refine Ownership.owns_send_bind ?_ fun x hx => ⟨others, ?_, ?_⟩
  · exact (congrArg (· ≤ own + others) hneeds).mpr (Multiset.zero_le _)
  · exact (congrArg (own + others = · + others) (htakes x)).mpr rfl
  · have hzero : (resources calm steady).gives c x + others = others :=
      (congrArg (· + others = others) (hgives x)).mpr (zero_add others)
    rw [hzero]
    exact h x hx.2.1

theorem owns_closeSocket (socket : Option Nat) :
    (resources calm steady).Owns (closeSocket socket) (socketOwns socket)
      fun _ held => held = 0 := by
  cases socket with
  | none => exact Ownership.owns_pure rfl
  | some socket =>
      exact owns_drop (.close socket) 0 rfl (fun _ => rfl) fun _ => rfl

theorem owns_dropImpl (mount : MountImpl) :
    (resources calm steady).Owns mount.drop mount.owns fun _ held => held = 0 := by
  cases mount with
  | pure _ socket => exact owns_closeSocket socket
  | fuse2 _ => exact Ownership.owns_pure rfl
  | fuse3 fuseSession _ =>
      rw [MountImpl.drop, MountImpl.owns]
      split
      · exact Ownership.owns_pure rfl
      · exact owns_drop (.fuseSessionDestroy fuseSession) 0 rfl (fun _ => rfl)
          fun _ => rfl

/-- The poll changes nothing, but the mount is left alone unless it finds the connection
alive. -/
theorem owns_isMounted (fd : Nat) (held : Multiset Resource) :
    (resources calm steady).Owns (isMounted fd) ({.device fd} + held) fun alive held' =>
      held' = {.device fd} + held ∧
        (alive = .ok true ∨ ¬ calm ∧ (alive = .ok false ∨
          ∃ reason, alive = .panic reason ∧ ¬ steady)) := by
  have hneeds : Call.needs (.poll fd) ≤ ({.device fd} : Multiset Resource) + held :=
    Multiset.le_add_right _ _
  intro x ⟨_, hcalm, hsteady⟩
  have hstep (htakes : Call.takes (.poll fd) x = 0) :
      (resources calm steady).monitor.step ({.device fd} + held) (.poll fd) x
        ({.device fd} + held) :=
    ⟨hneeds, _, (congrArg (_ = · + _) htakes).mpr (zero_add _).symm, (zero_add _).symm⟩
  refine ⟨fun _ => hstep rfl, fun hanswered => ⟨_, hstep rfl, ?_⟩⟩
  cases x with
  | quiet => exact ⟨rfl, .inl rfl⟩
  | ready pollerr =>
      cases pollerr with
      | true => exact ⟨rfl, .inr ⟨fun h => hcalm h rfl, .inl rfl⟩⟩
      | false => exact ⟨rfl, .inl rfl⟩
  | error err =>
      have herr : err ≠ .eintr := by simpa using hanswered
      exact ⟨rfl, .inr ⟨fun h => hcalm h herr, .inr ⟨_, rfl, fun h => hsteady h herr⟩⟩⟩

/-- The kernel unmounts, or leaves it to somebody else. -/
theorem owns_libcUmount (mnt : OsStr) (held : Multiset Resource) :
    (resources calm steady).Owns (libcUmount mnt) ({.mount} + held) fun x held' =>
      (x = .ok () ∧ held' = held) ∨
        ∃ err, x = .error err ∧ held' = {.mount} + held ∧ (err = .eperm ∨ ¬ calm) := by
  intro x ⟨_, hcalm, _⟩
  match x with
  | .ok () =>
      exact ⟨held, ⟨Multiset.zero_le _, held, rfl, (zero_add _).symm⟩, .inl ⟨rfl, rfl⟩⟩
  | .error err =>
      refine ⟨{.mount} + held, ⟨Multiset.zero_le _, _, (zero_add _).symm, (zero_add _).symm⟩,
        .inr ⟨err, rfl, rfl, ?_⟩⟩
      by_cases h : err = .eperm
      · exact .inl h
      · exact .inr fun hc => hcalm hc h

/-- Not to find any of the candidates is a mishap. -/
theorem owns_firstToStart {names : List String} (hne : names ≠ [])
    (hlast : names.getLast? = FusePure.candidates.getLast?) (held : Multiset Resource) :
    (resources calm steady).Owns (FusePure.firstToStart names) held fun name held' =>
      held' = held ∧ (name = none → ¬ calm) := by
  induction names with
  | nil => exact absurd rfl hne
  | cons name names ih =>
      refine owns_ask (Multiset.zero_le _) (fun _ => rfl) fun started _ hcalm =>
        ⟨_, (zero_add _).symm, ?_⟩
      cases started with
      | true => exact Ownership.owns_pure ⟨rfl, by simp⟩
      | false =>
          cases names with
          | nil => exact Ownership.owns_pure ⟨rfl, fun _ h => hcalm h ⟨rfl, hlast.symm⟩⟩
          | cons name' names => exact ih (by simp) hlast

theorem owns_detectFusermountBin (held : Multiset Resource) :
    (resources calm steady).Owns FusePure.detectFusermountBin held fun bin held' =>
      held' = held ∧ ((∃ name, bin = .ok name) ∨ ¬ calm) ∧ (steady → bin.Returns) := by
  intro path ⟨_, hcalm, hsteady⟩
  refine ⟨held, ⟨Multiset.zero_le _, held, (zero_add _).symm, (zero_add _).symm⟩, ?_⟩
  match path with
  | some (some _) => exact Ownership.owns_pure ⟨rfl, .inl ⟨_, rfl⟩, by simp⟩
  | some none =>
      exact Ownership.owns_pure ⟨rfl, .inr fun h => hcalm h rfl, fun h => absurd rfl (hsteady h)⟩
  | none =>
      refine (owns_firstToStart (by simp [FusePure.candidates]) rfl _).bind ?_
      rintro name held' ⟨rfl, hnone⟩
      cases name with
      | none => exact Ownership.owns_pure ⟨rfl, .inr (hnone rfl), by simp⟩
      | some name => exact Ownership.owns_pure ⟨rfl, .inl ⟨_, rfl⟩, by simp⟩

/-- What an attempt to unmount leaves: the mount only after a mishap. -/
def Attempted (calm steady : Prop) (others : Multiset Resource) (result : Outcome MountError Unit)
    (held : Multiset Resource) : Prop :=
  (∃ left, Left calm left ∧ held = left + others) ∧ (steady → result.Returns)

theorem attempted_undone {others : Multiset Resource} {result : Outcome MountError Unit}
    (h : result.Returns) : Attempted calm steady others result others :=
  ⟨⟨0, left_zero, (zero_add _).symm⟩, fun _ => h⟩

theorem attempted_mishap {others : Multiset Resource} {result : Outcome MountError Unit}
    (hcalm : ¬ calm) (h : steady → result.Returns) :
    Attempted calm steady others result ({.mount} + others) :=
  ⟨⟨{.mount}, .inr ⟨hcalm, rfl⟩, rfl⟩, h⟩

theorem owns_fusermountUnmount (bin : String) (mnt : OsStr) (held : Multiset Resource) :
    (resources calm steady).Owns (fusermountUnmount bin mnt) ({.mount} + held)
      (Attempted calm steady held) := by
  intro done ⟨_, hcalm, _⟩
  have hkept {result : Outcome MountError Unit}
      (htakes : Call.takes (.output bin (umountArgs mnt) none) done = 0)
      (hmishap : Mishap (.output bin (umountArgs mnt) none) done) (h : result.Returns) :
      ∃ held', (resources calm steady).monitor.step ({.mount} + held)
          (.output bin (umountArgs mnt) none) done held' ∧
        Attempted calm steady held result held' :=
    ⟨_, ⟨Multiset.zero_le _, _, (congrArg (_ = · + _) htakes).mpr (zero_add _).symm,
      (zero_add _).symm⟩, attempted_mishap (fun h => hcalm h hmishap) fun _ => h⟩
  cases done with
  | error err => exact hkept rfl True.intro (by simp)
  | ok output =>
      cases hsuccess : output.success with
      | true =>
          have htakes : Call.takes (.output bin (umountArgs mnt) none) (.ok output) = {.mount} :=
            if_pos hsuccess
          refine ⟨held, ⟨Multiset.zero_le _, held, (congrArg (_ = · + _) htakes).mpr rfl,
            (zero_add _).symm⟩, ?_⟩
          change Ownership.Owns _ (if output.success then _ else _) _ _
          rw [if_pos hsuccess]
          exact Ownership.owns_pure (attempted_undone (by simp))
      | false =>
          have htakes : Call.takes (.output bin (umountArgs mnt) none) (.ok output) = 0 :=
            if_neg (by simp [hsuccess])
          have hreturns : (.err (.unmount output) : Outcome MountError Unit).Returns := by simp
          obtain ⟨held', hstep, hattempted⟩ := hkept htakes hsuccess hreturns
          refine ⟨held', hstep, ?_⟩
          change Ownership.Owns _ (if output.success then _ else _) _ _
          rw [if_neg (by simp [hsuccess])]
          exact Ownership.owns_pure hattempted

theorem owns_umountNow (mountpoint : OsStr) (held : Multiset Resource) :
    (resources calm steady).Owns (FusePure.umountNow mountpoint) ({.mount} + held)
      (Attempted calm steady held) := by
  refine (owns_libcUmount _ _).bind ?_
  rintro x _ (⟨rfl, rfl⟩ | ⟨err, rfl, rfl, herr⟩)
  · exact Ownership.owns_pure (attempted_undone (by simp))
  · change Ownership.Owns _ (if err = .eperm then _ else _) _ _
    split
    · refine (owns_detectFusermountBin _).bind ?_
      rintro bin _ ⟨rfl, hbin, hreturns⟩
      cases bin with
      | ok bin => exact owns_fusermountUnmount bin mountpoint _
      | err e => exact Ownership.owns_pure (attempted_mishap (by simpa using hbin) (by simp))
      | panic reason =>
          exact Ownership.owns_pure
            (attempted_mishap (by simpa using hbin) (by simpa using hreturns))
    next hne => exact Ownership.owns_pure (attempted_mishap (herr.resolve_left hne) (by simp))

theorem owns_umountImpl {mount : MountImpl} (hwhole : mount.Whole) :
    (resources calm steady).Owns mount.umountImpl ({.mount} + mount.owns) fun done held =>
      Attempted calm steady done.2.owns done.1 held := by
  cases mount with
  | pure mountpoint socket =>
      refine (owns_umountNow mountpoint (socketOwns socket)).bind ?_
      rintro result _ ⟨⟨left, hleft, rfl⟩, hreturns⟩
      have hclose : (resources calm steady).Owns
          (do closeSocket socket; return (result, .pure mountpoint none))
          (left + socketOwns socket) fun (done : Outcome MountError Unit × MountImpl) held =>
            Attempted calm steady done.2.owns done.1 held := by
        refine (owns_closeSocket socket).frame_bind (add_comm _ _) fun _ held hheld => ?_
        subst hheld
        exact Ownership.owns_pure ⟨⟨left, hleft, add_comm _ _⟩, hreturns⟩
      cases result with
      | panic reason => exact Ownership.owns_pure ⟨⟨left, hleft, rfl⟩, hreturns⟩
      | ok value => exact hclose
      | err e => exact hclose
  | fuse2 mountpoint =>
      refine (owns_libcUmount _ _).bind ?_
      rintro x _ (⟨rfl, rfl⟩ | ⟨err, rfl, rfl, herr⟩)
      · exact Ownership.owns_pure (attempted_undone (by simp))
      · change Ownership.Owns _ (if err = .eperm then _ else _) _ _
        split
        · exact (owns_fusermountUnmount _ _ _).bind fun _ held hheld => Ownership.owns_pure hheld
        next hne => exact Ownership.owns_pure (attempted_mishap (herr.resolve_left hne) (by simp))
  | fuse3 fuseSession mountpoint =>
      refine (owns_libcUmount _ _).bind ?_
      rintro x _ (⟨rfl, rfl⟩ | ⟨err, rfl, rfl, herr⟩)
      · exact Ownership.owns_pure (attempted_undone (by simp))
      · change Ownership.Owns _ (if err = .eperm then _ else _) _ _
        split
        · have hown : (MountImpl.fuse3 fuseSession mountpoint).owns =
              ({.fuseSession fuseSession} : Multiset Resource) := if_neg hwhole
          rw [hown]
          refine owns_ask (Multiset.le_add_left _ _) (fun _ => rfl) fun _ _ hcalm =>
            ⟨_, (zero_add _).symm, ?_⟩
          refine owns_drop_bind {.fuseSession fuseSession} {.mount} rfl (fun _ => rfl)
            (fun _ => rfl) (add_comm _ _) fun _ _ => ?_
          exact Ownership.owns_pure (attempted_mishap (fun h => hcalm h True.intro) (by simp))
        next hne => exact Ownership.owns_pure (attempted_mishap (herr.resolve_left hne) (by simp))

/-- A teardown leaves the device; the mount only after a mishap. -/
theorem owns_teardown {self : Mount} {mount : MountImpl} (hwhole : mount.Whole) :
    (resources calm steady).Owns (self.teardown mount)
      ({.device self.fuseDevice} + ({.mount} + mount.owns))
      (Attempted calm steady {.device self.fuseDevice}) := by
  have hleave {result : Outcome MountError Unit} (hcalm : ¬ calm) (h : steady → result.Returns) :
      (resources calm steady).Owns (do mount.drop; return result)
        ({.device self.fuseDevice} + ({.mount} + mount.owns))
        (Attempted calm steady {.device self.fuseDevice}) := by
    have hheld : {Resource.device self.fuseDevice} + ({.mount} + mount.owns) =
        mount.owns + ({.mount} + {.device self.fuseDevice}) := by abel
    refine (owns_dropImpl mount).frame_bind hheld fun _ held hheld => ?_
    subst hheld
    rw [zero_add]
    exact Ownership.owns_pure (attempted_mishap hcalm h)
  refine (owns_isMounted self.fuseDevice _).bind ?_
  rintro alive held ⟨rfl, rfl | ⟨hcalm, rfl | ⟨reason, rfl, hsteady⟩⟩⟩
  · refine (owns_umountImpl hwhole).frame_bind (add_comm _ _) ?_
    rintro done _ ⟨⟨left, hleft, rfl⟩, hreturns⟩
    have hheld : left + done.2.owns + {.device self.fuseDevice} =
        done.2.owns + (left + {.device self.fuseDevice}) := by abel
    refine (owns_dropImpl done.2).frame_bind hheld fun _ held hheld => ?_
    subst hheld
    rw [zero_add]
    exact Ownership.owns_pure ⟨⟨left, hleft, rfl⟩, hreturns⟩
  · exact hleave hcalm (by simp)
  · exact hleave hcalm fun h => absurd h hsteady

theorem owns_umount {self : Mount} (hwhole : self.Whole) :
    (resources calm steady).Owns self.umount self.owns fun result held =>
      Left calm held ∧ (steady → result.Returns) := by
  have hdrop {left : Multiset Resource} {result : Outcome MountError Unit} (h : Left calm left)
      (hreturns : steady → result.Returns) :
      (resources calm steady).Owns (do sys (.dropDevice self.fuseDevice); return result)
        (left + {Resource.device self.fuseDevice}) fun result held =>
          Left calm held ∧ (steady → result.Returns) :=
    owns_drop_bind {Resource.device self.fuseDevice} left rfl (fun _ => rfl) (fun _ => rfl)
      (add_comm _ _) fun _ _ => Ownership.owns_pure ⟨h, hreturns⟩
  rw [Mount.umount, Mount.owns]
  cases himpl : self.mountImpl with
  | none =>
      change Ownership.Owns _ _ ({Resource.device self.fuseDevice} + 0) _
      rw [add_comm]
      exact hdrop left_zero (by simp)
  | some mount =>
      refine (owns_teardown (hwhole mount himpl)).bind ?_
      rintro result _ ⟨⟨left, hleft, rfl⟩, hreturns⟩
      exact hdrop hleft hreturns

theorem owns_dropMount {self : Mount} (hwhole : self.Whole) :
    (resources calm steady).Owns self.drop self.owns fun panicked held =>
      Left calm held ∧ (steady → panicked = none) := by
  refine (owns_umount hwhole).bind ?_
  rintro result held ⟨hleft, hreturns⟩
  cases result with
  | ok value => exact Ownership.owns_pure ⟨hleft, fun _ => rfl⟩
  | err e => exact Ownership.owns_pure ⟨hleft, fun _ => rfl⟩
  | panic reason =>
      exact Ownership.owns_pure ⟨hleft, fun h => absurd (hreturns h) (by simp)⟩

/-! What a mount is made of -/

theorem owns_openDevice :
    (resources calm steady).Owns DevFuse.open 0 (Made calm fun fd held => held = {.device fd}) := by
  refine owns_ask le_rfl (fun _ => rfl) fun x _ _ => ?_
  cases x with
  | ok fd => exact ⟨{Resource.device fd}, (add_zero _).symm, Ownership.owns_pure rfl⟩
  | error err => exact ⟨0, rfl, Ownership.owns_pure left_zero⟩

/-- What a helper has mounted. -/
def Helped (made : Nat × Option Nat) (held : Multiset Resource) : Prop :=
  held = {.device made.1} + {.mount} + socketOwns made.2

theorem owns_mountFusefs (bin : String) (mountpoint : OsStr) (options : List MountOption)
    (acl : SessionACL) :
    (resources calm steady).Owns (FusePure.fuseMountMountFusefs bin mountpoint options acl) 0
      (Made calm Helped) := by
  refine owns_openDevice.bind fun device held hheld => ?_
  refine owns_orLeave_pure hheld fun fd hheld => ?_
  subst hheld
  have hdrop {left : Multiset Resource} (hleft : Left calm left) (e : MountError) :
      (resources calm steady).Owns
        (do sys (.dropDevice fd); return .err e : Sys (Outcome MountError (Nat × Option Nat)))
        ({.device fd} + left) (Made calm Helped) :=
    (owns_drop _ _ rfl (fun _ => rfl) fun _ => rfl).bind fun _ held hheld =>
      Ownership.owns_pure (hheld ▸ hleft)
  refine owns_ask le_rfl (fun _ => rfl) fun x _ hcalm => ?_
  cases x with
  | error err =>
      exact ⟨{.device fd} + {.mount}, add_comm _ _,
        hdrop (.inr ⟨fun h => hcalm h True.intro, rfl⟩) _⟩
  | ok done =>
      change ∃ held', held' = (if done.success then _ else _) + _ ∧
        Ownership.Owns _ (if done.success then _ else _) held' _
      split
      · exact ⟨_, rfl, Ownership.owns_pure (by simp [Made, Helped, socketOwns, add_comm])⟩
      · exact ⟨{.device fd} + 0, add_comm _ _, hdrop left_zero _⟩

theorem firstDevice_ne_ok {cmsgs : List ControlMessage}
    (h : cmsgs.flatMap ControlMessage.fds = []) (fd : Nat) :
    FusePure.firstDevice cmsgs ≠ .ok fd := by
  induction cmsgs with
  | nil => simp [FusePure.firstDevice]
  | cons cmsg cmsgs ih =>
      rw [List.flatMap_cons, List.append_eq_nil_iff] at h
      cases cmsg with
      | other description => simp [FusePure.firstDevice]
      | scmRights fds =>
          obtain rfl : fds = [] := h.1
          exact ih h.2

theorem receivedDevice_ne_ok {msg : RecvMsg} (h : msg.fds = []) (fd : Nat) :
    FusePure.receivedDevice msg ≠ .ok fd := by
  rw [FusePure.receivedDevice]
  split
  · simp
  · cases hcmsgs : msg.cmsgs with
    | error e => simp
    | ok cmsgs =>
        rw [RecvMsg.fds, hcmsgs] at h
        exact firstDevice_ne_ok h fd

theorem receivedDevice_eq_ok {msg : RecvMsg} {fd : Nat} (hbytes : msg.bytes ≠ 0)
    (hcmsgs : msg.cmsgs = .ok [.scmRights [(fd : Int)]]) :
    FusePure.receivedDevice msg = .ok fd := by
  rw [FusePure.receivedDevice, if_neg hbytes, hcmsgs]
  change (if (fd : Int) < 0 then _ else _) = _
  rw [if_neg (by omega), Int.toNat_natCast]

/-- What is given by a message without the device. -/
theorem left_gives {msg : RecvMsg} (hfds : msg.fds = [])
    (hcalm : calm → ¬ (msg.bytes ≠ 0 ∧ msg.fds = [])) : Left calm msg.gives := by
  rw [RecvMsg.gives, hfds]
  by_cases hbytes : msg.bytes = 0
  · exact .inl (if_pos hbytes)
  · exact .inr ⟨fun h => hcalm h ⟨hbytes, hfds⟩, if_neg hbytes⟩

/-- The helper has mounted the filesystem if it sends the device, and may have if nothing
comes of what it sends. -/
theorem owns_receive (socket : Nat) (held : Multiset Resource) :
    (resources calm steady).Owns (FusePure.receiveFusermountMessage socket) ({.file socket} + held)
      fun file held' =>
        (∃ fd, file = .ok fd ∧ held' = {.device fd} + {.mount} + ({.file socket} + held)) ∨
          (∀ fd, file ≠ .ok fd) ∧
            ∃ left, Left calm left ∧ held' = left + ({.file socket} + held) := by
  have hneeds : Call.needs (.recvmsg socket) ≤ {.file socket} + held := Multiset.le_add_right _ _
  rintro x ⟨hdocumented, hcalm, -⟩
  cases x with
  | error err =>
      constructor
      · intro hagain
        have herr : err = .eintr := of_decide_eq_true hagain
        exact ⟨hneeds, _, (zero_add _).symm, by simp [resources, Call.gives, herr]⟩
      · intro hanswered
        have herr : err ≠ .eintr := of_decide_eq_false hanswered
        refine ⟨_, ⟨hneeds, _, (zero_add _).symm, rfl⟩, ?_⟩
        exact Ownership.owns_pure
          (.inr ⟨by simp, _, .inr ⟨fun h => hcalm h herr, if_neg herr⟩, rfl⟩)
  | ok msg =>
      refine ⟨by simp, fun _ => ⟨_, ⟨hneeds, _, (zero_add _).symm, rfl⟩, ?_⟩⟩
      refine Ownership.owns_pure ?_
      rcases hdocumented with hnone | ⟨hbytes, fd, hcmsgs⟩
      · exact .inr ⟨receivedDevice_ne_ok hnone, msg.gives, left_gives hnone hcalm, rfl⟩
      · have hfds : msg.fds = [(fd : Int)] := by rw [RecvMsg.fds, hcmsgs]; rfl
        have hgives : msg.gives = {.device fd} + {.mount} := by rw [RecvMsg.gives, hfds]; rfl
        exact .inl ⟨fd, receivedDevice_eq_ok hbytes hcmsgs, hgives ▸ rfl⟩

theorem made_zero {α : Type} (x : Outcome MountError α) :
    Made calm (fun _ held => held = 0) x 0 := by
  cases x with
  | ok a => rfl
  | err e => exact left_zero
  | panic reason => exact left_zero

theorem owns_mountedByFusermount (file receiveSocket child : Nat) (options : List MountOption) :
    (resources calm steady).Owns (FusePure.mountedByFusermount file receiveSocket child options)
      ({.device file} + {.mount} + ({.file receiveSocket} + {.child child}))
      (Made calm Helped) := by
  rw [FusePure.mountedByFusermount]
  split
  · refine owns_ask (Multiset.singleton_le.mpr (by simp)) (fun _ => rfl) fun _ _ _ =>
      ⟨_, (zero_add _).symm, ?_⟩
    refine owns_ask (Multiset.singleton_le.mpr (by simp)) (fun _ => rfl) fun _ _ _ =>
      ⟨_, (zero_add _).symm, ?_⟩
    refine owns_drop_bind {.child child} ({.device file} + {.mount} + {.file receiveSocket}) rfl
      (fun _ => rfl) (fun _ => rfl) (by abel) fun _ _ => ?_
    exact Ownership.owns_pure rfl
  · refine owns_drop_bind {.file receiveSocket} ({.child child} + ({.device file} + {.mount})) rfl
      (fun _ => rfl) (fun _ => rfl) (by abel) fun _ _ => ?_
    refine owns_drop_bind {.child child} ({.device file} + {.mount}) rfl (fun _ => rfl)
      (fun _ => rfl) rfl fun waited hcalm => ?_
    cases waited with
    | error err =>
        exact owns_drop_bind {.device file} {.mount} rfl (fun _ => rfl) (fun _ => rfl) rfl
          fun _ _ => Ownership.owns_pure (.inr ⟨fun h => hcalm h True.intro, rfl⟩)
    | ok output =>
        refine owns_ask (Multiset.singleton_le.mpr (by simp)) (fun _ => rfl) fun _ _ _ =>
          ⟨_, (zero_add _).symm, ?_⟩
        exact Ownership.owns_pure (add_zero _).symm

theorem owns_refusedByFusermount (receiveSocket child : Nat) {left : Multiset Resource}
    (hleft : Left calm left) :
    (resources calm steady).Owns (FusePure.refusedByFusermount receiveSocket child)
      (left + ({.file receiveSocket} + {.child child})) (Made calm Helped) := by
  refine owns_drop_bind {.file receiveSocket} ({.child child} + left) rfl (fun _ => rfl)
    (fun _ => rfl) (by abel) fun _ _ => ?_
  refine owns_drop_bind {.child child} left rfl (fun _ => rfl) (fun _ => rfl) rfl
    fun waited _ => ?_
  cases waited with
  | error err => exact Ownership.owns_pure hleft
  | ok output => exact Ownership.owns_pure hleft

theorem owns_fuseMountFusermount (mountpoint : OsStr) (options : List MountOption)
    (acl : SessionACL) :
    (resources calm steady).Owns (FusePure.fuseMountFusermount mountpoint options acl) 0
      (Made calm Helped) := by
  refine (owns_detectFusermountBin 0).bind ?_
  rintro bin _ ⟨rfl, -⟩
  refine owns_orLeave_pure (made_zero bin) fun bin hheld => ?_
  split
  · exact owns_mountFusefs bin mountpoint options acl
  refine owns_ask le_rfl (fun _ => rfl) fun sockets _ _ => ?_
  cases sockets with
  | error err => exact ⟨0, rfl, Ownership.owns_pure left_zero⟩
  | ok sockets =>
      obtain ⟨childSocket, receiveSocket⟩ := sockets
      refine ⟨{Resource.file childSocket} + {.file receiveSocket}, (add_zero _).symm, ?_⟩
      refine owns_ask (Multiset.le_add_right _ _) (fun _ => rfl) fun started _ _ => ?_
      cases started with
      | error err =>
          refine ⟨_, (zero_add _).symm, ?_⟩
          refine owns_drop_bind {.file receiveSocket} {.file childSocket} rfl (fun _ => rfl)
            (fun _ => rfl) (add_comm _ _) fun _ _ => ?_
          exact owns_drop_bind {.file childSocket} 0 rfl (fun _ => rfl) (fun _ => rfl) rfl
            fun _ _ => Ownership.owns_pure left_zero
      | ok child =>
          refine ⟨{Resource.child child} + ({.file childSocket} + {.file receiveSocket}), rfl, ?_⟩
          refine owns_drop_bind {.file childSocket} ({.file receiveSocket} + {.child child}) rfl
            (fun _ => rfl) (fun _ => rfl) (by abel) fun _ _ => ?_
          refine (owns_receive receiveSocket {.child child}).bind ?_
          rintro file _ (⟨fd, rfl, rfl⟩ | ⟨hfile, left, hleft, rfl⟩)
          · exact owns_mountedByFusermount fd receiveSocket child options
          · cases file with
            | ok fd => exact absurd rfl (hfile fd)
            | err e => exact owns_refusedByFusermount receiveSocket child hleft
            | panic reason => exact owns_refusedByFusermount receiveSocket child hleft

/-- What mount(2) has mounted, unless it is left to the helper. -/
def Mounted : Option Nat → Multiset Resource → Prop
  | some file, held => held = {.device file} + {.mount}
  | none, held => held = 0

theorem owns_fuseMountSys (mountpoint : OsStr) (options : List MountOption) (acl : SessionACL) :
    (resources calm steady).Owns (FusePure.fuseMountSys mountpoint options acl) 0
      (Made calm Mounted) := by
  refine owns_ask le_rfl (fun _ => rfl) fun dir _ _ => ?_
  cases dir with
  | error err => exact ⟨0, rfl, Ownership.owns_pure left_zero⟩
  | ok dir =>
      refine ⟨{Resource.file dir}, (add_zero _).symm, ?_⟩
      refine owns_ask le_rfl (fun _ => rfl) fun mode _ _ => ⟨_, (zero_add _).symm, ?_⟩
      refine owns_drop_bind {.file dir} 0 rfl (fun _ => rfl) (fun _ => rfl) rfl fun _ _ => ?_
      cases mode with
      | error err => exact Ownership.owns_pure left_zero
      | ok mode =>
          change Ownership.Owns _ (if _ then _ else _) _ _
          split
          · exact Ownership.owns_pure left_zero
          refine owns_openDevice.bind fun file held hheld => ?_
          refine owns_orLeave_pure hheld fun fd hheld => ?_
          subst hheld
          refine owns_ask (Multiset.zero_le _) (fun _ => rfl) fun uid _ _ =>
            ⟨_, (zero_add _).symm, ?_⟩
          refine owns_ask (Multiset.zero_le _) (fun _ => rfl) fun gid _ _ =>
            ⟨_, (zero_add _).symm, ?_⟩
          refine Ownership.owns_orLeave (fun call _ => ?_) fun _ => ?_
          · refine owns_ask le_rfl (fun _ => rfl) fun mounted _ _ => ?_
            cases mounted with
            | ok value => exact ⟨_, rfl, Ownership.owns_pure (add_comm _ _)⟩
            | error err =>
                refine ⟨_, (zero_add _).symm, ?_⟩
                refine owns_drop_bind {.device fd} 0 rfl (fun _ => rfl) (fun _ => rfl) rfl
                  fun _ _ => ?_
                change Ownership.Owns _ (if _ then _ else _) _ _
                split
                · exact Ownership.owns_pure rfl
                · exact Ownership.owns_pure left_zero
          · refine (owns_drop (.dropDevice fd) 0 rfl (fun _ => rfl)
              fun _ => rfl).imp ?_
            intro _ held hheld y hy
            exact made_of_left hy (.inl hheld)

theorem owns_fuseMountPure (mountpoint : OsStr) (options : List MountOption) (acl : SessionACL) :
    (resources calm steady).Owns (FusePure.fuseMountPure mountpoint options acl) 0
      (Made calm Helped) := by
  rw [FusePure.fuseMountPure]
  split
  · exact owns_fuseMountFusermount mountpoint options acl
  · refine (owns_fuseMountSys mountpoint options acl).bind fun mounted held hheld => ?_
    refine owns_orLeave_pure hheld fun mounted hheld => ?_
    cases mounted with
    | some file => exact Ownership.owns_pure (by rw [hheld]; exact (add_zero _).symm)
    | none =>
        rw [hheld]
        exact owns_fuseMountFusermount mountpoint options acl

/-- What the implementation of a new mount owns, with the device. -/
def Fresh (made : Nat × MountImpl) (held : Multiset Resource) : Prop :=
  held = {.device made.1} + {.mount} + made.2.owns ∧ made.2.Whole

theorem owns_newPure (mountpoint : OsStr) (options : List MountOption) (acl : SessionACL) :
    (resources calm steady).Owns (FusePure.new mountpoint options acl) 0 (Made calm Fresh) := by
  refine owns_ask le_rfl (fun _ => rfl) fun resolved hresolved _ => ?_
  cases resolved with
  | error err => exact ⟨0, rfl, Ownership.owns_pure left_zero⟩
  | ok path =>
      refine ⟨0, rfl, ?_⟩
      refine (owns_fuseMountPure path options acl).bind fun mounted held hheld => ?_
      refine owns_orLeave_pure hheld fun made hheld => ?_
      have hpath : ¬ path.contains 0 := fun h => hresolved (List.contains_iff_mem.mp h)
      change Ownership.Owns _ (if _ then _ else _) _ _
      rw [if_neg hpath]
      exact Ownership.owns_pure ⟨hheld, True.intro⟩

/-- A call to libfuse gives what its result says, whether or not it is taken for a success. -/
theorem owns_libfuseCall {function : String} (c : Call) {succeeded : c.Answer → Bool}
    (held : Multiset Resource) (hneeds : c.needs ≤ held) (htakes : ∀ x, c.takes x = 0) :
    (resources calm steady).Owns (libfuseCall function c succeeded) held fun result held' =>
      ∃ x, (calm → ¬ Mishap c x) ∧ held' = c.gives x + held ∧
        ((succeeded x = true ∧ result = .ok x) ∨
          (succeeded x = false ∧ ∀ y, result ≠ .ok y)) := by
  refine owns_ask (Multiset.zero_le _) (fun _ => rfl) fun _ _ _ => ⟨_, (zero_add _).symm, ?_⟩
  refine owns_ask hneeds htakes fun x _ hcalm => ⟨_, rfl, ?_⟩
  change Ownership.Owns _ (if _ then _ else _) _ _
  split
  next hsucceeded => exact Ownership.owns_pure ⟨x, hcalm, rfl, .inl ⟨hsucceeded, rfl⟩⟩
  next hsucceeded =>
    refine owns_ask (Multiset.zero_le _) (fun _ => rfl) fun _ _ _ => ⟨_, (zero_add _).symm, ?_⟩
    rw [Bool.not_eq_true] at hsucceeded
    exact Ownership.owns_pure ⟨x, hcalm, rfl, .inr ⟨hsucceeded, by simp⟩⟩

theorem owns_newFuse2 (mountpoint : OsStr) (options : List MountOption) (acl : SessionACL) :
    (resources calm steady).Owns (Fuse2.new mountpoint options acl) 0 (Made calm Fresh) := by
  refine owns_orLeave_pure (made_zero _) fun path hheld => ?_
  refine owns_orLeave_pure (made_zero _) fun args hheld => ?_
  refine (owns_libfuseCall (.fuseMountCompat25 path args) 0 le_rfl fun _ => rfl).bind ?_
  rintro fd _ ⟨x, -, rfl, ⟨hx, rfl⟩ | ⟨hx, hfd⟩⟩
  · refine Ownership.owns_pure ⟨?_, True.intro⟩
    change (if (0 : Int) ≤ x then _ else _) + _ = _
    rw [if_pos (of_decide_eq_true hx)]
    rfl
  · have hleft : Left calm (Call.gives (.fuseMountCompat25 path args) x + 0) := by
      change Left calm ((if (0 : Int) ≤ x then _ else _) + _)
      rw [if_neg (of_decide_eq_false hx)]
      exact left_zero
    exact owns_orLeave_pure (Q := fun _ _ => False) (made_of_left hfd hleft) fun _ h => h.elim

/-- The session is destroyed on every way out but one, and then the implementation has it. -/
theorem owns_mountSession {fuseSession : Nat} (hsession : fuseSession ≠ 0) (mnt : OsStr) :
    (resources calm steady).Owns (Fuse3.mountSession fuseSession mnt (.fuse3 fuseSession mnt))
      {.fuseSession fuseSession} (Made calm Fresh) := by
  have hown : (MountImpl.fuse3 fuseSession mnt).owns = {.fuseSession fuseSession} :=
    if_neg hsession
  -- giving up with the mount made or not made
  have hdrop {α : Type} {Q : α → Multiset Resource → Prop} {left : Multiset Resource}
      (hleft : Left calm left) :
      (resources calm steady).Owns (MountImpl.fuse3 fuseSession mnt).drop
        ({.fuseSession fuseSession} + left) fun _ held =>
          ∀ y : Outcome MountError α, (∀ a, y ≠ .ok a) → Made calm Q y held := by
    rw [← hown]
    refine ((owns_dropImpl _).frame left).imp ?_
    rintro _ _ ⟨_, rfl, rfl⟩ y hy
    rw [zero_add]
    exact made_of_left hy hleft
  refine (owns_libfuseCall (.fuseSessionMount fuseSession mnt) _ le_rfl fun _ => rfl).bind ?_
  rintro mounted _ ⟨x, -, rfl, hmounted⟩
  have hgives : Call.gives (.fuseSessionMount fuseSession mnt) x = if x = 0 then {.mount} else 0 :=
    rfl
  refine Ownership.owns_orLeave (fun result hresult => ?_) fun hne => ?_
  · have hx : x = 0 := by
      rcases hmounted with ⟨hx, -⟩ | ⟨-, hfail⟩
      · exact of_decide_eq_true hx
      · exact absurd hresult (hfail result)
    rw [hgives, if_pos hx]
    have hneeds : Call.needs (.fuseSessionFd fuseSession) ≤
        ({.mount} + {.fuseSession fuseSession} : Multiset Resource) := Multiset.le_add_left _ _
    refine (owns_libfuseCall (.fuseSessionFd fuseSession) _ hneeds fun _ => rfl).bind ?_
    rintro fd _ ⟨y, hcalm, rfl, hfd⟩
    rw [show Call.gives (.fuseSessionFd fuseSession) y = 0 from rfl, zero_add]
    refine Ownership.owns_orLeave (fun fd _ => ?_) fun hne => ?_
    · refine owns_ask (Multiset.zero_le _) (fun _ => rfl) fun file _ hcalm => ?_
      cases file with
      | ok file =>
          refine ⟨{Resource.device file} + ({.mount} + {.fuseSession fuseSession}), rfl, ?_⟩
          exact Ownership.owns_pure ⟨by rw [hown, add_assoc], hsession⟩
      | error err =>
          have hleft : Left calm {.mount} := .inr ⟨fun h => hcalm h True.intro, rfl⟩
          refine ⟨{Resource.fuseSession fuseSession} + {.mount}, add_comm _ _, ?_⟩
          exact (hdrop hleft).bind fun _ held hheld => Ownership.owns_pure (hheld _ (by simp))
    · have hy : y < 0 := by
        rcases hfd with ⟨-, hok⟩ | ⟨hy, -⟩
        · exact absurd hok (hne y)
        · exact not_le.mp (of_decide_eq_false hy)
      rw [add_comm]
      exact hdrop (.inr ⟨fun h => hcalm h hy, rfl⟩)
  · have hx : x ≠ 0 := by
      rcases hmounted with ⟨-, hok⟩ | ⟨hx, -⟩
      · exact absurd hok (hne x)
      · exact of_decide_eq_false hx
    rw [hgives, if_neg hx, add_comm]
    exact hdrop left_zero

theorem owns_newFuse3 (mountpoint : OsStr) (options : List MountOption) (acl : SessionACL) :
    (resources calm steady).Owns (Fuse3.new mountpoint options acl) 0 (Made calm Fresh) := by
  refine owns_orLeave_pure (made_zero _) fun path hheld => ?_
  refine owns_orLeave_pure (made_zero _) fun args hheld => ?_
  refine (owns_libfuseCall (.fuseSessionNew args) 0 le_rfl fun _ => rfl).bind ?_
  rintro session _ ⟨x, -, rfl, hsession⟩
  have hgives : Call.gives (.fuseSessionNew args) x = if x ≠ 0 then {.fuseSession x} else 0 := rfl
  rcases hsession with ⟨hx, rfl⟩ | ⟨hx, hne⟩
  · have hx : x ≠ 0 := of_decide_eq_true hx
    rw [hgives, if_pos hx, add_zero]
    exact owns_mountSession hx path
  · have hx : ¬ x ≠ 0 := of_decide_eq_false hx
    rw [hgives, if_neg hx, add_zero]
    exact owns_orLeave_pure (Q := fun _ _ => False) (made_of_left hne left_zero) fun _ h => h.elim

theorem owns_newImpl (backend : Backend) (mountpoint : OsStr) (options : List MountOption)
    (acl : SessionACL) :
    (resources calm steady).Owns (MountImpl.new backend mountpoint options acl) 0
      (Made calm Fresh) := by
  cases backend with
  | pure => exact owns_newPure mountpoint options acl
  | fuse2 => exact owns_newFuse2 mountpoint options acl
  | fuse3 => exact owns_newFuse3 mountpoint options acl

/-- One reference to the device is the mount's, the other is for the channel. -/
theorem owns_newMount (backend : Backend) (mountpoint : OsStr) (options : List MountOption)
    (acl : SessionACL) :
    (resources calm steady).Owns (Mount.new backend mountpoint options acl) 0
      (Made calm fun made held => held = {.device made.1} + made.2.owns ∧ made.2.Whole) := by
  refine owns_orLeave_pure (made_zero _) fun _ _ => ?_
  refine (owns_newImpl backend mountpoint options acl).bind fun made held hheld => ?_
  refine owns_orLeave_pure hheld ?_
  rintro ⟨fd, mount⟩ ⟨rfl, hwhole⟩
  refine owns_ask (Multiset.singleton_le.mpr (by simp)) (fun _ => rfl) fun _ _ _ =>
    ⟨{Resource.device fd} + ({.device fd} + {.mount} + mount.owns), rfl, ?_⟩
  refine Ownership.owns_pure ⟨?_, fun mount' hmount => ?_⟩
  · simp only [Mount.owns, Option.elim_some]
    abel
  · cases hmount
    exact hwhole

theorem owns_dropFilesystem (present : Bool) (held : Multiset Resource) :
    (resources calm steady).Owns (Started.dropFilesystem present)
      ((if present then {.holder} else 0) + held) fun panicked held' =>
        held' = held ∧ (steady → panicked = none) := by
  cases present with
  | false => exact Ownership.owns_pure ⟨zero_add held, fun _ => rfl⟩
  | true =>
      refine Ownership.owns_send_bind (Multiset.zero_le _) fun panicked hx => ⟨held, rfl, ?_⟩
      exact owns_drop_bind {.filesystem} held rfl (fun _ => rfl) (fun _ => rfl) rfl fun _ _ =>
        Ownership.owns_pure ⟨rfl, fun h => not_not.mp (hx.2.2 h)⟩

theorem owns_umountOnDrop {mount : Option Mount} (hwhole : ∀ m, mount = some m → m.Whole) :
    (resources calm steady).Owns (Started.umountOnDrop mount) (mount.elim 0 Mount.owns)
      fun panicked held => Left calm held ∧ (steady → panicked = none) := by
  cases mount with
  | none => exact Ownership.owns_pure ⟨left_zero, fun _ => rfl⟩
  | some mount => exact owns_dropMount (hwhole mount rfl)

def Started.Whole (self : Started) : Prop := ∀ mount, self.mount = some mount → mount.Whole

theorem Started.raise_none (unwinding : Option Panic) :
    Started.raise unwinding none = some unwinding := by
  cases unwinding <;> rfl

theorem count_holder_mount (mount : Option Mount) :
    (mount.elim (0 : Multiset Resource) Mount.owns).count .holder = 0 := by
  rcases mount with _ | ⟨_ | ⟨_, _ | socket⟩ | _ | ⟨fuseSession, _⟩, _, fd⟩
  · rfl
  · rfl
  · rfl
  · rfl
  · rfl
  · rw [Option.elim_some, Mount.owns, Option.elim_some, MountImpl.owns]
    split <;> rfl

theorem Left.count_holder {held : Multiset Resource} (h : Left calm held) :
    held.count .holder = 0 := by
  rcases h with rfl | ⟨-, rfl⟩ <;> rfl

/-- A session that is dropped gives back what it owns, or the process is aborted by a panic,
which is after `destroy` was called. -/
theorem owns_dropStarted {self : Started} (hwhole : self.Whole) (unwinding : Option Panic) :
    (resources calm steady).Owns (self.drop unwinding) self.owns fun dropped held =>
      held.count .holder = 0 ∧ if dropped = none then ¬ steady else Left calm held := by
  rw [Started.drop, Started.owns, add_assoc]
  refine (owns_dropFilesystem _ _).bind ?_
  rintro panicked _ ⟨rfl, hdestroy⟩
  cases hraise : Started.raise unwinding panicked with
  | none =>
      refine Ownership.owns_pure ⟨?_, fun h => ?_⟩
      · rw [Multiset.count_add, count_holder_mount]
        rfl
      · rw [hdestroy h, Started.raise_none] at hraise
        cases hraise
  | some unwinding' =>
      refine owns_drop_bind {.device self.ch} _ rfl (fun _ => rfl) (fun _ => rfl) rfl
        fun _ _ => ?_
      refine (owns_umountOnDrop hwhole).bind ?_
      rintro panicked held ⟨hleft, humount⟩
      refine Ownership.owns_pure ⟨hleft.count_holder, ?_⟩
      split
      next hnone =>
        intro h
        rw [humount h, Started.raise_none] at hnone
        cases hnone
      next => exact hleft

end Owns

namespace Started

variable {env : HandshakeEnv} {session : Session}

/-- The filesystem stays with the session, whatever comes of the handshake. -/
theorem filesystemPresent_answered (hpresent : session.filesystemPresent = true)
    (answer : HandshakeAnswer env session) :
    (answered answer).2.filesystemPresent = true :=
  Session.filesystemPresent_handshake env answer.events hpresent

/-- A handshake that succeeds leaves a session as every event loop expects it. -/
theorem initialized_answered {allowed : SessionACL} {sessionOwner : UInt32}
    {mountOptions : List MountOption}
    {answer : HandshakeAnswer env (.new allowed sessionOwner mountOptions)}
    (h : (answered answer).1 = .ok ()) : (answered answer).2.Initialized :=
  ⟨env, allowed, sessionOwner, mountOptions, answer.events,
    answer.ended.trans (congrArg some h), rfl⟩

end Started

/-- What is true of a session that has started. -/
def Ready (started : Started) (held : Multiset Resource) : Prop :=
  held = started.owns ∧ started.session.Initialized ∧ started.Whole

/-- What a start comes to, and what is owned then. -/
def Begun (calm steady : Prop) : Started.Start → Multiset Resource → Prop
  | some result, held => Made calm Ready result held
  | none, held => held.count .holder = 0 ∧ ¬ steady

section Start

variable {calm steady : Prop}

theorem owns_handshake {self : Started} {env : HandshakeEnv} {allowed : SessionACL}
    {sessionOwner : UInt32} {mountOptions : List MountOption} (hwhole : self.Whole)
    (hsession : self.session = .new allowed sessionOwner mountOptions) :
    (resources calm steady).Owns (self.handshake env) self.owns (Begun calm steady) := by
  obtain ⟨ch, mount, session⟩ := self
  obtain rfl : session = .new allowed sessionOwner mountOptions := hsession
  refine owns_ask (Multiset.le_add_right _ _) (fun _ => rfl) fun answer _ _ =>
    ⟨_, (zero_add _).symm, ?_⟩
  have hpresent := Started.filesystemPresent_answered rfl answer
  have howns : Started.owns ⟨ch, mount, (Started.answered answer).2⟩ =
      Started.owns ⟨ch, mount, .new allowed sessionOwner mountOptions⟩ := by
    simp only [Started.owns, hpresent]
    rfl
  rw [← howns]
  have hdrop (unwinding : Option Panic) : (resources calm steady).Owns
      (Started.drop ⟨ch, mount, (Started.answered answer).2⟩ unwinding)
      (Started.owns ⟨ch, mount, (Started.answered answer).2⟩) fun dropped held =>
        held.count .holder = 0 ∧ if dropped = none then ¬ steady else Left calm held :=
    @owns_dropStarted calm steady ⟨ch, mount, (Started.answered answer).2⟩ hwhole unwinding
  cases houtcome : (Started.answered answer).1 with
  | ok value =>
      simp only
      exact Ownership.owns_pure ⟨rfl, Started.initialized_answered houtcome, hwhole⟩
  | err e =>
      simp only
      refine (hdrop none).bind fun dropped held hdropped => ?_
      match dropped with
      | none => exact Ownership.owns_pure hdropped
      | some none => exact Ownership.owns_pure hdropped.2
      | some (some reason) => exact Ownership.owns_pure hdropped.2
  | panic reason =>
      simp only
      refine (hdrop (some reason)).bind fun dropped held hdropped => ?_
      match dropped with
      | none => exact Ownership.owns_pure hdropped
      | some unwinding => exact Ownership.owns_pure hdropped.2

/-- A result is passed on with `?` while the filesystem is in scope. -/
theorem owns_orDropFilesystem {α : Type} {Q : α → Multiset Resource → Prop}
    {x : Outcome MountError α} {k : α → Sys Started.Start} {own : Multiset Resource}
    (hx : Made calm Q x own)
    (hk : ∀ a, Q a own → (resources calm steady).Owns (k a) ({.filesystem} + own)
      (Begun calm steady)) :
    (resources calm steady).Owns (Started.orDropFilesystem x k) ({.filesystem} + own)
      (Begun calm steady) := by
  cases x with
  | ok a => exact hk a hx
  | err e =>
      exact owns_drop_bind {.filesystem} own rfl (fun _ => rfl) (fun _ => rfl) rfl fun _ _ =>
        Ownership.owns_pure hx
  | panic reason =>
      exact owns_drop_bind {.filesystem} own rfl (fun _ => rfl) (fun _ => rfl) rfl fun _ _ =>
        Ownership.owns_pure hx

theorem owns_newSession (backend : Backend) (env : HandshakeEnv) (mountpoint : OsStr)
    (options : List MountOption) (acl : SessionACL) :
    (resources calm steady).Owns (Started.new backend env mountpoint options acl) {.filesystem}
      (Begun calm steady) := by
  rw [← add_zero ({.filesystem} : Multiset Resource)]
  refine owns_orDropFilesystem (made_zero _) fun _ _ => ?_
  split
  · exact owns_drop_bind {.filesystem} 0 rfl (fun _ => rfl) (fun _ => rfl) rfl fun _ _ =>
      Ownership.owns_pure left_zero
  refine (owns_newMount backend mountpoint options acl).frame_bind (add_comm _ _)
    fun made own hmade => ?_
  rw [add_comm]
  refine owns_orDropFilesystem hmade ?_
  rintro ⟨file, mount⟩ ⟨rfl, hwhole⟩
  refine Ownership.owns_send_bind (Multiset.zero_le _) fun _ _ => ⟨_, rfl, ?_⟩
  refine owns_ask (Multiset.zero_le _) (fun _ => rfl) fun sessionOwner _ _ =>
    ⟨{.holder} + ({.device file} + mount.owns), (zero_add _).symm, ?_⟩
  have howns : Started.owns ⟨file, some mount, .new acl sessionOwner options⟩ =
      {.holder} + ({.device file} + mount.owns) := add_assoc _ _ _
  rw [← howns]
  refine owns_handshake (fun mount' hmount => ?_) rfl
  cases hmount
  exact hwhole

theorem owns_fromFd (env : HandshakeEnv) (fd : Nat) (acl : SessionACL)
    (options : List MountOption) :
    (resources calm steady).Owns (Started.fromFd env fd acl options)
      ({.filesystem} + {.device fd}) (Begun calm steady) := by
  refine Ownership.owns_send_bind (Multiset.zero_le _) fun _ _ => ⟨_, rfl, ?_⟩
  refine owns_ask (Multiset.zero_le _) (fun _ => rfl) fun sessionOwner _ _ =>
    ⟨{.holder} + {.device fd}, (zero_add _).symm, ?_⟩
  have howns : Started.owns ⟨fd, none, .new acl sessionOwner options⟩ =
      {.holder} + {.device fd} := add_zero _
  rw [← howns]
  exact owns_handshake (fun _ h => by cases h) rfl

end Start

/-- What the calls of a run may be accounted for to, whatever is answered. -/
def Settled (held : Multiset Resource) (log : Log) (held' : Multiset Resource) : Prop :=
  (resources False False).Accounts held log held'

/-- Something happened after which a mount stays behind, or may. -/
def HadMishap (log : Log) : Prop := ∃ event ∈ log, Mishap event.1 event.2

def HadPanic (log : Log) : Prop := ∃ event ∈ log, Panics event.1 event.2

/-- Nothing is left over, unless something happened after which a mount stays behind. -/
def Clean (log : Log) (held : Multiset Resource) : Prop :=
  held = 0 ∨ held = {.mount} ∧ HadMishap log

/-- A run is calm if it had no mishap, and steady if nothing panicked that was dropped. -/
theorem settled_of_owns {α : Type} {p : Sys α} {held : Multiset Resource} {log : Log} {a : α}
    {Q : Prop → Prop → α → Multiset Resource → Prop}
    (howns : ∀ calm steady, (resources calm steady).Owns p held (Q calm steady))
    (hrun : p.Run log a) (hdocumented : ∀ event ∈ log, Documented event.1 event.2) :
    ∃ held', Settled held log held' ∧ Q (¬ HadMishap log) (¬ HadPanic log) a held' := by
  obtain ⟨held', haccounts, hQ⟩ := (howns (¬ HadMishap log) (¬ HadPanic log)).accounts hrun
    fun event hevent => ⟨hdocumented event hevent, fun hcalm h => hcalm ⟨event, hevent, h⟩,
      fun hsteady h => hsteady ⟨event, hevent, h⟩⟩
  exact ⟨held', haccounts.of_allows _, hQ⟩

theorem clean_of_left {log : Log} {held : Multiset Resource} (h : Left (¬ HadMishap log) held) :
    Clean log held :=
  h.imp id fun h => ⟨h.2, not_not.mp h.1⟩

/-- Of every thing there is as much in the end as there was, with what was given and less
what was taken. -/
theorem Settled.count_eq {held held' : Multiset Resource} {log : Log}
    (h : Settled held log held') (thing : Resource) :
    held.count thing + (log.map fun event => (event.1.gives event.2).count thing).sum =
      held'.count thing + (log.map fun event => (event.1.takes event.2).count thing).sum := by
  have hsum (f : Event Call Call.Answer → Multiset Resource) :
      (log.map f).sum.count thing = (log.map fun event => (f event).count thing).sum := by
    rw [← Multiset.coe_countAddMonoidHom, map_list_sum, List.map_map]
    rfl
  have heq := congrArg (Multiset.count thing) (Ownership.Accounts.add_eq h)
  rw [Multiset.count_add, Multiset.count_add, hsum, hsum] at heq
  exact heq

/-- The filesystem becomes a session's. -/
def Call.holds : Call → Bool
  | .hold => true
  | _ => false

def Call.destroys : Call → Bool
  | .destroy => true
  | _ => false

theorem count_holder_ite {p : Prop} [Decidable p] {things : Multiset Resource}
    (h : things.count .holder = 0) : (if p then things else 0).count .holder = 0 := by
  split
  · exact h
  · rfl

theorem count_holder_gives (c : Call) (x : c.Answer) :
    (c.gives x).count .holder = if c.holds then 1 else 0 := by
  cases c with
  | canonicalize | fileMode | close | cloneDevice | dropDevice | setCloexec | poll | getuid | getgid
  | geteuid | umount2 | fusermountPath | probe | readPipes | waitWithOutput | dropChild
  | clearErrno | lastOsError | fuseSessionFd | fuseSessionUnmount | fuseSessionDestroy | hold
  | handshake | destroy | dropFilesystem => rfl
  | openFile | openDevice | dup | mount | spawn | socketPair => cases x <;> rfl
  | recvmsg =>
      cases x with
      | error err =>
          change (if err = .eintr then (0 : Multiset Resource) else {.mount}).count .holder = 0
          split <;> rfl
      | ok msg =>
          change msg.gives.count .holder = 0
          rw [RecvMsg.gives]
          split
          · split <;> rfl
          · rfl
  | output bin args device =>
      cases device with
      | none => rfl
      | some fd =>
          cases x with
          | error err => rfl
          | ok done => exact count_holder_ite rfl
  | fuseMountCompat25 | fuseSessionMount => exact count_holder_ite rfl
  | fuseSessionNew => exact count_holder_ite rfl

theorem count_holder_takes (c : Call) (x : c.Answer) :
    (c.takes x).count .holder = if c.destroys then 1 else 0 := by
  cases c with
  | umount2 => cases x <;> rfl
  | output bin args device =>
      cases device with
      | some fd => rfl
      | none =>
          cases x with
          | error err => rfl
          | ok done => exact count_holder_ite rfl
  | _ => rfl

theorem sum_ite_eq_countP (p : Call → Bool) (log : Log) :
    (log.map fun event => if p event.1 then 1 else 0).sum = log.countP fun event => p event.1 := by
  induction log with
  | nil => rfl
  | cons event log ih =>
      rw [List.map_cons, List.sum_cons, List.countP_cons, ih, add_comm]

/-- Where no session is left, `destroy` was called for each that there was. -/
theorem Settled.destroys_eq {held held' : Multiset Resource} {log : Log}
    (h : Settled held log held') (hheld : held.count .holder = 0)
    (hheld' : held'.count .holder = 0) :
    log.countP (·.1.destroys) = log.countP (·.1.holds) := by
  have heq := h.count_eq .holder
  simp only [count_holder_gives, count_holder_takes, sum_ite_eq_countP, hheld, hheld',
    zero_add] at heq
  exact heq.symm

/-- What is left of a session that was dropped, unless a panic aborted the process. -/
def Dropped (log : Log) (dropped : Option (Option Panic)) (held : Multiset Resource) : Prop :=
  if dropped = none then HadPanic log else Clean log held

/-- What is left of a session that started, or did not. A session that has started gives
everything back once it is dropped. -/
def Leaves (log : Log) : Started.Start → Multiset Resource → Prop
  | some (.ok started), held =>
      held = started.owns ∧ started.session.Initialized ∧
        ∀ unwinding log' dropped, (started.drop unwinding).Run log' dropped →
          (∀ event ∈ log', Documented event.1 event.2) →
            ∃ held', Settled held log' held' ∧ Dropped log' dropped held'
  | some (.err _), held | some (.panic _), held => Clean log held
  | none, _ => HadPanic log

theorem Started.drop_settled {self : Started} (hwhole : self.Whole) {unwinding : Option Panic}
    {log : Log} {dropped : Option (Option Panic)} (h : (self.drop unwinding).Run log dropped)
    (hdocumented : ∀ event ∈ log, Documented event.1 event.2) :
    ∃ held, Settled self.owns log held ∧ Dropped log dropped held := by
  obtain ⟨held, hsettled, -, hdropped⟩ :=
    settled_of_owns (fun _ _ => owns_dropStarted hwhole unwinding) h hdocumented
  refine ⟨held, hsettled, ?_⟩
  unfold Dropped
  split
  next hnone =>
    rw [if_pos hnone] at hdropped
    exact not_not.mp hdropped
  next hnone =>
    rw [if_neg hnone] at hdropped
    exact clean_of_left hdropped

theorem leaves_of_begun {log : Log} {result : Started.Start} {held : Multiset Resource}
    (h : Begun (¬ HadMishap log) (¬ HadPanic log) result held) : Leaves log result held := by
  match result with
  | none => exact not_not.mp h.2
  | some (.ok started) =>
      obtain ⟨rfl, hinitialized, hwhole⟩ := h
      exact ⟨rfl, hinitialized, fun unwinding log' _ hdrop => Started.drop_settled hwhole hdrop⟩
  | some (.err e) => exact clean_of_left h
  | some (.panic reason) => exact clean_of_left h

theorem Begun.count_holder {calm steady : Prop} {result : Started.Start}
    {held : Multiset Resource} (h : Begun calm steady result held)
    (hfailed : ∀ started, result ≠ some (.ok started)) : held.count .holder = 0 := by
  match result with
  | none => exact h.1
  | some (.ok started) => exact absurd rfl (hfailed started)
  | some (.err e) => exact Left.count_holder h
  | some (.panic reason) => exact Left.count_holder h

/-- A session starts with all that it needs, or it leaves nothing of it behind. The one thing
that can stay is the mount itself, after something that is among the mishaps; and a process
that a second panic aborts leaves what it leaves. The filesystem of a start that fails is
told by `destroy` if it was a session's by then, and only then. -/
theorem Started.new_all_or_nothing {backend : Backend} {env : HandshakeEnv} {mountpoint : OsStr}
    {options : List MountOption} {acl : SessionACL} {log : Log} {result : Started.Start}
    (h : (Started.new backend env mountpoint options acl).Run log result)
    (hdocumented : ∀ event ∈ log, Documented event.1 event.2) :
    ∃ held, Settled {.filesystem} log held ∧ Leaves log result held ∧
      ((∀ started, result ≠ some (.ok started)) →
        log.countP (·.1.destroys) = log.countP (·.1.holds)) := by
  obtain ⟨held, hsettled, hbegun⟩ := settled_of_owns
    (fun _ _ => owns_newSession backend env mountpoint options acl) h hdocumented
  exact ⟨held, hsettled, leaves_of_begun hbegun, fun hfailed =>
    hsettled.destroys_eq rfl (hbegun.count_holder hfailed)⟩

/-- A filesystem that panics in `init`. -/
def panickingEnv : HandshakeEnv :=
  { Session.idmapEnv with fsInit := fun _ _ => ([], .panic .assertion) }

def panickedAnswer : HandshakeAnswer panickingEnv (.new .owner 1000 []) where
  events := [.message Session.idmapInit]
  outcome := .panic .assertion
  ended := rfl

/-- The filesystem panics in `init`, and what libfuse has mounted is undone. -/
theorem Started.new_all_or_nothing_panic :
    let log : Log := [⟨.clearErrno, ()⟩, ⟨.fuseSessionNew [utf8 "rust-fuse"], 7⟩,
      ⟨.clearErrno, ()⟩, ⟨.fuseSessionMount 7 (utf8 "/mnt"), 0⟩, ⟨.clearErrno, ()⟩,
      ⟨.fuseSessionFd 7, 4⟩, ⟨.dup 4, .ok 9⟩, ⟨.cloneDevice 9, ()⟩, ⟨.hold, ()⟩, ⟨.geteuid, 1000⟩,
      ⟨.handshake 9 panickingEnv (.new .owner 1000 []), panickedAnswer⟩, ⟨.destroy, none⟩,
      ⟨.dropFilesystem, ()⟩, ⟨.dropDevice 9, ()⟩, ⟨.poll 9, .quiet⟩,
      ⟨.umount2 (utf8 "/mnt"), .ok ()⟩, ⟨.fuseSessionDestroy 7, ()⟩, ⟨.dropDevice 9, ()⟩]
    (Started.new .fuse3 panickingEnv (utf8 "/mnt") [] .owner).Run log (some (.panic .assertion)) ∧
      ∃ held, Settled {.filesystem} log held ∧ Clean log held ∧
        log.countP (·.1.destroys) = log.countP (·.1.holds) := by
  intro log
  have hanswered : answered panickedAnswer = (.panic .assertion, .new .owner 1000 []) := by
    rw [answered]
    rfl
  have hhandshake : (Started.handshake ⟨9, some ⟨some (.fuse3 7 (utf8 "/mnt")), utf8 "/mnt", 9⟩,
        .new .owner 1000 []⟩ panickingEnv).Run
      [⟨.handshake 9 panickingEnv (.new .owner 1000 []), panickedAnswer⟩, ⟨.destroy, none⟩,
        ⟨.dropFilesystem, ()⟩, ⟨.dropDevice 9, ()⟩, ⟨.poll 9, .quiet⟩,
        ⟨.umount2 (utf8 "/mnt"), .ok ()⟩, ⟨.fuseSessionDestroy 7, ()⟩, ⟨.dropDevice 9, ()⟩]
      (some (.panic .assertion)) := by
    refine .call _ ?_
    simp only [Prog.bind, hanswered]
    exact .call _ (.call _ (.call _ (.answered _ rfl (.call _ (.call _ (.call _ (.ret _)))))))
  have hrun : (Started.new .fuse3 panickingEnv (utf8 "/mnt") [] .owner).Run log
      (some (.panic .assertion)) :=
    .call _ (.call _ (.call _ (.call _ (.call _ (.call _ (.call _ (.call _ (.call _ (.call _
      hhandshake)))))))))
  obtain ⟨held, hsettled, hleaves, hdestroyed⟩ := Started.new_all_or_nothing hrun (by
    simp [log, Documented])
  exact ⟨hrun, held, hsettled, hleaves, hdestroyed (by simp)⟩

/-- The same of a session on a device that somebody else has mounted. -/
theorem Started.fromFd_settled {env : HandshakeEnv} {fd : Nat} {acl : SessionACL}
    {options : List MountOption} {log : Log} {result : Started.Start}
    (h : (Started.fromFd env fd acl options).Run log result)
    (hdocumented : ∀ event ∈ log, Documented event.1 event.2) :
    ∃ held, Settled ({.filesystem} + {.device fd}) log held ∧ Leaves log result held := by
  obtain ⟨held, hsettled, hbegun⟩ :=
    settled_of_owns (fun _ _ => owns_fromFd env fd acl options) h hdocumented
  exact ⟨held, hsettled, leaves_of_begun hbegun⟩

end Fuser.Mnt
