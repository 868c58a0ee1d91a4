import Mathlib.Data.Vector.Defs
import Mathlib.Algebra.Order.Group.Nat
import Mathlib.Tactic.Ring

/-!
Fixed-size little-endian layouts of plain data, as a C compiler lays them out.

A codec lists the widths of the scalar fields in declaration order; its size
and alignment are read off that list. Every byte string that is long enough
decodes, since none of the types has an invalid bit pattern. A type is laid out
without padding exactly when every scalar falls on a multiple of its own width
and the total is a multiple of the alignment, and `ReprC` has no instance for a
type of which this is false.
-/

namespace Wire

/-- The `width` least significant bytes of `n`, least significant first. -/
def natToBytes : Nat → Nat → List UInt8
  | 0, _ => []
  | width + 1, n => UInt8.ofNat n :: natToBytes width (n / 256)

def natOfBytes : List UInt8 → Nat
  | [] => 0
  | b :: bs => b.toNat + 256 * natOfBytes bs

@[simp] theorem length_natToBytes (width n : Nat) : (natToBytes width n).length = width := by
  induction width generalizing n with
  | zero => rfl
  | succ width ih => simp [natToBytes, ih]

theorem natOfBytes_natToBytes (width n : Nat) (h : n < 256 ^ width) :
    natOfBytes (natToBytes width n) = n := by
  induction width generalizing n with
  | zero =>
      have hn : n = 0 := by simpa using h
      simp [natToBytes, natOfBytes, hn]
  | succ width ih =>
      have hdiv : n / 256 < 256 ^ width := by
        rw [Nat.pow_succ] at h
        exact Nat.div_lt_of_lt_mul (by omega)
      have hb : (UInt8.ofNat n).toNat = n % 256 := by simp
      simp only [natToBytes, natOfBytes, ih _ hdiv, hb]
      omega

theorem natOfBytes_lt (bs : List UInt8) : natOfBytes bs < 256 ^ bs.length := by
  induction bs with
  | nil => simp [natOfBytes]
  | cons b bs ih =>
      have hb := b.toNat_lt
      simp only [natOfBytes, List.length_cons, Nat.pow_succ]
      omega

theorem natToBytes_natOfBytes (bs : List UInt8) :
    natToBytes bs.length (natOfBytes bs) = bs := by
  induction bs with
  | nil => rfl
  | cons b bs ih =>
      have hb := b.toNat_lt
      have hdiv : (b.toNat + 256 * natOfBytes bs) / 256 = natOfBytes bs := by omega
      have hmod : UInt8.ofNat (b.toNat + 256 * natOfBytes bs) = b := by
        apply UInt8.toNat_inj.mp
        simp only [UInt8.toNat_ofNat']
        omega
      simp only [List.length_cons, natToBytes, natOfBytes, hdiv, hmod, ih]

theorem natOfBytes_append_zeros (bs : List UInt8) (n : Nat) :
    natOfBytes (bs ++ List.replicate n 0) = natOfBytes bs := by
  induction bs with
  | nil =>
      induction n with
      | zero => rfl
      | succ n ih => simpa [List.replicate_succ, natOfBytes] using ih
  | cons b bs ih => simp [natOfBytes, ih]

theorem natOfBytes_take (bs : List UInt8) (n : Nat) :
    natOfBytes (bs.take n) = natOfBytes bs % 256 ^ n := by
  induction n generalizing bs with
  | zero => simp [natOfBytes, Nat.mod_one]
  | succ n ih =>
      cases bs with
      | nil => simp [natOfBytes]
      | cons b bs =>
          have hb := b.toNat_lt
          have hmod := Nat.mod_mul (x := b.toNat + 256 * natOfBytes bs) (a := 256) (b := 256 ^ n)
          have hlow : (b.toNat + 256 * natOfBytes bs) % 256 = b.toNat := by omega
          have hhigh : (b.toNat + 256 * natOfBytes bs) / 256 = natOfBytes bs := by omega
          rw [hlow, hhigh] at hmod
          rw [List.take_succ_cons, natOfBytes, natOfBytes, ih, Nat.pow_succ', hmod]

structure Codec (α : Type) where
  fields : List Nat
  encode : α → List UInt8
  decode : List UInt8 → α
  length_encode : ∀ a, (encode a).length = fields.sum
  decode_encode : ∀ a rest, decode (encode a ++ rest) = a
  encode_decode : ∀ bs, fields.sum ≤ bs.length → encode (decode bs) = bs.take fields.sum

namespace Codec

variable {α β : Type}

/-- A scalar of `width` bytes, given by its value as a natural number. -/
def scalar (width : Nat) (toNat : α → Nat) (ofNat : Nat → α)
    (bounded : ∀ a, toNat a < 256 ^ width) (ofNat_toNat : ∀ a, ofNat (toNat a) = a)
    (toNat_ofNat : ∀ n, n < 256 ^ width → toNat (ofNat n) = n) : Codec α where
  fields := [width]
  encode a := natToBytes width (toNat a)
  decode bs := ofNat (natOfBytes (bs.take width))
  length_encode a := by simp
  decode_encode a rest := by
    rw [List.take_left' (length_natToBytes width _), natOfBytes_natToBytes _ _ (bounded a),
      ofNat_toNat]
  encode_decode bs h := by
    have hlen : (bs.take width).length = width := by
      simpa [List.length_take] using h
    have hlt := natOfBytes_lt (bs.take width)
    rw [hlen] at hlt
    rw [toNat_ofNat _ hlt]
    simpa [hlen] using natToBytes_natOfBytes (bs.take width)

/-- Two values, the second right after the first. -/
def prod (c : Codec α) (d : Codec β) : Codec (α × β) where
  fields := c.fields ++ d.fields
  encode p := c.encode p.1 ++ d.encode p.2
  decode bs := (c.decode bs, d.decode (bs.drop c.fields.sum))
  length_encode p := by simp [c.length_encode, d.length_encode]
  decode_encode p rest := by
    have hlen := c.length_encode p.1
    rw [List.append_assoc, List.drop_left' hlen, c.decode_encode, d.decode_encode]
  encode_decode bs h := by
    simp only [List.sum_append] at h ⊢
    have hc : c.fields.sum ≤ bs.length := by omega
    have hd : d.fields.sum ≤ (bs.drop c.fields.sum).length := by
      rw [List.length_drop]; omega
    rw [c.encode_decode bs hc, d.encode_decode _ hd, ← List.take_add]

/-- The same bytes read as another type. -/
def map (c : Codec β) (f : α → β) (g : β → α) (hgf : ∀ a, g (f a) = a)
    (hfg : ∀ b, f (g b) = b) : Codec α where
  fields := c.fields
  encode a := c.encode (f a)
  decode bs := g (c.decode bs)
  length_encode a := c.length_encode (f a)
  decode_encode a rest := by rw [c.decode_encode, hgf]
  encode_decode bs h := by rw [hfg, c.encode_decode bs h]

theorem decode_prod_encode (c : Codec α) (d : Codec β) (a : α) (rest : List UInt8) :
    (c.prod d).decode (c.encode a ++ rest) = (a, d.decode rest) := by
  change (c.decode (c.encode a ++ rest), d.decode ((c.encode a ++ rest).drop c.fields.sum)) = _
  rw [c.decode_encode, List.drop_left' (c.length_encode a)]

theorem decode_map (c : Codec β) (f : α → β) (g : β → α) (hgf : ∀ a, g (f a) = a)
    (hfg : ∀ b, f (g b) = b) (bs : List UInt8) :
    (c.map f g hgf hfg).decode bs = g (c.decode bs) := rfl

def decodeList (c : Codec α) : Nat → List UInt8 → List α
  | 0, _ => []
  | n + 1, bs => c.decode bs :: c.decodeList n (bs.drop c.fields.sum)

def encodeList (c : Codec α) (xs : List α) : List UInt8 := xs.flatMap c.encode

@[simp] theorem length_decodeList (c : Codec α) (n : Nat) (bs : List UInt8) :
    (c.decodeList n bs).length = n := by
  induction n generalizing bs with
  | zero => rfl
  | succ n ih => simp [decodeList, ih]

@[simp] theorem length_encodeList (c : Codec α) (xs : List α) :
    (c.encodeList xs).length = xs.length * c.fields.sum := by
  induction xs with
  | nil => simp [encodeList]
  | cons x xs ih =>
      rw [encodeList] at ih ⊢
      simp only [List.flatMap_cons, List.length_append, c.length_encode, ih, List.length_cons]
      ring

theorem decodeList_encodeList (c : Codec α) (xs : List α) (rest : List UInt8) :
    c.decodeList xs.length (c.encodeList xs ++ rest) = xs := by
  induction xs with
  | nil => rfl
  | cons x xs ih =>
      simp only [encodeList, List.flatMap_cons, List.length_cons, decodeList, List.append_assoc]
      rw [c.decode_encode, List.drop_left' (c.length_encode x)]
      exact congrArg (x :: ·) ih

theorem encodeList_decodeList (c : Codec α) (n : Nat) (bs : List UInt8)
    (h : n * c.fields.sum ≤ bs.length) :
    c.encodeList (c.decodeList n bs) = bs.take (n * c.fields.sum) := by
  induction n generalizing bs with
  | zero => simp [decodeList, encodeList]
  | succ n ih =>
      rw [Nat.succ_mul] at h
      have hhead : c.fields.sum ≤ bs.length := by omega
      have htail : n * c.fields.sum ≤ (bs.drop c.fields.sum).length := by
        rw [List.length_drop]; omega
      have hcons : c.encodeList (c.decodeList (n + 1) bs) =
          c.encode (c.decode bs) ++ c.encodeList (c.decodeList n (bs.drop c.fields.sum)) := by
        simp [decodeList, encodeList]
      rw [hcons, ih _ htail, c.encode_decode bs hhead, ← List.take_add, Nat.succ_mul,
        Nat.add_comm]

theorem sum_replicate_flatten (n : Nat) (fields : List Nat) :
    ((List.replicate n fields).flatten).sum = n * fields.sum := by
  induction n with
  | zero => simp
  | succ n ih =>
      simp only [List.replicate_succ, List.flatten_cons, List.sum_append, ih]
      ring

/-- `n` values one after the other. -/
def vector (c : Codec α) (n : Nat) : Codec (List.Vector α n) where
  fields := (List.replicate n c.fields).flatten
  encode v := c.encodeList v.1
  decode bs := ⟨c.decodeList n bs, c.length_decodeList n bs⟩
  length_encode v := by rw [length_encodeList, v.2, sum_replicate_flatten]
  decode_encode v rest := by
    apply Subtype.ext
    have h := c.decodeList_encodeList v.1 rest
    rwa [v.2] at h
  encode_decode bs h := by
    rw [sum_replicate_flatten] at h ⊢
    exact c.encodeList_decodeList n bs h

end Codec

/-- Every scalar, laid down from `offset` on, starts at a multiple of its width. -/
def fieldsAligned : Nat → List Nat → Bool
  | _, [] => true
  | offset, width :: widths => offset % width == 0 && fieldsAligned (offset + width) widths

def alignOf (fields : List Nat) : Nat := fields.foldr max 1

/-- Plain data laid out in declaration order without padding. -/
class ReprC (α : Type) extends Codec α where
  packed : (fieldsAligned 0 fields && fields.sum % alignOf fields == 0) = true

namespace ReprC

variable (α : Type) [ReprC α]

def size : Nat := (ReprC.toCodec : Codec α).fields.sum

def align : Nat := alignOf (ReprC.toCodec : Codec α).fields

end ReprC

variable {α : Type} [ReprC α]

def toBytes (a : α) : List UInt8 := ReprC.toCodec.encode a

def ofBytes (α : Type) [ReprC α] (bs : List UInt8) : α := ReprC.toCodec.decode bs

def listToBytes (xs : List α) : List UInt8 := ReprC.toCodec.encodeList xs

def listOfBytes (α : Type) [ReprC α] (count : Nat) (bs : List UInt8) : List α :=
  ReprC.toCodec.decodeList count bs

@[simp] theorem length_toBytes (a : α) : (toBytes a).length = ReprC.size α :=
  ReprC.toCodec.length_encode a

@[simp] theorem ofBytes_toBytes_append (a : α) (rest : List UInt8) :
    ofBytes α (toBytes a ++ rest) = a :=
  ReprC.toCodec.decode_encode a rest

theorem ofBytes_toBytes (a : α) : ofBytes α (toBytes a) = a := by
  have happend := ofBytes_toBytes_append a []
  rwa [List.append_nil] at happend

theorem drop_toBytes {n : Nat} (a : α) (rest : List UInt8) (h : ReprC.size α = n) :
    (toBytes a ++ rest).drop n = rest :=
  List.drop_left' ((length_toBytes a).trans h)

@[simp] theorem length_listToBytes (xs : List α) :
    (listToBytes xs).length = xs.length * ReprC.size α :=
  ReprC.toCodec.length_encodeList xs

@[simp] theorem listOfBytes_listToBytes_append (xs : List α) (rest : List UInt8) :
    listOfBytes α xs.length (listToBytes xs ++ rest) = xs :=
  ReprC.toCodec.decodeList_encodeList xs rest

/-! The scalar types. -/

def u16 : Codec UInt16 :=
  .scalar 2 UInt16.toNat UInt16.ofNat (fun a => a.toNat_lt) (fun _ => UInt16.ofNat_toNat)
    (fun _ h => Nat.mod_eq_of_lt h)

def u32 : Codec UInt32 :=
  .scalar 4 UInt32.toNat UInt32.ofNat (fun a => a.toNat_lt) (fun _ => UInt32.ofNat_toNat)
    (fun _ h => Nat.mod_eq_of_lt h)

instance : ReprC UInt32 := ⟨u32, by decide⟩

theorem u32_decode_toNat (bs : List UInt8) : (u32.decode bs).toNat = natOfBytes bs % 256 ^ 4 := by
  have hdecode : (u32.decode bs).toNat = natOfBytes (bs.take 4) % 256 ^ 4 := rfl
  rw [hdecode, natOfBytes_take, Nat.mod_mod]

/-- Reading a word whose upper bytes are missing. -/
theorem u32_decode_take (a : UInt32) (rest : List UInt8) (n zeros : Nat) :
    (u32.decode ((u32.encode a ++ rest).take n ++ List.replicate zeros 0)).toNat =
      a.toNat % 256 ^ n := by
  have hvalue : natOfBytes (u32.encode a ++ rest) % 256 ^ 4 = a.toNat := by
    rw [← u32_decode_toNat, u32.decode_encode]
  rw [u32_decode_toNat, natOfBytes_append_zeros, natOfBytes_take, ← hvalue]
  by_cases hn : n ≤ 4
  · have hdvd : 256 ^ n ∣ 256 ^ 4 := Nat.pow_dvd_pow 256 hn
    have hle : 256 ^ n ≤ 256 ^ 4 := Nat.pow_le_pow_right (by decide) hn
    have hpos : 0 < 256 ^ n := Nat.pow_pos (by decide)
    have hlt := Nat.mod_lt (natOfBytes (u32.encode a ++ rest)) hpos
    rw [Nat.mod_mod_of_dvd _ hdvd, Nat.mod_eq_of_lt (lt_of_lt_of_le hlt hle)]
  · have hdvd : 256 ^ 4 ∣ 256 ^ n := Nat.pow_dvd_pow 256 (by omega)
    have hle : 256 ^ 4 ≤ 256 ^ n := Nat.pow_le_pow_right (by decide) (by omega)
    have hlt := Nat.mod_lt (natOfBytes (u32.encode a ++ rest)) (by decide : 0 < 256 ^ 4)
    rw [Nat.mod_mod_of_dvd _ hdvd, Nat.mod_eq_of_lt (lt_of_lt_of_le hlt hle)]

def u64 : Codec UInt64 :=
  .scalar 8 UInt64.toNat UInt64.ofNat (fun a => a.toNat_lt) (fun _ => UInt64.ofNat_toNat)
    (fun _ h => Nat.mod_eq_of_lt h)

def i32 : Codec Int32 := u32.map Int32.toUInt32 Int32.ofUInt32 (fun _ => rfl) (fun _ => rfl)

def i64 : Codec Int64 := u64.map Int64.toUInt64 Int64.ofUInt64 (fun _ => rfl) (fun _ => rfl)

end Wire
