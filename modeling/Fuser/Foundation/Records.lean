import Fuser.Foundation.Layout

/-!
Streams of padded records. A record is a header of fixed layout, a tail whose
length the header gives, and zeros up to a multiple of eight. A reader that
knows nothing else gets the records back, in order and with nothing left over.
-/

namespace Wire

/-- The least multiple of `k` that is not below `n`. -/
def nextMultipleOf (n k : Nat) : Nat := if n % k = 0 then n else n + (k - n % k)

theorem le_nextMultipleOf (n k : Nat) : n ≤ nextMultipleOf n k := by
  rw [nextMultipleOf]
  split <;> omega

theorem nextMultipleOf_mod (n : Nat) {k : Nat} (h : 0 < k) : nextMultipleOf n k % k = 0 := by
  rw [nextMultipleOf]
  by_cases hn : n % k = 0
  · rw [if_pos hn, hn]
  · have hlt := Nat.mod_lt n h
    have hsplit : n + (k - n % k) = k * (n / k + 1) := by
      have hdiv := Nat.div_add_mod n k
      rw [Nat.mul_add, Nat.mul_one]
      omega
    rw [if_neg hn, hsplit, Nat.mul_mod_right]

section

variable {α : Type} [ReprC α]

def recordLen (α : Type) [ReprC α] (tailLen : Nat) : Nat :=
  nextMultipleOf (ReprC.size α + tailLen) 8

def record (header : α) (tail : List UInt8) : List UInt8 :=
  toBytes header ++ tail ++
    List.replicate (recordLen α tail.length - (ReprC.size α + tail.length)) 0

@[simp] theorem length_record (header : α) (tail : List UInt8) :
    (record header tail).length = recordLen α tail.length := by
  have hle := le_nextMultipleOf (ReprC.size α + tail.length) 8
  simp only [record, List.length_append, length_toBytes, List.length_replicate, recordLen]
  omega

/-- The length of the record at the start of `bs`. -/
def headLen (tailLen : α → Nat) (bs : List UInt8) : Nat := recordLen α (tailLen (ofBytes α bs))

/-- Read records as long as a whole one is there. What is left comes with them. -/
def walk (tailLen : α → Nat) (bs : List UInt8) : List (α × List UInt8) × List UInt8 :=
  if _h : 0 < headLen tailLen bs ∧ ReprC.size α ≤ bs.length ∧ headLen tailLen bs ≤ bs.length then
    let tail := (bs.drop (ReprC.size α)).take (tailLen (ofBytes α bs))
    let (entries, left) := walk tailLen (bs.drop (headLen tailLen bs))
    ((ofBytes α bs, tail) :: entries, left)
  else ([], bs)
termination_by bs.length
decreasing_by
  rw [List.length_drop]
  omega

theorem walk_nil (tailLen : α → Nat) : walk tailLen [] = ([], []) := by
  rw [walk, dif_neg]
  rintro ⟨hpos, -, hle⟩
  exact absurd hpos (Nat.not_lt.mpr hle)

theorem walk_record_append {tailLen : α → Nat} {header : α} {tail : List UInt8}
    (hsize : 0 < ReprC.size α) (htail : tailLen header = tail.length) (rest : List UInt8) :
    walk tailLen (record header tail ++ rest) =
      ((header, tail) :: (walk tailLen rest).1, (walk tailLen rest).2) := by
  have hheader : ofBytes α (record header tail ++ rest) = header := by
    rw [record, List.append_assoc, List.append_assoc, ofBytes_toBytes_append]
  have hbody : ((record header tail ++ rest).drop (ReprC.size α)).take tail.length = tail := by
    rw [record, List.append_assoc, List.append_assoc,
      List.drop_left' (length_toBytes header), List.take_left' rfl]
  have hdrop : (record header tail ++ rest).drop (recordLen α tail.length) = rest :=
    List.drop_left' (length_record header tail)
  have hle : ReprC.size α + tail.length ≤ recordLen α tail.length := le_nextMultipleOf _ 8
  have hlen : (record header tail ++ rest).length = recordLen α tail.length + rest.length := by
    rw [List.length_append, length_record]
  have hhead : headLen tailLen (record header tail ++ rest) = recordLen α tail.length := by
    rw [headLen, hheader, htail]
  rw [walk, hhead, dif_pos ⟨by omega, by omega, by omega⟩]
  simp only [hheader, htail, hbody, hdrop]

/-- The reader undoes the writer. -/
theorem walk_records {tailLen : α → Nat} (hsize : 0 < ReprC.size α)
    (entries : List (α × List UInt8))
    (htail : ∀ entry ∈ entries, tailLen entry.1 = entry.2.length) :
    walk tailLen (entries.flatMap fun entry => record entry.1 entry.2) = (entries, []) := by
  induction entries with
  | nil => exact walk_nil tailLen
  | cons entry entries ih =>
      obtain ⟨hentry, hentries⟩ := List.forall_mem_cons.mp htail
      rw [List.flatMap_cons, walk_record_append hsize hentry, ih hentries]

theorem length_records_mod (entries : List (α × List UInt8)) :
    (entries.flatMap fun entry => record entry.1 entry.2).length % 8 = 0 := by
  induction entries with
  | nil => rfl
  | cons entry entries ih =>
      have hrecord : recordLen α entry.2.length % 8 = 0 := nextMultipleOf_mod _ (by decide)
      rw [List.flatMap_cons, List.length_append, length_record]
      omega

end

end Wire
