import Mathlib.Data.List.TakeWhile

/-!
A list that is handed out in pages. A page holds as many of the items that are left as
there is room for, in order, and the next page starts after the last item of this one.
An empty page ends the list.
-/

namespace Paging

variable {α : Type}

/-- The items from the front that there is room for. -/
def fill (size : α → Nat) : Nat → List α → List α
  | _, [] => []
  | room, item :: items =>
      if size item ≤ room then item :: fill size (room - size item) items else []

/-- The pages from a position on, up to the first that is empty. -/
def collect (page : Nat → List α) : Nat → Nat → List α
  | 0, _ => []
  | fuel + 1, position =>
      match page position with
      | [] => []
      | item :: items => item :: items ++ collect page fuel (position + (items.length + 1))

theorem fill_append (size : α → Nat) (room : Nat) (items : List α) :
    fill size room items ++ items.drop (fill size room items).length = items := by
  induction items generalizing room with
  | nil => rfl
  | cons item items ih =>
      rw [fill]
      split
      · simp only [List.cons_append, List.length_cons, List.drop_succ_cons, ih]
      · rfl

/-- An item on a page would also fit on a page of its own. -/
theorem size_le_of_mem_fill {size : α → Nat} {room : Nat} {items : List α} {item : α}
    (h : item ∈ fill size room items) : size item ≤ room := by
  induction items generalizing room with
  | nil => cases h
  | cons head items ih =>
      rw [fill] at h
      split at h
      next hfits =>
          cases List.mem_cons.mp h with
          | inl heq => exact heq ▸ hfits
          | inr hmem => exact Nat.le_trans (ih hmem) (Nat.sub_le ..)
      · cases h

/-- The pages together hold the items up to the first that does not fit on any page. -/
theorem collect_fill (size : α → Nat) (room : Nat) (items : List α) (fuel position : Nat)
    (h : items.length < fuel + position) :
    collect (fun position => fill size room (items.drop position)) fuel position =
      (items.drop position).takeWhile fun item => decide (size item ≤ room) := by
  induction fuel generalizing position with
  | zero =>
      have hnil : items.drop position = [] := List.drop_eq_nil_of_le (by omega)
      rw [hnil, collect, List.takeWhile_nil]
  | succ fuel ih =>
      rw [collect]
      have happend := fill_append size room (items.drop position)
      split
      next hpage =>
          cases hleft : items.drop position with
          | nil => rfl
          | cons item left =>
              rw [hleft, fill] at hpage
              split at hpage
              · cases hpage
              next hfits => rw [List.takeWhile_cons_of_neg (by simpa using hfits)]
      next item page hpage =>
          have hall : ∀ a ∈ item :: page, decide (size a ≤ room) = true := by
            intro a hmem
            rw [← hpage] at hmem
            exact decide_eq_true (size_le_of_mem_fill hmem)
          rw [ih _ (by omega), ← List.drop_drop]
          rw [hpage, List.length_cons] at happend
          rw [← List.takeWhile_append_of_pos hall, happend]

end Paging
