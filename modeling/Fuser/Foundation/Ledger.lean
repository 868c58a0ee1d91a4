import Mathlib.Data.Multiset.AddSub
import Mathlib.Logic.Relation

/-!
A ledger of obligations. An obligation is issued once and then outstanding until
it is settled, and only what is outstanding can be settled. However the two kinds
of entries are mixed, what was settled is part of what was issued, and it is all
of it as soon as nothing is outstanding.
-/

namespace Ledger

/-- Obligations of type `α`, each as often as it was issued. -/
structure Book (α : Type) where
  issued : Multiset α
  settled : Multiset α
  outstanding : Multiset α

variable {α : Type}

inductive Entry (book : Book α) : Book α → Prop where
  | issue (a : α) :
      Entry book ⟨a ::ₘ book.issued, book.settled, a ::ₘ book.outstanding⟩
  | settle (a : α) {rest : Multiset α} (h : book.outstanding = a ::ₘ rest) :
      Entry book ⟨book.issued, a ::ₘ book.settled, rest⟩

/-- Any number of entries. -/
def Entries (book book' : Book α) : Prop := Relation.ReflTransGen Entry book book'

def Balanced (book : Book α) : Prop := book.issued = book.settled + book.outstanding

theorem Entries.refl (book : Book α) : Entries book book := Relation.ReflTransGen.refl

theorem Entry.entries {book book' : Book α} (h : Entry book book') : Entries book book' :=
  Relation.ReflTransGen.single h

/-- An obligation that is settled as soon as it is issued. -/
theorem entries_issue_settle (book : Book α) (a : α) :
    Entries book ⟨a ::ₘ book.issued, a ::ₘ book.settled, book.outstanding⟩ :=
  (Entry.issue a).entries.tail (Entry.settle a rfl)

theorem Balanced.entry {book book' : Book α} (h : Balanced book) (hentry : Entry book book') :
    Balanced book' := by
  unfold Balanced at h ⊢
  cases hentry with
  | issue a => simp only [h, Multiset.add_cons]
  | settle a hout => simp only [h, hout, Multiset.add_cons, Multiset.cons_add]

theorem Balanced.entries {book book' : Book α} (h : Balanced book)
    (hentries : Entries book book') : Balanced book' := by
  induction hentries with
  | refl => exact h
  | tail _ hentry ih => exact ih.entry hentry

theorem Balanced.settled_le {book : Book α} (h : Balanced book) : book.settled ≤ book.issued := by
  rw [h]
  exact Multiset.le_add_right ..

theorem Balanced.settled_eq {book : Book α} (h : Balanced book) (hout : book.outstanding = 0) :
    book.settled = book.issued := by
  rw [h, hout, Multiset.add_zero]

end Ledger
