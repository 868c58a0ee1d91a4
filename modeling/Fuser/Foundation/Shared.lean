import Mathlib.Data.List.AList

/-!
Tables whose values are references to something shared. How often a reference stands
in a table is how much the table adds to its count.
-/

namespace Shared

variable {κ : Type} [DecidableEq κ]

/-- A table of references. -/
abbrev Table (κ : Type) : Type := AList fun _ : κ => Nat

/-- How often a reference stands in a table. -/
def holds (table : Table κ) (ref : Nat) : Nat := (table.entries.map Sigma.snd).count ref

omit [DecidableEq κ] in
@[simp] theorem holds_empty (ref : Nat) : holds (∅ : Table κ) ref = 0 := rfl

theorem holds_insert {table : Table κ} {key : κ} (h : key ∉ table) (value ref : Nat) :
    holds (table.insert key value) ref = holds table ref + if value = ref then 1 else 0 := by
  rw [holds, holds, AList.entries_insert_of_notMem h, List.map_cons, List.count_cons]
  simp only [beq_iff_eq]

theorem holds_erase {table : Table κ} {key : κ} {value : Nat} (h : table.lookup key = some value)
    (ref : Nat) :
    holds table ref = holds (table.erase key) ref + if value = ref then 1 else 0 := by
  have hmem : ⟨key, value⟩ ∈ table.entries := AList.mem_lookup_iff.mp h
  obtain ⟨value', before, after, -, hentries, herase⟩ :=
    List.exists_of_kerase (List.mem_keys_of_mem hmem)
  have hvalue : value = value' := by
    refine table.nodupKeys.eq_of_mk_mem hmem ?_
    rw [hentries]
    exact List.mem_append_right _ List.mem_cons_self
  subst hvalue
  change _ = ((table.entries.kerase key).map Sigma.snd).count ref + _
  rw [holds, herase, hentries]
  simp only [List.map_append, List.map_cons, List.count_append, List.count_cons, beq_iff_eq]
  omega

/-- A reference that a table holds stands under some key. -/
theorem holds_pos {table : Table κ} {ref : Nat} :
    0 < holds table ref ↔ ∃ key, table.lookup key = some ref := by
  rw [holds, List.count_pos_iff, List.mem_map]
  constructor
  · rintro ⟨⟨key, value⟩, hmem, rfl⟩
    exact ⟨key, AList.mem_lookup_iff.mpr hmem⟩
  · rintro ⟨key, h⟩
    exact ⟨⟨key, ref⟩, AList.mem_lookup_iff.mp h, rfl⟩

end Shared
