import Mathlib.Data.List.Basic

/-!
Lists of words in one text, separated by a character and with an escape before a
character that is meant as such.

The reader takes an escape off the character behind it, or reads three characters
behind it as the code of one. A writer that escapes only separators and escapes is
never read as having written a code, and gets its words back.
-/

namespace Text

variable {α : Type}

/-- How a reader takes a text apart. -/
structure Quoting (α : Type) where
  sep : α
  esc : α
  /-- What three characters behind an escape stand for, if they are a code. -/
  code : α → α → α → Option α
  sep_ne_esc : sep ≠ esc
  code_sep : ∀ b c, code sep b c = none
  code_esc : ∀ b c, code esc b c = none

/-- Put characters before the first word. -/
def prepend (cs : List α) : List (List α) → List (List α)
  | [] => [cs]
  | w :: ws => (cs ++ w) :: ws

theorem prepend_append (cs cs' : List α) (ws : List (List α)) :
    prepend (cs ++ cs') ws = prepend cs (prepend cs' ws) := by
  cases ws with
  | nil => rfl
  | cons w ws => rw [prepend, prepend, prepend, List.append_assoc]

namespace Quoting

variable [DecidableEq α] (q : Quoting α)

/-- The words of a text. An escape with nothing behind it stands for itself. -/
def words : List α → List (List α)
  | [] => [[]]
  | c :: rest =>
      if c = q.sep then [] :: words rest
      else if c = q.esc then
        match rest with
        | [] => [[c]]
        | [a] => [[a]]
        | [a, b] => prepend [a] (words [b])
        | a :: b :: d :: rest =>
            match q.code a b d with
            | some v => prepend [v] (words rest)
            | none => prepend [a] (words (b :: d :: rest))
      else prepend [c] (words rest)

/-- A character as a writer puts it. -/
def escapeChar (c : α) : List α := if c = q.sep ∨ c = q.esc then [q.esc, c] else [c]

def escape (w : List α) : List α := w.flatMap q.escapeChar

theorem words_ne_nil (cs : List α) : q.words cs ≠ [] := by
  have hprepend (cs : List α) (ws : List (List α)) : prepend cs ws ≠ [] := by
    cases ws <;> exact nofun
  cases cs with
  | nil => exact nofun
  | cons c rest =>
      rw [words.eq_def]
      simp only
      split
      · exact nofun
      · split
        · split
          · exact nofun
          · exact nofun
          · exact hprepend _ _
          · split <;> exact hprepend _ _
        · exact hprepend _ _

theorem words_sep (rest : List α) : q.words (q.sep :: rest) = [] :: q.words rest := by
  rw [words.eq_def]
  exact if_pos rfl

theorem words_plain {c : α} (hsep : c ≠ q.sep) (hesc : c ≠ q.esc) (rest : List α) :
    q.words (c :: rest) = prepend [c] (q.words rest) := by
  rw [words.eq_def]
  exact (if_neg hsep).trans (if_neg hesc)

/-- An escaped character that starts no code. -/
theorem words_esc {c : α} (hcode : ∀ b d, q.code c b d = none) (rest : List α) :
    q.words (q.esc :: c :: rest) = prepend [c] (q.words rest) := by
  rw [words.eq_def]
  simp only [if_neg q.sep_ne_esc.symm]
  cases rest with
  | nil => rfl
  | cons b rest =>
      cases rest with
      | nil => rfl
      | cons d rest =>
          simp only [hcode, if_true]

theorem words_escapeChar_append (c : α) (rest : List α) :
    q.words (q.escapeChar c ++ rest) = prepend [c] (q.words rest) := by
  rw [escapeChar]
  by_cases hspecial : c = q.sep ∨ c = q.esc
  · rw [if_pos hspecial]
    refine q.words_esc (fun b d => ?_) rest
    cases hspecial with
    | inl hsep => rw [hsep, q.code_sep]
    | inr hesc => rw [hesc, q.code_esc]
  · rw [if_neg hspecial]
    exact q.words_plain (fun hsep => hspecial (.inl hsep)) (fun hesc => hspecial (.inr hesc)) rest

/-- An escaped word is read as part of the word that goes on behind it. -/
theorem words_escape_append (w rest : List α) :
    q.words (q.escape w ++ rest) = prepend w (q.words rest) := by
  induction w with
  | nil =>
      cases hwords : q.words rest with
      | nil => exact absurd hwords (q.words_ne_nil rest)
      | cons w ws => exact hwords
  | cons c w ih =>
      rw [escape, List.flatMap_cons, List.append_assoc, words_escapeChar_append]
      change prepend [c] (q.words (q.escape w ++ rest)) = _
      rw [ih, ← prepend_append]
      rfl

theorem words_escape (w : List α) : q.words (q.escape w) = [w] := by
  have happend := q.words_escape_append w []
  rw [List.append_nil] at happend
  rw [happend, words, prepend, List.append_nil]

/-- Words that were escaped one by one and joined are read back. -/
theorem words_intercalate {ws : List (List α)} (h : ws ≠ []) :
    q.words ([q.sep].intercalate (ws.map q.escape)) = ws := by
  induction ws with
  | nil => exact absurd rfl h
  | cons w ws ih =>
      cases ws with
      | nil => exact (congrArg q.words List.intercalate_singleton).trans (q.words_escape w)
      | cons w' ws =>
          have hjoin : [q.sep].intercalate ((w :: w' :: ws).map q.escape) =
              q.escape w ++ q.sep :: [q.sep].intercalate ((w' :: ws).map q.escape) := by
            rw [List.map_cons, List.map_cons, List.intercalate_cons_cons]
            simp
          rw [hjoin, words_escape_append, words_sep, ih nofun, prepend, List.append_nil]

theorem escape_append (w w' : List α) : q.escape (w ++ w') = q.escape w ++ q.escape w' :=
  List.flatMap_append

/-- A word without a separator or an escape is written as it is. -/
theorem escape_of_plain {w : List α} (hsep : q.sep ∉ w) (hesc : q.esc ∉ w) : q.escape w = w := by
  induction w with
  | nil => rfl
  | cons c w ih =>
      rw [List.mem_cons, not_or] at hsep hesc
      have hplain : ¬ (c = q.sep ∨ c = q.esc) := by
        rintro (rfl | rfl)
        · exact hsep.1 rfl
        · exact hesc.1 rfl
      rw [escape, List.flatMap_cons, escapeChar, if_neg hplain]
      exact congrArg (c :: ·) (ih hsep.2 hesc.2)

end Quoting

end Text
