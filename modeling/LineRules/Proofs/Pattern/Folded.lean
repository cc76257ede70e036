import Mathlib.Data.List.Forall2
import LineRules.Proofs.Pattern.Reach
import LineRules.Proofs.Text.Folding

/-!
# Words up to case

What written-out texts match where case does not count: texts of the same length whose
characters are the same up to case (`Folds`).
-/

namespace LineRules.Pattern.Node

open LineRules.Text

variable {before after : List Char} {condition : State → Prop}

/-- A character that is another one up to case. -/
def Folds (own c : Char) : Prop :=
  (CharClass.mk false .folded [.ofChar own]).contains c = true

/-- What holds of all characters that some letters are written as, in any case. -/
theorem holds_of_folds (holds : Char → Bool) {letters : List Char}
    (checked : (letters.all fun own => [ClassItem.ofChar own].all ClassItem.isAscii &&
      foldedCodes.all fun code =>
        !(CharClass.mk false .folded [.ofChar own]).contains (Char.ofNat code) ||
          holds (Char.ofNat code)) = true) {own c : Char} (folds : Folds own c)
    (isLetter : own ∈ letters) : holds c = true := by
  have both := List.all_eq_true.mp checked own isLetter
  rw [Bool.and_eq_true] at both
  exact CharClass.holds_of_folded holds both.1 both.2 folds

/-- Marks are no other characters up to case. -/
theorem folds_mark_iff {own c : Char} (isMark : own ∈ CharClass.marks) : Folds own c ↔ c = own := by
  have same := CharClass.contains_marks [own] (by simpa using isMark) c
  rw [Bool.eq_iff_iff, decide_eq_true_iff, List.mem_singleton] at same
  exact same

theorem reaches_lit_folded_iff {own : Char} {opened closed : List (Nat × Cursor)} :
    (lit own .folded).Reaches ⟨.between before after, opened, closed⟩ condition ↔
      ∃ c rest, after = c :: rest ∧ Folds own c ∧
        condition ⟨.between (c :: before) rest, opened, closed⟩ :=
  reaches_char_iff

theorem reaches_lits_folded_iff {text : List Char} {opened closed : List (Nat × Cursor)} :
    (sequence (text.map fun c => lit c .folded)).Reaches ⟨.between before after, opened, closed⟩
        condition ↔
      ∃ piece rest, after = piece ++ rest ∧ List.Forall₂ Folds text piece ∧
        condition ⟨.between (piece.reverse ++ before) rest, opened, closed⟩ := by
  induction text generalizing before after with
  | nil => simp [reaches_sequence_nil_iff]
  | cons own text hyp =>
      simp only [List.map_cons, reaches_sequence_cons_iff, reaches_lit_folded_iff, hyp,
        List.forall₂_cons_left_iff]
      constructor
      · rintro ⟨c, _, rfl, folds, piece, rest, rfl, all, met⟩
        exact ⟨c :: piece, rest, rfl, ⟨c, piece, folds, all, rfl⟩, by simpa using met⟩
      · rintro ⟨_, rest, rfl, ⟨c, piece, folds, all, rfl⟩, met⟩
        exact ⟨c, piece ++ rest, rfl, folds, piece, rest, rfl, all, by simpa using met⟩

theorem reaches_words_folded_iff {texts : List String} (nonempty : texts ≠ [])
    {opened closed : List (Nat × Cursor)} :
    (words texts .folded).Reaches ⟨.between before after, opened, closed⟩ condition ↔
      ∃ text ∈ texts, ∃ piece rest, after = piece ++ rest ∧ List.Forall₂ Folds text.toList piece ∧
        condition ⟨.between (piece.reverse ++ before) rest, opened, closed⟩ := by
  rw [words, reaches_choice_iff (by simpa using nonempty)]
  simp only [List.mem_map, exists_exists_and_eq_and, lits, reaches_lits_folded_iff]

end LineRules.Pattern.Node
