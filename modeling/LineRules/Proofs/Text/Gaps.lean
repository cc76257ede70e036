import LineRules.Proofs.Text.Edits
import LineRules.Proofs.Text.Runs

/-!
# Gaps of a fixed width

A gap rule looks for two texts with blanks, or nothing, between them and writes a gap of
its own there. Nothing but gaps changes, so a rule finds after another one only what it
would have found before, unless the two meet at one gap.

The main statement is `Gap.Traces.free`: what one rule has set right stays so under
another rule. `Gap.Traces.free_of_self` says that a rule sets right all it finds.
-/

namespace LineRules.Text

open LineRules.Pattern

/-- A rule for the gap between two texts. -/
structure Gap where
  /-- The text before the gap, nearest character first. -/
  left : List Char → Prop
  /-- What stands in a gap that is to change. -/
  loose : List Char → Prop
  /-- The character after the gap and the text after that. -/
  right : Char → List Char → Prop
  /-- What is written into the gap. -/
  fill : List Char
  left_solid {before : List Char} :
    left before → ∃ c earlier, before = c :: earlier ∧ isBlank c = false
  loose_blank {blanks : List Char} : loose blanks → ∀ c ∈ blanks, isBlank c = true
  right_solid {c : Char} {after : List Char} : right c after → isBlank c = false
  /-- A gap never parts a word. -/
  apart {before : List Char} {c : Char} {after : List Char} :
    left before → right c after → isWord c = true → NoWordNext before
  fill_blank : ∀ c ∈ fill, isBlank c = true
  fill_settled : ¬ loose fill

namespace Gap

/-- Setting a gap; the character after it is written again. -/
def swap (gap : Gap) : Swap := fun before piece after new =>
  ∃ blanks c, piece = blanks ++ [c] ∧ new = gap.fill ++ [c] ∧ gap.left before ∧
    gap.loose blanks ∧ gap.right c after

/-- A gap that is to change lies at a place. -/
abbrev Found (gap : Gap) (before after : List Char) : Prop :=
  gap.swap.Applies before after

variable {gap : Gap} {before written after out : List Char} {c d : Char}

theorem found_iff : gap.Found before after ↔
    ∃ blanks c rest, after = blanks ++ c :: rest ∧ gap.left before ∧ gap.loose blanks ∧
      gap.right c rest := by
  constructor
  · rintro ⟨_, rest, _, rfl, blanks, c, rfl, rfl, left, loose, right⟩
    exact ⟨blanks, c, rest, by simp, left, loose, right⟩
  · rintro ⟨blanks, c, rest, rfl, left, loose, right⟩
    exact ⟨blanks ++ [c], rest, _, by simp, blanks, c, rfl, rfl, left, loose, right⟩

theorem not_found_nil : ¬ gap.Found before [] := by
  rw [found_iff]
  rintro ⟨blanks, c, rest, split, _⟩
  simp at split

theorem not_found_of_blank (blank : isBlank c = true) : ¬ gap.Found (c :: before) after := by
  rw [found_iff]
  rintro ⟨_, _, _, _, left, _⟩
  obtain ⟨d, earlier, same, solid⟩ := gap.left_solid left
  obtain ⟨rfl, rfl⟩ : c = d ∧ before = earlier := by simpa using same
  rw [blank] at solid
  contradiction

/-! ## What an edit keeps -/

/-- A place at which no gap is to change is kept. -/
theorem edited_of_not_found (edited : Edited gap.swap before after out)
    (fixed : ¬ gap.Found before after) :
    (after = [] ∧ out = []) ∨ ∃ c later rest, after = c :: later ∧ out = c :: rest ∧
      Edited gap.swap (c :: before) later rest := by
  cases edited with
  | done => exact .inl ⟨rfl, rfl⟩
  | keep _ rest => exact .inr ⟨_, _, _, rfl, rfl, rest⟩
  | swap swapped rest => exact absurd ⟨_, _, _, rfl, swapped⟩ fixed

theorem eq_nil_of_edited (edited : Edited gap.swap before after []) : after = [] := by
  generalize written : ([] : List Char) = out at edited
  cases edited with
  | done => rfl
  | keep => contradiction
  | swap swapped _ =>
      obtain ⟨blanks, c, rfl, rfl, _⟩ := swapped
      simp at written

/-- Blanks that follow a blank are kept, with the character after them. -/
theorem edited_blanks {blanks : List Char} (blank : isBlank d = true)
    (allBlank : ∀ c ∈ blanks, isBlank c = true)
    (edited : Edited gap.swap (d :: before) after (blanks ++ c :: out)) :
    ∃ later, after = blanks ++ c :: later ∧
      Edited gap.swap (c :: (blanks.reverse ++ d :: before)) later out := by
  induction blanks generalizing d before after with
  | nil =>
      rcases edited_of_not_found edited (not_found_of_blank blank) with
        ⟨_, none⟩ | ⟨e, later, rest, rfl, same, edited⟩
      · simp at none
      · obtain ⟨rfl, rfl⟩ : c = e ∧ out = rest := by simpa using same
        exact ⟨later, rfl, edited⟩
  | cons e blanks hyp =>
      rcases edited_of_not_found edited (not_found_of_blank blank) with
        ⟨_, none⟩ | ⟨f, later, rest, rfl, same, edited⟩
      · simp at none
      · obtain ⟨rfl, rfl⟩ : e = f ∧ blanks ++ c :: out = rest := by simpa using same
        obtain ⟨last, rfl, beyond⟩ := hyp (allBlank e (by simp))
          (fun c inBlanks => allBlank c (by simp [inBlanks])) edited
        exact ⟨last, rfl, by simpa using beyond⟩

/-- The rest of a word is kept. -/
theorem takeWhile_isWord_of_edited (edited : Edited gap.swap before after out)
    (inWord : ¬ NoWordNext before) : out.takeWhile isWord = after.takeWhile isWord := by
  induction edited with
  | done => rfl
  | @keep before after out c _ _ hyp =>
      by_cases word : isWord c = true
      · simp only [List.takeWhile_cons, word, if_true]
        rw [hyp (by simp [NoWordNext, word])]
      · simp [word]
  | @swap before piece after new out swapped _ _ =>
      obtain ⟨blanks, c, rfl, rfl, left, loose, right⟩ := swapped
      have noWord : isWord c = false := by
        by_contra word
        exact inWord (gap.apart left right (by simpa using word))
      have stops : ∀ fill : List Char, (∀ d ∈ fill, isBlank d = true) → ∀ rest,
          (fill ++ [c] ++ rest).takeWhile isWord = [] := by
        intro fill allBlank rest
        cases fill with
        | nil => simp [noWord]
        | cons d fill => simp [isWord_of_isBlank (allBlank d (by simp))]
      rw [stops _ gap.fill_blank, stops _ (gap.loose_blank loose)]

/-- Two texts before a place that end alike: in the same character and the same word. -/
structure SameEnd (before written : List Char) : Prop where
  head : before.head? = written.head?
  word : before.takeWhile isWord = written.takeWhile isWord

namespace SameEnd

theorem rfl : SameEnd before before := ⟨Eq.refl _, Eq.refl _⟩

theorem keep (same : SameEnd before written) : SameEnd (c :: before) (c :: written) := by
  refine ⟨by simp, ?_⟩
  by_cases word : isWord c = true
  · simp [word, same.word]
  · simp [word]

theorem noWordNext (same : SameEnd before written) (stop : NoWordNext before) :
    NoWordNext written := by
  rw [NoWordNext, ← same.head]
  exact stop

theorem firstWord {word : List Char} (same : SameEnd before written)
    (first : FirstWord word written) : FirstWord word before := by
  rw [FirstWord, same.word]
  exact first

theorem swap (same : SameEnd before written) {piece new : List Char}
    (swapped : gap.swap before piece after new) :
    SameEnd (piece.reverse ++ before) (new.reverse ++ written) := by
  obtain ⟨blanks, c, rfl, rfl, left, loose, right⟩ := swapped
  refine ⟨by simp, ?_⟩
  by_cases word : isWord c = true
  · have stop : NoWordNext before := gap.apart left right word
    have stops : ∀ fill earlier : List Char, (∀ d ∈ fill, isBlank d = true) →
        NoWordNext earlier → (fill.reverse ++ earlier).takeWhile isWord = [] := by
      intro fill earlier allBlank stop
      cases last : (fill.reverse ++ earlier) with
      | nil => simp
      | cons d rest =>
          have isHead : isWord d = false := by
            rcases List.eq_nil_or_concat fill with rfl | ⟨fill, e, rfl⟩
            · exact stop d (by simp_all)
            · obtain rfl : e = d := by simp_all
              exact isWord_of_isBlank (allBlank e (by simp))
          simp [isHead]
    simp [word, stops _ _ (gap.loose_blank loose) stop,
      stops _ _ gap.fill_blank (same.noWordNext stop)]
  · simp [word]

end SameEnd

/-! ## What stays set right -/

/-- A gap that another rule left alone is one that it was. -/
private theorem found_of_kept {fixed edit : Gap}
    (left : fixed.left written → fixed.left before)
    (right : ∀ {before c after out}, Edited edit.swap (c :: before) after out →
      fixed.right c out → fixed.right c after)
    (edited : Edited edit.swap (c :: before) after out)
    (found : fixed.Found written (c :: out)) : fixed.Found before (c :: after) := by
  obtain ⟨blanks, d, rest, split, isLeft, loose, isRight⟩ := found_iff.mp found
  cases blanks with
  | nil =>
      obtain ⟨rfl, rfl⟩ : c = d ∧ out = rest := by simpa using split
      exact found_iff.mpr ⟨[], c, after, rfl, left isLeft, loose, right edited isRight⟩
  | cons e blanks =>
      obtain ⟨rfl, rfl⟩ : c = e ∧ out = blanks ++ d :: rest := by simpa using split
      have allBlank := fixed.loose_blank loose
      obtain ⟨later, rfl, beyond⟩ := edited_blanks (allBlank c (by simp))
        (fun e inBlanks => allBlank e (by simp [inBlanks])) edited
      exact found_iff.mpr ⟨c :: blanks, d, later, rfl, left isLeft, loose, right beyond isRight⟩

/-- A gap found where another rule has written one is that very gap. -/
private theorem found_of_written {fixed edit : Gap} (solid : isBlank c = false)
    {done rest : List Char} (split : edit.fill ++ [c] = done ++ rest) (nonempty : rest ≠ [])
    (found : fixed.Found (done.reverse ++ written) (rest ++ out)) :
    fixed.left written ∧ fixed.loose edit.fill ∧ fixed.right c out := by
  rcases List.eq_nil_or_concat done with rfl | ⟨done, d, rfl⟩
  · obtain rfl : edit.fill ++ [c] = rest := split
    obtain ⟨blanks, d, last, same, left, loose, right⟩ := found_iff.mp found
    have cut : edit.fill = blanks ∧ c :: out = d :: last := by
      refine run_unique edit.fill_blank ?_ (fixed.loose_blank loose) ?_ (by simpa using same)
      · rintro e ⟨⟩
        exact solid
      · rintro e ⟨⟩
        exact fixed.right_solid right
    obtain ⟨rfl, tails⟩ := cut
    obtain ⟨rfl, rfl⟩ : c = d ∧ out = last := by simpa using tails
    exact ⟨left, loose, right⟩
  · have inFill : d ∈ edit.fill := by
      obtain ⟨rest, e, rfl⟩ := List.eq_nil_or_concat rest |>.resolve_left nonempty
      have fillSplit : edit.fill ++ [c] = (done ++ [d] ++ rest) ++ [e] := by simpa using split
      rw [(List.append_inj' fillSplit rfl).1]
      simp
    have notFound : ¬ fixed.Found (d :: (done.reverse ++ written)) (rest ++ out) :=
      not_found_of_blank (edit.fill_blank d inFill)
    exact absurd (by simpa using found) notFound

/-- What surrounds a gap after the edits of another rule surrounded it before. `related`
relates the text before a place to what has been written for it. -/
structure Traces (fixed edit : Gap) (related : List Char → List Char → Prop) : Prop where
  start : related [] []
  keep {before written : List Char} {c : Char} :
    related before written → related (c :: before) (c :: written)
  swap {before written piece after new : List Char} : related before written →
    edit.swap before piece after new → related (piece.reverse ++ before) (new.reverse ++ written)
  left {before written : List Char} :
    related before written → fixed.left written → fixed.left before
  right {before : List Char} {c : Char} {after out : List Char} :
    Edited edit.swap (c :: before) after out → fixed.right c out → fixed.right c after

/-- What a rule has set right stays so under another rule, if the two never meet at a
gap. -/
theorem Traces.free {fixed edit : Gap} {related : List Char → List Char → Prop}
    (traces : fixed.Traces edit related)
    (clash : ∀ {before c after out}, fixed.left before → edit.left before →
      fixed.loose edit.fill → fixed.right c out → edit.right c after → False)
    {text : List Char} (edited : Edited edit.swap [] text out) (free : Free fixed.Found [] text) :
    Free fixed.Found [] out := by
  refine edited.free traces.keep traces.swap ?_ ?_ traces.start ?_
  · intro before written c after out isRelated _ rest found
    exact .inr (found_of_kept (traces.left isRelated) traces.right rest found)
  · rintro before written _ after _ out isRelated ⟨blanks, c, rfl, rfl, editLeft, _, editRight⟩
      rest done more split nonempty found
    obtain ⟨isLeft, loose, isRight⟩ :=
      found_of_written (edit.right_solid editRight) split nonempty found
    exact clash (traces.left isRelated isLeft) editLeft loose isRight editRight
  · exact Free.mono (fun _ _ found => found.2) free

/-- A rule sets right all that it finds. -/
theorem Traces.free_of_self {related : List Char → List Char → Prop}
    (traces : gap.Traces gap related) {text : List Char} (edited : Edited gap.swap [] text out) :
    Free gap.Found [] out := by
  refine edited.free traces.keep traces.swap ?_ ?_ traces.start ?_
  · intro before written c after out isRelated _ rest found
    exact .inl (found_of_kept (traces.left isRelated) traces.right rest found)
  · rintro before written _ after _ out isRelated ⟨blanks, c, rfl, rfl, _, _, isRight⟩
      rest done more split nonempty found
    exact gap.fill_settled (found_of_written (gap.right_solid isRight) split nonempty found).2.1
  · exact Free.of_forall fun _ _ _ _ found => found.1 found.2

theorem traces_sameEnd {fixed edit : Gap}
    (left : ∀ {before written}, SameEnd before written → fixed.left written → fixed.left before)
    (right : ∀ {before c after out}, Edited edit.swap (c :: before) after out →
      fixed.right c out → fixed.right c after) : fixed.Traces edit SameEnd where
  start := .rfl
  keep := SameEnd.keep
  swap same swapped := same.swap swapped
  left := left
  right := right

end Gap

end LineRules.Text
