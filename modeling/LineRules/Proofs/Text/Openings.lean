import LineRules.Format.File
import LineRules.Proofs.Text.Gaps

/-!
# How lines open and end

What a line is taken for (a comment, an executable script) depends on its indentation
and the first two characters after that. Gap rules change neither these nor the last
character of a line.
-/

namespace LineRules.Text

/-- Characters that tell comments and executable scripts when they come second. -/
def openers : List Char := ['/', '*', '!']

theorem openers_solid {d : Char} (isOpener : d ∈ openers) : isBlank d = false := by
  simp only [openers, List.mem_cons, List.not_mem_nil, or_false] at isOpener
  rcases isOpener with rfl | rfl | rfl
  · decide
  · decide
  · decide

/-- Two lines that open alike: with the same blanks, the same character after them, and
the same opener after that, if any. -/
structure SameOpening (text out : List Char) : Prop where
  lead : text.takeWhile isBlank = out.takeWhile isBlank
  first : (text.dropWhile isBlank).head? = (out.dropWhile isBlank).head?
  second : ∀ d ∈ openers, (text.dropWhile isBlank).tail.head? = some d ↔
    (out.dropWhile isBlank).tail.head? = some d

namespace SameOpening

variable {text middle out : List Char}

theorem refl (text : List Char) : SameOpening text text :=
  ⟨rfl, rfl, fun _ _ => Iff.rfl⟩

theorem trans (first : SameOpening text middle) (second : SameOpening middle out) :
    SameOpening text out where
  lead := first.lead.trans second.lead
  first := first.first.trans second.first
  second d isOpener := (first.second d isOpener).trans (second.second d isOpener)

/-- Lines that open alike go on with the same opener after the same character. -/
theorem dropWhile_iff (same : SameOpening text out) {c d : Char} (isOpener : d ∈ openers) :
    (∃ rest, text.dropWhile isBlank = c :: d :: rest) ↔
      ∃ rest, out.dropWhile isBlank = c :: d :: rest := by
  have shape : ∀ list : List Char, (∃ rest, list = c :: d :: rest) ↔
      list.head? = some c ∧ list.tail.head? = some d := by
    intro list
    match list with
    | [] => simp
    | [e] => simp
    | e :: f :: list => simp
  rw [shape, shape, same.first, same.second d isOpener]

end SameOpening

namespace Gap

variable {gap : Gap} {before after out : List Char}

/-- Beside a gap, characters that end none are as they were. -/
private theorem head?_iff_of_edited {d : Char} (solid : isBlank d = false)
    (other : ∀ rest, ¬ gap.right d rest) (edited : Edited gap.swap before after out) :
    after.head? = some d ↔ out.head? = some d := by
  cases edited with
  | done => rfl
  | keep _ _ => rfl
  | swap swapped _ =>
      obtain ⟨blanks, c, rfl, rfl, _, loose, right⟩ := swapped
      have absent : ∀ fill rest : List Char, (∀ e ∈ fill, isBlank e = true) →
          (fill ++ [c] ++ rest).head? ≠ some d := by
        intro fill rest allBlank isHead
        cases fill with
        | nil =>
            obtain rfl : c = d := by simpa using isHead
            exact other _ right
        | cons e fill =>
            obtain rfl : e = d := by simpa using isHead
            rw [allBlank e (by simp)] at solid
            contradiction
      simp only [absent _ _ (gap.loose_blank loose), absent _ _ gap.fill_blank]

/-- A gap rule keeps how a line opens. -/
theorem sameOpening_of_edited (other : ∀ d ∈ openers, ∀ rest, ¬ gap.right d rest)
    (edited : Edited gap.swap before after out)
    (opens : before = [] ∨ ∃ c earlier, before = c :: earlier ∧ isBlank c = true) :
    SameOpening after out := by
  induction after generalizing before out with
  | nil =>
      have notFound : ¬ gap.Found before [] := not_found_nil
      rcases edited_of_not_found edited notFound with ⟨_, rfl⟩ | ⟨_, _, _, split, _⟩
      · exact .refl []
      · simp at split
  | cons c after hyp =>
      have notFound : ¬ gap.Found before (c :: after) := by
        rcases opens with rfl | ⟨d, earlier, rfl, blank⟩
        · rw [found_iff]
          rintro ⟨_, _, _, _, left, _⟩
          obtain ⟨_, _, split, _⟩ := gap.left_solid left
          simp at split
        · exact not_found_of_blank blank
      rcases edited_of_not_found edited notFound with ⟨none, _⟩ | ⟨d, later, rest, split, rfl, next⟩
      · simp at none
      · obtain ⟨rfl, rfl⟩ := List.cons.inj split
        cases blank : isBlank c with
        | true =>
            have same := hyp next (.inr ⟨c, before, rfl, blank⟩)
            refine ⟨?_, ?_, ?_⟩
            · simp [blank, same.lead]
            · simpa [blank] using same.first
            · simpa [blank] using same.second
        | false =>
            refine ⟨by simp [blank], by simp [blank], ?_⟩
            intro d isOpener
            have solid : isBlank d = false := openers_solid isOpener
            simpa [blank] using head?_iff_of_edited solid (other d isOpener) next

/-- A gap rule keeps the last character of a line. -/
theorem getLast?_of_edited (edited : Edited gap.swap before after out) :
    out.getLast? = after.getLast? := by
  induction edited with
  | done => rfl
  | keep _ _ hyp => simp [List.getLast?_cons, hyp]
  | swap swapped _ hyp =>
      obtain ⟨blanks, c, rfl, rfl, _⟩ := swapped
      have last : ∀ fill rest : List Char,
          (fill ++ [c] ++ rest).getLast? = rest.getLast?.or (some c) := by
        intro fill rest
        rw [List.getLast?_append, List.getLast?_concat]
      rw [last, last, hyp]

/-- A gap rule writes no characters but blanks of its own. -/
theorem mem_of_edited (edited : Edited gap.swap before after out) {d : Char}
    (isMember : d ∈ out) : d ∈ after ∨ d ∈ gap.fill := by
  induction edited with
  | done => exact .inl isMember
  | @keep before after out c _ _ hyp =>
      rcases List.mem_cons.mp isMember with rfl | inRest
      · exact .inl (by simp)
      · exact (hyp inRest).imp (List.mem_cons_of_mem _) id
  | swap swapped _ hyp =>
      obtain ⟨blanks, c, rfl, rfl, _⟩ := swapped
      simp only [List.append_assoc, List.mem_append] at isMember ⊢
      rcases isMember with inFill | isLast | inRest
      · exact .inr inFill
      · exact .inl (.inr (.inl isLast))
      · exact (hyp inRest).imp (fun inAfter => .inr (.inr inAfter)) id

end Gap

/-- A line is that of an executable script if it opens with the two characters for it. -/
theorem isExecutable_iff {text : List Char} : Format.isExecutable text = true ↔
    ∃ rest, text = '#' :: '!' :: rest := by
  match text with
  | [] => simp [Format.isExecutable]
  | [c] => simp [Format.isExecutable]
  | c :: d :: rest =>
      constructor
      · intro executable
        unfold Format.isExecutable at executable
        split at executable
        case h_1 last split =>
          obtain ⟨rfl, rfl, rfl⟩ : c = '#' ∧ d = '!' ∧ rest = last := by simpa using split
          exact ⟨rest, rfl⟩
        case h_2 => contradiction
      · rintro ⟨last, split⟩
        rw [split]
        rfl

theorem SameOpening.isExecutable {text out : List Char} (same : SameOpening text out) :
    Format.isExecutable text = Format.isExecutable out := by
  have shape : ∀ text : List Char, Format.isExecutable text = true ↔
      text.takeWhile isBlank = [] ∧ ∃ rest, text.dropWhile isBlank = '#' :: '!' :: rest := by
    intro text
    rw [isExecutable_iff]
    constructor
    · rintro ⟨rest, rfl⟩
      have solid : isBlank '#' = false := by decide
      simp [solid]
    · rintro ⟨lead, rest, drop⟩
      refine ⟨rest, ?_⟩
      rw [← List.takeWhile_append_dropWhile (p := isBlank) (l := text), lead, drop]
      rfl
  rw [Bool.eq_iff_iff, shape, shape, same.lead, same.dropWhile_iff (by decide)]

end LineRules.Text
