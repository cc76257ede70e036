import LineRules.Proofs.StyleSheet.Colours

/-!
# Changes to the values of declarations

Changing the values of all declarations of a line by a pattern for words after a `#` is
writing all these words anew, wherever they lie in a value
(`edited_mapDeclarationValues`). The values are taken out of the line for this, so
their beginnings and ends have to look alike from inside and from outside.
-/

namespace LineRules.Builtin

open LineRules.Text LineRules.Pattern LineRules.Pattern.Node

variable {before after out text : List Char} {found : Match}

/-! ## Matches -/

namespace IsHead

variable {head : List Char}

theorem plain (isHead : IsHead head) : ∀ c ∈ head, isValueChar c = true := by
  obtain ⟨name, blanks, rfl, _, isName, allBlank⟩ := isHead
  intro c isMember
  rcases List.mem_append.mp isMember with inName | inRest
  · exact isValueChar_of_isPropertyChar (isName c inName)
  · rcases List.mem_append.mp inRest with inBlanks | isColon
    · exact isValueChar_of_isBlank (allBlank c inBlanks)
    · rw [List.mem_singleton.mp isColon]
      decide

theorem not_mem (isHead : IsHead head) : '#' ∉ head := by
  obtain ⟨name, blanks, rfl, _, isName, allBlank⟩ := isHead
  intro isMember
  rcases List.mem_append.mp isMember with inName | inRest
  · exact absurd (isName _ inName) (by decide)
  · rcases List.mem_append.mp inRest with inBlanks | isColon
    · exact absurd (allBlank _ inBlanks) (by decide)
    · exact absurd isColon (by decide)

theorem inValue (isHead : IsHead head) (begins : Begins before) :
    InValue (head.reverse ++ before) := by
  obtain ⟨name, blanks, rfl, nonempty, isName, allBlank⟩ := isHead
  refine inValue_iff.mpr ⟨[], blanks.reverse ++ (name.reverse ++ before), by simp, by simp, ?_⟩
  exact afterProperty_iff.mpr ⟨blanks, _, rfl, allBlank,
    inProperty_iff.mpr ⟨name, before, rfl, nonempty, isName, begins⟩⟩

theorem nonempty (isHead : IsHead head) : head ≠ [] := by
  obtain ⟨name, blanks, rfl, _⟩ := isHead
  simp

end IsHead

/-- A text that ends in a value ends in a declaration up to there. -/
theorem exists_head_of_inValue (inValue : InValue before) :
    ∃ head value earlier : List Char, before = value.reverse ++ (head.reverse ++ earlier) ∧ IsHead head ∧
      Begins earlier ∧ ∀ c ∈ value, isValueChar c = true := by
  obtain ⟨value, named, rfl, isValue, afterProperty⟩ := inValue_iff.mp inValue
  obtain ⟨blanks, named, rfl, allBlank, inProperty⟩ := afterProperty_iff.mp afterProperty
  obtain ⟨name, earlier, rfl, nonempty, isName, begins⟩ := inProperty_iff.mp inProperty
  exact ⟨name ++ (blanks ++ [':']), value, earlier, by simp,
    ⟨name, blanks, rfl, nonempty, isName, allBlank⟩, begins, isValue⟩

theorem declaration_match
    (isMatch : declaration.matcher false (.between before after) = some found) :
    ∃ head value rest, after = head ++ (value ++ rest) ∧ Begins before ∧ IsHead head ∧
      (∀ c ∈ value, isValueChar c = true) ∧ (∀ c ∈ value.getLast?, c ≠ ',') ∧
      (rest = [] ∨ rest = ['\n'] ∨ ∃ c later, rest = c :: later ∧ isCloser c = true) ∧
      found.start = .between before after ∧
      found.finish = .between ((head ++ value).reverse ++ before) rest ∧
      found.group 1 = head ∧ found.group 2 = value := by
  obtain ⟨start, reaches⟩ := reaches_of_matchAt_eq_some isMatch
  obtain ⟨head, value, rest, rfl, begins, isHead, isValue, noComma, ends, final⟩ :=
    declaration_reaches_iff.mp reaches
  refine ⟨head, value, rest, rfl, begins, isHead, isValue, ?_, ends, start, ?_, ?_, ?_⟩
  · intro c isLast
    refine noComma c ?_
    rw [← List.head?_reverse] at isLast
    rw [List.head?_append, isLast]
    rfl
  · rw [Match.finish, ← final]
    simp [declarationState]
  · rw [Match.group, Match.group?, ← final]
    simp [capture?_one_declarationState]
  · rw [Match.group, Match.group?, ← final]
    simp [capture?_two_declarationState]

theorem declaration_advances : declaration.matcher.Advances := by
  intro before after found isMatch
  obtain ⟨head, value, rest, rfl, _, isHead, _, _, _, start, finish, _⟩ :=
    declaration_match isMatch
  exact ⟨start, head ++ value, rest, by simp [isHead.nonempty], by simp, finish⟩

/-- In a line, declarations that begin in one another end alike. -/
theorem declaration_nests : declaration.matcher.NestsIn fun text => '\n' ∉ text := by
  intro before skipped rest outer inner oneLine nonempty isOuter longer isInner
  obtain ⟨_, _, last, split, _, _, _, _, ends, _, finish, _⟩ := declaration_match isOuter
  obtain ⟨head, value, later, rfl, _, isHead, isValue, _, _, _, innerFinish, _⟩ :=
    declaration_match isInner
  simp only [finish, innerFinish, Cursor.between_left] at longer ⊢
  rcases ends with rfl | rfl | ⟨c, last, rfl, closer⟩
  · simp
  · exact absurd (by rw [split]; simp) oneLine
  · by_contra beyond
    have isSuffix : c :: last <:+ head ++ (value ++ later) := by
      refine List.suffix_of_suffix_length_le ?_ (List.suffix_append skipped _) (Nat.le_of_lt longer)
      rw [split, ← List.append_assoc]
      exact List.suffix_append _ _
    obtain ⟨others, same⟩ := isSuffix
    have cut : (head ++ value) ++ later = others ++ c :: last := by rw [List.append_assoc, same]
    have inside : c ∈ head ++ value := by
      refine mem_of_suffix cut ?_
      simp only [List.length_cons] at beyond
      omega
    have plain : isValueChar c = true :=
      (List.mem_append.mp inside).elim (isHead.plain c) (isValue c)
    rw [not_isCloser_of_isValueChar plain] at closer
    contradiction

/-- A `#` in a value that goes on lies in a match of the declaration. -/
theorem exists_declaration_match {after : List Char} (inValue : InValue before)
    (ends : ValueEnds '#' after) (nonempty : after ≠ []) :
    ∃ skipped earlier found, before = skipped.reverse ++ earlier ∧
      declaration.matcher false (.between earlier (skipped ++ '#' :: after)) = some found ∧
      found.finish.left < ('#' :: after).length := by
  obtain ⟨head, value, earlier, rfl, isHead, begins, isValue⟩ := exists_head_of_inValue inValue
  obtain ⟨others, rest, rfl, isOther, closes, noComma⟩ := valueEnds_iff.mp ends
  have isWhole : ∀ c ∈ value ++ '#' :: others, isValueChar c = true := by
    intro c isMember
    rcases List.mem_append.mp isMember with inValue | inRest
    · exact isValue c inValue
    · rcases List.mem_cons.mp inRest with rfl | inOthers
      · decide
      · exact isOther c inOthers
  have reaches : declaration.node.Reaches (.start (.between earlier
      (head ++ ((value ++ '#' :: others) ++ rest)))) fun _ => True := by
    refine declaration_reaches_iff.mpr ⟨head, value ++ '#' :: others, rest, rfl, begins, isHead,
      isWhole, ?_, ?_, trivial⟩
    · intro c isHead
      refine noComma c ?_
      cases turned : others.reverse with
      | nil => simpa [turned] using isHead
      | cons => simpa [turned] using isHead
    · cases rest with
      | nil => exact .inl rfl
      | cons c rest => exact .inr (.inr ⟨c, rest, rfl, closes c rfl⟩)
  obtain ⟨found, isMatch⟩ := exists_matchAt_of_reaches reaches
  have placed : declaration.matcher false
      (.between earlier ((head ++ value) ++ '#' :: (others ++ rest))) = some found := by
    rw [show (head ++ value) ++ '#' :: (others ++ rest) =
      head ++ ((value ++ '#' :: others) ++ rest) by simp]
    exact isMatch
  refine ⟨head ++ value, earlier, found, by simp, placed, ?_⟩
  obtain ⟨other, given, last, same, _, _, _, _, lastEnds, _, finish, _⟩ := declaration_match isMatch
  have some : 0 < (others ++ rest).length := List.length_pos_iff.mpr nonempty
  simp only [finish, Cursor.between_left, List.length_cons]
  rcases lastEnds with rfl | rfl | ⟨c, later, rfl, closer⟩
  · rw [List.length_nil]
    omega
  · simp only [List.length_cons, List.length_nil]
    omega
  · -- A closer past the `#` would be a character of the value.
    by_contra beyond
    have cut : (head ++ (value ++ ['#'])) ++ (others ++ rest) = (other ++ given) ++ c :: later := by
      simpa using same
    have inside : c ∈ head ++ (value ++ ['#']) := by
      refine mem_of_suffix cut ?_
      rw [List.length_cons] at beyond
      omega
    have plain : isValueChar c = true := by
      rcases List.mem_append.mp inside with inHead | inRest
      · exact isHead.plain c inHead
      · refine isWhole c (List.mem_append.mpr ((List.mem_append.mp inRest).imp_right ?_))
        rw [List.mem_singleton]
        rintro rfl
        exact List.mem_cons_self
    rw [not_isCloser_of_isValueChar plain] at closer
    contradiction

/-! ## Words in values -/

namespace HexRule

variable {rule : HexRule} {pattern : Pattern} {replacement : Match → List Char}

/-- A pattern and a replacement that carry out a rule in a text of its own. -/
structure SetBy (rule : HexRule) (pattern : Pattern) (replacement : Match → List Char) : Prop where
  sound {before after : List Char} {found : Match} :
    pattern.matcher false (.between before after) = some found →
    ∃ word rest, after = '#' :: (word ++ rest) ∧ rule.shape word ∧ NoWordNext rest ∧
      before.head? ≠ some '(' ∧ found.start = .between before after ∧
      found.finish = .between (('#' :: word).reverse ++ before) rest ∧
      replacement found = '#' :: rule.write word
  complete {before word rest : List Char} : rule.shape word → NoWordNext rest →
    before.head? ≠ some '(' →
    ∃ found, pattern.matcher false (.between before ('#' :: (word ++ rest))) = some found

namespace SetBy

theorem advances (setBy : rule.SetBy pattern replacement) : pattern.matcher.Advances := by
  intro before after found isMatch
  obtain ⟨word, rest, rfl, _, _, _, start, finish, _⟩ := setBy.sound isMatch
  exact ⟨start, '#' :: word, rest, by simp, by simp, finish⟩

/-- What follows a value goes on with no word. -/
private theorem noWordNext_of_ends {rest : List Char}
    (ends : rest = [] ∨ rest = ['\n'] ∨ ∃ c later, rest = c :: later ∧ isCloser c = true) :
    NoWordNext rest := by
  rcases ends with rfl | rfl | ⟨c, later, rfl, closer⟩
  · simp [NoWordNext]
  · rintro c ⟨⟩
    decide
  · rintro d ⟨⟩
    cases word : isWord c with
    | false => rfl
    | true =>
        rw [not_isCloser_of_isValueChar (isValueChar_of_isWord word)] at closer
        contradiction

private theorem valueEnds_of_ends {value rest : List Char} {last : Char} (noComma : last ≠ ',')
    (isValue : ∀ c ∈ value, isValueChar c = true) (noLastComma : ∀ c ∈ value.getLast?, c ≠ ',')
    (ends : rest = [] ∨ rest = ['\n'] ∨ ∃ c later, rest = c :: later ∧ isCloser c = true) :
    ValueEnds last (value ++ rest) := by
  have noHeadComma : ∀ c ∈ (value.reverse ++ [last]).head?, c ≠ ',' := by
    intro c isHead
    rw [List.head?_append, List.head?_reverse] at isHead
    cases isLast : value.getLast? with
    | none =>
        obtain rfl : last = c := by simpa [isLast] using isHead
        exact noComma
    | some d =>
        obtain rfl : d = c := by simpa [isLast] using isHead
        exact noLastComma d isLast
  rcases ends with rfl | rfl | ⟨c, later, rfl, closer⟩
  · exact valueEnds_iff.mpr ⟨value, [], rfl, isValue, by simp, noHeadComma⟩
  · refine valueEnds_iff.mpr ⟨value ++ ['\n'], [], by simp, ?_, by simp, by simp⟩
    intro c isMember
    rcases List.mem_append.mp isMember with inValue | isFeed
    · exact isValue c inValue
    · rw [List.mem_singleton.mp isFeed]
      decide
  · exact valueEnds_iff.mpr ⟨value, _, rfl, isValue, by simpa using closer, noHeadComma⟩

variable {valued rest : List Char}

/-- A word in a value that was taken out of a text is one in that text. -/
private theorem swap_of_match {inner word : List Char} (shape : rule.shape word)
    (stop : NoWordNext after) (innerBracket : inner.head? ≠ some '(')
    (inValue : InValue (inner ++ valued)) (bracket : valued.head? ≠ some '(')
    (isValue : ∀ c ∈ '#' :: word ++ after, isValueChar c = true)
    (noComma : ∀ c ∈ ('#' :: word ++ after).getLast?, c ≠ ',')
    (ends : rest = [] ∨ rest = ['\n'] ∨ ∃ c later, rest = c :: later ∧ isCloser c = true) :
    rule.swap (inner ++ valued) ('#' :: word) (after ++ rest) ('#' :: rule.write word) := by
  refine ⟨word, rfl, rfl, shape, ?_, inValue, ?_, ?_⟩
  · cases after with
    | nil => exact noWordNext_of_ends ends
    | cons => exact stop
  · cases inner with
    | nil => exact bracket
    | cons => exact innerBracket
  · rw [← List.append_assoc]
    refine valueEnds_of_ends (by decide) (fun c isMember => isValue c (by simp_all)) ?_ ends
    intro c isLast
    refine noComma c ?_
    rw [List.cons_append, List.getLast?_cons, Option.mem_def.mp isLast]
    rfl

/-- Replacing all matches in a value that was taken out of a text. -/
private theorem edited_value (setBy : rule.SetBy pattern replacement) {segments : List Segment}
    {inner : List Char} (segmented : Segmented pattern.matcher inner after segments)
    (inValue : InValue (inner ++ valued)) (bracket : valued.head? ≠ some '(')
    (isValue : ∀ c ∈ after, isValueChar c = true) (noComma : ∀ c ∈ after.getLast?, c ≠ ',')
    (ends : rest = [] ∨ rest = ['\n'] ∨ ∃ c later, rest = c :: later ∧ isCloser c = true)
    (edited : Edited rule.swap (after.reverse ++ (inner ++ valued)) rest out) :
    Edited rule.swap (inner ++ valued) (after ++ rest)
      (segments.flatMap (Segment.chars replacement) ++ out) := by
  have noWord := noWordNext_of_ends ends
  induction segmented with
  | done => simpa using edited
  | @keep inner after c segments none _ hyp =>
      have isPlain : isValueChar c = true := isValue c (by simp)
      refine .keep ?_ (hyp (.inr ⟨isPlain, inValue⟩) (fun d inAfter => isValue d (by simp [inAfter]))
        ?_ (by simpa using edited))
      · intro applies
        obtain ⟨last, split, shape, _, notBracket, _⟩ := applies_iff.mp applies
        obtain ⟨rfl, rfl⟩ := List.cons.inj split
        have innerBracket : inner.head? ≠ some '(' := by
          cases inner with
          | nil => simp
          | cons => exact notBracket
        rw [show after.append rest = after ++ rest from rfl, takeWhile_append_of_stop noWord] at shape
        obtain ⟨found, isMatch⟩ := @SetBy.complete _ _ _ setBy inner _ (after.dropWhile isWord) shape
          head?_dropWhile_not innerBracket
        rw [List.takeWhile_append_dropWhile] at isMatch
        exact absurd (none.symm.trans isMatch) (by simp)
      · intro d isLast
        refine noComma d ?_
        cases after with
        | nil => simp at isLast
        | cons => simpa using isLast
  | @found inner piece after found segments isMatch _ finish _ hyp =>
      obtain ⟨word, last, split, shape, stop, innerBracket, _, ownFinish, written⟩ :=
        setBy.sound isMatch
      obtain ⟨rfl, rfl⟩ : piece = '#' :: word ∧ after = last :=
        Cursor.cut_unique (by simpa using split) finish ownFinish
      have isPiece : ∀ c ∈ '#' :: word, isValueChar c = true :=
        fun c inPiece => isValue c (List.mem_append_left _ inPiece)
      have swapped := swap_of_match shape stop innerBracket inValue bracket isValue noComma ends
      have fromRest : Edited rule.swap (('#' :: word).reverse ++ (inner ++ valued)) (after ++ rest)
          (segments.flatMap (Segment.chars replacement) ++ out) := by
        rw [← List.append_assoc]
        refine hyp ?_ (fun c inAfter => isValue c (List.mem_append_right _ inAfter)) ?_ ?_
        · rw [List.append_assoc]
          exact inValue_append isPiece inValue
        · intro c isLast
          refine noComma c ?_
          rw [List.getLast?_append, Option.mem_def.mp isLast]
          rfl
        · simpa using edited
      simpa [Segment.chars, written] using Edited.swap swapped fromRest

/-- Changing the value of one declaration by a pattern is writing anew all that the rule has
to in it. -/
private theorem edited_declaration (setBy : rule.SetBy pattern replacement) {piece : List Char}
    (isMatch : declaration.matcher false (.between before (piece ++ after)) = some found)
    (finish : found.finish = .between (piece.reverse ++ before) after)
    (edited : Edited rule.swap (piece.reverse ++ before) after out) :
    Edited rule.swap before (piece ++ after)
      (found.group 1 ++ pattern.replaceBy replacement (found.group 2) ++ out) := by
  obtain ⟨head, value, rest, split, begins, isHead, isValue, noComma, ends, _, ownFinish, first,
    second⟩ := declaration_match isMatch
  obtain ⟨rfl, rfl⟩ : piece = head ++ value ∧ after = rest :=
    Cursor.cut_unique (by simpa using split) finish ownFinish
  obtain ⟨inner, innerSegmented, _, innerWritten⟩ :=
    Pattern.exists_segmented setBy.advances value
  have bracket : (head.reverse ++ before).head? ≠ some '(' := by
    obtain ⟨name, blanks, rfl, _⟩ := isHead
    simp
  have inside : Edited rule.swap ([] ++ (head.reverse ++ before)) (value ++ after)
      (inner.flatMap (Segment.chars replacement) ++ out) := edited_value setBy innerSegmented
    (isHead.inValue begins) bracket isValue noComma ends (by simpa using edited)
  rw [first, second, List.append_assoc, List.append_assoc, innerWritten]
  refine Edited.keep_append ?_ (by simpa using inside)
  intro done more split nonempty applies
  obtain ⟨c, more, rfl⟩ := List.exists_cons_of_ne_nil nonempty
  obtain ⟨_, isFirst, _⟩ := applies_iff.mp applies
  obtain ⟨rfl, _⟩ := List.cons.inj isFirst
  exact isHead.not_mem (by simp [split])

/-- Changing the values of all declarations by a pattern is writing anew all that the rule
has to. -/
theorem edited_mapDeclarationValues (setBy : rule.SetBy pattern replacement)
    (oneLine : '\n' ∉ text) : Edited rule.swap [] text
      (mapDeclarationValues (pattern.replaceBy replacement) text) := by
  obtain ⟨segments, segmented, _, written⟩ :=
    Pattern.exists_segmented declaration_advances text
  rw [mapDeclarationValues, written]
  refine segmented.edited declaration_nests ?_ ?_ ?_ Matcher.clear_start oneLine
  · intro first second oneLine inSecond
    exact oneLine (List.mem_append_right _ inSecond)
  · intro before piece after found _ isMatch _ finish out edited
    exact edited_declaration setBy isMatch finish edited
  · rintro before _ after _ _ ⟨word, rfl, rfl, shape, _, inValue, _, ends⟩
    have nonempty : word ++ after ≠ [] := by simp [(rule.digits shape).1]
    exact exists_declaration_match inValue ends nonempty

/-- Where nothing is to be written anew, no value of a declaration has a match. -/
theorem search?_eq_none (setBy : rule.SetBy pattern replacement)
    (free : Free rule.swap.Applies [] text) {found : Match}
    (isFound : found ∈ declaration.findAll text) : pattern.search? (found.group 2) = none := by
  rw [Option.eq_none_iff_forall_not_mem]
  intro inner search
  obtain ⟨skipped, _, rfl, isMatch⟩ :=
    Matcher.exists_of_mem_findAll declaration_advances isFound
  obtain ⟨head, value, rest, rfl, begins, isHead, isValue, noComma, ends, _, _, _, second⟩ :=
    declaration_match isMatch
  rw [second] at search
  obtain ⟨passed, _, rfl, isInner⟩ := Matcher.exists_of_find?_eq_some search
  obtain ⟨word, last, rfl, shape, stop, innerBracket, _⟩ := setBy.sound isInner
  rw [List.append_nil] at innerBracket
  have bracket : (head.reverse ++ skipped.reverse).head? ≠ some '(' := by
    obtain ⟨name, blanks, rfl, _⟩ := isHead
    simp
  have inValue : InValue (passed.reverse ++ (head.reverse ++ skipped.reverse)) :=
    inValue_append (fun c isMember => isValue c (List.mem_append_left _ isMember))
      (isHead.inValue begins)
  have swapped : rule.swap (passed.reverse ++ (head.reverse ++ skipped.reverse)) ('#' :: word)
      (last ++ rest) ('#' :: rule.write word) := swap_of_match shape stop innerBracket inValue bracket
    (fun c isMember => isValue c (List.mem_append_right _ (by simpa using isMember)))
    (fun c isLast => noComma c (by simp_all [List.getLast?_append])) ends
  have absent : ¬ rule.swap.Applies ((skipped ++ (head ++ passed)).reverse ++ [])
      ('#' :: (word ++ (last ++ rest))) := by
    refine Free.not_shape ?_ (by simp)
    simpa using free
  refine absent ⟨'#' :: word, last ++ rest, '#' :: rule.write word, by simp, ?_⟩
  simpa using swapped

end SetBy

end HexRule

end LineRules.Builtin
