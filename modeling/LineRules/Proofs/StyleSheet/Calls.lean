import LineRules.Proofs.Pattern.Folded
import LineRules.Proofs.StyleSheet.Values

/-!
# Calls of mathematical functions

A bracket opens the call of a mathematical function if the text before it ends in the name of
one (`mathFunction_matchesIn_iff_endsInMathName`), which shows in the last word of that text
(`mathFunction_matchesIn_iff`). Whether a place lies in such a call shows in the brackets that
are open before it, which `bracketsBefore_cons` follows character by character.
-/

namespace LineRules.Builtin

open LineRules.Text LineRules.Pattern LineRules.Pattern.Node

variable {before after : List Char} {condition : State → Prop}

/-! ## Names of functions -/

/-- The names of mathematical functions. -/
def mathNames : List String := ["calc", "min", "max", "clamp"]

/-- A text is the name of a mathematical function up to case. -/
def IsMathName (word : List Char) : Prop :=
  ∃ name ∈ mathNames, List.Forall₂ Folds name.toList word

theorem plain_of_folds {own c : Char} (folds : Folds own c)
    (isLetter : own ∈ ['c', 'a', 'l', 'm', 'i', 'n', 'x', 'p']) : isWord c = true ∧ c ≠ '0' := by
  simpa using holds_of_folds (fun c => isWord c && c != '0') (by decide +kernel) folds isLetter

/-- Names of functions have no digits. -/
theorem IsMathName.plain {word : List Char} (isName : IsMathName word) :
    word ≠ [] ∧ ∀ c ∈ word, isWord c = true ∧ c ≠ '0' := by
  have checked : (mathNames.all fun name => !name.toList.isEmpty &&
      name.toList.all fun own => own ∈ ['c', 'a', 'l', 'm', 'i', 'n', 'x', 'p']) = true := by
    decide
  obtain ⟨name, isMember, all⟩ := isName
  have letters := List.all_eq_true.mp checked name isMember
  rw [Bool.and_eq_true, Bool.not_eq_true', List.isEmpty_eq_false_iff, List.all_eq_true] at letters
  obtain ⟨nonempty, isLetter⟩ := letters
  simp only [decide_eq_true_eq] at isLetter
  clear isMember
  generalize name.toList = name at all nonempty isLetter
  constructor
  · rintro rfl
    cases all
    exact nonempty rfl
  · clear nonempty
    induction all with
    | nil => simp
    | @cons own c name word folds _ hyp =>
        rw [List.forall_mem_cons] at isLetter ⊢
        exact ⟨plain_of_folds folds isLetter.1, hyp isLetter.2⟩

theorem mathFunction_reaches_iff :
    mathFunction.node.Reaches (.start (.between before after)) condition ↔
      ∃ word blanks rest, after = word ++ (blanks ++ rest) ∧ IsMathName word ∧ NoWordNext before ∧
        (∀ c ∈ blanks, isBlank c = true) ∧ (rest = [] ∨ rest = ['\n']) ∧
        condition (.start (.between (blanks.reverse ++ (word.reverse ++ before)) rest)) := by
  have tree : mathFunction.node = sequence
      [boundary, Node.words mathNames .folded, star (char ⟨false, .folded, [.anyBlank]⟩), lineEnd] := rfl
  rw [tree]
  simp only [State.start, reaches_sequence_cons_iff, reaches_sequence_nil_iff, boundary, lineEnd,
    reaches_anchor_iff, reaches_words_folded_iff (by simp [mathNames] : mathNames ≠ []),
    reaches_star_char_iff, holds_lastLineEnd, contains_blank]
  constructor
  · rintro ⟨holds, name, isMember, word, _, rfl, all, blanks, rest, rfl, allBlank, atEnd, met⟩
    have isName : IsMathName word := ⟨name, isMember, all⟩
    obtain ⟨nonempty, plain⟩ := isName.plain
    exact ⟨word, blanks, rest, rfl, isName,
      (holds_boundary_before nonempty fun c inWord => (plain c inWord).1).mp holds, allBlank, atEnd,
      met⟩
  · rintro ⟨word, blanks, rest, rfl, isName, stop, allBlank, atEnd, met⟩
    obtain ⟨nonempty, plain⟩ := isName.plain
    obtain ⟨name, isMember, all⟩ := isName
    exact ⟨(holds_boundary_before nonempty fun c inWord => (plain c inWord).1).mpr stop, name,
      isMember, word, _, rfl, all, blanks, rest, rfl, allBlank, atEnd, met⟩

theorem IsMathName.boundary_iff {word : List Char} (isName : IsMathName word) :
    before.head?.any isWord ≠ word.head?.any isWord ↔ NoWordNext before := by
  obtain ⟨nonempty, plain⟩ := isName.plain
  obtain ⟨c, word, rfl⟩ := List.exists_cons_of_ne_nil nonempty
  have isFirst : isWord c = true := (plain c (by simp)).1
  cases before with
  | nil => simp [NoWordNext, isFirst]
  | cons d before => simp [NoWordNext, isFirst]

/-- A text ends in the name of a mathematical function, apart from blanks after it. The name
begins at a boundary of words, where just one of the characters on both sides is part of a
word. -/
def EndsInMathName (text : List Char) : Prop :=
  ∃ rest word blanks, text = rest ++ (word ++ blanks) ∧ IsMathName word ∧
    rest.getLast?.any isWord ≠ word.head?.any isWord ∧ ∀ c ∈ blanks, isBlank c = true

theorem mathFunction_matchesIn_iff_endsInMathName {text : List Char} :
    mathFunction.matchesIn text = true ↔ EndsInMathName text := by
  rw [Pattern.matchesIn, Option.isSome_iff_exists]
  constructor
  · rintro ⟨found, search⟩
    obtain ⟨skipped, rest, rfl, isMatch⟩ := Matcher.exists_of_find?_eq_some search
    obtain ⟨_, reached⟩ := reaches_of_matchAt_eq_some isMatch
    obtain ⟨word, blanks, last, rfl, isName, stop, allBlank, atEnd, _⟩ :=
      mathFunction_reaches_iff.mp reached
    have boundary := isName.boundary_iff.mpr stop
    rw [List.append_nil, List.head?_reverse] at boundary
    refine ⟨skipped, word, blanks ++ last, rfl, isName, boundary, fun c isMember => ?_⟩
    rcases List.mem_append.mp isMember with inBlanks | inLast
    · exact allBlank c inBlanks
    · -- The pattern stops before a line break at the end, which is a blank as well.
      rcases atEnd with rfl | rfl
      · simp at inLast
      · rw [List.mem_singleton.mp inLast]
        decide
  · rintro ⟨rest, word, blanks, rfl, isName, boundary, allBlank⟩
    rw [← List.head?_reverse] at boundary
    obtain ⟨found, isMatch⟩ := exists_matchAt_of_reaches
      (@mathFunction_reaches_iff rest.reverse (word ++ blanks) (fun _ => True) |>.mpr
        ⟨word, blanks, [], by simp, isName, isName.boundary_iff.mp boundary, allBlank, .inl rfl,
          trivial⟩)
    refine Option.isSome_iff_exists.mp (@Matcher.find?_isSome_of_match _ [] _ _ found ?_)
    rw [List.append_nil]
    exact isMatch

/-- The last word of a text, given last character first, apart from blanks after it. -/
def lastWord (before : List Char) : List Char :=
  (before.dropWhile isBlank).takeWhile isWord

theorem endsInMathName_reverse_iff :
    EndsInMathName before.reverse ↔ IsMathName (lastWord before).reverse := by
  constructor
  · rintro ⟨rest, word, blanks, split, isName, boundary, allBlank⟩
    obtain ⟨nonempty, plain⟩ := isName.plain
    rw [← List.head?_reverse, isName.boundary_iff] at boundary
    have turned : before = blanks.reverse ++ (word.reverse ++ rest.reverse) := by
      simpa using congrArg List.reverse split
    have isText : ∀ c ∈ word.reverse, isWord c = true :=
      fun c inWord => (plain c (List.mem_reverse.mp inWord)).1
    have solid : ∀ c ∈ (word.reverse ++ rest.reverse).head?, isBlank c = false := by
      intro c isHead
      obtain ⟨d, other, isFirst⟩ := List.exists_cons_of_ne_nil (by simpa using nonempty :
        word.reverse ≠ [])
      rw [isFirst] at isHead isText
      obtain rfl : d = c := by simpa using isHead
      exact isBlank_of_isWord (isText d (by simp))
    have blanksOnly : ∀ c ∈ blanks.reverse, isBlank c = true :=
      fun c isMember => allBlank c (List.mem_reverse.mp isMember)
    rw [lastWord, turned, dropWhile_run blanksOnly solid, takeWhile_run isText boundary,
      List.reverse_reverse]
    exact isName
  · intro isName
    let named := before.dropWhile isBlank
    have cut : before.reverse = (named.dropWhile isWord).reverse ++
        ((lastWord before).reverse ++ (before.takeWhile isBlank).reverse) := by
      rw [← List.reverse_append, ← List.reverse_append, lastWord, List.append_assoc,
        List.takeWhile_append_dropWhile, List.takeWhile_append_dropWhile]
    have stop : NoWordNext (named.dropWhile isWord) := head?_dropWhile_not
    have boundary := isName.boundary_iff.mpr stop
    refine ⟨_, _, _, cut, isName, by rwa [List.getLast?_reverse], fun c isMember => ?_⟩
    exact List.all_eq_true.mp List.all_takeWhile c (List.mem_reverse.mp isMember)

/-- The last word of a text that ends in a word. -/
theorem lastWord_of_word {c : Char} (isHead : c ∈ before.head?) (isText : isWord c = true) :
    lastWord before = before.takeWhile isWord := by
  obtain ⟨rest, rfl⟩ := List.head?_eq_some_iff.mp isHead
  simp [lastWord, isBlank_of_isWord isText]

/-- A bracket opens the call of a mathematical function if its name is the last word before
it. -/
theorem mathFunction_matchesIn_iff :
    mathFunction.matchesIn before.reverse = true ↔ IsMathName (lastWord before).reverse :=
  mathFunction_matchesIn_iff_endsInMathName.trans endsInMathName_reverse_iff

/-! ## Open brackets -/

/-- The brackets that are open before a place, innermost first. -/
def bracketsBefore (before : List Char) : List Bool :=
  openBrackets [] [] before.reverse

theorem openBrackets_concat (opened : List Bool) (text : List Char) (c : Char) :
    openBrackets before opened (text ++ [c]) =
      if c = '(' then
        mathFunction.matchesIn (text.reverse ++ before).reverse :: openBrackets before opened text
      else if c = ')' then (openBrackets before opened text).tail
      else openBrackets before opened text := by
  induction text generalizing before opened with
  | nil => rfl
  | cons d text hyp =>
      rw [List.cons_append, openBrackets, hyp, openBrackets]
      simp

theorem bracketsBefore_cons (c : Char) (before : List Char) : bracketsBefore (c :: before) =
    if c = '(' then mathFunction.matchesIn before.reverse :: bracketsBefore before
    else if c = ')' then (bracketsBefore before).tail
    else bracketsBefore before := by
  rw [bracketsBefore, List.reverse_cons, openBrackets_concat]
  simp [bracketsBefore]

/-- A text without brackets leaves open what was. -/
theorem bracketsBefore_append {text : List Char} (plain : ∀ c ∈ text, c ≠ '(' ∧ c ≠ ')') :
    bracketsBefore (text ++ before) = bracketsBefore before := by
  induction text with
  | nil => rfl
  | cons c text hyp =>
      obtain ⟨notOpening, notClosing⟩ := plain c (by simp)
      rw [List.cons_append, bracketsBefore_cons, if_neg notOpening, if_neg notClosing]
      exact hyp fun d inText => plain d (by simp [inText])

theorem not_bracket_of_isWord {c : Char} (word : isWord c = true) : c ≠ '(' ∧ c ≠ ')' := by
  constructor
  · rintro rfl
    exact absurd word (by decide)
  · rintro rfl
    exact absurd word (by decide)

theorem bracketsBefore_word {text : List Char} (isText : ∀ c ∈ text, isWord c = true) :
    bracketsBefore (text ++ before) = bracketsBefore before :=
  bracketsBefore_append fun c inText => not_bracket_of_isWord (isText c inText)

/-- One more character opens and closes the same brackets after texts that agree on the open ones
and on whether the last word is the name of a function. -/
theorem bracketsBefore_cons_congr {written : List Char} (c : Char)
    (brackets : bracketsBefore written = bracketsBefore before)
    (last : IsMathName (lastWord written).reverse ↔ IsMathName (lastWord before).reverse) :
    bracketsBefore (c :: written) = bracketsBefore (c :: before) := by
  have named : mathFunction.matchesIn written.reverse = mathFunction.matchesIn before.reverse := by
    rw [Bool.eq_iff_iff, mathFunction_matchesIn_iff, mathFunction_matchesIn_iff]
    exact last
  rw [bracketsBefore_cons, bracketsBefore_cons, brackets, named]

theorem insideMathCall_reverse : insideMathCall before.reverse = (bracketsBefore before).any id :=
  rfl

end LineRules.Builtin
