import LineRules.Proofs.StyleSheet.Calls
import LineRules.Proofs.StyleSheet.Colons

/-!
# Lengths of zero

A zero loses its unit unless it lies in the call of a mathematical function. Since this
depends on the brackets before it, `zeroSwap_settles` has to follow two things along a
line: which brackets are open, and which words may yet become the name of a function.
-/

namespace LineRules.Builtin

open LineRules.Text LineRules.Pattern LineRules.Pattern.Node

variable {before written after out text : List Char} {condition : State → Prop}

/-! ## The rule -/

/-- The units of lengths. -/
def units : List String := ["px", "em", "rem", "pt", "ex", "ch", "vh", "vw"]

/-- The characters right after which no length begins. -/
def isJoined (c : Char) : Bool :=
  isWord c || c ∈ ['.', '#', '-']

/-- A length can begin after a text. -/
def Apart (before : List Char) : Prop :=
  ∀ c ∈ before.head?, isJoined c = false

theorem units_plain {unit : String} (isUnit : unit ∈ units) : unit.toList ≠ [] ∧
    ∀ c ∈ unit.toList, isWord c = true ∧ c ≠ '0' := by
  have checked : (units.all fun unit =>
      !unit.toList.isEmpty && unit.toList.all fun c => isWord c && c != '0') = true := by
    decide
  simpa using List.all_eq_true.mp checked unit isUnit

/-- Dropping the unit of a zero outside of mathematical functions. -/
def zeroSwap : Swap := fun before piece after new =>
  ∃ unit ∈ units, piece = '0' :: unit.toList ∧ new = ['0'] ∧ Apart before ∧ NoWordNext after ∧
    (bracketsBefore before).any id = false

theorem zeroSwap_applies_iff : zeroSwap.Applies before after ↔
    ∃ rest, after = '0' :: rest ∧ (∃ unit ∈ units, FirstWord unit.toList rest) ∧ Apart before ∧
      (bracketsBefore before).any id = false := by
  have isText : ∀ {unit : String}, unit ∈ units → ∀ c ∈ unit.toList, isWord c = true :=
    fun isUnit c inUnit => ((units_plain isUnit).2 c inUnit).1
  constructor
  · rintro ⟨_, rest, _, rfl, unit, isUnit, rfl, rfl, apart, stop, outside⟩
    exact ⟨_, rfl, ⟨unit, isUnit, (firstWord_iff (isText isUnit)).mpr ⟨rest, rfl, stop⟩⟩, apart,
      outside⟩
  · rintro ⟨_, rfl, ⟨unit, isUnit, first⟩, apart, outside⟩
    obtain ⟨rest, rfl, stop⟩ := (firstWord_iff (isText isUnit)).mp first
    exact ⟨_, rest, _, rfl, unit, isUnit, rfl, rfl, apart, stop, outside⟩

/-- What is dropped and what is kept are characters of a word. -/
theorem zeroSwap_isWord {piece new : List Char} (swapped : zeroSwap before piece after new) :
    ∀ c, c ∈ piece ∨ c ∈ new → isWord c = true := by
  obtain ⟨unit, isUnit, rfl, rfl, _⟩ := swapped
  have zero : isWord '0' = true := by decide
  rintro c (inPiece | inNew)
  · rcases List.mem_cons.mp inPiece with rfl | inUnit
    · exact zero
    · exact ((units_plain isUnit).2 c inUnit).1
  · obtain rfl := List.mem_singleton.mp inNew
    exact zero

theorem zeroSwap_valueEdit : ValueEdit zeroSwap where
  plain := by
    intro before piece after new swapped c isMember
    have word := zeroSwap_isWord swapped c isMember
    refine ⟨isValueChar_of_isWord word, ?_⟩
    rintro rfl
    exact absurd word (by decide)
  first := by
    rintro before _ _ _ ⟨unit, _, rfl, rfl, apart, _⟩
    refine ⟨'0', unit.toList, [], rfl, rfl, fun _ d isHead => ?_⟩
    have free := apart d isHead
    rw [isJoined, Bool.or_eq_false_iff, decide_eq_false_iff_not] at free
    refine ⟨free.1, ?_⟩
    rintro rfl
    exact free.2 (by decide)
  place := by
    intro before written piece after new same swapped
    have word := zeroSwap_isWord swapped
    obtain ⟨unit, _, rfl, rfl, _⟩ := swapped
    have isPlain : ∀ c ∈ '0' :: unit.toList, isValueChar c = true :=
      fun c inPiece => isValueChar_of_isWord (word c (.inl inPiece))
    have noName : ¬ InProperty (['0'].reverse ++ written) :=
      fun inName => absurd inName.1 (by decide)
    constructor
    · rintro (⟨colon, _⟩ | ⟨_, inValue⟩)
      · exact absurd colon (by decide)
      · exact inValue_append isPlain (same.value inValue)
    · rintro (inName | ⟨blank, _⟩)
      · exact absurd inName noName
      · exact absurd blank (by decide)
    · exact fun inName => absurd inName noName
    · exact fun begins => absurd (begins '0' rfl) (by decide)
    · intro isBracket
      have isMember : '(' ∈ '0' :: unit.toList := by
        rw [List.head?_append_of_ne_nil _ (by simp)] at isBracket
        exact List.mem_reverse.mp (List.mem_of_mem_head? isBracket)
      exact absurd (word _ (.inl isMember)) (by decide)

theorem zeroSwap_colonEdit : ColonEdit zeroSwap where
  toValueEdit := zeroSwap_valueEdit
  solid := by
    rintro _ _ _ _ ⟨_, _, _, rfl, _⟩ c ⟨⟩
    decide
  last := by
    rintro _ _ _ _ ⟨_, _, _, rfl, _⟩ c ⟨⟩
    decide
  spaced := by
    rintro _ _ _ _ ⟨_, _, _, rfl, _⟩ done rest split
    have isMember : ':' ∈ ['0'] := by
      rw [split]
      simp
    exact absurd isMember (by decide)

theorem zeroSwap_quiet {piece new : List Char} (swapped : zeroSwap before piece after new) :
    '#' ∉ new := by
  obtain ⟨_, _, _, rfl, _⟩ := swapped
  decide

/-! ## What the rule leaves behind -/

/-- Two words are the same, or neither is the name of a function for having a zero. -/
def SameName (word other : List Char) : Prop :=
  word = other ∨ ('0' ∈ word ∧ '0' ∈ other)

theorem SameName.isMathName_iff {word other : List Char} (same : SameName word other) :
    IsMathName word.reverse ↔ IsMathName other.reverse := by
  have noZero : ∀ {word : List Char}, '0' ∈ word → ¬ IsMathName word.reverse :=
    fun isMember isName => (isName.plain.2 '0' (List.mem_reverse.mpr isMember)).2 rfl
  rcases same with rfl | ⟨inWord, inOther⟩
  · rfl
  · exact iff_of_false (noZero inWord) (noZero inOther)

theorem lastWord_cons (c : Char) (before : List Char) : lastWord (c :: before) =
    if isBlank c then lastWord before
    else if isWord c then c :: before.takeWhile isWord
    else [] := by
  rw [lastWord, List.dropWhile_cons]
  split
  · rfl
  · rw [List.takeWhile_cons]

/-- Units that were dropped from a text before a place change neither the open brackets nor
whether the last word is the name of a function. -/
structure SameCalls (before written : List Char) : Prop where
  brackets : bracketsBefore written = bracketsBefore before
  word : SameName (written.takeWhile isWord) (before.takeWhile isWord)
  last : SameName (lastWord written) (lastWord before)
  apart : Apart written → Apart before

namespace SameCalls

theorem refl : SameCalls before before :=
  ⟨rfl, .inl rfl, .inl rfl, id⟩

theorem keep (same : SameCalls before written) (c : Char) :
    SameCalls (c :: before) (c :: written) := by
  have longer : ∀ {word other : List Char}, SameName word other →
      SameName (c :: word) (c :: other) := by
    rintro word other (rfl | ⟨inWord, inOther⟩)
    · exact .inl rfl
    · exact .inr ⟨List.mem_cons_of_mem c inWord, List.mem_cons_of_mem c inOther⟩
  constructor
  · exact bracketsBefore_cons_congr c same.brackets same.last.isMathName_iff
  · rw [List.takeWhile_cons, List.takeWhile_cons]
    split
    · exact longer same.word
    · exact .inl rfl
  · rw [lastWord_cons, lastWord_cons]
    split
    · exact same.last
    · split
      · exact longer same.word
      · exact .inl rfl
  · exact id

theorem swap {piece new : List Char} (same : SameCalls before written)
    (swapped : zeroSwap before piece after new) :
    SameCalls (piece.reverse ++ before) (new.reverse ++ written) := by
  have word := zeroSwap_isWord swapped
  obtain ⟨unit, isUnit, rfl, rfl, _⟩ := swapped
  have zero : isWord '0' = true := by decide
  have isText : ∀ c ∈ ('0' :: unit.toList).reverse, isWord c = true :=
    fun c inPiece => word c (.inl (List.mem_reverse.mp inPiece))
  have wordBefore : '0' ∈ (('0' :: unit.toList).reverse ++ before).takeWhile isWord := by
    rw [List.takeWhile_append_of_pos isText]
    simp
  have wordWritten : '0' ∈ (['0'].reverse ++ written).takeWhile isWord := by
    simp [zero]
  refine ⟨?_, .inr ⟨wordWritten, wordBefore⟩, ?_, ?_⟩
  · rw [bracketsBefore_word isText,
      bracketsBefore_word fun c inNew => word c (.inr (List.mem_reverse.mp inNew))]
    exact same.brackets
  · obtain ⟨c, others, first⟩ : ∃ c others, ('0' :: unit.toList).reverse = c :: others :=
      List.exists_cons_of_ne_nil (by simp)
    rw [lastWord_of_word rfl zero,
      lastWord_of_word (by rw [first]; rfl : c ∈ (('0' :: unit.toList).reverse ++ before).head?)
        (isText c (by rw [first]; simp))]
    exact .inr ⟨wordWritten, wordBefore⟩
  · exact fun apart => absurd (apart '0' rfl) (by decide)

end SameCalls

/-- Dropping units leaves no zero with a unit to drop. -/
theorem zeroSwap_settles (edited : Edited zeroSwap [] text out) :
    Free zeroSwap.Applies [] out := by
  refine edited.free (fun same => same.keep _) SameCalls.swap ?_ ?_ SameCalls.refl
    (Free.of_forall fun _ _ _ _ found => found.1 found.2)
  · intro before written c after out same _ rest found
    obtain ⟨_, split, ⟨unit, isUnit, first⟩, apart, outside⟩ := zeroSwap_applies_iff.mp found
    obtain ⟨rfl, rfl⟩ := List.cons.inj split
    refine .inl (zeroSwap_applies_iff.mpr ⟨after, rfl, ⟨unit, isUnit, ?_⟩, same.apart apart, ?_⟩)
    · have sameWord := zeroSwap_valueEdit.takeWhile_isWord_of_edited rest
        ⟨'0', rfl, .inl (by decide)⟩
      rwa [FirstWord, ← sameWord]
    · rwa [← same.brackets]
  · intro before written piece after new out _ swapped rest done more split nonempty found
    obtain ⟨_, _, _, rfl, _, stop, _⟩ := swapped
    have outStop := (zeroSwap_valueEdit.noWordNext_iff_of_edited rest).mpr stop
    obtain ⟨last, isFirst, ⟨unit, isUnit, first⟩, _⟩ := zeroSwap_applies_iff.mp found
    obtain ⟨c, more, rfl⟩ := List.exists_cons_of_ne_nil nonempty
    obtain ⟨rfl, rfl⟩ : done = [] ∧ more = [] := by
      have lengths := congrArg List.length split
      simp only [List.length_append, List.length_cons, List.length_nil] at lengths
      exact ⟨List.length_eq_zero_iff.mp (by omega), List.length_eq_zero_iff.mp (by omega)⟩
    obtain rfl : out = last := (List.cons.inj isFirst).2
    have noWord : ([] ++ out).takeWhile isWord = [] := takeWhile_run (by simp) outStop
    exact (units_plain isUnit).1 (first.symm.trans noWord)

/-! ## What the pattern matches -/

theorem zeroUnit_reaches_iff :
    zeroUnit.node.Reaches (.start (.between before after)) condition ↔
      ∃ unit ∈ units, ∃ rest, after = '0' :: (unit.toList ++ rest) ∧ Apart before ∧
        NoWordNext rest ∧
        condition (.start (.between (('0' :: unit.toList).reverse ++ before) rest)) := by
  have tree : zeroUnit.node = sequence
      [behind false 1 (char ⟨false, .exact, [.anyWord, .ofChar '.', .ofChar '#', .ofChar '-']⟩),
        lit '0', words units, boundary] := rfl
  have joined : ∀ c : Char, (CharClass.mk false .exact
      [.anyWord, .ofChar '.', .ofChar '#', .ofChar '-']).contains c = isJoined c := by
    intro c
    rw [contains_oneOf, isJoined]
    simp [ClassItem.contains_anyWord, ClassItem.contains_ofChar]
  rw [tree]
  simp only [State.start, reaches_sequence_cons_iff, reaches_sequence_nil_iff, reaches_behind_iff,
    reaches_lit_iff, reaches_words_iff (by simp [units] : units ≠ []), boundary, reaches_anchor_iff,
    joined]
  have isText : ∀ {unit : String}, unit ∈ units → ∀ c ∈ unit.toList, isWord c = true :=
    fun isUnit c inUnit => ((units_plain isUnit).2 c inUnit).1
  constructor
  · rintro ⟨apart, _, rfl, unit, isUnit, rest, rfl, holds, met⟩
    exact ⟨unit, isUnit, rest, rfl, apart,
      (holds_boundary_after (units_plain isUnit).1 (isText isUnit)).mp holds, by simpa using met⟩
  · rintro ⟨unit, isUnit, rest, rfl, apart, stop, met⟩
    exact ⟨apart, _, rfl, unit, isUnit, rest, rfl,
      (holds_boundary_after (units_plain isUnit).1 (isText isUnit)).mpr stop, by simpa using met⟩

theorem zeroUnit_match {found : Match}
    (isMatch : zeroUnit.matcher false (.between before after) = some found) :
    ∃ unit ∈ units, ∃ rest, after = '0' :: (unit.toList ++ rest) ∧ Apart before ∧
      NoWordNext rest ∧ found.start = .between before after ∧
      found.finish = .between (('0' :: unit.toList).reverse ++ before) rest := by
  obtain ⟨start, reaches⟩ := reaches_of_matchAt_eq_some isMatch
  obtain ⟨unit, isUnit, rest, rfl, apart, stop, final⟩ := zeroUnit_reaches_iff.mp reaches
  refine ⟨unit, isUnit, rest, rfl, apart, stop, start, ?_⟩
  rw [Match.finish, ← final]
  rfl

theorem zeroUnit_advances : zeroUnit.matcher.Advances := by
  intro before after found isMatch
  obtain ⟨unit, _, rest, rfl, _, _, start, finish⟩ := zeroUnit_match isMatch
  exact ⟨start, '0' :: unit.toList, rest, by simp, by simp, finish⟩

/-- No length begins inside another one. -/
theorem zeroUnit_nests : zeroUnit.matcher.Nests := by
  intro before skipped rest outer inner _ nonempty isOuter longer isInner
  obtain ⟨unit, isUnit, last, split, _, _, _, finish⟩ := zeroUnit_match isOuter
  obtain ⟨_, _, later, rfl, _⟩ := zeroUnit_match isInner
  obtain ⟨c, skipped, rfl⟩ := List.exists_cons_of_ne_nil nonempty
  have cut : unit.toList ++ last = skipped ++ '0' :: _ := (List.cons.inj split.symm).2
  rw [finish, Cursor.between_left, List.length_cons] at longer
  have inUnit : '0' ∈ unit.toList := mem_of_suffix cut (Nat.le_of_lt_succ longer)
  exact absurd rfl ((units_plain isUnit).2 '0' inUnit).2

/-- What is written for a length of zero. -/
def zeroWritten (found : Match) : List Char :=
  if insideMathCall found.start.before.reverse then found.text else ['0']

theorem edited_zeroUnit (text : List Char) :
    Edited zeroSwap [] text (zeroUnit.replaceBy zeroWritten text) := by
  obtain ⟨segments, segmented, _, written⟩ := Pattern.exists_segmented zeroUnit_advances text
  rw [written]
  refine segmented.edited zeroUnit_nests (fun _ _ _ => trivial) ?_ ?_ Matcher.clear_start trivial
  · intro before piece after found _ isMatch start finish out edited
    obtain ⟨unit, isUnit, rest, split, apart, stop, _, ownFinish⟩ := zeroUnit_match isMatch
    obtain ⟨rfl, rfl⟩ : piece = '0' :: unit.toList ∧ after = rest :=
      Cursor.cut_unique (by simpa using split) finish ownFinish
    rw [zeroWritten, start, Cursor.between_before, insideMathCall_reverse]
    split
    case isTrue inside =>
      rw [Match.text_of_cut start finish]
      refine Edited.keep_append ?_ edited
      intro done more cut nonempty applies
      obtain ⟨c, more, rfl⟩ := List.exists_cons_of_ne_nil nonempty
      obtain ⟨_, isFirst, _, _, outside⟩ := zeroSwap_applies_iff.mp applies
      obtain ⟨rfl, _⟩ := List.cons.inj isFirst
      cases done with
      | nil =>
          rw [List.reverse_nil, List.nil_append, inside] at outside
          contradiction
      | cons d done =>
          have inUnit : '0' ∈ unit.toList := by
            rw [(List.cons.inj cut).2]
            simp
          exact absurd rfl ((units_plain isUnit).2 '0' inUnit).2
    case isFalse outside =>
      exact .swap ⟨unit, isUnit, rfl, rfl, apart, stop, by simpa using outside⟩ edited
  · rintro before _ after _ _ ⟨unit, isUnit, rfl, rfl, apart, stop, _⟩
    obtain ⟨found, isMatch⟩ := exists_matchAt_of_reaches
      (zeroUnit_reaches_iff.mpr ⟨unit, isUnit, after, rfl, apart, stop, trivial⟩)
    refine ⟨[], before, found, rfl, isMatch, ?_⟩
    obtain ⟨_, piece, rest, nonempty, split, finish⟩ := zeroUnit_advances _ _ _ isMatch
    have some : 0 < piece.length := List.length_pos_iff.mpr nonempty
    rw [finish, Cursor.between_left, List.cons_append, split, List.length_append]
    omega

/-- Where no unit is to be dropped, all matches lie in mathematical functions. -/
theorem insideMathCall_of_free (free : Free zeroSwap.Applies [] text) {found : Match}
    (isFound : found ∈ zeroUnit.findAll text) :
    insideMathCall found.start.before.reverse = true := by
  obtain ⟨skipped, _, rfl, isMatch⟩ := Matcher.exists_of_mem_findAll zeroUnit_advances isFound
  obtain ⟨unit, isUnit, rest, rfl, apart, stop, start, _⟩ := zeroUnit_match isMatch
  rw [start, Cursor.between_before, insideMathCall_reverse]
  by_contra outside
  have absent : ¬ zeroSwap.Applies (skipped.reverse ++ []) ('0' :: (unit.toList ++ rest)) :=
    Free.not_shape free (by simp)
  refine absent ⟨'0' :: unit.toList, rest, _, rfl, unit, isUnit, rfl, rfl, ?_, stop, ?_⟩
  · simpa using apart
  · simpa using outside

end LineRules.Builtin
