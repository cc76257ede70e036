import LineRules.Proofs.StyleSheet.Values
import LineRules.Proofs.Text.Edits

/-!
# Colours in values

Both rules for hex colours write the word after a `#` in the value of a declaration anew.
`HexRule.free_of_edited` says what an edit must keep for no such word to turn up: how
values begin and end, and the words after a `#`.
-/

namespace LineRules.Builtin

open LineRules.Text LineRules.Pattern

variable {before written after out piece new : List Char}

/-! ## Edits beside values -/

/-- How a text before a place relates to what is written for it: where the written one ends
in a value, so does the text. A property that only begins in the written one lies in a value
of the text. -/
structure SameValue (before written : List Char) : Prop where
  value : InValue written → InValue before
  named : AfterProperty written → AfterProperty before ∨ InValue before
  inName : InProperty written → InProperty before ∨ InValue before
  begins : Begins written → Begins before ∨ InValue before
  bracket : before.head? = some '(' → written.head? = some '('

namespace SameValue

theorem refl : SameValue before before :=
  ⟨id, .inl, .inl, .inl, id⟩

theorem keep (same : SameValue before written) (c : Char) :
    SameValue (c :: before) (c :: written) := by
  have inName : InProperty (c :: written) → InProperty (c :: before) ∨ InValue (c :: before) := by
    rintro ⟨isProperty, inName⟩
    have value : InValue before → InValue (c :: before) :=
      fun inValue => .inr ⟨isValueChar_of_isPropertyChar isProperty, inValue⟩
    rcases inName with inName | begins
    · exact (same.inName inName).imp (fun inName => ⟨isProperty, .inl inName⟩) value
    · exact (same.begins begins).imp (fun begins => ⟨isProperty, .inr begins⟩) value
  refine ⟨?_, ?_, inName, .inl, id⟩
  · rintro (⟨colon, named⟩ | ⟨isValue, inValue⟩)
    · rcases same.named named with named | inValue
      · exact .inl ⟨colon, named⟩
      · exact .inr ⟨by rw [colon]; decide, inValue⟩
    · exact .inr ⟨isValue, same.value inValue⟩
  · rintro (isName | ⟨blank, named⟩)
    · exact (inName isName).imp_left .inl
    · rcases same.named named with named | inValue
      · exact .inl (.inr ⟨blank, named⟩)
      · exact .inr (.inr ⟨isValueChar_of_isBlank blank, inValue⟩)

/-- In a value it does not matter any more what properties there seem to be. -/
theorem of_inValue (inValue : InValue before) (bracket : before.head? ≠ some '(') :
    SameValue before written :=
  ⟨fun _ => inValue, fun _ => .inr inValue, fun _ => .inr inValue, fun _ => .inr inValue,
    fun isBracket => absurd isBracket bracket⟩

end SameValue

/-- Swaps that keep how values begin and end, and the words after a `#`. -/
structure ValueEdit (swap : Swap) : Prop where
  plain {before piece after new : List Char} : swap before piece after new →
    ∀ c, c ∈ piece ∨ c ∈ new → isValueChar c = true ∧ c ≠ ','
  first {before piece after new : List Char} : swap before piece after new →
    ∃ c rest others, piece = c :: rest ∧ new = c :: others ∧
      (isWord c = true → ∀ d ∈ before.head?, isWord d = false ∧ d ≠ '#')
  place {before written piece after new : List Char} : SameValue before written →
    swap before piece after new → SameValue (piece.reverse ++ before) (new.reverse ++ written)

theorem valueEnds_of_ne {last other : Char} (noComma : other ≠ ',')
    (ends : ValueEnds last after) : ValueEnds other after := by
  cases after with
  | nil => exact noComma
  | cons c after =>
      rw [ValueEnds] at ends ⊢
      split
      · exact noComma
      case isFalse stays => rwa [if_neg stays] at ends

theorem valueEnds_append_iff {last : Char} (nonempty : piece ≠ [])
    (plain : ∀ c ∈ piece, isValueChar c = true ∧ c ≠ ',') :
    ValueEnds last (piece ++ after) ↔ ValueEnds '#' after := by
  induction piece generalizing last with
  | nil => exact absurd rfl nonempty
  | cons c piece hyp =>
      obtain ⟨isValue, noComma⟩ := plain c (by simp)
      have stays : ¬ isCloser c = true := by simp [not_isCloser_of_isValueChar isValue]
      rw [List.cons_append, ValueEnds, if_neg stays]
      by_cases last : piece = []
      · rw [last, List.nil_append]
        exact ⟨fun ends => valueEnds_of_ne (by decide) ends.2,
          fun ends => ⟨isValue, valueEnds_of_ne noComma ends⟩⟩
      · rw [hyp last fun d inPiece => plain d (by simp [inPiece])]
        exact and_iff_right isValue

namespace ValueEdit

variable {swap : Swap}

theorem valueEnds_iff_of_edited (edit : ValueEdit swap) (edited : Edited swap before after out)
    {last : Char} : ValueEnds last out ↔ ValueEnds last after := by
  induction edited generalizing last with
  | done => rfl
  | keep _ _ hyp => rw [ValueEnds, ValueEnds, hyp]
  | swap swapped _ hyp =>
      obtain ⟨c, rest, others, rfl, rfl, _⟩ := edit.first swapped
      have plain := edit.plain swapped
      rw [valueEnds_append_iff (by simp) fun c inNew => plain c (.inr inNew),
        valueEnds_append_iff (by simp) fun c inPiece => plain c (.inl inPiece), hyp]

/-- Words after a `#` and the rests of words are kept. -/
theorem takeWhile_isWord_of_edited (edit : ValueEdit swap) (edited : Edited swap before after out)
    (joined : ∃ d ∈ before.head?, isWord d = true ∨ d = '#') :
    out.takeWhile isWord = after.takeWhile isWord := by
  refine edited.takeWhile_eq (fun c => .inl) (fun swapped => ?_) joined
  obtain ⟨c, rest, others, rfl, rfl, apart⟩ := edit.first swapped
  refine ⟨c, rest, others, rfl, rfl, fun word d isHead => ?_⟩
  rintro (isWord | rfl)
  · have noWord := (apart word d isHead).1
    rw [isWord] at noWord
    contradiction
  · exact (apart word _ isHead).2 rfl

theorem head?_of_edited (edit : ValueEdit swap) (edited : Edited swap before after out) :
    out.head? = after.head? := by
  cases edited with
  | done => rfl
  | keep => rfl
  | swap swapped _ =>
      obtain ⟨c, rest, others, rfl, rfl, _⟩ := edit.first swapped
      rfl

theorem noWordNext_iff_of_edited (edit : ValueEdit swap) (edited : Edited swap before after out) :
    NoWordNext out ↔ NoWordNext after := by
  rw [NoWordNext, NoWordNext, edit.head?_of_edited edited]

end ValueEdit

/-! ## Rules for colours -/

/-- A digit of a hex colour. -/
def isHexDigit (c : Char) : Bool :=
  hexItems.any (·.contains c.toNat)

theorem toNat_lt_of_isHexDigit {c : Char} (digit : isHexDigit c = true) : c.toNat < 0x80 := by
  simp only [isHexDigit, hexItems, List.any_cons, List.any_nil, ClassItem.contains_chars,
    Bool.or_false, Bool.or_eq_true, Bool.and_eq_true, decide_eq_true_eq] at digit
  have bounds : '9'.toNat = 57 ∧ 'F'.toNat = 70 ∧ 'f'.toNat = 102 := by decide
  omega

/-- What holds of the digits one by one. -/
theorem holds_of_isHexDigit (holds : Char → Bool)
    (check : ((List.range 0x80).all fun code =>
      !isHexDigit (Char.ofNat code) || holds (Char.ofNat code)) = true) {c : Char}
    (digit : isHexDigit c = true) : holds c = true := by
  have checked := holds_of_ascii (fun c => !isHexDigit c || holds c) check
    (toNat_lt_of_isHexDigit digit)
  rw [digit] at checked
  simpa using checked

theorem isWord_of_isHexDigit {c : Char} (digit : isHexDigit c = true) : isWord c = true :=
  holds_of_isHexDigit isWord (by decide) digit

/-- A rule that writes some words after a `#` anew. -/
structure HexRule where
  shape : List Char → Prop
  write : List Char → List Char
  digits {word : List Char} : shape word → word ≠ [] ∧ ∀ c ∈ word, isHexDigit c = true
  write_digits {word : List Char} : shape word →
    write word ≠ [] ∧ ∀ c ∈ write word, isHexDigit c = true

namespace HexRule

variable {rule : HexRule}

/-- Writing a word after a `#` in a value anew. -/
def swap (rule : HexRule) : Swap := fun before piece after new =>
  ∃ word, piece = '#' :: word ∧ new = '#' :: rule.write word ∧ rule.shape word ∧
    NoWordNext after ∧ InValue before ∧ before.head? ≠ some '(' ∧ ValueEnds '#' (word ++ after)

theorem applies_iff : rule.swap.Applies before after ↔
    ∃ rest, after = '#' :: rest ∧ rule.shape (rest.takeWhile isWord) ∧ InValue before ∧
      before.head? ≠ some '(' ∧ ValueEnds '#' rest := by
  constructor
  · rintro ⟨_, rest, _, rfl, word, rfl, rfl, shape, stop, inValue, bracket, ends⟩
    have all : ∀ c ∈ word, isWord c = true :=
      fun c inWord => isWord_of_isHexDigit ((rule.digits shape).2 c inWord)
    exact ⟨word ++ rest, rfl, by rwa [takeWhile_run all stop], inValue, bracket, ends⟩
  · rintro ⟨rest, rfl, shape, inValue, bracket, ends⟩
    refine ⟨'#' :: rest.takeWhile isWord, rest.dropWhile isWord, _, by simp, _, rfl, rfl, shape,
      head?_dropWhile_not, inValue, bracket, ?_⟩
    rwa [List.takeWhile_append_dropWhile]

theorem isValueChar_of_isHexDigit {c : Char} (digit : isHexDigit c = true) :
    isValueChar c = true ∧ c ≠ ',' := by
  refine ⟨isValueChar_of_isWord (isWord_of_isHexDigit digit), ?_⟩
  rintro rfl
  exact absurd digit (by decide)

/-- A text that ends in a value and a word of digits there still ends in the value. -/
theorem sameValue_of_digits {word : List Char} (nonempty : word ≠ [])
    (digits : ∀ c ∈ word, isHexDigit c = true) (inValue : InValue before) :
    SameValue (('#' :: word).reverse ++ before) written := by
  have plain : ∀ c ∈ '#' :: word, isValueChar c = true := by
    intro c isMember
    rcases List.mem_cons.mp isMember with rfl | inWord
    · decide
    · exact (isValueChar_of_isHexDigit (digits c inWord)).1
  refine .of_inValue (inValue_append plain inValue) ?_
  obtain ⟨word, c, rfl⟩ := List.eq_nil_or_concat' word |>.resolve_left nonempty
  have digit := digits c (by simp)
  simp only [List.reverse_cons, List.reverse_append, List.reverse_nil, List.nil_append,
    List.cons_append, List.head?_cons, ne_eq, Option.some.injEq]
  rintro rfl
  exact absurd digit (by decide)

theorem valueEdit (rule : HexRule) : ValueEdit rule.swap where
  plain := by
    rintro _ _ _ _ ⟨word, rfl, rfl, shape, _⟩ c isMember
    simp only [List.mem_cons] at isMember
    rcases isMember with (rfl | inWord) | (rfl | inWord)
    · decide
    · exact isValueChar_of_isHexDigit ((rule.digits shape).2 c inWord)
    · decide
    · exact isValueChar_of_isHexDigit ((rule.write_digits shape).2 c inWord)
  first := by
    rintro _ _ _ _ ⟨word, rfl, rfl, _⟩
    refine ⟨'#', word, _, rfl, rfl, fun word => ?_⟩
    exact absurd word (by decide)
  place := by
    rintro before written _ _ _ _ ⟨word, rfl, rfl, shape, _, inValue, _⟩
    obtain ⟨nonempty, digits⟩ := rule.digits shape
    exact sameValue_of_digits nonempty digits inValue

/-- What holds of a text before a place and what is written for it, a word that is written
anew included. -/
theorem place_written {written : List Char} (same : SameValue written before)
    (swapped : rule.swap before piece after new) :
    SameValue (new.reverse ++ written) (piece.reverse ++ before) := by
  obtain ⟨word, rfl, rfl, shape, _, inValue, _⟩ := swapped
  obtain ⟨nonempty, digits⟩ := rule.write_digits shape
  exact sameValue_of_digits nonempty digits (same.value inValue)

/-- A word that is to be written anew after an edit was to be before it. -/
theorem applies_of_edited {edit : Swap} (isEdit : ValueEdit edit) {c : Char}
    (edited : Edited edit (c :: before) after out) (same : SameValue before written)
    (found : rule.swap.Applies written (c :: out)) : rule.swap.Applies before (c :: after) := by
  obtain ⟨_, split, shape, inValue, bracket, ends⟩ := applies_iff.mp found
  obtain ⟨rfl, rfl⟩ := List.cons.inj split
  refine applies_iff.mpr ⟨after, rfl, ?_, same.value inValue, ?_, ?_⟩
  · rwa [← isEdit.takeWhile_isWord_of_edited edited ⟨'#', rfl, .inr rfl⟩]
  · exact fun isBracket => bracket (same.bracket isBracket)
  · exact (isEdit.valueEnds_iff_of_edited edited).mp ends

/-- A word that is to be written anew before an edit still is after it. -/
theorem applies_edited {edit : Swap} (isEdit : ValueEdit edit) {c : Char}
    (edited : Edited edit (c :: before) after out) (same : SameValue written before)
    (found : rule.swap.Applies before (c :: after)) : rule.swap.Applies written (c :: out) := by
  obtain ⟨_, split, shape, inValue, bracket, ends⟩ := applies_iff.mp found
  obtain ⟨rfl, rfl⟩ := List.cons.inj split
  refine applies_iff.mpr ⟨out, rfl, ?_, same.value inValue, ?_, ?_⟩
  · rwa [isEdit.takeWhile_isWord_of_edited edited ⟨'#', rfl, .inr rfl⟩]
  · exact fun isBracket => bracket (same.bracket isBracket)
  · exact (isEdit.valueEnds_iff_of_edited edited).mpr ends

/-- Where nothing is to be written anew, an edit brings up nothing new, if what it writes
itself is not to be. -/
theorem free_of_edited {edit : Swap} (isEdit : ValueEdit edit)
    (quiet : ∀ {before piece after new}, edit before piece after new →
      '#' ∉ new ∨ ∃ word, new = '#' :: word ∧ (∀ c ∈ word, isWord c = true) ∧ NoWordNext after ∧
        ¬ rule.shape word)
    (edited : Edited edit [] after out)
    (free : Free (fun before after => ¬ edit.Applies before after ∧ rule.swap.Applies before after)
      [] after) : Free rule.swap.Applies [] out := by
  refine edited.free (fun same => same.keep _) isEdit.place ?_ ?_ SameValue.refl free
  · exact fun same _ rest found => .inr (applies_of_edited isEdit rest same found)
  · intro before written piece after new out same swapped rest done more split nonempty found
    obtain ⟨last, isFirst, shape, _⟩ := applies_iff.mp found
    obtain ⟨c, more, rfl⟩ := List.exists_cons_of_ne_nil nonempty
    obtain ⟨rfl, rfl⟩ : c = '#' ∧ more ++ out = last := by simpa using isFirst
    rcases quiet swapped with absent | ⟨word, rfl, isText, stop, noShape⟩
    · exact absent (by simp [split])
    · cases done with
      | nil =>
          obtain rfl : word = more := by simpa using split
          have outStop := (isEdit.noWordNext_iff_of_edited rest).mpr stop
          rw [takeWhile_run isText outStop] at shape
          exact noShape shape
      | cons d done =>
          have inWord : '#' ∈ word := by
            rw [(List.cons.inj split).2]
            simp
          exact absurd (isText _ inWord) (by decide)

end HexRule

end LineRules.Builtin
