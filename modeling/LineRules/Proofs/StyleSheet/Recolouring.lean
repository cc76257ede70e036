import LineRules.Proofs.StyleSheet.Hex
import LineRules.Proofs.StyleSheet.Layout

/-!
# Colours kept by the rules for hex colours

Two hex colours are the same if they have the same digits once these are in upper case and
three of them are doubled (`fullDigits`). `Recoloured` says that a value differs from another
one in colours that are the same and in nothing else, and it is transitive, so the two rules
can be followed one after the other (`writeHex_keeps_colours`). What counts as a colour is told
from the value alone, as the rules see it, not from the text around it.
-/

namespace LineRules.Builtin

open LineRules.Text LineRules.Pattern LineRules.Pattern.Node

variable {before written value middle out word new text : List Char} {rule : HexRule}

/-! ## Colours -/

/-- The digits of a colour in upper case, each of three of them doubled. -/
def fullDigits (word : List Char) : List Char :=
  let digits := word.map Char.toUpper
  if digits.length = 3 then digits.flatMap fun c => [c, c] else digits

/-- The digits of a colour. -/
structure IsColour (word : List Char) : Prop where
  least : 3 ≤ word.length
  most : word.length ≤ 8
  digits : ∀ c ∈ word, isHexDigit c = true

/-- Digits after a `#` can stand in a value, also at its end. -/
theorem isValue_of_digits (nonempty : word ≠ []) (digits : ∀ c ∈ word, isHexDigit c = true) :
    IsValue ('#' :: word) where
  plain := by
    intro c isMember
    rcases List.mem_cons.mp isMember with rfl | inWord
    · decide
    · exact (HexRule.isValueChar_of_isHexDigit (digits c inWord)).1
  noComma := by
    intro c isLast
    rw [List.getLast?_cons_of_ne_nil nonempty] at isLast
    exact (HexRule.isValueChar_of_isHexDigit (digits c (List.mem_of_mem_getLast? isLast))).2

/-- No bracket stands right before what follows digits. -/
theorem not_bracket_of_digits (nonempty : word ≠ []) (digits : ∀ c ∈ word, isHexDigit c = true)
    (before : List Char) : (('#' :: word).reverse ++ before).head? ≠ some '(' := by
  obtain ⟨others, c, rfl⟩ := List.eq_nil_or_concat' word |>.resolve_left nonempty
  have digit : isHexDigit c = true := digits c (by simp)
  intro isBracket
  obtain rfl : c = '(' := by simpa using isBracket
  exact absurd digit (by decide)

namespace IsColour

theorem nonempty (isColour : IsColour word) : word ≠ [] := by
  rintro rfl
  exact absurd isColour.least (by decide)

theorem isText (isColour : IsColour word) : ∀ c ∈ word, isWord c = true :=
  fun c inWord => isWord_of_isHexDigit (isColour.digits c inWord)

theorem not_bracket (isColour : IsColour word) (before : List Char) :
    (('#' :: word).reverse ++ before).head? ≠ some '(' :=
  not_bracket_of_digits isColour.nonempty isColour.digits before

end IsColour

/-- A rule writes colours as the colours that they are. -/
def HexRule.KeepsColours (rule : HexRule) : Prop :=
  ∀ word, rule.shape word →
    IsColour word ∧ IsColour (rule.write word) ∧ fullDigits (rule.write word) = fullDigits word

theorem toUpper_toUpper {c : Char} (digit : isHexDigit c = true) :
    c.toUpper.toUpper = c.toUpper :=
  of_decide_eq_true (holds_of_isHexDigit (fun c => c.toUpper.toUpper = c.toUpper) (by decide) digit)

theorem upperRule_keepsColours : upperRule.KeepsColours := by
  rintro word ⟨⟨least, most⟩, digits, other⟩
  have upper : (word.map Char.toUpper).map Char.toUpper = word.map Char.toUpper := by
    rw [List.map_map]
    exact List.map_congr_left fun c inWord => toUpper_toUpper (digits c inWord)
  refine ⟨⟨least, most, digits⟩, ⟨?_, ?_, ?_⟩, ?_⟩
  · simpa [upperRule] using least
  · simpa [upperRule] using most
  · exact (upperRule.write_digits ⟨⟨least, most⟩, digits, other⟩).2
  · simp only [fullDigits, upperRule, upper]

theorem shortRule_keepsColours : shortRule.KeepsColours := by
  rintro _ ⟨a, b, c, rfl, inUpper⟩
  have shape : shortRule.shape [a, a, b, b, c, c] := ⟨a, b, c, rfl, inUpper⟩
  exact ⟨⟨by simp, by simp, (shortRule.digits shape).2⟩,
    ⟨by simp [shortRule], by simp [shortRule], (shortRule.write_digits shape).2⟩, rfl⟩

/-! ## Values with the same colours -/

/-- A value, after the given text, and the value with some of its colours written as other
words for the same colours. A colour is a whole word after a `#` that no bracket precedes. -/
inductive Recoloured : List Char → List Char → List Char → Prop where
  | done {before : List Char} : Recoloured before [] []
  | keep {before value out : List Char} {c : Char} (rest : Recoloured (c :: before) value out) :
      Recoloured before (c :: value) (c :: out)
  | colour {before word new value out : List Char} (isColour : IsColour word)
      (isNew : IsColour new) (same : fullDigits new = fullDigits word) (whole : NoWordNext value)
      (bracket : before.head? ≠ some '(')
      (rest : Recoloured (('#' :: word).reverse ++ before) value out) :
      Recoloured before ('#' :: (word ++ value)) ('#' :: (new ++ out))

namespace Recoloured

theorem head?_eq (recoloured : Recoloured before value out) : out.head? = value.head? := by
  cases recoloured <;> rfl

theorem noWordNext_iff (recoloured : Recoloured before value out) :
    NoWordNext out ↔ NoWordNext value := by
  rw [NoWordNext, NoWordNext, recoloured.head?_eq]

/-- No colour begins within a word: a run of word characters at the beginning of either text is
kept. -/
theorem exists_of_word {run : List Char} (isText : ∀ c ∈ run, isWord c = true)
    (recoloured : Recoloured before value out) (begins : run <+: value ∨ run <+: out) :
    ∃ rest last, value = run ++ rest ∧ out = run ++ last ∧
      Recoloured (run.reverse ++ before) rest last := by
  induction run generalizing before value out with
  | nil => exact ⟨value, out, rfl, rfl, recoloured⟩
  | cons c run hyp =>
      obtain ⟨isFirst, others⟩ := List.forall_mem_cons.mp isText
      cases recoloured with
      | done => simp at begins
      | keep recoloured =>
          rw [List.cons_prefix_cons, List.cons_prefix_cons, ← and_or_left] at begins
          obtain ⟨rfl, ahead⟩ := begins
          obtain ⟨rest, last, rfl, rfl, later⟩ := hyp others recoloured ahead
          exact ⟨rest, last, rfl, rfl, by simpa using later⟩
      | colour =>
          rw [List.cons_prefix_cons, List.cons_prefix_cons, ← and_or_left] at begins
          obtain rfl := begins.1
          exact absurd isFirst (by decide)

private theorem length_lt_colour (word value : List Char) :
    value.length < ('#' :: (word ++ value)).length := by
  simp only [List.length_cons, List.length_append]
  omega

/-- Writing colours anew twice is writing them anew. -/
theorem trans (first : Recoloured before value middle)
    (sameBracket : before.head? = some '(' → written.head? = some '(')
    (second : Recoloured written middle out) : Recoloured before value out := by
  -- A colour of the second step can be many kept characters of the first one.
  induction length : value.length using Nat.strongRecOn
    generalizing before written value middle out with
  | _ size hyp =>
      subst length
      cases first with
      | done =>
          cases second with
          | done => exact .done
      | @keep _ value middle c first =>
          cases second with
          | keep second =>
              have kept : (c :: before).head? = some '(' → (c :: written).head? = some '(' := id
              exact .keep (hyp _ (by simp) first kept second rfl)
          | @colour _ word new middle out isColour isNew same whole bracket second =>
              obtain ⟨value, last, rfl, cut, later⟩ :=
                first.exists_of_word isColour.isText (.inr (List.prefix_append _ _))
              obtain rfl := List.append_cancel_left cut
              refine .colour isColour isNew same (later.noWordNext_iff.mp whole)
                (fun isBracket => bracket (sameBracket isBracket)) ?_
              exact hyp _ (length_lt_colour word value) (by simpa using later)
                (fun isBracket => absurd isBracket (isColour.not_bracket before)) second rfl
      | @colour _ word new value middle isColour isNew same whole bracket first =>
          have goOn : ∀ {text out : List Char}, Recoloured text middle out →
              Recoloured (('#' :: word).reverse ++ before) value out := fun second =>
            hyp _ (length_lt_colour word value) first
              (fun isBracket => absurd isBracket (isColour.not_bracket before)) second rfl
          generalize split : '#' :: (new ++ middle) = text at second
          cases second with
          | done => contradiction
          | keep second =>
              obtain ⟨rfl, rfl⟩ := List.cons.inj split
              obtain ⟨rest, last, cut, rfl, later⟩ :=
                second.exists_of_word isNew.isText (.inl (List.prefix_append _ _))
              obtain rfl := List.append_cancel_left cut
              exact .colour isColour isNew same whole bracket (goOn later)
          | @colour _ other newer rest last isOther isNewer again stop _ second =>
              have stopMiddle : NoWordNext middle := first.noWordNext_iff.mpr whole
              obtain ⟨rfl, rfl⟩ := run_unique isNew.isText stopMiddle isOther.isText stop
                (List.cons.inj split).2
              exact .colour isColour isNewer (again.trans same) whole bracket (goOn second)

theorem eq_nil_iff (recoloured : Recoloured before value out) : out = [] ↔ value = [] := by
  cases recoloured <;> simp

/-- A value is still one with other words for its colours. -/
theorem isValue (recoloured : Recoloured before value out) (isValue : IsValue value) :
    IsValue out := by
  induction recoloured with
  | done => exact isValue
  | @keep before value out c rest hyp =>
      by_cases ends : out = []
      · rw [rest.eq_nil_iff.mp ends] at isValue
        rwa [ends]
      · have isRest : IsValue out := hyp (@IsValue.of_append [c] _ isValue)
        refine ⟨List.forall_mem_cons.mpr ⟨isValue.plain c (by simp), isRest.plain⟩, ?_⟩
        intro d isLast
        refine isRest.noComma d ?_
        rwa [List.getLast?_cons_of_ne_nil ends] at isLast
  | @colour before word new value out _ isNew _ _ _ _ hyp =>
      exact (isValue_of_digits isNew.nonempty isNew.digits).append
        (hyp (@IsValue.of_append ('#' :: word) _ isValue))

end Recoloured

/-! ## The rules in a value -/

namespace HexRule

/-- Writing a word after a `#` anew, going by the value alone. -/
def wordSwap (rule : HexRule) : Swap := fun before piece after new =>
  ∃ word, piece = '#' :: word ∧ new = '#' :: rule.write word ∧ rule.shape word ∧
    NoWordNext after ∧ before.head? ≠ some '('

variable {after : List Char}

theorem wordSwap_applies_iff : rule.wordSwap.Applies before after ↔
    ∃ rest, after = '#' :: rest ∧ rule.shape (rest.takeWhile isWord) ∧
      before.head? ≠ some '(' := by
  constructor
  · rintro ⟨_, rest, _, rfl, word, rfl, rfl, shape, stop, bracket⟩
    have all : ∀ c ∈ word, isWord c = true :=
      fun c inWord => isWord_of_isHexDigit ((rule.digits shape).2 c inWord)
    exact ⟨word ++ rest, rfl, by rwa [takeWhile_run all stop], bracket⟩
  · rintro ⟨rest, rfl, shape, bracket⟩
    exact ⟨'#' :: rest.takeWhile isWord, rest.dropWhile isWord, _, by simp, _, rfl, rfl, shape,
      head?_dropWhile_not, bracket⟩

variable {pattern : Pattern} {replacement : Match → List Char}

/-- Replacing all matches in a value is writing anew all that the rule has to. -/
theorem SetBy.edited_replaceBy (setBy : rule.SetBy pattern replacement) :
    Edited rule.wordSwap [] value (pattern.replaceBy replacement value) := by
  obtain ⟨segments, segmented, _, written⟩ := Pattern.exists_segmented setBy.advances value
  rw [written]
  refine segmented.edited_of_match ?_ ?_
  · intro before piece after found isMatch finish
    obtain ⟨word, rest, split, shape, stop, bracket, _, ownFinish, written⟩ := setBy.sound isMatch
    obtain ⟨rfl, rfl⟩ : piece = '#' :: word ∧ after = rest :=
      Cursor.cut_unique (by simpa using split) finish ownFinish
    exact ⟨word, rfl, written, shape, stop, bracket⟩
  · intro before after applies
    obtain ⟨rest, rfl, shape, bracket⟩ := wordSwap_applies_iff.mp applies
    have isMatch := @SetBy.complete _ _ _ setBy before _ (rest.dropWhile isWord) shape
      head?_dropWhile_not bracket
    rwa [List.takeWhile_append_dropWhile] at isMatch

theorem wordSwap_first {piece : List Char} (swapped : rule.wordSwap before piece after new) :
    ∃ c rest others, piece = c :: rest ∧ new = c :: others ∧
      (isWord c = true → ∀ d ∈ before.head?, ¬ (d = '#' ∨ isWord d = true)) := by
  obtain ⟨word, rfl, rfl, _⟩ := swapped
  exact ⟨'#', word, _, rfl, rfl, fun isText => absurd isText (by decide)⟩

theorem noWordNext_of_edited (edited : Edited rule.wordSwap before after out)
    (stop : NoWordNext after) : NoWordNext out := by
  cases edited with
  | done => exact stop
  | keep => exact stop
  | swap swapped =>
      obtain ⟨c, rest, others, rfl, rfl, _⟩ := wordSwap_first swapped
      exact stop

/-- A rule that writes no word that it would write anew leaves none behind. -/
theorem wordSwap_settles (quiet : ∀ word, rule.shape word → ¬ rule.shape (rule.write word))
    (edited : Edited rule.wordSwap [] value out) : Free rule.wordSwap.Applies [] out := by
  refine @Edited.free rule.wordSwap [] value out rule.wordSwap.Applies
    (fun before written => before.head? = some '(' → written.head? = some '(')
    (fun _ => id) ?_ ?_ ?_ edited [] id (Free.of_forall fun _ _ _ _ found => found.1 found.2)
  · rintro before written _ after _ _ ⟨word, rfl, rfl, shape, _⟩ isBracket
    obtain ⟨nonempty, digits⟩ := rule.digits shape
    exact absurd isBracket (not_bracket_of_digits nonempty digits before)
  · intro before written c after out same _ rest found
    obtain ⟨_, split, shape, bracket⟩ := wordSwap_applies_iff.mp found
    obtain ⟨rfl, rfl⟩ := List.cons.inj split
    refine .inl (wordSwap_applies_iff.mpr
      ⟨after, rfl, ?_, fun isBracket => bracket (same isBracket)⟩)
    rwa [← rest.takeWhile_eq (fun c => .inr) wordSwap_first ⟨'#', rfl, .inl rfl⟩]
  · rintro before written _ after _ out _ ⟨word, rfl, rfl, shaped, stop, _⟩ rest done more split
      nonempty found
    obtain ⟨last, isFirst, shape, _⟩ := wordSwap_applies_iff.mp found
    obtain ⟨c, more, rfl⟩ := List.exists_cons_of_ne_nil nonempty
    obtain ⟨rfl, rfl⟩ : c = '#' ∧ more ++ out = last := by simpa using isFirst
    have digits := (rule.write_digits shaped).2
    cases done with
    | nil =>
        obtain rfl : rule.write word = more := by simpa using split
        have isText : ∀ c ∈ rule.write word, isWord c = true :=
          fun c isMember => isWord_of_isHexDigit (digits c isMember)
        rw [takeWhile_run isText (noWordNext_of_edited rest stop)] at shape
        exact quiet word shaped shape
    | cons d done =>
        have inWord : '#' ∈ rule.write word := by
          rw [(List.cons.inj split).2]
          simp
        exact absurd (digits _ inWord) (by decide)

/-- In a value that is free of words to write anew, the pattern finds nothing. -/
theorem SetBy.matchesIn_eq_false (setBy : rule.SetBy pattern replacement)
    (free : Free rule.wordSwap.Applies [] value) : pattern.matchesIn value = false := by
  rw [Pattern.matchesIn, Option.isSome_eq_false_iff, Option.isNone_iff_eq_none,
    Option.eq_none_iff_forall_ne_some]
  intro found search
  obtain ⟨skipped, rest, rfl, isMatch⟩ := Matcher.exists_of_find?_eq_some search
  obtain ⟨word, last, rfl, shape, stop, bracket, _⟩ := setBy.sound isMatch
  refine free.not_shape (by simp) ⟨'#' :: word, last, _, rfl, word, rfl, rfl, shape, stop, bracket⟩

/-- A rule that keeps colours changes a value in nothing else. -/
theorem KeepsColours.recoloured (keeps : rule.KeepsColours)
    (edited : Edited rule.wordSwap before value out) : Recoloured before value out := by
  induction edited with
  | done => exact .done
  | keep _ _ hyp => exact .keep hyp
  | swap swapped _ hyp =>
      obtain ⟨word, rfl, rfl, shape, stop, bracket⟩ := swapped
      obtain ⟨isColour, isNew, same⟩ := keeps word shape
      exact .colour isColour isNew same stop bracket hyp

end HexRule

/-! ## Both rules -/

/-- A value with its colours in upper case. -/
def upperValue : List Char → List Char :=
  lowerHex.replaceBy fun found => upper found.text

/-- A value with its colours of doubled digits in three digits. -/
def shortValue : List Char → List Char :=
  doubledHex.replaceBy fun found => '#' :: found.group 1 ++ found.group 2 ++ found.group 3

theorem recoloured_upperValue (value : List Char) : Recoloured [] value (upperValue value) :=
  upperRule_keepsColours.recoloured upperRule_setBy.edited_replaceBy

theorem recoloured_shortValue (value : List Char) : Recoloured [] value (shortValue value) :=
  shortRule_keepsColours.recoloured shortRule_setBy.edited_replaceBy

theorem matchesIn_shortValue (value : List Char) :
    doubledHex.matchesIn (shortValue value) = false := by
  refine shortRule_setBy.matchesIn_eq_false
    (HexRule.wordSwap_settles ?_ shortRule_setBy.edited_replaceBy)
  rintro _ ⟨a, b, c, rfl, _⟩ ⟨_, _, _, split, _⟩
  simp [shortRule] at split

/-- The layout of a text after both rules has the same declarations, with their colours
written anew. -/
theorem layout_shortValue_upperValue :
    declaration.layout declarationField
        (mapDeclarationValues shortValue (mapDeclarationValues upperValue text)) =
      (declaration.layout declarationField text).map (Part.mapValue (shortValue ∘ upperValue)) := by
  rw [layout_mapDeclarationValues fun value => (recoloured_shortValue value).isValue,
    layout_mapDeclarationValues fun value => (recoloured_upperValue value).isValue,
    Part.map_mapValue_map_mapValue]

theorem writeHexUpper_text (text : String) (evidence : Evidence) (context : Context) :
    writeHexUpper (.text text) evidence (some lowerHex) context =
      .ok (.text (String.ofList (mapDeclarationValues upperValue text.toList))) :=
  rfl

theorem writeHexShort_text (text : String) (evidence : Evidence) (context : Context) :
    writeHexShort (.text text) evidence (some doubledHex) context =
      .ok (.text (String.ofList (mapDeclarationValues shortValue text.toList))) :=
  rfl

/-- Where no value of a declaration has a match, the test of a rule for values finds nothing. -/
theorem testDeclarationValues_of_absent {text : String} {pattern : Pattern} (context : Context)
    (absent : ∀ inner, .field inner ∈ declaration.layout declarationField text.toList →
      pattern.matchesIn inner.value = false) :
    testDeclarationValues (.text text) (some pattern) context = .ok (.value .null) := by
  have nothing : (declaration.findAll text.toList).findSome?
      (fun found => pattern.search? (found.group 2)) = none := by
    refine List.findSome?_eq_none_iff.mpr fun found isFound => ?_
    have none := absent _ (mem_layout_iff.mpr ⟨found, isFound, rfl⟩)
    rwa [Pattern.matchesIn, Option.isSome_eq_false_iff, Option.isNone_iff_eq_none] at none
  simp only [testDeclarationValues, requireOwn, Value.asText, bind, Except.bind, pure, Except.pure,
    nothing]

/-- In a text of any kind, the rules for hex colours, one after the other, put new values into
the declarations and change nothing else, and the new text has the same declarations with the
new values. A new value differs from the old one only in words for the same colours, and no
colour is left in it that three digits could write, so the test for these finds nothing. -/
theorem writeHex_keeps_colours (text : String) (evidence again : Evidence)
    (context elsewhere : Context) :
    ∃ middle out : String, ∃ recolour : List Char → List Char,
      writeHexUpper (.text text) evidence (some lowerHex) context = .ok (.text middle) ∧
      writeHexShort (.text middle) again (some doubledHex) elsewhere = .ok (.text out) ∧
      (declaration.layout declarationField text.toList).flatMap Part.chars = text.toList ∧
      out.toList = ((declaration.layout declarationField text.toList).map
        (Part.mapValue recolour)).flatMap Part.chars ∧
      (∀ value, Recoloured [] value (recolour value) ∧
        doubledHex.matchesIn (recolour value) = false) ∧
      declaration.layout declarationField out.toList =
        (declaration.layout declarationField text.toList).map (Part.mapValue recolour) ∧
      ∀ context, testDeclarationValues (.text out) (some doubledHex) context =
        .ok (.value .null) := by
  refine ⟨_, _, shortValue ∘ upperValue, writeHexUpper_text text evidence context,
    writeHexShort_text _ again elsewhere, flatMap_layout_declaration, ?_, fun value => ⟨?_, ?_⟩, ?_,
    fun context => testDeclarationValues_of_absent context fun inner isPart => ?_⟩
  · rw [String.toList_ofList, String.toList_ofList, ← layout_shortValue_upperValue,
      flatMap_layout_declaration]
  · exact (recoloured_upperValue value).trans id (recoloured_shortValue _)
  · exact matchesIn_shortValue _
  · rw [String.toList_ofList, String.toList_ofList, layout_shortValue_upperValue]
  · rw [String.toList_ofList, String.toList_ofList, layout_shortValue_upperValue] at isPart
    obtain ⟨part, _, same⟩ := List.mem_map.mp isPart
    cases part with
    | kept => contradiction
    | field old =>
        obtain rfl := Part.field.inj same
        exact matchesIn_shortValue _

end LineRules.Builtin
