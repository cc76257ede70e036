import LineRules.Proofs.StyleSheet.Lines

/-!
# Ids in selectors

The rules for style sheets see one line at a time, so a line of a selector list that ends
in a pseudo-class looks like a declaration that goes on to the end of the line. The ids of
selectors are kept exactly if no such line has in it, after the colon, what looks like a
colour that is to be written anew (`format_style_keeps_ids_iff`).
-/

namespace LineRules.Builtin

open LineRules.Text LineRules.Pattern LineRules.Format

variable {before written after out first second : List Char} {next : Option Char}

/-! ## Selector text -/

/-- The characters of identifiers. -/
def isIdentChar (c : Char) : Bool :=
  isWord c || c = '-'

/-- The first brace or semicolon of a text. -/
def nextDelimiter (text : List Char) : Option Char :=
  text.find? fun c => !isValueChar c

/-- What follows every `#` in selector text, up to the end of the name. Selector text is what
has an opening brace as the next delimiter; `next` is the delimiter after the text. -/
def selectorIds (next : Option Char) : List Char → List (List Char)
  | [] => []
  | c :: rest =>
    if c = '#' ∧ (nextDelimiter rest).or next = some '\x7b' then
      rest.takeWhile isIdentChar :: selectorIds next rest
    else selectorIds next rest

theorem isIdentChar_of_isBlank {c : Char} (blank : isBlank c = true) : isIdentChar c = false := by
  rw [isIdentChar, isWord_of_isBlank blank, Bool.false_or, decide_eq_false_iff_not]
  rintro rfl
  exact absurd blank (by decide)

theorem nextDelimiter_append :
    nextDelimiter (first ++ second) = (nextDelimiter first).or (nextDelimiter second) :=
  List.find?_append

theorem nextDelimiter_of_plain (plain : ∀ c ∈ first, isValueChar c = true) :
    nextDelimiter first = none := by
  rw [nextDelimiter, List.find?_eq_none]
  exact fun c isMember => by simp [plain c isMember]

theorem nextDelimiter_plain_append (plain : ∀ c ∈ first, isValueChar c = true) :
    nextDelimiter (first ++ second) = nextDelimiter second := by
  rw [nextDelimiter_append, nextDelimiter_of_plain plain, Option.none_or]

theorem selectorIds_append (apart : ∀ c ∈ second.head?, isIdentChar c = false) :
    selectorIds next (first ++ second) =
      selectorIds ((nextDelimiter second).or next) first ++ selectorIds next second := by
  induction first with
  | nil => rfl
  | cons c first hyp =>
      rw [List.cons_append, selectorIds, selectorIds, hyp, nextDelimiter_append,
        Option.or_assoc, takeWhile_append_of_stop apart]
      split <;> rfl

theorem selectorIds_of_not_mem (absent : '#' ∉ first) : selectorIds next first = [] := by
  induction first with
  | nil => rfl
  | cons c first hyp =>
      rw [List.mem_cons, not_or] at absent
      rw [selectorIds, if_neg fun both => absent.1 both.1.symm, hyp absent.2]

theorem selectorIds_skip (absent : '#' ∉ first) :
    selectorIds next (first ++ second) = selectorIds next second := by
  induction first with
  | nil => rfl
  | cons c first hyp =>
      rw [List.mem_cons, not_or] at absent
      rw [List.cons_append, selectorIds, if_neg fun both => absent.1 both.1.symm, hyp absent.2]

/-! ## Edits -/

theorem ValueEdit.nextDelimiter_of_edited {swap : Swap} (edit : ValueEdit swap)
    (edited : Edited swap before after out) : nextDelimiter out = nextDelimiter after := by
  induction edited with
  | done => rfl
  | keep _ _ hyp =>
      rw [nextDelimiter, nextDelimiter, List.find?_cons, List.find?_cons]
      rw [nextDelimiter, nextDelimiter] at hyp
      rw [hyp]
  | swap swapped _ hyp =>
      have plain := edit.plain swapped
      rw [nextDelimiter_plain_append fun c inNew => (plain c (.inr inNew)).1,
        nextDelimiter_plain_append fun c inPiece => (plain c (.inl inPiece)).1, hyp]

/-- Swaps that keep names: none begins inside of a name. -/
structure IdentEdit (swap : Swap) : Prop extends ValueEdit swap where
  apart {before after new : List Char} {c : Char} {rest : List Char} :
    swap before (c :: rest) after new → isIdentChar c = true →
      ∀ d ∈ before.head?, ¬(isIdentChar d = true ∨ d = '#')

theorem HexRule.identEdit (rule : HexRule) : IdentEdit rule.swap where
  toValueEdit := rule.valueEdit
  apart := by
    rintro _ _ _ c _ ⟨word, split, _⟩ isName
    obtain ⟨rfl, _⟩ := List.cons.inj split
    exact absurd isName (by decide)

theorem colonSwap_identEdit : IdentEdit colonSwap where
  toValueEdit := colonSwap_valueEdit
  apart := by
    rintro _ _ _ c _ ⟨split, _⟩ isName
    obtain ⟨rfl, _⟩ := List.cons.inj split
    exact absurd isName (by decide)

theorem zeroSwap_identEdit : IdentEdit zeroSwap where
  toValueEdit := zeroSwap_valueEdit
  apart := by
    rintro before _ _ _ _ ⟨_, _, _, _, apart, _⟩ _ d isHead
    have free := apart d isHead
    rw [isJoined, Bool.or_eq_false_iff, decide_eq_false_iff_not] at free
    simp only [isIdentChar, Bool.or_eq_true, decide_eq_true_eq, free.1, Bool.false_eq_true,
      false_or]
    rintro (rfl | rfl)
    · exact free.2 (by decide)
    · exact free.2 (by decide)

namespace IdentEdit

variable {swap : Swap}

/-- The names after a `#` and the rests of names are kept. -/
theorem takeWhile_isIdentChar_of_edited (edit : IdentEdit swap)
    (edited : Edited swap before after out)
    (joined : ∃ d ∈ before.head?, isIdentChar d = true ∨ d = '#') :
    out.takeWhile isIdentChar = after.takeWhile isIdentChar := by
  refine edited.takeWhile_eq (fun c => .inl) (fun swapped => ?_) joined
  obtain ⟨c, rest, others, rfl, rfl, _⟩ := edit.first swapped
  exact ⟨c, rest, others, rfl, rfl, edit.apart swapped⟩

/-- Edits that have nothing to do with a `#` keep the ids in selectors. -/
theorem selectorIds_of_edited (edit : IdentEdit swap)
    (quiet : ∀ {before piece after new}, swap before piece after new → '#' ∉ piece ∧ '#' ∉ new)
    (edited : Edited swap before after out) : selectorIds next out = selectorIds next after := by
  induction edited with
  | done => rfl
  | @keep before after out c _ rest hyp =>
      rw [selectorIds, selectorIds, edit.toValueEdit.nextDelimiter_of_edited rest, hyp]
      split
      case isTrue both =>
        rw [edit.takeWhile_isIdentChar_of_edited rest ⟨c, rfl, .inr both.1⟩]
      case isFalse => rfl
  | swap swapped _ hyp =>
      rw [selectorIds_skip (quiet swapped).1, selectorIds_skip (quiet swapped).2, hyp]

end IdentEdit

/-! ## Colours -/

namespace HexRule

variable {rule : HexRule} {α : Type} {seen : List Char → α}

/-- An id is in the way of a rule for colours: it stands in selector text and is to be written
anew. -/
def Exposes (rule : HexRule) (next : Option Char) (before after : List Char) : Prop :=
  rule.swap.Applies before after ∧ (nextDelimiter after).or next = some '\x7b'

theorem not_mem_of_digits {word : List Char} (digits : ∀ c ∈ word, isHexDigit c = true) :
    '#' ∉ word :=
  fun isMember => absurd (digits _ isMember) (by decide)

theorem free_skip {word : List Char} (absent : '#' ∉ word) :
    Free (rule.Exposes next) before (word ++ after) ↔
      Free (rule.Exposes next) (word.reverse ++ before) after := by
  rw [Free.append_iff, and_iff_right_iff_imp]
  rintro _ done rest rfl nonempty ⟨applies, _⟩
  obtain ⟨c, rest, rfl⟩ := List.exists_cons_of_ne_nil nonempty
  obtain ⟨_, isFirst, _⟩ := applies_iff.mp applies
  obtain ⟨rfl, _⟩ := List.cons.inj isFirst
  exact absent (by simp)

/-- A word of digits after a `#` is part of an id. -/
theorem selectorIds_digits {word : List Char} (digits : ∀ c ∈ word, isHexDigit c = true) :
    selectorIds next (('#' :: word) ++ after) =
      if (nextDelimiter after).or next = some '\x7b' then
        (word ++ after.takeWhile isIdentChar) :: selectorIds next after
      else selectorIds next after := by
  have isName : ∀ c ∈ word, isIdentChar c = true :=
    fun c inWord => by simp [isIdentChar, isWord_of_isHexDigit (digits c inWord)]
  rw [List.cons_append, selectorIds, selectorIds_skip (not_mem_of_digits digits),
    nextDelimiter_plain_append fun c inWord => (isValueChar_of_isHexDigit (digits c inWord)).1,
    List.takeWhile_append_of_pos isName]
  simp

/-- What stands of an id after a word of digits is kept. -/
theorem takeWhile_isIdentChar_after_digits {word : List Char} (nonempty : word ≠ [])
    (digits : ∀ c ∈ word, isHexDigit c = true)
    (edited : Edited rule.swap (('#' :: word).reverse ++ before) after out) :
    out.takeWhile isIdentChar = after.takeWhile isIdentChar := by
  refine rule.identEdit.takeWhile_isIdentChar_of_edited edited ?_
  obtain ⟨word, c, rfl⟩ := List.eq_nil_or_concat' word |>.resolve_left nonempty
  exact ⟨c, by simp, .inl (by simp [isIdentChar, isWord_of_isHexDigit (digits c (by simp))])⟩

/-- What a rule for colours keeps of the words it writes, it keeps of all ids. -/
theorem map_selectorIds_of_edited
    (keeps : ∀ word rest, rule.shape word → seen (rule.write word ++ rest) = seen (word ++ rest))
    (edited : Edited rule.swap before after out) :
    (selectorIds next out).map seen = (selectorIds next after).map seen := by
  induction edited with
  | done => rfl
  | @keep before after out c _ rest hyp =>
      rw [selectorIds, selectorIds, rule.valueEdit.nextDelimiter_of_edited rest]
      split
      case isTrue both =>
        rw [List.map_cons, List.map_cons, hyp,
          rule.identEdit.takeWhile_isIdentChar_of_edited rest ⟨c, rfl, .inr both.1⟩]
      case isFalse => exact hyp
  | @swap before _ after _ out swapped rest hyp =>
      obtain ⟨word, rfl, rfl, shape, _⟩ := swapped
      obtain ⟨nonempty, digits⟩ := rule.digits shape
      rw [selectorIds_digits digits, selectorIds_digits (rule.write_digits shape).2,
        rule.valueEdit.nextDelimiter_of_edited rest,
        takeWhile_isIdentChar_after_digits nonempty digits rest]
      split
      · rw [List.map_cons, List.map_cons, hyp, keeps word _ shape]
      · exact hyp

/-- What a rule for colours changes of the words it writes shows in the ids, unless none is
in its way. -/
theorem map_selectorIds_eq_iff
    (changes : ∀ word rest, rule.shape word → seen (rule.write word ++ rest) ≠ seen (word ++ rest))
    (edited : Edited rule.swap before after out) :
    (selectorIds next out).map seen = (selectorIds next after).map seen ↔
      Free (rule.Exposes next) before after := by
  induction edited with
  | done => simp [Free, selectorIds]
  | @keep before after out c fixed rest hyp =>
      rw [Free, ← hyp, and_iff_right fun exposed => fixed exposed.1, selectorIds, selectorIds,
        rule.valueEdit.nextDelimiter_of_edited rest]
      split
      case isTrue both =>
        rw [List.map_cons, List.map_cons,
          rule.identEdit.takeWhile_isIdentChar_of_edited rest ⟨c, rfl, .inr both.1⟩, List.cons.injEq,
          and_iff_right rfl]
      case isFalse => rfl
  | @swap before _ after _ out swapped rest hyp =>
      have applies : rule.swap.Applies before (_ ++ after) := ⟨_, _, _, rfl, swapped⟩
      obtain ⟨word, rfl, rfl, shape, _⟩ := swapped
      obtain ⟨nonempty, digits⟩ := rule.digits shape
      have plain : ∀ c ∈ '#' :: word, isValueChar c = true := by
        refine List.forall_mem_cons.mpr ⟨by decide, fun c inWord => ?_⟩
        exact (isValueChar_of_isHexDigit (digits c inWord)).1
      have ahead : nextDelimiter (('#' :: word) ++ after) = nextDelimiter after :=
        nextDelimiter_plain_append plain
      rw [selectorIds_digits digits, selectorIds_digits (rule.write_digits shape).2,
        rule.valueEdit.nextDelimiter_of_edited rest,
        takeWhile_isIdentChar_after_digits nonempty digits rest]
      rw [List.cons_append, Free, free_skip (not_mem_of_digits digits), ← List.cons_append, Exposes,
        ahead, and_iff_right applies]
      rw [List.reverse_cons, List.append_assoc, List.singleton_append] at hyp
      split
      case isTrue selected =>
        simp only [selected, not_true_eq_false, false_and, iff_false, List.map_cons]
        exact fun same => changes word _ shape (List.cons.inj same).1
      case isFalse elsewhere =>
        rw [and_iff_right elsewhere, ← hyp]

/-- A rule for colours that changes the words it writes keeps the ids exactly if none is in its
way. -/
theorem selectorIds_eq_iff (changes : ∀ word, rule.shape word → rule.write word ≠ word)
    (edited : Edited rule.swap before after out) :
    selectorIds next out = selectorIds next after ↔ Free (rule.Exposes next) before after := by
  have whole := @map_selectorIds_eq_iff _ _ _ next rule _ id
    (fun word rest shape same => changes word shape (List.append_cancel_right same)) edited
  rwa [List.map_id, List.map_id] at whole

/-- Where no id is in the way of one rule, the ids in the way of another one stay so. -/
theorem free_exposes_iff {other : HexRule} (edited : Edited rule.swap before after out)
    (same : SameValue before written) (back : SameValue written before)
    (free : Free (rule.Exposes next) before after) :
    Free (other.Exposes next) written out ↔ Free (other.Exposes next) before after := by
  induction edited generalizing written with
  | done => rfl
  | @keep before after out c fixed rest hyp =>
      have ahead := rule.valueEdit.nextDelimiter_of_edited (.keep fixed rest)
      have here : other.Exposes next written (c :: out) ↔ other.Exposes next before (c :: after) := by
        rw [Exposes, Exposes, ahead]
        refine and_congr_left fun _ => ⟨?_, ?_⟩
        · exact applies_of_edited rule.valueEdit rest same
        · exact applies_edited rule.valueEdit rest back
      rw [Free, Free, here, hyp (same.keep c) (back.keep c) free.2]
  | @swap before _ after _ out swapped rest hyp =>
      have applies : rule.swap.Applies before (_ ++ after) := ⟨_, _, _, rfl, swapped⟩
      have ahead := rule.valueEdit.nextDelimiter_of_edited (.swap swapped rest)
      have later := fun later => hyp (rule.valueEdit.place same swapped)
        (place_written back swapped) later
      obtain ⟨word, rfl, rfl, shape, _⟩ := swapped
      have absent := not_mem_of_digits (rule.digits shape).2
      have absentWritten := not_mem_of_digits (rule.write_digits shape).2
      have elsewhere : (nextDelimiter (('#' :: word) ++ after)).or next ≠ some '\x7b' :=
        fun selected => free.1 ⟨applies, selected⟩
      simp only [List.reverse_cons, List.append_assoc, List.singleton_append] at later
      have rest := (free_skip absent).mp free.2
      rw [List.cons_append, List.cons_append, Free, Free, free_skip absent, free_skip absentWritten,
        later rest]
      refine and_congr_left fun _ => iff_of_true ?_ ?_
      · exact fun exposed => elsewhere (ahead ▸ exposed.2)
      · exact fun exposed => elsewhere exposed.2

end HexRule

/-! ## Lines -/

/-- Both rules for colours keep the ids of a line exactly if none of them is in the way of one
of the rules. A rule does not undo what the other one has done, since one of them keeps the
length of names and the other does not. -/
theorem selectorIds_colours_iff {text middle : List Char}
    (upper : Edited upperRule.swap [] text middle) (short : Edited shortRule.swap [] middle out) :
    selectorIds next out = selectorIds next text ↔
      Free (upperRule.Exposes next) [] text ∧ Free (shortRule.Exposes next) [] text := by
  have upperKeeps := @HexRule.selectorIds_eq_iff _ _ _ next _ (fun _ => upperRule_write_ne) upper
  have shortKeeps := @HexRule.selectorIds_eq_iff _ _ _ next _ (fun _ => shortRule_write_ne) short
  have upperLengths := @HexRule.map_selectorIds_of_edited _ _ _ next _ _ List.length
    (fun word rest _ => by simp [upperRule]) upper
  have shortLengths := @HexRule.map_selectorIds_eq_iff _ _ _ next _ _ List.length
    (fun word rest shape => by simp [shortRule_length_write shape]) short
  have carried := fun free =>
    @HexRule.free_exposes_iff _ _ _ _ next _ shortRule upper .refl .refl free
  constructor
  · intro same
    have free : Free (shortRule.Exposes next) [] middle := by
      rw [← shortLengths, same, upperLengths]
    have upperFree := upperKeeps.mp ((shortKeeps.mpr free).symm.trans same)
    exact ⟨upperFree, (carried upperFree).mp free⟩
  · rintro ⟨upperFree, shortFree⟩
    exact (shortKeeps.mpr ((carried upperFree).mpr shortFree)).trans (upperKeeps.mpr upperFree)

/-- A line ends in what looks like the value of a declaration, and there is in it what looks
like a colour that is to be written anew. -/
def EndsInColour (text : List Char) : Prop :=
  ∃ done rest, text = done ++ '#' :: rest ∧ InValue done.reverse ∧ done.getLast? ≠ some '(' ∧
    (upperRule.shape (rest.takeWhile isWord) ∨ shortRule.shape (rest.takeWhile isWord)) ∧
    (∀ c ∈ rest, isValueChar c = true) ∧ rest.getLast? ≠ some ','

/-- A value with an opening brace as the next delimiter goes on to the end of the line. -/
theorem valueEnds_selected_iff : ValueEnds '#' after ∧ (nextDelimiter after).or next = some '\x7b' ↔
    ((∀ c ∈ after, isValueChar c = true) ∧ after.getLast? ≠ some ',') ∧ next = some '\x7b' := by
  have last : ∀ {value : List Char}, (∀ c ∈ (value.reverse ++ ['#']).head?, c ≠ ',') ↔
      value.getLast? ≠ some ',' := by
    intro value
    rcases List.eq_nil_or_concat' value with rfl | ⟨value, c, rfl⟩
    · simp
    · simp
  constructor
  · rintro ⟨ends, selected⟩
    obtain ⟨value, rest, rfl, plain, stop, noComma⟩ := valueEnds_iff.mp ends
    rw [nextDelimiter_plain_append plain] at selected
    cases rest with
    | nil =>
        rw [List.append_nil]
        exact ⟨⟨plain, last.mp noComma⟩, selected⟩
    | cons c rest =>
        have closer : isCloser c = true := stop c rfl
        have noValue : isValueChar c = false := by
          cases isValue : isValueChar c with
          | false => rfl
          | true =>
              rw [not_isCloser_of_isValueChar isValue] at closer
              contradiction
        obtain rfl : c = '\x7b' := by simpa [nextDelimiter, noValue] using selected
        exact absurd closer (by decide)
  · rintro ⟨⟨plain, noComma⟩, selected⟩
    refine ⟨valueEnds_iff.mpr ⟨after, [], by simp, plain, by simp, last.mpr noComma⟩, ?_⟩
    rwa [nextDelimiter_of_plain plain, Option.none_or]

theorem exposes_iff {rule : HexRule} : rule.Exposes next before after ↔
    ∃ rest, after = '#' :: rest ∧ (rule.shape (rest.takeWhile isWord) ∧ InValue before ∧
      before.head? ≠ some '(' ∧ (∀ c ∈ rest, isValueChar c = true) ∧ rest.getLast? ≠ some ',') ∧
      next = some '\x7b' := by
  have first : ∀ rest, nextDelimiter ('#' :: rest) = nextDelimiter rest := fun _ => rfl
  rw [HexRule.Exposes, HexRule.applies_iff]
  constructor
  · rintro ⟨⟨rest, rfl, shape, inValue, bracket, ends⟩, selected⟩
    rw [first] at selected
    obtain ⟨toEnd, opens⟩ := valueEnds_selected_iff.mp ⟨ends, selected⟩
    exact ⟨rest, rfl, ⟨shape, inValue, bracket, toEnd⟩, opens⟩
  · rintro ⟨rest, rfl, ⟨shape, inValue, bracket, toEnd⟩, opens⟩
    obtain ⟨ends, selected⟩ := valueEnds_selected_iff.mpr ⟨toEnd, opens⟩
    exact ⟨⟨rest, rfl, shape, inValue, bracket, ends⟩, by rwa [first]⟩

theorem HexRule.free_exposes_text_iff {rule : HexRule} {text : List Char} :
    Free (rule.Exposes next) [] text ↔
      ∀ done rest, text = done ++ '#' :: rest → InValue done.reverse → done.getLast? ≠ some '(' →
        rule.shape (rest.takeWhile isWord) → (∀ c ∈ rest, isValueChar c = true) →
        rest.getLast? ≠ some ',' → next ≠ some '\x7b' := by
  constructor
  · rintro free done rest rfl inValue bracket shape plain noComma opens
    refine free.not_shape (by simp) (exposes_iff.mpr ⟨rest, rfl, ⟨shape, ?_, ?_, plain, noComma⟩, opens⟩)
    · rwa [List.append_nil]
    · simpa using bracket
  · intro kept
    refine Free.of_forall ?_
    rintro done _ rfl _ exposes
    obtain ⟨rest, rfl, ⟨shape, inValue, bracket, plain, noComma⟩, opens⟩ := exposes_iff.mp exposes
    rw [List.append_nil] at inValue bracket
    exact kept done rest rfl inValue (by simpa using bracket) shape plain noComma opens

theorem free_exposes_colours_iff {text : List Char} :
    Free (upperRule.Exposes next) [] text ∧ Free (shortRule.Exposes next) [] text ↔
      (next = some '\x7b' → ¬ EndsInColour text) := by
  rw [HexRule.free_exposes_text_iff, HexRule.free_exposes_text_iff]
  constructor
  · rintro ⟨upper, short⟩ opens ⟨done, rest, split, inValue, bracket, shape, plain, noComma⟩
    rcases shape with isUpper | isShort
    · exact upper done rest split inValue bracket isUpper plain noComma opens
    · exact short done rest split inValue bracket isShort plain noComma opens
  · intro kept
    constructor
    · intro done rest split inValue bracket shape plain noComma opens
      exact kept opens ⟨done, rest, split, inValue, bracket, .inl shape, plain, noComma⟩
    · intro done rest split inValue bracket shape plain noComma opens
      exact kept opens ⟨done, rest, split, inValue, bracket, .inr shape, plain, noComma⟩

/-- The rules for style sheets keep the number of ids of a line, and the ids themselves exactly
if the line does not end in a colour before an opening brace. -/
theorem selectorIds_fix {text : List Char} (oneLine : OneLine text) :
    (selectorIds next (Steps.fix styleSteps text)).length = (selectorIds next text).length ∧
      (selectorIds next (Steps.fix styleSteps text) = selectorIds next text ↔
        (next = some '\x7b' → ¬ EndsInColour text)) := by
  obtain ⟨_, _, _, upper, short, colon, zero⟩ := exists_edited_styleSteps oneLine
  have noHash : '#' ∉ [':'] ∧ '#' ∉ [':', ' '] := by decide
  have colonKeeps := @IdentEdit.selectorIds_of_edited _ _ _ next _ colonSwap_identEdit
    (by rintro _ _ _ _ ⟨rfl, rfl, _⟩; exact noHash) colon
  have zeroKeeps := @IdentEdit.selectorIds_of_edited _ _ _ next _ zeroSwap_identEdit
    (fun swapped => ⟨fun inPiece => absurd (zeroSwap_isWord swapped _ (.inl inPiece)) (by decide),
      zeroSwap_quiet swapped⟩) zero
  have kept := zeroKeeps.trans colonKeeps
  rw [← free_exposes_colours_iff, ← selectorIds_colours_iff upper short]
  refine ⟨?_, Eq.congr_left kept⟩
  have counted : ∀ {rule : HexRule} {text out : List Char}, Edited rule.swap [] text out →
      (selectorIds next out).length = (selectorIds next text).length := by
    intro rule text out edited
    simpa using congrArg List.length
      (@HexRule.map_selectorIds_of_edited _ _ _ next _ Unit (fun _ => ()) (fun _ _ _ => rfl) edited)
  exact (congrArg List.length kept).trans ((counted short).trans (counted upper))

theorem nextDelimiter_fix {text : List Char} (oneLine : OneLine text) :
    nextDelimiter (Steps.fix styleSteps text) = nextDelimiter text :=
  @styleSteps_induction text (fun out => nextDelimiter out = nextDelimiter text) oneLine rfl
    fun isEdit edited same => (isEdit.toValueEdit.nextDelimiter_of_edited edited).trans same

theorem isValueChar_of_isGap {c : Char} (gap : isGap c = true) : isValueChar c = true :=
  isValueChar_of_isBlank (isBlank_of_isGap gap)

theorem nextDelimiter_trimEnd (text : List Char) :
    nextDelimiter (trimEnd text) = nextDelimiter text := by
  obtain ⟨gaps, split, allGaps⟩ := @exists_gaps_trimEnd text
  have ahead := congrArg nextDelimiter split
  rw [nextDelimiter_append, nextDelimiter_of_plain fun c inGaps =>
    isValueChar_of_isGap (allGaps c inGaps), Option.or_none] at ahead
  exact ahead.symm

theorem selectorIds_trimEnd (text : List Char) :
    selectorIds next (trimEnd text) = selectorIds next text := by
  obtain ⟨gaps, split, allGaps⟩ := @exists_gaps_trimEnd text
  have apart : ∀ c ∈ gaps.head?, isIdentChar c = false := fun c isHead =>
    isIdentChar_of_isBlank (isBlank_of_isGap (allGaps c (List.mem_of_mem_head? isHead)))
  have ids := congrArg (selectorIds next) split
  rw [selectorIds_append apart, selectorIds_of_not_mem fun isMember =>
    absurd (allGaps _ isMember) (by decide), nextDelimiter_of_plain fun c inGaps =>
    isValueChar_of_isGap (allGaps c inGaps), List.append_nil, Option.none_or] at ids
  exact ids.symm

variable {customIgnore : Option Pattern}

theorem nextDelimiter_settledLine {text : List Char} (oneLine : OneLine text) :
    nextDelimiter (settledLine styleTable styleSteps customIgnore text) = nextDelimiter text := by
  by_cases worked : WorkedOn customIgnore text
  · rw [settledLine_of_workedOn worked, nextDelimiter_fix (oneLine_trimEnd oneLine),
      nextDelimiter_trimEnd]
  · rcases settledLine_of_not_workedOn worked with same | trimmed
    · rw [same]
    · rw [trimmed, nextDelimiter_trimEnd]

theorem selectorIds_settledLine {text : List Char} (oneLine : OneLine text) :
    let out := settledLine styleTable styleSteps customIgnore text
    (selectorIds next out).length = (selectorIds next text).length ∧
      (selectorIds next out = selectorIds next text ↔
        (next = some '\x7b' → WorkedOn customIgnore text → ¬ EndsInColour (trimEnd text))) := by
  intro out
  by_cases worked : WorkedOn customIgnore text
  · have kept := @selectorIds_fix next _ (oneLine_trimEnd oneLine)
    rw [selectorIds_trimEnd, ← settledLine_of_workedOn worked] at kept
    simpa [worked] using kept
  · have same : selectorIds next out = selectorIds next text := by
      rcases settledLine_of_not_workedOn worked with same | trimmed
      · exact congrArg _ same
      · exact (congrArg _ trimmed).trans (selectorIds_trimEnd text)
    simp [same, worked]

/-! ## Style sheets -/

theorem selectorIds_chars {content ending rest : List Char} (isEnding : ending ∈ lineEndings) :
    selectorIds none (Line.chars ⟨content, ending⟩ ++ rest) =
      selectorIds (nextDelimiter rest) content ++ selectorIds none rest := by
  have blank := isBlank_of_mem_ending isEnding
  have absent : '#' ∉ ending := fun isMember => absurd (blank _ isMember) (by decide)
  have apart : ∀ c ∈ (ending ++ rest).head?, isIdentChar c = false := by
    obtain ⟨c, more, rfl⟩ := List.exists_cons_of_ne_nil (ne_nil_of_mem_lineEndings isEnding)
    simpa using isIdentChar_of_isBlank (blank c List.mem_cons_self)
  rw [Line.chars, List.append_assoc, selectorIds_append apart,
    nextDelimiter_plain_append fun c inEnding => isValueChar_of_isBlank (blank c inEnding),
    Option.or_none, selectorIds_skip absent]

/-- A style sheet keeps the number of ids in its selectors, and the ids themselves exactly if no
line that is worked on ends in a colour before an opening brace. -/
theorem selectorIds_settled {lines : List Line} (cut : IsCut lines) :
    let out := (lines.map (settled styleTable styleSteps customIgnore)).flatMap Line.chars
    nextDelimiter out = nextDelimiter (lines.flatMap Line.chars) ∧
      (selectorIds none out).length = (selectorIds none (lines.flatMap Line.chars)).length ∧
      (selectorIds none out = selectorIds none (lines.flatMap Line.chars) ↔
        ∀ line later, line :: later <:+ lines →
          nextDelimiter (later.flatMap Line.chars) = some '\x7b' →
          WorkedOn customIgnore line.content → ¬ EndsInColour (trimEnd line.content)) := by
  intro out
  induction cut with
  | nil => simp [out]
  | @last content oneLine =>
      have isOut : out = settledLine styleTable styleSteps customIgnore content ++ [] :=
        List.append_assoc _ [] []
      have here := @selectorIds_settledLine none customIgnore content oneLine
      rw [isOut, List.append_nil]
      refine ⟨?_, ?_, ?_⟩
      · simpa [Line.chars] using nextDelimiter_settledLine oneLine
      · simpa [Line.chars] using here.1
      · simpa [Line.chars, List.suffix_cons_iff, nextDelimiter] using here.2
  | @cons content ending lines oneLine isEnding _ hyp =>
      let outs := (lines.map (settled styleTable styleSteps customIgnore)).flatMap Line.chars
      have isOut : out = Line.chars ⟨settledLine styleTable styleSteps customIgnore content, ending⟩ ++
        outs := rfl
      obtain ⟨ahead, lengths, kept⟩ := hyp
      obtain ⟨hereLengths, here⟩ := @selectorIds_settledLine
        (nextDelimiter (lines.flatMap Line.chars)) customIgnore content oneLine
      rw [isOut, List.flatMap_cons, selectorIds_chars isEnding, selectorIds_chars isEnding, ahead]
      refine ⟨?_, ?_, ?_⟩
      · simp only [Line.chars, nextDelimiter_append, nextDelimiter_settledLine oneLine, ahead, outs]
      · simp only [List.length_append, hereLengths, lengths, outs]
      · rw [List.append_eq_append_iff_of_size_eq_left hereLengths, here, kept]
        simp only [List.suffix_cons_iff, List.cons.injEq]
        constructor
        · rintro ⟨first, others⟩ line later (⟨rfl, rfl⟩ | isLater)
          · exact first
          · exact others line later isLater
        · intro each
          exact ⟨each _ _ (.inl ⟨rfl, rfl⟩), fun line later isLater => each line later (.inr isLater)⟩

/-- Formatting a style sheet keeps the ids in its selectors exactly if no line that is worked on
ends in what looks like the value of a declaration, with a colour to be written anew in it,
while the next delimiter after the line is an opening brace. -/
theorem format_style_keeps_ids_iff (customIgnore : Option Pattern) (linter : Option Linter)
    (path : Path) (text : String) :
    let formatter : Formatter := { language := .css, store, customIgnore, linter }
    ∃ result : Formatted, (formatter.format path text).outcome = .ok result ∧
      (selectorIds none result.updated.toList = selectorIds none text.toList ↔
        ∀ line later, line :: later <:+ linesOf text.toList →
          nextDelimiter (later.flatMap Line.chars) = some '\x7b' →
          WorkedOn customIgnore line.content → ¬ EndsInColour (trimEnd line.content)) := by
  intro formatter
  have cut := isCut_linesOf text.toList
  have formatted := @format_alike _ formatter path (fun _ => rfl) (fun _ => rfl)
    ⟨whitespaceTable_provided, styleTable_provided⟩ text
  simp only [runLines_fst styleTable_settlesLine fun _ => cut.oneLine] at formatted
  have kept := (@selectorIds_settled customIgnore _ cut).2.2
  rw [flatMap_chars_linesOf] at kept
  exact ⟨_, formatted, by simpa using kept⟩

/-- A pseudo-class at the start of a line makes the id after it look like a colour. -/
theorem format_rewrites_id :
    let formatter : Formatter := { language := .css, store }
    let path : Path := ⟨.relative, ["a.css"]⟩
    let shown (text : String) := (formatter.format path text).outcome.map fun result =>
      (result.updated, result.violations.map fun violation => (violation.ruleId, violation.line?))
    shown "a:hover #abc\n\x7b\n\x7d\n" =
        .ok ("a:hover #ABC\n\x7b\n\x7d\n", [("css.hex_uppercase", some 1)]) ∧
      selectorIds none "a:hover #abc\n\x7b\n\x7d\n".toList = ["abc".toList] ∧
      selectorIds none "a:hover #ABC\n\x7b\n\x7d\n".toList = ["ABC".toList] := by
  decide +kernel

end LineRules.Builtin
