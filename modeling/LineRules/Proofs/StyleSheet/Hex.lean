import LineRules.Proofs.StyleSheet.Declarations

/-!
# The rules for hex colours

Digits in lower case are put into upper case, and six digits that are doubled become
three. Neither rule leaves a word behind that the same or an earlier one would write
anew.
-/

namespace LineRules.Builtin

open LineRules.Text LineRules.Pattern LineRules.Pattern.Node

variable {before after : List Char} {condition : State → Prop}

/-! ## Digits -/

/-- A digit of a hex colour in lower case. -/
def isLowerDigit (c : Char) : Bool :=
  (ClassItem.chars 'a' 'f').contains c.toNat

/-- A digit of a hex colour that has no lower case. -/
def isUpperDigit (c : Char) : Bool :=
  [ClassItem.chars '0' '9', .chars 'A' 'F'].any (·.contains c.toNat)

theorem isHexDigit_of_isLowerDigit {c : Char} (lower : isLowerDigit c = true) :
    isHexDigit c = true := by
  simp_all [isLowerDigit, isHexDigit, hexItems]

theorem isHexDigit_of_isUpperDigit {c : Char} (upper : isUpperDigit c = true) :
    isHexDigit c = true := by
  rw [isUpperDigit, List.any_cons, List.any_cons, List.any_nil, Bool.or_false, Bool.or_eq_true]
    at upper
  rw [isHexDigit, hexItems, List.any_cons, List.any_cons, Bool.or_eq_true, Bool.or_eq_true]
  exact upper.imp_right .inl

theorem upperChars_of_isHexDigit {c : Char} (digit : isHexDigit c = true) :
    upperChars c = [c.toUpper] :=
  if_pos (toNat_lt_of_isHexDigit digit)

theorem isUpperDigit_toUpper {c : Char} (digit : isHexDigit c = true) :
    isUpperDigit c.toUpper = true :=
  holds_of_isHexDigit (fun c => isUpperDigit c.toUpper) (by decide) digit

theorem not_isLowerDigit_of_isUpperDigit {c : Char} (upper : isUpperDigit c = true) :
    isLowerDigit c = false := by
  have not := holds_of_isHexDigit (fun c => !isUpperDigit c || !isLowerDigit c) (by decide)
    (isHexDigit_of_isUpperDigit upper)
  rw [upper] at not
  simpa using not

/-! ## Upper case -/

/-- Putting the digits of colours into upper case. -/
def upperRule : HexRule where
  shape word := (3 ≤ word.length ∧ word.length ≤ 8) ∧ (∀ c ∈ word, isHexDigit c = true) ∧
    ∃ c ∈ word, isLowerDigit c = true
  write word := word.map Char.toUpper
  digits := by
    rintro word ⟨⟨least, _⟩, digits, _⟩
    refine ⟨?_, digits⟩
    rintro rfl
    simp at least
  write_digits := by
    rintro word ⟨⟨least, _⟩, digits, _⟩
    constructor
    · intro empty
      rw [List.map_eq_nil_iff] at empty
      simp [empty] at least
    · intro c isMember
      obtain ⟨d, inWord, rfl⟩ := List.mem_map.mp isMember
      exact isHexDigit_of_isUpperDigit (isUpperDigit_toUpper (digits d inWord))

/-- No digit is in lower case. -/
def InUpperCase (word : List Char) : Prop :=
  ∀ c ∈ word, isUpperDigit c = true

theorem InUpperCase.not_shape {word : List Char} (inUpper : InUpperCase word) :
    ¬ upperRule.shape word := by
  rintro ⟨_, _, c, isMember, lower⟩
  rw [not_isLowerDigit_of_isUpperDigit (inUpper c isMember)] at lower
  contradiction

theorem inUpperCase_write {word : List Char} (shape : upperRule.shape word) :
    InUpperCase (upperRule.write word) := by
  intro c isMember
  obtain ⟨d, inWord, rfl⟩ := List.mem_map.mp isMember
  exact isUpperDigit_toUpper (shape.2.1 d inWord)

theorem upperRule_write_ne {word : List Char} (shape : upperRule.shape word) :
    upperRule.write word ≠ word := by
  intro same
  exact (inUpperCase_write shape).not_shape (by rwa [same])

theorem contains_hexItems (c : Char) :
    (CharClass.mk false .exact hexItems).contains c = isHexDigit c :=
  contains_oneOf

theorem contains_lowerItems (c : Char) :
    (CharClass.mk false .exact [.chars 'a' 'f']).contains c = isLowerDigit c := by
  rw [contains_oneOf, List.any_cons, List.any_nil, Bool.or_false, isLowerDigit]

private theorem lowerAhead_reaches_iff {opened closed : List (Nat × Cursor)} :
    (ahead true (sequence [star (char ⟨false, .exact, hexItems⟩),
        char ⟨false, .exact, [.chars 'a' 'f']⟩])).Reaches
        ⟨.between before after, opened, closed⟩ condition ↔
      (∃ run c rest, after = run ++ c :: rest ∧ (∀ d ∈ run, isHexDigit d = true) ∧
        isLowerDigit c = true) ∧ condition ⟨.between before after, opened, closed⟩ := by
  have body : ∀ {condition : State → Prop}, (sequence [star (char ⟨false, .exact, hexItems⟩),
      char ⟨false, .exact, [.chars 'a' 'f']⟩]).Reaches ⟨.between before after, opened, closed⟩
          condition ↔
      ∃ run c rest, after = run ++ c :: rest ∧ (∀ d ∈ run, isHexDigit d = true) ∧
        isLowerDigit c = true ∧
        condition ⟨.between (c :: (run.reverse ++ before)) rest, opened, closed⟩ := by
    intro condition
    simp only [reaches_sequence_cons_iff, reaches_sequence_nil_iff, reaches_star_char_iff,
      reaches_char_iff, contains_hexItems, contains_lowerItems]
    constructor
    · rintro ⟨run, _, rfl, digits, c, rest, rfl, lower, met⟩
      exact ⟨run, c, rest, rfl, digits, lower, met⟩
    · rintro ⟨run, c, rest, rfl, digits, lower, met⟩
      exact ⟨run, _, rfl, digits, c, rest, rfl, lower, met⟩
  rw [reaches_ahead_iff, body]
  · simp only [and_true]
  · intro condition reaches
    obtain ⟨_, _, _, _, _, _, met⟩ := body.mp reaches
    exact ⟨_, met⟩

theorem lowerHex_reaches_iff :
    lowerHex.node.Reaches (.start (.between before after)) condition ↔
      ∃ word rest, after = '#' :: (word ++ rest) ∧ upperRule.shape word ∧ NoWordNext rest ∧
        before.head? ≠ some '(' ∧
        condition (.start (.between (('#' :: word).reverse ++ before) rest)) := by
  have tree : lowerHex.node = sequence [behind false 1 (char ⟨false, .exact, [.ofChar '(']⟩),
      char ⟨false, .exact, [.ofChar '#']⟩,
      ahead true (sequence [star (char ⟨false, .exact, hexItems⟩),
        char ⟨false, .exact, [.chars 'a' 'f']⟩]),
      iterate .greedy 3 (some 8) (char ⟨false, .exact, hexItems⟩), boundary] := rfl
  rw [tree]
  simp only [State.start, reaches_sequence_cons_iff, reaches_sequence_nil_iff, reaches_behind_iff,
    reaches_char_iff, contains_single, lowerAhead_reaches_iff, boundary, reaches_anchor_iff,
    reaches_iterate_char_iff (by decide : Appetite.greedy ≠ .possessive), contains_hexItems,
    decide_eq_true_eq, decide_eq_false_iff_not]
  have isText : ∀ {word : List Char}, (∀ c ∈ word, isHexDigit c = true) →
      ∀ c ∈ word, isWord c = true :=
    fun isHex c inWord => isWord_of_isHexDigit (isHex c inWord)
  constructor
  · rintro ⟨bracket, _, _, rfl, rfl, ⟨run, c, last, split, digits, lower⟩, word, rest, rfl, least,
      most, isHex, holds, met⟩
    have nonempty : word ≠ [] := by
      rintro rfl
      simp at least
    have stop : NoWordNext rest := (holds_boundary_after nonempty (isText isHex)).mp holds
    have inWord : c ∈ word := by
      have isLater : ∀ d ∈ run ++ [c], isWord d = true := by
        intro d isMember
        rcases List.mem_append.mp isMember with inRun | isLast
        · exact isWord_of_isHexDigit (digits d inRun)
        · rw [List.mem_singleton.mp isLast]
          exact isWord_of_isHexDigit (isHexDigit_of_isLowerDigit lower)
      have whole : word = (run ++ [c]) ++ last.takeWhile isWord := by
        calc word = (word ++ rest).takeWhile isWord := (takeWhile_run (isText isHex) stop).symm
          _ = ((run ++ [c]) ++ last).takeWhile isWord := by rw [split, List.append_cons]
          _ = _ := List.takeWhile_append_of_pos isLater
      simp [whole]
    refine ⟨word, rest, rfl, ⟨⟨least, by simpa using most⟩, isHex, c, inWord, lower⟩, stop, ?_,
      by simpa using met⟩
    exact fun isBracket => bracket _ isBracket rfl
  · rintro ⟨word, rest, rfl, ⟨⟨least, most⟩, isHex, c, isMember, lower⟩, stop, bracket, met⟩
    have nonempty : word ≠ [] := List.ne_nil_of_mem isMember
    obtain ⟨run, last, rfl⟩ := List.append_of_mem isMember
    refine ⟨?_, '#', _, rfl, rfl, ⟨run, c, last ++ rest, by simp, ?_, lower⟩, _, rest, rfl, least,
      by simpa using most, isHex, (holds_boundary_after nonempty (isText isHex)).mpr stop,
      by simpa using met⟩
    · rintro d isHead rfl
      exact bracket isHead
    · exact fun d inRun => isHex d (List.mem_append_left _ inRun)

theorem upper_word {word : List Char} (isHex : ∀ c ∈ word, isHexDigit c = true) :
    upper ('#' :: word) = '#' :: word.map Char.toUpper := by
  have first : upperChars '#' = ['#'] := rfl
  rw [upper, List.flatMap_cons, first, List.singleton_append]
  congr 1
  induction word with
  | nil => rfl
  | cons c word hyp =>
      rw [List.flatMap_cons, upperChars_of_isHexDigit (isHex c (by simp)),
        hyp fun d inWord => isHex d (by simp [inWord])]
      rfl

theorem upperRule_setBy : upperRule.SetBy lowerHex fun found => upper found.text where
  sound := by
    intro before after found isMatch
    obtain ⟨start, reaches⟩ := reaches_of_matchAt_eq_some isMatch
    obtain ⟨word, rest, rfl, shape, stop, bracket, final⟩ := lowerHex_reaches_iff.mp reaches
    have finish : found.finish = .between (('#' :: word).reverse ++ before) rest := by
      rw [Match.finish, ← final]
      rfl
    refine ⟨word, rest, rfl, shape, stop, bracket, start, finish, ?_⟩
    have text : found.text = '#' :: word := Match.text_of_cut start finish
    rw [text, upper_word shape.2.1]
    rfl
  complete := by
    intro before word rest shape stop bracket
    exact exists_matchAt_of_reaches
      (lowerHex_reaches_iff.mpr ⟨word, rest, rfl, shape, stop, bracket, trivial⟩)

/-! ## Three digits -/

/-- Writing six digits that are doubled as three. -/
def shortRule : HexRule where
  shape word := ∃ a b c, word = [a, a, b, b, c, c] ∧ InUpperCase [a, b, c]
  write word :=
    match word with
    | [a, _, b, _, c, _] => [a, b, c]
    | word => word
  digits := by
    rintro _ ⟨a, b, c, rfl, inUpper⟩
    refine ⟨by simp, ?_⟩
    intro d isMember
    exact isHexDigit_of_isUpperDigit (inUpper d (by simp_all))
  write_digits := by
    rintro _ ⟨a, b, c, rfl, inUpper⟩
    exact ⟨by simp, fun d isMember => isHexDigit_of_isUpperDigit (inUpper d isMember)⟩

theorem shortRule_length_write {word : List Char} (shape : shortRule.shape word) :
    (shortRule.write word).length = 3 ∧ word.length = 6 := by
  obtain ⟨a, b, c, rfl, _⟩ := shape
  exact ⟨rfl, rfl⟩

theorem shortRule_write_ne {word : List Char} (shape : shortRule.shape word) :
    shortRule.write word ≠ word := by
  intro same
  have lengths := shortRule_length_write shape
  rw [same, lengths.2] at lengths
  simp at lengths

/-- A character that is captured and read once more. -/
private theorem doubled_reaches_iff {index : Nat} {cls : CharClass} {nodes : List Node}
    {opened closed : List (Nat × Cursor)} :
    (sequence (group index (char cls) :: backref index .exact :: nodes)).Reaches
        ⟨.between before after, opened, closed⟩ condition ↔
      ∃ c rest, after = c :: c :: rest ∧ cls.contains c = true ∧
        (sequence nodes).Reaches ⟨.between (c :: c :: before) rest,
          (index, .between before (c :: c :: rest)) :: opened,
          (index, .between (c :: before) (c :: rest)) :: closed⟩ condition := by
  have captured : ∀ {c : Char} {rest : List Char}, (State.mk (.between (c :: before) rest)
      ((index, .between before (c :: rest)) :: opened)
      ((index, .between (c :: before) rest) :: closed)).capture? index = some [c] := by
    intro c rest
    simp [State.capture?]
  simp only [reaches_sequence_cons_iff, reaches_group_iff, reaches_char_iff, State.openGroup,
    State.closeGroup]
  constructor
  · rintro ⟨c, _, rfl, member, back⟩
    obtain ⟨rest, rfl, met⟩ := (reaches_backref_iff captured).mp back
    exact ⟨c, rest, rfl, member, met⟩
  · rintro ⟨c, rest, rfl, member, met⟩
    exact ⟨c, _, rfl, member, (reaches_backref_iff captured).mpr ⟨rest, rfl, met⟩⟩

theorem doubledHex_reaches_iff :
    doubledHex.node.Reaches (.start (.between before after)) condition ↔
      ∃ a b c rest, after = '#' :: a :: a :: b :: b :: c :: c :: rest ∧ InUpperCase [a, b, c] ∧
        NoWordNext rest ∧ before.head? ≠ some '(' ∧
        condition ⟨.between (c :: c :: b :: b :: a :: a :: '#' :: before) rest,
          [(3, .between (b :: b :: a :: a :: '#' :: before) (c :: c :: rest)),
            (2, .between (a :: a :: '#' :: before) (b :: b :: c :: c :: rest)),
            (1, .between ('#' :: before) (a :: a :: b :: b :: c :: c :: rest))],
          [(3, .between (c :: b :: b :: a :: a :: '#' :: before) (c :: rest)),
            (2, .between (b :: a :: a :: '#' :: before) (b :: c :: c :: rest)),
            (1, .between (a :: '#' :: before) (a :: b :: b :: c :: c :: rest))]⟩ := by
  have tree : doubledHex.node = sequence [behind false 1 (char ⟨false, .exact, [.ofChar '(']⟩),
      char ⟨false, .exact, [.ofChar '#']⟩,
      group 1 (char ⟨false, .exact, [.chars '0' '9', .chars 'A' 'F']⟩), backref 1 .exact,
      group 2 (char ⟨false, .exact, [.chars '0' '9', .chars 'A' 'F']⟩), backref 2 .exact,
      group 3 (char ⟨false, .exact, [.chars '0' '9', .chars 'A' 'F']⟩), backref 3 .exact,
      boundary] := rfl
  rw [tree]
  have isUpper : ∀ c : Char, (CharClass.mk false .exact [.chars '0' '9', .chars 'A' 'F']).contains c =
      isUpperDigit c := fun _ => contains_oneOf
  rw [reaches_sequence_cons_iff, State.start, reaches_behind_iff, reaches_sequence_cons_iff]
  simp only [reaches_char_iff, doubled_reaches_iff, contains_single, isUpper, decide_eq_true_eq,
    decide_eq_false_iff_not]
  simp only [reaches_sequence_cons_iff, reaches_sequence_nil_iff, boundary, reaches_anchor_iff]
  constructor
  · rintro ⟨bracket, _, _, rfl, rfl, a, _, rfl, isA, b, _, rfl, isB, c, rest, rfl, isC, holds, met⟩
    have inUpper : InUpperCase [a, b, c] := by simp [InUpperCase, isA, isB, isC]
    have isText : ∀ d ∈ [c], isWord d = true := by
      simpa using isWord_of_isHexDigit (isHexDigit_of_isUpperDigit isC)
    refine ⟨a, b, c, rest, rfl, inUpper, (holds_boundary_after (by simp) isText).mp holds, ?_, met⟩
    exact fun isBracket => bracket _ isBracket rfl
  · rintro ⟨a, b, c, rest, rfl, inUpper, stop, bracket, met⟩
    have isText : ∀ d ∈ [c], isWord d = true := by
      simpa using isWord_of_isHexDigit (isHexDigit_of_isUpperDigit (inUpper c (by simp)))
    refine ⟨?_, '#', _, rfl, rfl, a, _, rfl, inUpper a (by simp), b, _, rfl, inUpper b (by simp), c,
      rest, rfl, inUpper c (by simp), (holds_boundary_after (by simp) isText).mpr stop, met⟩
    rintro d isHead rfl
    exact bracket isHead

theorem shortRule_setBy : shortRule.SetBy doubledHex fun found =>
    '#' :: found.group 1 ++ found.group 2 ++ found.group 3 where
  sound := by
    intro before after found isMatch
    obtain ⟨start, reaches⟩ := reaches_of_matchAt_eq_some isMatch
    obtain ⟨a, b, c, rest, rfl, inUpper, stop, bracket, final⟩ := doubledHex_reaches_iff.mp reaches
    refine ⟨[a, a, b, b, c, c], rest, rfl, ⟨a, b, c, rfl, inUpper⟩, stop, bracket, start, ?_, ?_⟩
    · rw [Match.finish, ← final]
      rfl
    · have captured : ∀ index d, found.final.capture? index = some [d] → index ≠ 0 →
          found.group index = [d] := by
        intro index d isCapture other
        simp [Match.group, Match.group?, isCapture, other]
      have first : found.final.capture? 1 = some [a] := by
        rw [← final]
        exact State.capture?_of_lookup [a] rfl rfl
      have second : found.final.capture? 2 = some [b] := by
        rw [← final]
        exact State.capture?_of_lookup [b] rfl rfl
      have third : found.final.capture? 3 = some [c] := by
        rw [← final]
        exact State.capture?_of_lookup [c] rfl rfl
      rw [captured 1 a first (by decide), captured 2 b second (by decide),
        captured 3 c third (by decide)]
      rfl
  complete := by
    rintro before _ rest ⟨a, b, c, rfl, inUpper⟩ stop bracket
    exact exists_matchAt_of_reaches
      (doubledHex_reaches_iff.mpr ⟨a, b, c, rest, rfl, inUpper, stop, bracket, trivial⟩)

/-! ## What both rules leave behind -/

theorem upperRule_settles {text out : List Char} (edited : Edited upperRule.swap [] text out) :
    Free upperRule.swap.Applies [] out := by
  refine HexRule.free_of_edited upperRule.valueEdit ?_ edited ?_
  · rintro _ _ _ _ ⟨word, _, rfl, shape, stop, _⟩
    refine .inr ⟨_, rfl, ?_, stop, (inUpperCase_write shape).not_shape⟩
    exact fun c isMember => isWord_of_isHexDigit ((upperRule.write_digits shape).2 c isMember)
  · exact Free.of_forall fun _ _ _ _ found => found.1 found.2

theorem shortRule_settles {text out : List Char} (edited : Edited shortRule.swap [] text out) :
    Free shortRule.swap.Applies [] out := by
  refine HexRule.free_of_edited shortRule.valueEdit ?_ edited ?_
  · rintro _ _ _ _ ⟨word, _, rfl, shape, stop, _⟩
    refine .inr ⟨_, rfl, ?_, stop, ?_⟩
    · exact fun c isMember => isWord_of_isHexDigit ((shortRule.write_digits shape).2 c isMember)
    · obtain ⟨a, b, c, rfl, _⟩ := shape
      rintro ⟨_, _, _, split, _⟩
      simp [shortRule] at split
  · exact Free.of_forall fun _ _ _ _ found => found.1 found.2

/-- Three digits are in upper case if the six were. -/
theorem upperRule_outlasts_shortRule {text out : List Char}
    (edited : Edited shortRule.swap [] text out) (free : Free upperRule.swap.Applies [] text) :
    Free upperRule.swap.Applies [] out := by
  refine HexRule.free_of_edited shortRule.valueEdit ?_ edited ?_
  · rintro _ _ _ _ ⟨word, _, rfl, shape, stop, _⟩
    refine .inr ⟨_, rfl, ?_, stop, ?_⟩
    · exact fun c isMember => isWord_of_isHexDigit ((shortRule.write_digits shape).2 c isMember)
    · obtain ⟨a, b, c, rfl, inUpper⟩ := shape
      exact inUpper.not_shape
  · exact Free.mono (fun _ _ found => found.2) free

/-- An edit that writes no `#` brings up no word to be written anew. -/
theorem HexRule.outlasts {rule : HexRule} {edit : Swap} (isEdit : ValueEdit edit)
    (quiet : ∀ {before piece after new}, edit before piece after new → '#' ∉ new)
    {text out : List Char} (edited : Edited edit [] text out)
    (free : Free rule.swap.Applies [] text) : Free rule.swap.Applies [] out :=
  HexRule.free_of_edited isEdit (fun swapped => .inl (quiet swapped)) edited
    (Free.mono (fun _ _ found => found.2) free)

end LineRules.Builtin
