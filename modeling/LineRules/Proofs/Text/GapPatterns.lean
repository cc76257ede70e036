import LineRules.Proofs.Text.Gaps

/-!
# Patterns that find gaps

A pattern and a replacement carry out a gap rule if every match is a text without gaps
to change, a gap, and the character after it, and if every gap to change is in a match.
`Gap.SetBy.edited` says that replacing all matches then is setting all gaps.
-/

namespace LineRules.Text

open LineRules.Pattern

namespace Gap

/-- No gap in a text, or at its end, is to change. -/
def Keeps (gap : Gap) (before kept after : List Char) : Prop :=
  ∀ done more, kept = done ++ more → more ≠ [] → ¬ gap.Found (done.reverse ++ before) (more ++ after)

theorem keeps_nil {gap : Gap} {before after : List Char} : gap.Keeps before [] after := by
  intro done more split nonempty
  exact absurd (List.append_eq_nil_iff.mp split.symm).2 nonempty

theorem keeps_cons_iff {gap : Gap} {before kept after : List Char} {c : Char} :
    gap.Keeps before (c :: kept) after ↔
      ¬ gap.Found before (c :: (kept ++ after)) ∧ gap.Keeps (c :: before) kept after := by
  constructor
  · intro keeps
    refine ⟨by simpa using keeps [] (c :: kept) rfl (by simp), ?_⟩
    intro done more split nonempty
    simpa using keeps (c :: done) more (by simp [split]) nonempty
  · rintro ⟨here, rest⟩ done more split nonempty
    cases done with
    | nil =>
        obtain rfl : c :: kept = more := split
        exact here
    | cons d done =>
        obtain ⟨rfl, rfl⟩ : c = d ∧ kept = done ++ more := by simpa using split
        simpa using rest done more rfl nonempty

/-- A match with one gap to change, which its replacement sets. -/
def IsMatch (gap : Gap) (replacement : Match → List Char) (before after : List Char)
    (found : Match) : Prop :=
  ∃ head blanks c tail rest, after = head ++ (blanks ++ c :: (tail ++ rest)) ∧
    gap.left (head.reverse ++ before) ∧ gap.loose blanks ∧ gap.right c (tail ++ rest) ∧
    gap.Keeps before head (blanks ++ c :: (tail ++ rest)) ∧
    gap.Keeps (c :: (blanks.reverse ++ (head.reverse ++ before))) tail rest ∧
    found.start = .between before after ∧
    found.finish = .between (tail.reverse ++ c :: (blanks.reverse ++ (head.reverse ++ before))) rest ∧
    replacement found = head ++ (gap.fill ++ c :: tail)

/-- A pattern and a replacement that carry out a gap rule. -/
structure SetBy (gap : Gap) (pattern : Pattern) (replacement : Match → List Char) : Prop where
  sound : ∀ {before after found}, pattern.matcher false (.between before after) = some found →
    gap.IsMatch replacement before after found
  complete : ∀ {before blanks c rest}, gap.left before → gap.loose blanks → gap.right c rest →
    ∃ skipped earlier found, before = skipped.reverse ++ earlier ∧
      pattern.matcher false (.between earlier (skipped ++ (blanks ++ c :: rest))) = some found ∧
      found.finish.left < (blanks ++ c :: rest).length
  nests : pattern.matcher.Nests

namespace SetBy

variable {gap : Gap} {pattern : Pattern} {replacement : Match → List Char}

theorem advances (setBy : gap.SetBy pattern replacement) : pattern.matcher.Advances := by
  intro before after found isMatch
  obtain ⟨head, blanks, c, tail, rest, rfl, _, _, _, _, _, start, finish, _⟩ :=
    setBy.sound isMatch
  exact ⟨start, head ++ (blanks ++ c :: tail), rest, by simp, by simp, by simpa using finish⟩

/-- Replacing all matches sets all gaps. -/
theorem edited (setBy : gap.SetBy pattern replacement) (text : List Char) :
    Edited gap.swap [] text (pattern.replaceBy replacement text) := by
  obtain ⟨segments, segmented, _, written⟩ :=
    Pattern.exists_segmented setBy.advances text
  rw [written]
  refine segmented.edited setBy.nests (fun _ _ _ => trivial) ?_ ?_ Matcher.clear_start trivial
  · intro before piece after found _ isMatch start finish out edited
    obtain ⟨head, blanks, c, tail, rest, split, left, loose, right, keepsHead, keepsTail, _,
      finish', written⟩ := setBy.sound isMatch
    obtain ⟨rfl, rfl⟩ : piece = head ++ (blanks ++ c :: tail) ∧ after = rest :=
      Cursor.cut_unique (by simpa using split) finish finish'
    have swapped : gap.swap (head.reverse ++ before) (blanks ++ [c]) (tail ++ after)
        (gap.fill ++ [c]) := ⟨blanks, c, rfl, rfl, left, loose, right⟩
    have fromTail : Edited gap.swap (c :: (blanks.reverse ++ (head.reverse ++ before)))
        (tail ++ after) (tail ++ out) := .keep_append keepsTail (by simpa using edited)
    have fromGap := Edited.swap swapped (by simpa using fromTail)
    have fromHead := Edited.keep_append (by simpa [Keeps] using keepsHead) fromGap
    simpa [written] using fromHead
  · rintro before _ after _ _ ⟨blanks, c, rfl, rfl, left, loose, right⟩
    simpa using setBy.complete left loose right

/-- Where no gap is to change, the pattern finds nothing. -/
theorem matchesIn_eq_false (setBy : gap.SetBy pattern replacement) {text : List Char}
    (free : Free gap.Found [] text) : pattern.matchesIn text = false := by
  rw [Pattern.matchesIn, Option.isSome_eq_false_iff, Option.isNone_iff_eq_none,
    Option.eq_none_iff_forall_not_mem]
  intro found search
  obtain ⟨skipped, rest, rfl, isMatch⟩ := Matcher.exists_of_find?_eq_some search
  obtain ⟨head, blanks, c, tail, rest, rfl, left, loose, right, _⟩ := setBy.sound isMatch
  have absent : ¬ gap.Found ((skipped ++ head).reverse ++ []) (blanks ++ c :: (tail ++ rest)) :=
    Free.not_shape (by simpa using free) (by simp)
  exact absent (found_iff.mpr ⟨blanks, c, _, rfl, by simpa using left, loose, right⟩)

end SetBy

/-! ## Gaps after words -/

variable {gap : Gap} {pattern : Pattern} {replacement : Match → List Char}

/-- No word goes on at a gap before a character that is in no word. -/
theorem noWordNext_of_loose (noWord : ∀ {c rest}, gap.right c rest → isWord c = false)
    {blanks : List Char} {c : Char} {rest : List Char} (loose : gap.loose blanks)
    (right : gap.right c rest) : NoWordNext (blanks ++ c :: rest) := by
  cases blanks with
  | nil =>
      rintro d ⟨⟩
      exact noWord right
  | cons e blanks =>
      rintro d ⟨⟩
      exact isWord_of_isBlank (gap.loose_blank loose e (by simp))

theorem not_found_of_word (noWord : ∀ {c rest}, gap.right c rest → isWord c = false) {c : Char}
    (word : isWord c = true) {before after : List Char} : ¬ gap.Found before (c :: after) := by
  rw [found_iff]
  rintro ⟨blanks, d, rest, split, _, loose, right⟩
  have stop := noWordNext_of_loose noWord loose right
  rw [← split] at stop
  rw [stop c rfl] at word
  contradiction

/-- A pattern for some words, each with a gap and a character after it, carries out the
rule for gaps after these words. -/
theorem SetBy.of_words (isHead : List Char → Prop)
    (isText : ∀ {word}, isHead word → word ≠ [] ∧ ∀ c ∈ word, isWord c = true)
    (left_iff : ∀ {before}, gap.left before ↔ ∃ word, isHead word ∧ EndsWord word before)
    (noWord : ∀ {c rest}, gap.right c rest → isWord c = false)
    (sound : ∀ {before after found},
      pattern.matcher false (.between before after) = some found →
      ∃ word blanks c rest, isHead word ∧ after = word ++ (blanks ++ c :: rest) ∧
        NoWordNext before ∧ gap.loose blanks ∧ gap.right c rest ∧
        found.start = .between before after ∧
        found.finish = .between (c :: (blanks.reverse ++ (word.reverse ++ before))) rest ∧
        replacement found = word ++ (gap.fill ++ [c]))
    (complete : ∀ {before word blanks c rest}, isHead word → NoWordNext before →
      gap.loose blanks → gap.right c rest →
      ∃ found, pattern.matcher false (.between before (word ++ (blanks ++ c :: rest))) = some found) :
    gap.SetBy pattern replacement where
  sound := by
    intro before after found isMatch
    obtain ⟨word, blanks, c, rest, head, rfl, stop, loose, right, start, finish, written⟩ :=
      sound isMatch
    refine ⟨word, blanks, c, [], rest, rfl, ?_, loose, right, ?_, ?_, start, finish, written⟩
    · exact left_iff.mpr ⟨word, head, (endsWord_iff (isText head).2).mpr ⟨before, rfl, stop⟩⟩
    · intro done more split nonempty
      obtain ⟨d, more, rfl⟩ := List.exists_cons_of_ne_nil nonempty
      exact not_found_of_word noWord ((isText head).2 d (by simp [split]))
    · exact keeps_nil
  complete := by
    intro before blanks c rest left loose right
    obtain ⟨word, head, ends⟩ := left_iff.mp left
    obtain ⟨earlier, rfl, stop⟩ := (endsWord_iff (isText head).2).mp ends
    obtain ⟨found, isMatch⟩ := complete head stop loose right
    refine ⟨word, earlier, found, rfl, isMatch, ?_⟩
    obtain ⟨other, others, d, last, isOther, split, _, otherLoose, otherRight, _, finish, _⟩ :=
      sound isMatch
    obtain ⟨rfl, same⟩ := run_unique (isText head).2 (noWordNext_of_loose noWord loose right)
      (isText isOther).2 (noWordNext_of_loose noWord otherLoose otherRight) split
    simp [finish, same]
    omega
  nests := by
    intro before skipped rest outer inner _ nonempty isOuter longer isInner
    obtain ⟨word, blanks, c, last, head, split, _, loose, right, _, finish, _⟩ := sound isOuter
    obtain ⟨other, others, d, later, isOther, rfl, stop, _⟩ := sound isInner
    obtain ⟨e, other, rfl⟩ := List.exists_cons_of_ne_nil (isText isOther).1
    have isFirst : isWord e = true := (isText isOther).2 e (by simp)
    simp only [finish, Cursor.between_left, List.length_append, List.length_cons] at longer
    -- The inner word would begin inside of the outer one, or after it where there is none.
    rcases List.append_eq_append_iff.mp split with ⟨more, wordSplit, same⟩ | ⟨more, rfl, same⟩
    · obtain ⟨skipped, f, rfl⟩ := List.eq_nil_or_concat skipped |>.resolve_left nonempty
      have inWord : isWord f = true := (isText head).2 f (by simp [wordSplit])
      rw [stop f (by simp)] at inWord
      contradiction
    · have inGap : e ∈ blanks ++ [c] :=
        mem_of_suffix (by simpa using same)
          (by simp only [List.length_append, List.length_cons]; omega)
      rcases List.mem_append.mp inGap with blank | isRight
      · rw [isWord_of_isBlank (gap.loose_blank loose e blank)] at isFirst
        contradiction
      · obtain rfl : e = c := by simpa using isRight
        rw [noWord right] at isFirst
        contradiction

end Gap

end LineRules.Text
