import LineRules.Proofs.StyleSheet.Lines

/-!
# Lengths in calls

Whether a zero lies in the call of a mathematical function is looked up in its own line, while
a call can go on over several lines. The zeros in calls keep their units exactly if none of
them lies in a call that only the lines before it open (`format_style_keeps_zeros_iff`).
-/

namespace LineRules.Builtin

open LineRules.Text LineRules.Pattern LineRules.Pattern.Node LineRules.Format

variable {before written given after out first second : List Char}

/-! ## Zeros in calls -/

/-- A text ends neither in a word nor in a `#`; last character first. -/
def wordBegins (before : List Char) : Bool :=
  before.head?.all fun c => !isWord c && c != '#'

/-- What follows every zero that begins a word in the call of a mathematical function, up to the
end of the word: the units of lengths of zero are among it. Which calls are open is told by
matching the brackets of all the text before, given last character first. -/
def zerosInCalls (before : List Char) : List Char → List (List Char)
  | [] => []
  | c :: rest =>
    if c = '0' ∧ wordBegins before ∧ insideMathCall before.reverse then
      rest.takeWhile isWord :: zerosInCalls (c :: before) rest
    else zerosInCalls (c :: before) rest

theorem zerosInCalls_append (stop : NoWordNext second) : zerosInCalls before (first ++ second) =
    zerosInCalls before first ++ zerosInCalls (first.reverse ++ before) second := by
  induction first generalizing before with
  | nil => rfl
  | cons c first hyp =>
      rw [List.cons_append, zerosInCalls, zerosInCalls, hyp, takeWhile_append_of_stop stop]
      simp only [List.reverse_cons, List.append_assoc, List.singleton_append]
      split <;> rfl

/-- No zero in a text begins a word. -/
def Joined (before text : List Char) : Prop :=
  ∀ done rest, text = done ++ '0' :: rest → wordBegins (done.reverse ++ before) = false

theorem joined_of_not_mem {text : List Char} (absent : '0' ∉ text) : Joined before text := by
  rintro done rest rfl
  simp at absent

theorem zerosInCalls_skip (joined : Joined before first) :
    zerosInCalls before (first ++ second) = zerosInCalls (first.reverse ++ before) second := by
  induction first generalizing before with
  | nil => rfl
  | cons c first hyp =>
      have later : Joined (c :: before) first := by
        rintro done rest rfl
        simpa using joined (c :: done) rest rfl
      have here : ¬(c = '0' ∧ wordBegins before ∧ insideMathCall before.reverse) := by
        rintro ⟨rfl, begins, _⟩
        have closed : wordBegins before = false := joined [] first rfl
        rw [closed] at begins
        contradiction
      rw [List.cons_append, zerosInCalls, if_neg here, hyp later]
      simp

/-! ## Names of functions -/

/-- A word, last character first, is not the beginning of the name of a mathematical function. -/
def Nameless (word : List Char) : Prop :=
  ∀ more, ¬ IsMathName (more ++ word).reverse

/-- Two words are the same, or neither of them begins the name of a mathematical function. -/
def AlikeName (word other : List Char) : Prop :=
  word = other ∨ (Nameless word ∧ Nameless other)

theorem nameless_of_zero {word : List Char} (isMember : '0' ∈ word) : Nameless word :=
  fun more isName => (isName.plain.2 '0' (by simp [isMember])).2 rfl

/-- The letters `l` and `m` are no digits of hex colours, in whatever case. -/
theorem not_isHexDigit_of_folds {own c : Char} (folds : Folds own c) (isLetter : own ∈ ['l', 'm']) :
    isHexDigit c = false := by
  simpa using holds_of_folds (fun c => !isHexDigit c) (by decide +kernel) folds isLetter

/-- No name of a mathematical function begins with three digits of hex colours. -/
theorem nameless_of_digits {word : List Char} (three : 3 ≤ word.length)
    (digits : ∀ c ∈ word, isHexDigit c = true) : Nameless word.reverse := by
  obtain ⟨a, b, c, word, rfl⟩ : ∃ a b c rest, word = a :: b :: c :: rest := by
    match word, three with
    | a :: b :: c :: rest, _ => exact ⟨a, b, c, rest, rfl⟩
  simp only [List.forall_mem_cons] at digits
  obtain ⟨first, second, third, _⟩ := digits
  rintro more ⟨name, isName, all⟩
  have other : ∀ {own c : Char}, Folds own c → own ∈ ['l', 'm'] → isHexDigit c = true → False := by
    intro own c folds isLetter digit
    rw [not_isHexDigit_of_folds folds isLetter] at digit
    contradiction
  simp only [List.reverse_append, List.reverse_reverse, List.cons_append] at all
  simp only [mathNames, List.mem_cons, List.not_mem_nil, or_false] at isName
  rcases isName with rfl | rfl | rfl | rfl
  · obtain _ | ⟨_, _ | ⟨_, _ | ⟨isL, _⟩⟩⟩ := all
    exact other isL (by decide) third
  · obtain _ | ⟨isM, _⟩ := all
    exact other isM (by decide) first
  · obtain _ | ⟨isM, _⟩ := all
    exact other isM (by decide) first
  · obtain _ | ⟨_, _ | ⟨isL, _⟩⟩ := all
    exact other isL (by decide) second

namespace AlikeName

variable {word other : List Char}

theorem isMathName_iff (alike : AlikeName word other) :
    IsMathName word.reverse ↔ IsMathName other.reverse := by
  rcases alike with rfl | ⟨nameless, namelessOther⟩
  · rfl
  · exact iff_of_false (nameless []) (namelessOther [])

theorem cons (alike : AlikeName word other) (c : Char) : AlikeName (c :: word) (c :: other) := by
  have longer : ∀ {word : List Char}, Nameless word → Nameless (c :: word) := by
    intro word nameless more isName
    exact nameless (more ++ [c]) (by simpa using isName)
  exact alike.imp (congrArg (c :: ·)) fun both => ⟨longer both.1, longer both.2⟩

theorem trans {middle : List Char} (alike : AlikeName word middle) (next : AlikeName middle other) :
    AlikeName word other := by
  rcases alike with rfl | ⟨nameless, namelessMiddle⟩
  · exact next
  · rcases next with rfl | ⟨_, namelessOther⟩
    · exact .inr ⟨nameless, namelessMiddle⟩
    · exact .inr ⟨nameless, namelessOther⟩

end AlikeName

/-! ## Texts before a place -/

/-- What was written for a text opens the same calls and goes on with the same names. -/
structure AlikeCalls (before written : List Char) : Prop where
  brackets : bracketsBefore written = bracketsBefore before
  word : AlikeName (written.takeWhile isWord) (before.takeWhile isWord)
  last : AlikeName (lastWord written) (lastWord before)
  apart : Apart written ↔ Apart before
  begins : wordBegins written = wordBegins before

namespace AlikeCalls

theorem refl : AlikeCalls before before :=
  ⟨rfl, .inl rfl, .inl rfl, .rfl, rfl⟩

theorem trans {middle : List Char} (alike : AlikeCalls before middle)
    (next : AlikeCalls middle written) : AlikeCalls before written :=
  ⟨next.brackets.trans alike.brackets, next.word.trans alike.word, next.last.trans alike.last,
    next.apart.trans alike.apart, next.begins.trans alike.begins⟩

theorem inside (alike : AlikeCalls before written) :
    insideMathCall written.reverse = insideMathCall before.reverse := by
  rw [insideMathCall_reverse, insideMathCall_reverse, alike.brackets]

theorem keep (alike : AlikeCalls before written) (c : Char) :
    AlikeCalls (c :: before) (c :: written) := by
  refine ⟨?_, ?_, ?_, .rfl, rfl⟩
  · exact bracketsBefore_cons_congr c alike.brackets alike.last.isMathName_iff
  · rw [List.takeWhile_cons, List.takeWhile_cons]
    split
    · exact alike.word.cons c
    · exact .inl rfl
  · rw [lastWord_cons, lastWord_cons]
    split
    · exact alike.last
    · split
      · exact alike.word.cons c
      · exact .inl rfl

/-- Texts that end in words that begin no name. -/
theorem of_nameless (brackets : bracketsBefore written = bracketsBefore before)
    (ends : ∃ c ∈ before.head?, isWord c = true) (endsWritten : ∃ c ∈ written.head?, isWord c = true)
    (nameless : Nameless (before.takeWhile isWord))
    (namelessWritten : Nameless (written.takeWhile isWord)) : AlikeCalls before written := by
  have facts : ∀ {text : List Char}, (∃ c ∈ text.head?, isWord c = true) →
      lastWord text = text.takeWhile isWord ∧ ¬ Apart text ∧ wordBegins text = false := by
    rintro text ⟨c, isHead, word⟩
    have last := lastWord_of_word isHead word
    obtain ⟨rest, rfl⟩ := List.head?_eq_some_iff.mp isHead
    refine ⟨last, ?_, by simp [wordBegins, word]⟩
    intro apart
    have free := apart c rfl
    rw [isJoined, word] at free
    contradiction
  obtain ⟨last, joined, within⟩ := facts ends
  obtain ⟨lastWritten, joinedWritten, withinWritten⟩ := facts endsWritten
  refine ⟨brackets, .inr ⟨namelessWritten, nameless⟩, ?_, iff_of_false joinedWritten joined, ?_⟩
  · rw [last, lastWritten]
    exact .inr ⟨namelessWritten, nameless⟩
  · rw [within, withinWritten]

/-- Texts that end in characters that join nothing. -/
theorem of_loose (brackets : bracketsBefore written = bracketsBefore before)
    (last : AlikeName (lastWord written) (lastWord before))
    (loose : ∃ c ∈ before.head?, isJoined c = false)
    (looseWritten : ∃ c ∈ written.head?, isJoined c = false) : AlikeCalls before written := by
  have facts : ∀ {text : List Char}, (∃ c ∈ text.head?, isJoined c = false) →
      text.takeWhile isWord = [] ∧ Apart text ∧ wordBegins text = true := by
    rintro text ⟨c, isHead, loose⟩
    obtain ⟨rest, rfl⟩ := List.head?_eq_some_iff.mp isHead
    have apart : Apart (c :: rest) := by simpa [Apart] using loose
    rw [isJoined, Bool.or_eq_false_iff, decide_eq_false_iff_not] at loose
    have noHash : c ≠ '#' := by
      rintro rfl
      exact loose.2 (by decide)
    exact ⟨by simp [loose.1], apart, by simp [wordBegins, loose.1, noHash]⟩
  obtain ⟨noWord, apart, begins⟩ := facts loose
  obtain ⟨noWordWritten, apartWritten, beginsWritten⟩ := facts looseWritten
  refine ⟨brackets, ?_, last, iff_of_true apartWritten apart, ?_⟩
  · rw [noWord, noWordWritten]
    exact .inl rfl
  · rw [begins, beginsWritten]

/-- The blanks at the end of a text, which a line break is one of, do not matter. -/
theorem blanks {run other : List Char} (alike : AlikeCalls before written)
    (allBlank : ∀ c ∈ run, isBlank c = true) (othersBlank : ∀ c ∈ other, isBlank c = true)
    (nonempty : run ≠ []) (otherNonempty : other ≠ []) :
    AlikeCalls (run ++ before) (other ++ written) := by
  have noBracket : ∀ c, isBlank c = true → c ≠ '(' ∧ c ≠ ')' := by
    intro c blank
    constructor
    · rintro rfl
      exact absurd blank (by decide)
    · rintro rfl
      exact absurd blank (by decide)
  have skip : ∀ {run text : List Char}, (∀ c ∈ run, isBlank c = true) →
      lastWord (run ++ text) = lastWord text := by
    intro run text all
    rw [lastWord, List.dropWhile_append_of_pos all, lastWord]
  have loose : ∀ {run text : List Char}, (∀ c ∈ run, isBlank c = true) → run ≠ [] →
      ∃ c ∈ (run ++ text).head?, isJoined c = false := by
    intro run text all nonempty
    obtain ⟨c, rest, rfl⟩ := List.exists_cons_of_ne_nil nonempty
    have blank := all c (by simp)
    refine ⟨c, rfl, ?_⟩
    rw [isJoined, isWord_of_isBlank blank, Bool.false_or, decide_eq_false_iff_not]
    intro isMember
    simp only [List.mem_cons, List.not_mem_nil, or_false] at isMember
    rcases isMember with rfl | rfl | rfl
    · exact absurd blank (by decide)
    · exact absurd blank (by decide)
    · exact absurd blank (by decide)
  refine of_loose ?_ ?_ (loose allBlank nonempty) (loose othersBlank otherNonempty)
  · rw [bracketsBefore_append fun c inRun => noBracket c (allBlank c inRun),
      bracketsBefore_append fun c inOther => noBracket c (othersBlank c inOther), alike.brackets]
  · rw [skip allBlank, skip othersBlank]
    exact alike.last

theorem of_edited {swap : Swap} {text : List Char} (alike : AlikeCalls given written)
    (place : ∀ {before piece after new given written : List Char}, swap before piece after new →
      AlikeCalls given written → AlikeCalls (piece.reverse ++ given) (new.reverse ++ written))
    (edited : Edited swap [] text out) :
    AlikeCalls (text.reverse ++ given) (out.reverse ++ written) := by
  have whole := @Edited.related _ _ _ _
    (fun before out => AlikeCalls (before ++ given) (out ++ written)) (fun same => same.keep _)
    (fun same swapped => by simpa only [List.append_assoc] using place swapped same) edited [] alike
  simpa only [List.append_nil] using whole

end AlikeCalls

/-! ## Edits that drop no unit -/

theorem not_apart_of_within (within : wordBegins before = false) : ¬ Apart before := by
  intro apart
  cases before with
  | nil => simp [wordBegins] at within
  | cons c before =>
      have free := apart c rfl
      rw [isJoined, Bool.or_eq_false_iff, decide_eq_false_iff_not] at free
      obtain rfl : c = '#' := by simpa [wordBegins, free.1] using within
      exact free.2 (by decide)

theorem joined_hash {word : List Char} (isText : ∀ c ∈ word, isWord c = true) :
    Joined before ('#' :: word) := by
  intro done rest split
  cases done with
  | nil => simp at split
  | cons d done =>
      obtain ⟨rfl, rfl⟩ := List.cons.inj split
      rcases List.eq_nil_or_concat' done with rfl | ⟨done, c, rfl⟩
      · simp [wordBegins]
      · have word := isText c (by simp)
        simp [wordBegins, word]

/-- Swaps that have nothing to do with zeros that begin a word, and neither open or close
brackets nor touch the names of functions. -/
structure CallEdit (swap : Swap) : Prop extends ValueEdit swap where
  joined {before piece after new : List Char} : swap before piece after new →
    ∀ given, Joined given piece ∧ Joined given new
  alike {before piece after new given written : List Char} : swap before piece after new →
    AlikeCalls given written → AlikeCalls (piece.reverse ++ given) (new.reverse ++ written)

/-- Colours have three digits at least. -/
theorem HexRule.callEdit {rule : HexRule} (three : ∀ word, rule.shape word →
    3 ≤ word.length ∧ 3 ≤ (rule.write word).length) : CallEdit rule.swap where
  toValueEdit := rule.valueEdit
  joined := by
    rintro _ _ _ _ ⟨word, rfl, rfl, shape, _⟩ given
    exact ⟨joined_hash fun c inWord => isWord_of_isHexDigit ((rule.digits shape).2 c inWord),
      joined_hash fun c inWord => isWord_of_isHexDigit ((rule.write_digits shape).2 c inWord)⟩
  alike := by
    rintro _ _ _ _ given written ⟨word, rfl, rfl, shape, _⟩ alike
    have ends : ∀ {word text : List Char}, 3 ≤ word.length → (∀ c ∈ word, isHexDigit c = true) →
        bracketsBefore (('#' :: word).reverse ++ text) = bracketsBefore text ∧
          (∃ c ∈ (('#' :: word).reverse ++ text).head?, isWord c = true) ∧
          Nameless ((('#' :: word).reverse ++ text).takeWhile isWord) := by
      intro word text least digits
      have isText : ∀ c ∈ word.reverse, isWord c = true :=
        fun c inWord => isWord_of_isHexDigit (digits c (List.mem_reverse.mp inWord))
      have whole : ('#' :: word).reverse ++ text = word.reverse ++ '#' :: text := by simp
      have noHash : ∀ c ∈ ('#' :: text).head?, isWord c = false := by
        rintro c ⟨⟩
        decide
      refine ⟨bracketsBefore_append fun c isMember => ?_, ?_, ?_⟩
      · rcases List.mem_cons.mp (List.mem_reverse.mp isMember) with rfl | inWord
        · decide
        · exact not_bracket_of_isWord (isText c (List.mem_reverse.mpr inWord))
      · obtain ⟨c, rest, split⟩ := List.exists_cons_of_ne_nil
          (List.reverse_ne_nil_iff.mpr (List.ne_nil_of_length_pos (by omega : 0 < word.length)))
        rw [whole, split]
        exact ⟨c, rfl, isText c (by simp [split])⟩
      · rw [whole, takeWhile_run isText noHash]
        exact nameless_of_digits least digits
    obtain ⟨least, leastWritten⟩ := three word shape
    obtain ⟨brackets, isText, nameless⟩ := @ends word given least (rule.digits shape).2
    obtain ⟨bracketsWritten, isTextWritten, namelessWritten⟩ :=
      @ends _ written leastWritten (rule.write_digits shape).2
    exact .of_nameless (by rw [brackets, bracketsWritten, alike.brackets]) isText isTextWritten
      nameless namelessWritten

theorem colonSwap_callEdit : CallEdit colonSwap where
  toValueEdit := colonSwap_valueEdit
  joined := by
    rintro _ _ _ _ ⟨rfl, rfl, _⟩ given
    exact ⟨joined_of_not_mem (by decide), joined_of_not_mem (by decide)⟩
  alike := by
    rintro _ _ _ _ given written ⟨rfl, rfl, _⟩ alike
    have colon : bracketsBefore (':' :: written) = bracketsBefore (':' :: given) :=
      (alike.keep ':').brackets
    refine .of_loose ?_ (.inl ?_) ⟨':', rfl, by decide⟩ ⟨' ', rfl, by decide⟩
    · exact (bracketsBefore_cons ' ' _).trans colon
    · rfl

namespace CallEdit

variable {swap : Swap}

theorem zerosInCalls_of_edited (edit : CallEdit swap) (edited : Edited swap before after out)
    (alike : AlikeCalls given written) : zerosInCalls written out = zerosInCalls given after := by
  induction edited generalizing given written with
  | done => rfl
  | @keep before after out c _ rest hyp =>
      rw [zerosInCalls, zerosInCalls, alike.begins, alike.inside, hyp (alike.keep c)]
      split
      case isTrue zero =>
        rw [edit.takeWhile_isWord_of_edited rest ⟨c, rfl, .inl (by rw [zero.1]; decide)⟩]
      case isFalse => rfl
  | swap swapped _ hyp =>
      rw [zerosInCalls_skip (edit.joined swapped given).1,
        zerosInCalls_skip (edit.joined swapped written).2, hyp (edit.alike swapped alike)]

end CallEdit

/-! ## Units that are dropped -/

/-- A unit is dropped at a place although the place lies in a call by all the text before it, of
which the line is the last part. -/
def LosesAt (earlier before after : List Char) : Prop :=
  zeroSwap.Applies before after ∧ insideMathCall (before ++ earlier).reverse = true

theorem free_losesAt_skip {earlier : List Char} (joined : Joined before first) :
    Free (LosesAt earlier) before (first ++ second) ↔
      Free (LosesAt earlier) (first.reverse ++ before) second := by
  rw [Free.append_iff, and_iff_right_iff_imp]
  rintro _ done rest rfl nonempty ⟨applies, _⟩
  obtain ⟨c, rest, rfl⟩ := List.exists_cons_of_ne_nil nonempty
  obtain ⟨_, isFirst, _, apart, _⟩ := zeroSwap_applies_iff.mp applies
  obtain ⟨rfl, _⟩ := List.cons.inj isFirst
  exact not_apart_of_within (joined done rest rfl) apart

theorem CallEdit.free_losesAt_iff {swap : Swap} (edit : CallEdit swap)
    {earlier earlierWritten : List Char} (edited : Edited swap before after out)
    (own : AlikeCalls before written)
    (alike : AlikeCalls (before ++ earlier) (written ++ earlierWritten)) :
    Free (LosesAt earlierWritten) written out ↔ Free (LosesAt earlier) before after := by
  induction edited generalizing written with
  | done => rfl
  | @keep before after out c _ rest hyp =>
      have here : LosesAt earlierWritten written (c :: out) ↔ LosesAt earlier before (c :: after) := by
        rw [LosesAt, LosesAt, alike.inside, zeroSwap_applies_iff, zeroSwap_applies_iff, own.apart,
          own.brackets]
        by_cases zero : c = '0'
        · have sameWord := edit.takeWhile_isWord_of_edited rest
            ⟨c, rfl, .inl (by rw [zero]; decide)⟩
          simp only [List.cons.injEq, zero, true_and, exists_eq_left', FirstWord, sameWord]
        · simp [zero]
      rw [Free, Free, here, hyp (own.keep c) (alike.keep c)]
  | swap swapped _ hyp =>
      rw [free_losesAt_skip (edit.joined swapped _).1, free_losesAt_skip (edit.joined swapped _).2]
      refine hyp (edit.alike swapped own) ?_
      rw [List.append_assoc, List.append_assoc]
      exact edit.alike swapped alike

theorem zeroSwap_alike {piece new : List Char} (swapped : zeroSwap before piece after new)
    (alike : AlikeCalls given written) :
    AlikeCalls (piece.reverse ++ given) (new.reverse ++ written) := by
  have isText := zeroSwap_isWord swapped
  obtain ⟨unit, isUnit, rfl, rfl, _⟩ := swapped
  have ends : ∀ {text rest : List Char}, (∀ c ∈ '0' :: text, isWord c = true) →
      bracketsBefore (('0' :: text).reverse ++ rest) = bracketsBefore rest ∧
        (∃ c ∈ (('0' :: text).reverse ++ rest).head?, isWord c = true) ∧
        Nameless ((('0' :: text).reverse ++ rest).takeWhile isWord) := by
    intro text rest all
    have turned : ∀ c ∈ ('0' :: text).reverse, isWord c = true :=
      fun c isMember => all c (List.mem_reverse.mp isMember)
    obtain ⟨c, more, split⟩ := List.exists_cons_of_ne_nil (by simp : ('0' :: text).reverse ≠ [])
    refine ⟨bracketsBefore_word turned, ?_, ?_⟩
    · rw [split]
      exact ⟨c, rfl, turned c (by simp [split])⟩
    · rw [List.takeWhile_append_of_pos turned]
      exact nameless_of_zero (by simp)
  obtain ⟨brackets, isEnd, nameless⟩ :=
    @ends unit.toList given fun c inPiece => isText c (.inl inPiece)
  obtain ⟨bracketsWritten, isEndWritten, namelessWritten⟩ :=
    @ends [] written fun c inNew => isText c (.inr inNew)
  exact .of_nameless (bracketsWritten.trans (alike.brackets.trans brackets.symm)) isEnd isEndWritten
    nameless namelessWritten

theorem wordBegins_of_apart {earlier : List Char} (apart : Apart before)
    (begins : wordBegins earlier = true) : wordBegins (before ++ earlier) = true := by
  cases before with
  | nil => exact begins
  | cons c before =>
      cases within : wordBegins (c :: before) with
      | true => exact within
      | false => exact absurd apart (not_apart_of_within within)

/-- Dropping units keeps the number of zeros in calls, and what follows them exactly if no unit is
dropped in a call by all the text before. -/
theorem zerosInCalls_zeroSwap {earlier : List Char} (begins : wordBegins earlier = true)
    (edited : Edited zeroSwap before after out) (alike : AlikeCalls (before ++ earlier) written) :
    (zerosInCalls written out).length = (zerosInCalls (before ++ earlier) after).length ∧
      (zerosInCalls written out = zerosInCalls (before ++ earlier) after ↔
        Free (LosesAt earlier) before after) := by
  induction edited generalizing written with
  | done => simp [zerosInCalls, Free]
  | @keep before after out c fixed rest hyp =>
      obtain ⟨lengths, same⟩ := hyp (alike.keep c)
      have sameWord : c = '0' → out.takeWhile isWord = after.takeWhile isWord := by
        rintro rfl
        exact zeroSwap_valueEdit.takeWhile_isWord_of_edited rest ⟨'0', rfl, .inl (by decide)⟩
      rw [List.cons_append] at lengths same
      rw [Free, and_iff_right fun loses => fixed loses.1, ← same, zerosInCalls, zerosInCalls,
        alike.begins, alike.inside]
      split
      case isTrue zero =>
        rw [sameWord zero.1, List.cons.injEq, and_iff_right rfl]
        exact ⟨congrArg (· + 1) lengths, .rfl⟩
      case isFalse => exact ⟨lengths, .rfl⟩
  | @swap before _ after _ out swapped rest hyp =>
      have applies : zeroSwap.Applies before (_ ++ after) := ⟨_, _, _, rfl, swapped⟩
      have alikeLater := zeroSwap_alike swapped alike
      obtain ⟨unit, isUnit, rfl, rfl, apart, stop, _⟩ := swapped
      have noZero : '0' ∉ unit.toList := fun isMember => ((units_plain isUnit).2 _ isMember).2 rfl
      have isText : ∀ c ∈ unit.toList, isWord c = true :=
        fun c inUnit => ((units_plain isUnit).2 c inUnit).1
      have unitWord : (unit.toList ++ after).takeWhile isWord = unit.toList := takeWhile_run isText stop
      have noWord : out.takeWhile isWord = [] :=
        @takeWhile_run _ [] _ (by simp) ((zeroSwap_valueEdit.noWordNext_iff_of_edited rest).mpr stop)
      simp only [List.reverse_cons, List.append_assoc, List.reverse_nil, List.nil_append,
        List.cons_append] at alikeLater hyp applies ⊢
      obtain ⟨lengths, same⟩ := hyp alikeLater
      have skip : zerosInCalls ('0' :: (before ++ earlier)) (unit.toList ++ after) =
          zerosInCalls (unit.toList.reverse ++ '0' :: (before ++ earlier)) after :=
        zerosInCalls_skip (joined_of_not_mem noZero)
      have free : Free (LosesAt earlier) ('0' :: before) (unit.toList ++ after) ↔
          Free (LosesAt earlier) (unit.toList.reverse ++ '0' :: before) after :=
        free_losesAt_skip (joined_of_not_mem noZero)
      rw [Free, LosesAt, and_iff_right applies, free, ← same, zerosInCalls, zerosInCalls,
        alike.begins, wordBegins_of_apart apart begins, alike.inside, skip, unitWord, noWord]
      cases inside : insideMathCall (before ++ earlier).reverse with
      | true =>
          have changed : unit.toList ≠ [] := (units_plain isUnit).1
          simp [lengths, changed.symm]
      | false => simp [lengths]

/-! ## Lines -/

/-- A change of a line, and of the text before it, that keeps zeros in calls, and which of them
would lose their unit. -/
structure KeepsCalls (earlier written text out : List Char) : Prop where
  alike : AlikeCalls (text.reverse ++ earlier) (out.reverse ++ written)
  zeros : zerosInCalls written out = zerosInCalls earlier text
  free : Free (LosesAt written) [] out ↔ Free (LosesAt earlier) [] text

variable {earlier text : List Char}

namespace KeepsCalls

theorem of_edited {swap : Swap} (edit : CallEdit swap) (edited : Edited swap [] text out)
    (alike : AlikeCalls earlier written) : KeepsCalls earlier written text out where
  alike := alike.of_edited edit.alike edited
  zeros := edit.zerosInCalls_of_edited edited alike
  free := edit.free_losesAt_iff edited .refl alike

theorem trans {middle : List Char} (first : KeepsCalls earlier written text middle)
    (second : KeepsCalls written written middle out) : KeepsCalls earlier written text out :=
  ⟨first.alike.trans second.alike, second.zeros.trans first.zeros, second.free.trans first.free⟩

/-- The text before a line may have been changed. -/
theorem of_alike (alike : AlikeCalls earlier written) : KeepsCalls earlier written text text := by
  let noSwap : Swap := fun _ _ _ _ => False
  have isEdit : CallEdit noSwap :=
    ⟨⟨False.elim, False.elim, fun _ => False.elim⟩, False.elim, False.elim⟩
  have edited : ∀ {text before : List Char}, Edited noSwap before text text := by
    intro text
    induction text with
    | nil => exact .done
    | cons c text hyp => exact .keep (by rintro ⟨_, _, _, _, found⟩; exact found) hyp
  exact .of_edited isEdit edited alike

end KeepsCalls

/-- A zero has a unit to lose and stands in no call that is opened in its line, but in one by the
text before the line. -/
def LosesUnit (earlier text : List Char) : Prop :=
  ∃ done rest, text = done ++ '0' :: rest ∧ (∃ unit ∈ units, FirstWord unit.toList rest) ∧
    Apart done.reverse ∧ insideMathCall done = false ∧ insideMathCall (earlier ++ done) = true

theorem free_losesAt_iff_not_losesUnit :
    Free (LosesAt earlier) [] text ↔ ¬ LosesUnit earlier.reverse text := by
  have whole : ∀ done : List Char, (done.reverse ++ [] ++ earlier).reverse = earlier.reverse ++ done := by
    simp
  have own : ∀ done : List Char, (bracketsBefore (done.reverse ++ [])).any id = insideMathCall done := by
    intro done
    rw [← insideMathCall_reverse, List.append_nil, List.reverse_reverse]
  constructor
  · rintro free ⟨done, rest, rfl, isUnit, apart, outside, inside⟩
    refine free.not_shape (by simp) ⟨zeroSwap_applies_iff.mpr ⟨rest, rfl, isUnit, ?_, ?_⟩, ?_⟩
    · rwa [List.append_nil]
    · rw [own, outside]
    · rw [whole, inside]
  · intro kept
    refine Free.of_forall ?_
    rintro done _ rfl _ ⟨applies, inside⟩
    obtain ⟨rest, rfl, isUnit, apart, outside⟩ := zeroSwap_applies_iff.mp applies
    rw [List.append_nil] at apart
    rw [own] at outside
    rw [whole] at inside
    exact kept ⟨done, rest, rfl, isUnit, apart, outside, inside⟩

/-- The rules for style sheets keep the number of zeros in calls, and what follows them exactly if
none of them loses its unit. -/
theorem zerosInCalls_fix (oneLine : OneLine text) (alike : AlikeCalls earlier written)
    (begins : wordBegins earlier = true) :
    let out := Steps.fix styleSteps text
    AlikeCalls (text.reverse ++ earlier) (out.reverse ++ written) ∧
      (zerosInCalls written out).length = (zerosInCalls earlier text).length ∧
      (zerosInCalls written out = zerosInCalls earlier text ↔ ¬ LosesUnit earlier.reverse text) := by
  intro out
  obtain ⟨_, _, _, upper, short, colon, zero⟩ := exists_edited_styleSteps oneLine
  have upperEdit : CallEdit upperRule.swap :=
    HexRule.callEdit fun word shape => ⟨shape.1.1, by simpa [upperRule] using shape.1.1⟩
  have shortEdit : CallEdit shortRule.swap :=
    HexRule.callEdit fun word shape => by simp [shortRule_length_write shape]
  have kept := ((KeepsCalls.of_edited upperEdit upper alike).trans
    (.of_edited shortEdit short .refl)).trans (.of_edited colonSwap_callEdit colon .refl)
  obtain ⟨lengths, same⟩ := zerosInCalls_zeroSwap (alike.begins.trans begins) zero .refl
  have zeroAlike := (@AlikeCalls.refl written).of_edited zeroSwap_alike zero
  rw [List.nil_append, kept.zeros] at lengths same
  exact ⟨kept.alike.trans zeroAlike, lengths,
    same.trans (kept.free.trans free_losesAt_iff_not_losesUnit)⟩

/-- Blanks at the end of a line have no zeros. -/
theorem zerosInCalls_trimEnd : zerosInCalls earlier (trimEnd text) = zerosInCalls earlier text := by
  obtain ⟨gaps, split, allGaps⟩ := @exists_gaps_trimEnd text
  have stop : NoWordNext gaps := fun c isHead =>
    isWord_of_isBlank (isBlank_of_isGap (allGaps c (List.mem_of_mem_head? isHead)))
  have noZero : '0' ∉ gaps := fun isMember => absurd (allGaps _ isMember) (by decide)
  have empty : zerosInCalls ((trimEnd text).reverse ++ earlier) (gaps ++ []) = [] :=
    zerosInCalls_skip (joined_of_not_mem noZero)
  have zeros := congrArg (zerosInCalls earlier) split
  rw [zerosInCalls_append stop, ← List.append_nil gaps, empty, List.append_nil] at zeros
  exact zeros.symm

variable {customIgnore : Option Pattern}

/-- After the end of a line, what was written for the text opens the same calls. -/
theorem alike_settledLine (oneLine : OneLine text) (alike : AlikeCalls earlier written)
    (begins : wordBegins earlier = true) {ending : List Char} (isEnding : ending ∈ lineEndings) :
    AlikeCalls ((text ++ ending).reverse ++ earlier)
      ((settledLine styleTable styleSteps customIgnore text ++ ending).reverse ++ written) := by
  have allBlank : ∀ c ∈ ending.reverse, isBlank c = true :=
    fun c isMember => isBlank_of_mem_ending isEnding c (List.mem_reverse.mp isMember)
  have nonempty : ending.reverse ≠ [] := by
    simpa using ne_nil_of_mem_lineEndings isEnding
  have ended : ∀ {gaps core out : List Char}, (∀ c ∈ gaps, isGap c = true) →
      AlikeCalls (core.reverse ++ earlier) (out.reverse ++ written) →
      AlikeCalls ((core ++ gaps ++ ending).reverse ++ earlier) ((out ++ ending).reverse ++ written) := by
    intro gaps core out allGaps alike
    have bothBlank : ∀ c ∈ ending.reverse ++ gaps.reverse, isBlank c = true := by
      intro c isMember
      rcases List.mem_append.mp isMember with inEnding | inGaps
      · exact allBlank c inEnding
      · exact isBlank_of_isGap (allGaps c (List.mem_reverse.mp inGaps))
    simpa using alike.blanks bothBlank allBlank (by simp [nonempty]) nonempty
  obtain ⟨gaps, split, allGaps⟩ := @exists_gaps_trimEnd text
  by_cases worked : WorkedOn customIgnore text
  · have fixed := ended allGaps (zerosInCalls_fix (oneLine_trimEnd oneLine) alike begins).1
    rwa [← split, ← settledLine_of_workedOn worked] at fixed
  · rcases settledLine_of_not_workedOn worked with same | trimmed
    · rw [same]
      simpa using @ended [] text text (by simp) (KeepsCalls.of_alike alike).alike
    · have kept := @ended gaps (trimEnd text) (trimEnd text) allGaps
        (KeepsCalls.of_alike alike).alike
      rwa [← split, ← trimmed] at kept

theorem zerosInCalls_settledLine (oneLine : OneLine text) (alike : AlikeCalls earlier written)
    (begins : wordBegins earlier = true) :
    let out := settledLine styleTable styleSteps customIgnore text
    (zerosInCalls written out).length = (zerosInCalls earlier text).length ∧
      (zerosInCalls written out = zerosInCalls earlier text ↔
        (WorkedOn customIgnore text → ¬ LosesUnit earlier.reverse (trimEnd text))) := by
  intro out
  by_cases worked : WorkedOn customIgnore text
  · have kept := (zerosInCalls_fix (oneLine_trimEnd oneLine) alike begins).2
    rw [zerosInCalls_trimEnd, ← settledLine_of_workedOn worked] at kept
    simpa [worked] using kept
  · have same : zerosInCalls written out = zerosInCalls earlier text := by
      rcases settledLine_of_not_workedOn worked with same | trimmed
      · exact (congrArg _ same).trans (KeepsCalls.of_alike alike).zeros
      · exact (congrArg _ trimmed).trans
          (zerosInCalls_trimEnd.trans (KeepsCalls.of_alike alike).zeros)
    simp [same, worked]

/-! ## Style sheets -/

theorem zerosInCalls_chars {content ending rest : List Char} (isEnding : ending ∈ lineEndings) :
    zerosInCalls earlier (Line.chars ⟨content, ending⟩ ++ rest) =
      zerosInCalls earlier content ++ zerosInCalls ((content ++ ending).reverse ++ earlier) rest := by
  have blank := isBlank_of_mem_ending isEnding
  have noZero : '0' ∉ ending := fun isMember => absurd (blank _ isMember) (by decide)
  have stop : NoWordNext (ending ++ rest) := by
    obtain ⟨c, more, rfl⟩ := List.exists_cons_of_ne_nil (ne_nil_of_mem_lineEndings isEnding)
    simpa [NoWordNext] using isWord_of_isBlank (blank c List.mem_cons_self)
  rw [Line.chars, List.append_assoc, zerosInCalls_append stop,
    zerosInCalls_skip (joined_of_not_mem noZero), List.reverse_append, List.append_assoc]

theorem wordBegins_chars {content ending : List Char} (isEnding : ending ∈ lineEndings) :
    wordBegins ((content ++ ending).reverse ++ earlier) = true := by
  have plain : ∀ ending ∈ lineEndings, wordBegins ending.reverse = true ∧ ending.reverse ≠ [] := by
    decide
  obtain ⟨begins, nonempty⟩ := plain ending isEnding
  obtain ⟨c, more, split⟩ := List.exists_cons_of_ne_nil nonempty
  rw [split] at begins
  rw [List.reverse_append, split]
  exact begins

/-- A style sheet keeps the number of zeros in calls, and what follows them exactly if none of them
loses its unit in a line that is worked on. -/
theorem zerosInCalls_settled {lines : List Line} (cut : IsCut lines)
    (alike : AlikeCalls earlier written) (begins : wordBegins earlier = true) :
    let out := (lines.map (settled styleTable styleSteps customIgnore)).flatMap Line.chars
    let given := lines.flatMap Line.chars
    (zerosInCalls written out).length = (zerosInCalls earlier given).length ∧
      (zerosInCalls written out = zerosInCalls earlier given ↔
        ∀ first line later, lines = first ++ line :: later → WorkedOn customIgnore line.content →
          ¬ LosesUnit (earlier.reverse ++ first.flatMap Line.chars) (trimEnd line.content)) := by
  intro out given
  induction cut generalizing earlier written with
  | nil => simp [out, given, zerosInCalls]
  | @last content oneLine =>
      have isOut : out = settledLine styleTable styleSteps customIgnore content ++ [] :=
        List.append_assoc _ [] []
      have isGiven : given = content ++ [] := List.append_assoc _ [] []
      rw [isOut, isGiven, List.append_nil, List.append_nil]
      obtain ⟨lengths, here⟩ := @zerosInCalls_settledLine written earlier content customIgnore oneLine
        alike begins
      refine ⟨lengths, here.trans ⟨?_, ?_⟩⟩
      · intro kept first line later split
        obtain ⟨rfl, rfl, rfl⟩ : first = [] ∧ line = ⟨content, []⟩ ∧ later = [] := by
          simpa [List.singleton_eq_append_iff] using split
        simpa using kept
      · intro each
        simpa using each [] _ [] rfl
  | @cons content ending lines oneLine isEnding _ hyp =>
      let outs := (lines.map (settled styleTable styleSteps customIgnore)).flatMap Line.chars
      have isOut : out = Line.chars ⟨settledLine styleTable styleSteps customIgnore content, ending⟩ ++
        outs := rfl
      obtain ⟨hereLengths, here⟩ := @zerosInCalls_settledLine written earlier content customIgnore
        oneLine alike begins
      obtain ⟨lengths, kept⟩ := hyp
        (@alike_settledLine _ _ _ customIgnore oneLine alike begins ending isEnding)
        (wordBegins_chars isEnding)
      rw [isOut, show given = _ from List.flatMap_cons, zerosInCalls_chars isEnding,
        zerosInCalls_chars isEnding]
      refine ⟨by simp only [List.length_append, hereLengths, lengths, outs], ?_⟩
      rw [List.append_eq_append_iff_of_size_eq_left hereLengths, here, kept]
      constructor
      · rintro ⟨kept, others⟩ first line later split
        cases first with
        | nil =>
            obtain ⟨rfl, rfl⟩ := List.cons.inj split
            simpa using kept
        | cons other first =>
            obtain ⟨rfl, rfl⟩ := List.cons.inj split
            simpa [Line.chars] using others first line later rfl
      · intro each
        refine ⟨by simpa using each [] _ lines rfl, fun first line later split => ?_⟩
        simpa [Line.chars] using each (⟨content, ending⟩ :: first) line later (by rw [split]; rfl)

/-- Formatting a style sheet keeps what follows the zeros in calls, their units, exactly if no line
that is worked on has a zero with a unit in a call by all the text before it, but in none that is
opened in the line. -/
theorem format_style_keeps_zeros_iff (customIgnore : Option Pattern) (linter : Option Linter)
    (path : Path) (text : String) :
    let formatter : Formatter := { language := .css, store, customIgnore, linter }
    ∃ result : Formatted, (formatter.format path text).outcome = .ok result ∧
      (zerosInCalls [] result.updated.toList = zerosInCalls [] text.toList ↔
        ∀ earlier line later, linesOf text.toList = earlier ++ line :: later →
          WorkedOn customIgnore line.content →
          ¬ LosesUnit (earlier.flatMap Line.chars) (trimEnd line.content)) := by
  intro formatter
  have cut := isCut_linesOf text.toList
  have formatted := @format_alike _ formatter path (fun _ => rfl) (fun _ => rfl)
    ⟨whitespaceTable_provided, styleTable_provided⟩ text
  simp only [runLines_fst styleTable_settlesLine fun _ => cut.oneLine] at formatted
  have kept := (@zerosInCalls_settled [] [] customIgnore _ cut .refl rfl).2
  rw [flatMap_chars_linesOf] at kept
  exact ⟨_, formatted, by simpa using kept⟩

/-- The unit of a zero is dropped in a call that goes on over two lines. -/
theorem format_drops_unit :
    let formatter : Formatter := { language := .css, store }
    let path : Path := ⟨.relative, ["a.css"]⟩
    let text := "a \x7b\n  width: calc(1em +\n    0px);\n\x7d\n"
    let updated := "a \x7b\n  width: calc(1em +\n    0);\n\x7d\n"
    ((formatter.format path text).outcome.map fun result =>
        (result.updated, result.violations.map fun violation => (violation.ruleId, violation.line?))) =
        .ok (updated, [("css.zero_units", some 3)]) ∧
      zerosInCalls [] text.toList = ["px".toList] ∧ zerosInCalls [] updated.toList = [[]] := by
  decide +kernel

end LineRules.Builtin
