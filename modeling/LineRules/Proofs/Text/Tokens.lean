import LineRules.Proofs.Text.Gaps
import LineRules.Proofs.Text.Lines

/-!
# Texts with the same tokens

Two texts have the same tokens if they differ in blanks only and fall into the same words.
The second does not follow from the first: a blank between two word characters parts a
word. `Gap.sameTokens_of_edited` says that gap rules keep the tokens of a text, and
`IsCut.sameTokens` that a text keeps its tokens if its lines do.
-/

namespace LineRules.Text

open LineRules.Pattern

/-- A text without its blanks. -/
def inked (text : List Char) : List Char :=
  text.filter fun c => !isBlank c

/-- Cuts a text into maximal runs of word characters; `run` is the run being read,
reversed. -/
def wordRunsFrom (run : List Char) : List Char → List (List Char)
  | [] => if run.isEmpty then [] else [run.reverse]
  | c :: rest =>
    if isWord c then wordRunsFrom (c :: run) rest
    else if run.isEmpty then wordRunsFrom [] rest
    else run.reverse :: wordRunsFrom [] rest

/-- The maximal runs of word characters of a text, in order. -/
def wordRuns (text : List Char) : List (List Char) :=
  wordRunsFrom [] text

variable {text out rest gaps : List Char} {c : Char}

section WordRuns

theorem wordRunsFrom_cons_of_not_word (stop : isWord c = false) (run : List Char) :
    wordRunsFrom run (c :: rest) = wordRunsFrom run [] ++ wordRuns rest := by
  cases run <;> simp [wordRunsFrom, wordRuns, stop]

/-- A text falls apart at a character that is in no word. -/
theorem wordRunsFrom_append_cons (stop : isWord c = false) (run : List Char) :
    wordRunsFrom run (text ++ c :: rest) = wordRunsFrom run text ++ wordRuns rest := by
  induction text generalizing run with
  | nil => exact wordRunsFrom_cons_of_not_word stop run
  | cons d text hyp =>
      rw [List.cons_append, wordRunsFrom, wordRunsFrom]
      split
      · exact hyp _
      · split <;> simp [hyp]

theorem wordRuns_append_cons (stop : isWord c = false) :
    wordRuns (text ++ c :: rest) = wordRuns text ++ wordRuns rest :=
  wordRunsFrom_append_cons stop []

/-- Blanks begin no run. -/
theorem wordRuns_blanks_append (blank : ∀ c ∈ gaps, isBlank c = true) :
    wordRuns (gaps ++ rest) = wordRuns rest := by
  induction gaps with
  | nil => rfl
  | cons c gaps hyp =>
      have stop : isWord c = false := isWord_of_isBlank (blank c (by simp))
      rw [List.cons_append, wordRuns, wordRunsFrom_cons_of_not_word stop]
      exact hyp fun d inGaps => blank d (by simp [inGaps])

/-- Blanks before a character that is in no word end a run, as the character does. -/
theorem wordRunsFrom_blanks_cons (blank : ∀ c ∈ gaps, isBlank c = true)
    (stop : isWord c = false) (run : List Char) :
    wordRunsFrom run (gaps ++ c :: rest) = wordRunsFrom run [] ++ wordRuns rest := by
  cases gaps with
  | nil => exact wordRunsFrom_cons_of_not_word stop run
  | cons d gaps =>
      rw [List.cons_append, wordRunsFrom_cons_of_not_word (isWord_of_isBlank (blank d (by simp))),
        wordRuns_blanks_append fun e inGaps => blank e (by simp [inGaps]), wordRuns,
        wordRunsFrom_cons_of_not_word stop]
      rfl

end WordRuns

theorem inked_append (text rest : List Char) : inked (text ++ rest) = inked text ++ inked rest :=
  List.filter_append ..

theorem inked_blanks (blank : ∀ c ∈ gaps, isBlank c = true) : inked gaps = [] := by
  simpa [inked, List.filter_eq_nil_iff] using blank

/-- Two texts that differ in blanks only and fall into the same words. -/
structure SameTokens (text out : List Char) : Prop where
  inked : inked out = inked text
  wordRuns : wordRuns out = wordRuns text

namespace SameTokens

theorem refl (text : List Char) : SameTokens text text := ⟨rfl, rfl⟩

theorem trans {middle : List Char} (first : SameTokens text middle)
    (second : SameTokens middle out) : SameTokens text out :=
  ⟨second.inked.trans first.inked, second.wordRuns.trans first.wordRuns⟩

/-- Blanks at the end of a text are no tokens. -/
theorem append_blanks (blank : ∀ c ∈ gaps, isBlank c = true) : SameTokens (text ++ gaps) text := by
  refine ⟨by rw [inked_append, inked_blanks blank, List.append_nil], ?_⟩
  cases gaps with
  | nil => rw [List.append_nil]
  | cons d gaps =>
      have allBlank : ∀ c ∈ gaps, isBlank c = true := fun c inGaps => blank c (by simp [inGaps])
      have none : Text.wordRuns gaps = [] := by
        rw [← List.append_nil gaps, wordRuns_blanks_append allBlank]
        rfl
      rw [wordRuns_append_cons (isWord_of_isBlank (blank d (by simp))), none, List.append_nil]

/-- Texts that are put together around a blank have the same tokens if their parts have. -/
theorem append_cons {later lateOut : List Char} (blank : isBlank c = true)
    (first : SameTokens text out) (second : SameTokens later lateOut) :
    SameTokens (text ++ c :: later) (out ++ c :: lateOut) := by
  have stop : isWord c = false := isWord_of_isBlank blank
  constructor
  · simpa [Text.inked, blank] using congrArg₂ (· ++ ·) first.inked second.inked
  · rw [wordRuns_append_cons stop, wordRuns_append_cons stop, first.wordRuns, second.wordRuns]

end SameTokens

/-- A text keeps its tokens if its lines do, since line endings are blank. -/
theorem IsCut.sameTokens {lines : List Line} (cut : IsCut lines) {change : Line → Line}
    (ending : ∀ line, (change line).ending = line.ending)
    (content : ∀ line ∈ lines, SameTokens line.content (change line).content) :
    SameTokens (lines.flatMap Line.chars) ((lines.map change).flatMap Line.chars) := by
  induction cut with
  | nil => exact .refl []
  | @last text _ =>
      simpa [Line.chars, ending] using content ⟨text, []⟩ (by simp)
  | @cons text lineEnding lines _ isEnding _ hyp =>
      have here : SameTokens text (change ⟨text, lineEnding⟩).content :=
        content ⟨text, lineEnding⟩ (by simp)
      have rest := hyp fun line isLine => content line (by simp [isLine])
      simp only [List.flatMap_cons, List.map_cons, Line.chars, ending, List.append_assoc]
      simp only [lineEndings, List.mem_cons, List.not_mem_nil, or_false] at isEnding
      rcases isEnding with rfl | rfl | rfl
      · exact here.append_cons (by decide) rest
      · exact here.append_cons (by decide) rest
      · have feed := (SameTokens.refl []).append_cons (by decide : isBlank '\n' = true) rest
        exact here.append_cons (by decide) feed

namespace Gap

variable {gap : Gap} {before after : List Char}

theorem inked_of_edited (edited : Edited gap.swap before after out) : inked out = inked after := by
  have cut : ∀ {fill rest : List Char} {c : Char}, (∀ d ∈ fill, isBlank d = true) →
      inked (fill ++ [c] ++ rest) = inked [c] ++ inked rest := by
    intro fill rest c blank
    rw [inked_append, inked_append, inked_blanks blank, List.nil_append]
  induction edited with
  | done => rfl
  | @keep before after out c _ _ hyp =>
      have split : ∀ rest, inked (c :: rest) = inked [c] ++ inked rest := fun rest =>
        inked_append [c] rest
      rw [split out, split after, hyp]
  | swap swapped _ hyp =>
      obtain ⟨blanks, c, rfl, rfl, _, loose, _⟩ := swapped
      rw [cut gap.fill_blank, cut (gap.loose_blank loose), hyp]

/-- The words of a text are read alike on both sides of an edit, whatever part of a word
stands before the place. -/
theorem wordRunsFrom_of_edited (edited : Edited gap.swap before after out) :
    wordRunsFrom (before.takeWhile isWord) out = wordRunsFrom (before.takeWhile isWord) after := by
  induction edited with
  | done => rfl
  | @keep before after out c _ _ hyp =>
      by_cases word : isWord c = true
      · simpa [wordRunsFrom, word] using hyp
      · have stop : isWord c = false := by simpa using word
        have same : wordRuns out = wordRuns after := by simpa [wordRuns, stop] using hyp
        rw [wordRunsFrom_cons_of_not_word stop, wordRunsFrom_cons_of_not_word stop, same]
  | @swap before piece after new out swapped _ hyp =>
      obtain ⟨blanks, c, rfl, rfl, left, loose, right⟩ := swapped
      have blank := gap.loose_blank loose
      rw [List.append_assoc, List.append_assoc, List.singleton_append, List.singleton_append]
      by_cases word : isWord c = true
      · -- A word begins after the gap, so none goes on before it.
        have stop : NoWordNext before := gap.apart left right word
        have noRun : before.takeWhile isWord = [] := by
          simpa using @takeWhile_run isWord [] _ (by simp) stop
        have noWord : (blanks.reverse ++ before).takeWhile isWord = [] := by
          refine @takeWhile_run isWord [] _ (by simp) ?_
          rintro d isHead
          rcases List.eq_nil_or_concat blanks with rfl | ⟨others, e, rfl⟩
          · exact stop d isHead
          · obtain rfl : e = d := by simpa using isHead
            exact isWord_of_isBlank (blank e (by simp))
        have same : wordRunsFrom [c] out = wordRunsFrom [c] after := by
          simpa [word, noWord] using hyp
        have begins : ∀ {fill rest : List Char}, (∀ d ∈ fill, isBlank d = true) →
            wordRunsFrom [] (fill ++ c :: rest) = wordRunsFrom [c] rest := by
          intro fill rest allBlank
          have skipped : wordRuns (fill ++ c :: rest) = wordRuns (c :: rest) :=
            wordRuns_blanks_append allBlank
          simpa [wordRuns, wordRunsFrom, word] using skipped
        rw [noRun, begins gap.fill_blank, begins blank, same]
      · have stop : isWord c = false := by simpa using word
        have same : wordRuns out = wordRuns after := by simpa [wordRuns, stop] using hyp
        rw [wordRunsFrom_blanks_cons gap.fill_blank stop, wordRunsFrom_blanks_cons blank stop, same]

/-- Gap rules keep the tokens of a text. -/
theorem sameTokens_of_edited (edited : Edited gap.swap [] text out) : SameTokens text out :=
  ⟨inked_of_edited edited, wordRunsFrom_of_edited edited⟩

end Gap

end LineRules.Text
