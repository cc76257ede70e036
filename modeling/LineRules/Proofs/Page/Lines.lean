import LineRules.Proofs.Builtin.Telling
import LineRules.Proofs.Page.ClassNames
import LineRules.Proofs.Page.VoidTags

/-!
# Lines of pages

The rules for pages do not settle every line in one run, but they tell their changes:
neither of them makes a line longer, and a line that is as long as before was not touched
(`pageTable_tells`). Which lines one run is enough for, `settledLine_page_again_iff` says.
-/

namespace LineRules.Builtin

open LineRules.Text LineRules.Pattern

variable {text : List Char}

/-- The rule for tags of void elements that close themselves. -/
def voidTagRule : Rule where
  regex := some selfClosedVoid
  message := .template "Line \x7b0\x7d: Void elements should not be self-closed"
  replacer := some (.template "<\\1\\2>")

/-- The rules for pages as steps. -/
def pageSteps : Steps :=
  [("sorted_class_names", classNamesStep), ("self_closing_void_tag", voidTagRule.patternStep)]

/-- The rule-set of pages. -/
def pageTable : LineTable where
  name := "html"
  ignore := some templateDirective
  steps := pageSteps

theorem pageTable_provided : store.Provides pageTable := by
  refine ⟨pageRules, rfl, ?_, rfl⟩
  refine .other (by simp) (.rule (by decide) classNamesRule_does
    (.rule (by decide) (@Rule.FromPattern.does voidTagRule selfClosedVoid ?_)
    (.other (by simp) (.other (by simp) .nil))))
  exact ⟨rfl, rfl, rfl, ⟨_, rfl, by decide⟩, .inr ⟨_, _, rfl, rfl⟩, rfl⟩

theorem fix_pageSteps (text : List Char) :
    Steps.fix pageSteps text = dropSlashes (sortClasses text) := rfl

theorem length_fix_pageSteps_le : (Steps.fix pageSteps text).length ≤ text.length :=
  Nat.le_trans dropSlashes_sublist.length_le length_sortClasses_le

theorem pageSteps_quiet (same : Steps.fix pageSteps text = text) :
    ∀ step ∈ pageSteps, step.2.fires text = false := by
  rw [fix_pageSteps] at same
  have kept : dropSlashes (sortClasses text) = sortClasses text := by
    refine dropSlashes_sublist.eq_of_length_le ?_
    rw [same]
    exact length_sortClasses_le
  have noTag := dropSlashes_eq_self_iff.mp kept
  have sorted : sortClasses text = text := kept.symm.trans same
  rw [sorted] at noTag
  simp only [pageSteps, List.mem_cons, List.not_mem_nil, or_false, forall_eq_or_imp, forall_eq]
  exact ⟨sortClasses_eq_self_iff.mp sorted, noTag⟩

theorem pageTable_tells : TellsLine pageTable pageSteps [] where
  split := (List.append_nil _).symm
  reporting := by simp
  still := by
    simp only [pageSteps, List.mem_cons, List.not_mem_nil, or_false, forall_eq_or_imp, forall_eq]
    exact ⟨fun _ => sortClasses_eq_self_iff.mpr, Rule.still_patternStep _⟩
  always := by
    decide
  worded := by
    simp only [pageSteps, List.mem_cons, List.not_mem_nil, or_false, forall_eq_or_imp, forall_eq]
    refine ⟨fun number text fires => ?_, fun number text _ =>
      NamesLine.isTruthy_message ⟨_, by decide, fun _ _ => rfl⟩ number text⟩
    exact classNamesStep_worded fires
  unchanged _ := pageSteps_quiet
  oneLine {text} oneLine := by
    have absent : ∀ c, c ≠ ' ' → c ∉ text → c ∉ Steps.fix pageSteps text := by
      intro c other notInText isMember
      have inSorted := dropSlashes_sublist.subset isMember
      rcases List.mem_cons.mp (sortClasses_subset inSorted) with rfl | inText
      · exact other rfl
      · exact notInText inText
    exact ⟨absent _ (by decide) oneLine.1, absent _ (by decide) oneLine.2⟩
  untrimmed {text} _ same := by
    obtain ⟨gaps, split, _⟩ := @exists_gaps_trimEnd text
    have isPrefix : trimEnd text <+: text := ⟨gaps, split.symm⟩
    have bound := @length_fix_pageSteps_le (trimEnd text)
    rw [same] at bound
    exact isPrefix.eq_of_length_le bound
  empty {text} _ := by
    constructor
    · exact fun nothing => sortClasses_eq_nil (dropSlashes_eq_nil nothing)
    · rintro rfl
      exact List.length_eq_zero_iff.mp (Nat.le_zero.mp length_fix_pageSteps_le)

/-! ## A second run -/

section Line

variable {text : List Char} {customIgnore : Option Pattern}

theorem Trimmed.of_append {first second : List Char} (trimmed : Trimmed (first ++ second)) :
    Trimmed second := by
  cases second with
  | nil => simp [Trimmed]
  | cons c second => simpa [Trimmed, List.getLast?_append] using trimmed

theorem Trimmed.append {first second : List Char} (one : Trimmed first) (other : Trimmed second) :
    Trimmed (first ++ second) := by
  cases second with
  | nil => rwa [List.append_nil]
  | cons c second => simpa [Trimmed, List.getLast?_append] using other

/-- A text keeps its end if nothing is written for a match that ends with a gap. -/
theorem trimmed_of_segmented {matcher : Matcher} {replacement : Match → List Char}
    {before after : List Char} {segments : List Segment}
    (segmented : Segmented matcher before after segments)
    (writes : ∀ found ∈ segments.filterMap Segment.match?,
      replacement found ≠ [] ∧ Trimmed (replacement found)) (trimmed : Trimmed after) :
    Trimmed (segments.flatMap (Segment.chars replacement)) := by
  induction segmented with
  | done => exact trimmed
  | @keep before after c segments _ rest hyp =>
      have later := hyp writes (@Trimmed.of_append [c] after trimmed)
      have nothing := rest.eq_nil_of_flatMap_chars_eq_nil fun found isFound =>
        (writes found isFound).1
      rw [List.flatMap_cons, Segment.chars]
      by_cases last : segments.flatMap (Segment.chars replacement) = []
      · obtain rfl := nothing last
        rwa [last]
      · obtain ⟨d, rest, split⟩ := List.exists_cons_of_ne_nil last
        rw [split] at later ⊢
        simpa [Trimmed, List.getLast?_append] using later
  | @found before piece after found segments _ _ _ _ hyp =>
      obtain ⟨here, others⟩ := List.forall_mem_cons.mp writes
      rw [List.flatMap_cons, Segment.chars]
      exact here.2.append (hyp others trimmed.of_append)

theorem trimmed_replaceBy {pattern : Pattern} (advances : pattern.matcher.Advances)
    {replacement : Match → List Char}
    (writes : ∀ found, replacement found ≠ [] ∧ Trimmed (replacement found))
    (trimmed : Trimmed text) : Trimmed (pattern.replaceBy replacement text) := by
  obtain ⟨segments, segmented, _, written⟩ := exists_segmented advances text
  rw [written]
  exact trimmed_of_segmented segmented (fun found _ => writes found) trimmed

/-- The rules for pages write quotation marks and brackets at the end of a line. -/
theorem trimmed_fix_pageSteps (trimmed : Trimmed text) : Trimmed (Steps.fix pageSteps text) := by
  rw [fix_pageSteps, dropSlashes_eq]
  refine trimmed_replaceBy selfClosedVoid_advances (fun found => ?_)
    (trimmed_replaceBy classAttribute_advances (fun found => ?_) trimmed)
  · simp [voidWritten, Trimmed, List.getLast?_append, List.getLast?_cons, isGap]
  · simp [classText, Trimmed, List.getLast?_append, isGap]

theorem sortClasses_eq_self_iff_forall : sortClasses text = text ↔
    ∀ found ∈ classAttribute.findAll text, orderNames (found.group 1) = found.group 1 := by
  rw [sortClasses_eq_self_iff]
  simp [classNamesStep, unsorted?]

theorem fix_pageSteps_eq_self_iff : Steps.fix pageSteps text = text ↔
    selfClosedVoid.matchesIn text = false ∧
      ∀ found ∈ classAttribute.findAll text, orderNames (found.group 1) = found.group 1 := by
  rw [← sortClasses_eq_self_iff_forall]
  constructor
  · intro same
    have quiet := pageSteps_quiet same
    simp only [pageSteps, List.mem_cons, List.not_mem_nil, or_false, forall_eq_or_imp,
      forall_eq] at quiet
    exact ⟨quiet.2, sortClasses_eq_self_iff.mpr quiet.1⟩
  · rintro ⟨noTag, sorted⟩
    rw [fix_pageSteps, sorted, dropSlashes_eq_self_iff.mpr noTag]

/-- One run of the rules for pages is enough for a line. Unless the line is left alone before or
after the run, no attributes end with another slash where one is taken out of a tag, and without
these slashes the names of classes are still in order. -/
def SettledAtOnce (customIgnore : Option Pattern) (text : List Char) : Prop :=
  let sorted := sortClasses (trimEnd text)
  let out := dropSlashes sorted
  isClosed customIgnore text = false → pageTable.admits customIgnore (trimEnd text) = true →
    pageTable.admits customIgnore out = true →
      (∀ found ∈ selfClosedVoid.findAll sorted, (found.group 2).getLast? ≠ some '/') ∧
        ∀ found ∈ classAttribute.findAll out, orderNames (found.group 1) = found.group 1

/-- A second run over a line of a page changes nothing exactly if one run was enough. -/
theorem settledLine_page_again_iff :
    settledLine pageTable pageSteps customIgnore (settledLine pageTable pageSteps customIgnore text) =
        settledLine pageTable pageSteps customIgnore text ↔ SettledAtOnce customIgnore text := by
  cases closed : isClosed customIgnore text with
  | true =>
      have same : settledLine pageTable pageSteps customIgnore text = text := by
        simp [settledLine, closed]
      rw [same, same]
      simp [SettledAtOnce, closed]
  | false =>
      cases works : pageTable.admits customIgnore (trimEnd text) with
      | false =>
          have same : settledLine pageTable pageSteps customIgnore text = trimEnd text := by
            simp [settledLine, closed, works]
          rw [same, settledLine, trimEnd_eq_self getLast?_trimEnd, works]
          simp [SettledAtOnce, works]
      | true =>
          have fixed : settledLine pageTable pageSteps customIgnore text =
              Steps.fix pageSteps (trimEnd text) := by
            simp [settledLine, closed, works]
          have trimmed := trimmed_fix_pageSteps (@getLast?_trimEnd text)
          rw [fixed, settledLine, trimEnd_eq_self trimmed, SettledAtOnce, ← fix_pageSteps]
          generalize isOut : Steps.fix pageSteps (trimEnd text) = out
          cases again : pageTable.admits customIgnore out with
          | false => simp
          | true =>
              have isOpen : isClosed customIgnore out = false := by
                rw [LineTable.admits, Bool.and_eq_true, Bool.not_eq_true'] at again
                exact Bool.not_eq_true' _ ▸ again.2
              have noTag : selfClosedVoid.matchesIn out = false ↔
                  ∀ found ∈ selfClosedVoid.findAll (sortClasses (trimEnd text)),
                    (found.group 2).getLast? ≠ some '/' := by
                rw [← isOut, fix_pageSteps, ← Bool.not_eq_true, matchesIn_dropSlashes_iff]
                simp
              simp only [isOpen, Bool.false_eq_true, if_false, if_true, fix_pageSteps_eq_self_iff,
                noTag, closed, works, true_implies]

end Line

end LineRules.Builtin
