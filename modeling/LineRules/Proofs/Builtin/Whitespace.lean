import LineRules.Builtin.Store
import LineRules.Proofs.Pattern.Segments
import LineRules.Proofs.RuleSet.Tables

/-!
# The rules for every file on a line

Blanks at the end of a line are dropped, and what is reported about the indentation
depends on the blanks that the line begins with and on nothing else.
-/

namespace LineRules.Builtin

open LineRules.Text LineRules.Pattern LineRules.Pattern.Node

variable {before after text out : List Char} {condition : State → Prop}

/-! ## Blanks at the end -/

/-- A text without the spaces and tabs at its end. -/
def trimEnd : List Char → List Char
  | [] => []
  | c :: rest => if isGap c && (trimEnd rest).isEmpty then [] else c :: trimEnd rest

theorem trimEnd_eq_nil_iff : trimEnd text = [] ↔ ∀ c ∈ text, isGap c = true := by
  induction text with
  | nil => simp [trimEnd]
  | cons c rest hyp =>
      rw [trimEnd, List.forall_mem_cons, ← hyp]
      split <;> simp_all

theorem getLast?_trimEnd : ∀ c ∈ (trimEnd text).getLast?, isGap c = false := by
  induction text with
  | nil => simp [trimEnd]
  | cons c rest hyp =>
      rw [trimEnd]
      split
      case isTrue => simp
      case isFalse kept =>
        cases trimmed : trimEnd rest with
        | nil => simp_all
        | cons d last =>
            rw [trimmed] at hyp
            simpa using hyp

theorem trimEnd_eq_self (last : ∀ c ∈ text.getLast?, isGap c = false) : trimEnd text = text := by
  induction text with
  | nil => rfl
  | cons c rest hyp =>
      cases rest with
      | nil =>
          have kept : isGap c = false := last c rfl
          simp [trimEnd, kept]
      | cons d rest =>
          have same : trimEnd (d :: rest) = d :: rest := hyp (by simpa using last)
          rw [trimEnd, same]
          simp

theorem trimEnd_subset : trimEnd text ⊆ text := by
  induction text with
  | nil => simp [trimEnd]
  | cons c rest hyp =>
      rw [trimEnd]
      split
      · simp
      · exact List.cons_subset_cons c hyp

/-- Only spaces and tabs are dropped. -/
theorem exists_gaps_trimEnd :
    ∃ gaps, text = trimEnd text ++ gaps ∧ ∀ c ∈ gaps, isGap c = true := by
  induction text with
  | nil => exact ⟨[], rfl, by simp⟩
  | cons c rest hyp =>
      obtain ⟨gaps, split, allGaps⟩ := hyp
      by_cases dropped : isGap c = true ∧ trimEnd rest = []
      · have allDropped : trimEnd (c :: rest) = [] := by simp [trimEnd, dropped]
        exact ⟨c :: rest, by rw [allDropped]; rfl, trimEnd_eq_nil_iff.mp allDropped⟩
      · have kept : trimEnd (c :: rest) = c :: trimEnd rest := by simpa [trimEnd] using dropped
        exact ⟨gaps, by rw [kept, List.cons_append, ← split], allGaps⟩

theorem trailingBlanks_reaches_iff :
    trailingBlanks.node.Reaches (.start (.between before after)) condition ↔
      ∃ gaps rest, after = gaps ++ rest ∧ gaps ≠ [] ∧ (∀ c ∈ gaps, isGap c = true) ∧
        (rest = [] ∨ rest = ['\n']) ∧ condition (.start (.between (gaps.reverse ++ before) rest)) := by
  have tree : trailingBlanks.node =
      sequence [plus (oneOf [.ofChar ' ', .ofChar '\t']), lineEnd] := rfl
  rw [tree]
  simp only [State.start, reaches_sequence_cons_iff, reaches_sequence_nil_iff, lineEnd,
    reaches_anchor_iff, oneOf, reaches_plus_char_iff, contains_oneOf, List.any_cons,
    List.any_nil, Bool.or_false, ClassItem.contains_ofChar, holds_lastLineEnd, isGap]

/-- Blanks are found at the end of a line only. -/
theorem trailingBlanks_match (oneLine : '\n' ∉ after) {found : Match}
    (isMatch : trailingBlanks.matcher false (.between before after) = some found) :
    found.start = .between before after ∧ after ≠ [] ∧ (∀ c ∈ after, isGap c = true) ∧
      found.finish = .between (after.reverse ++ before) [] := by
  obtain ⟨start, reaches⟩ := reaches_of_matchAt_eq_some isMatch
  obtain ⟨gaps, rest, rfl, nonempty, allGaps, rfl | rfl, final⟩ :=
    trailingBlanks_reaches_iff.mp reaches
  · refine ⟨start, by simpa using nonempty, by simpa using allGaps, ?_⟩
    rw [Match.finish, ← final, List.append_nil]
    rfl
  · simp at oneLine

theorem trailingBlanks_advances : trailingBlanks.matcher.Advances := by
  intro before after found isMatch
  obtain ⟨start, reaches⟩ := reaches_of_matchAt_eq_some isMatch
  obtain ⟨gaps, rest, rfl, nonempty, _, _, final⟩ := trailingBlanks_reaches_iff.mp reaches
  refine ⟨start, gaps, rest, nonempty, rfl, ?_⟩
  rw [Match.finish, ← final]
  rfl

theorem trailingBlanks_matchesIn (oneLine : '\n' ∉ text)
    (last : ∀ c ∈ text.getLast?, isGap c = false) : trailingBlanks.matchesIn text = false := by
  rw [Pattern.matchesIn, Option.isSome_eq_false_iff, Option.isNone_iff_eq_none,
    Option.eq_none_iff_forall_not_mem]
  intro found search
  obtain ⟨skipped, rest, rfl, isMatch⟩ := Matcher.exists_of_find?_eq_some search
  obtain ⟨_, nonempty, allGaps, _⟩ :=
    trailingBlanks_match (fun inRest => oneLine (List.mem_append_right _ inRest)) isMatch
  obtain ⟨rest, c, rfl⟩ := List.eq_nil_or_concat' rest |>.resolve_left nonempty
  have isLast := last c (by simp)
  rw [allGaps c (by simp)] at isLast
  contradiction

private theorem trimEnd_of_segmented {segments : List Segment}
    (segmented : Segmented trailingBlanks.matcher before after segments) (oneLine : '\n' ∉ after) :
    segments.flatMap (Segment.chars fun _ => []) = trimEnd after := by
  induction segmented with
  | done => rfl
  | @keep before after c segments none _ hyp =>
      have kept : ¬ ∀ d ∈ c :: after, isGap d = true := by
        intro allGaps
        obtain ⟨found, isMatch⟩ := @exists_matchAt_of_reaches _
          (.between before (c :: after)) (trailingBlanks_reaches_iff.mpr
            ⟨c :: after, [], (List.append_nil _).symm, by simp, allGaps, .inl rfl, trivial⟩)
        exact absurd (none.symm.trans isMatch) (by simp)
      rw [← trimEnd_eq_nil_iff] at kept
      rw [List.flatMap_cons, hyp (fun inRest => oneLine (List.mem_cons_of_mem _ inRest))]
      rw [trimEnd] at kept ⊢
      split at kept
      · exact absurd rfl kept
      case isFalse stays => simp [stays, Segment.chars]
  | @found before piece after found segments isMatch _ finish _ hyp =>
      obtain ⟨_, _, allGaps, finish'⟩ := trailingBlanks_match oneLine isMatch
      obtain rfl : after = [] := congrArg Cursor.after (finish.symm.trans finish')
      rw [List.flatMap_cons, hyp (by simp), trimEnd_eq_nil_iff.mpr allGaps]
      rfl

/-- Replacing blanks at the end of a line drops them. -/
theorem trailingBlanks_replaceBy (oneLine : '\n' ∉ text) :
    trailingBlanks.replaceBy (trailingBlanks.written "") text = trimEnd text := by
  have nothing : trailingBlanks.written "" = fun _ => [] := by
    funext found
    rw [Pattern.written_of_template [.literal []] rfl]
    rfl
  obtain ⟨segments, segmented, _, written⟩ :=
    Pattern.exists_segmented trailingBlanks_advances text
  rw [written, nothing]
  exact trimEnd_of_segmented segmented oneLine

/-! ## Indentation -/

theorem mixedIndentation_matchesIn_iff : mixedIndentation.matchesIn text = true ↔
    ∃ tabs spaces rest, text = tabs ++ (spaces ++ '\t' :: rest) ∧ (∀ c ∈ tabs, c = '\t') ∧
      spaces ≠ [] ∧ ∀ c ∈ spaces, c = ' ' := by
  have tree : mixedIndentation.node =
      sequence [textStart, star (lit '\t'), plus (lit ' '), lit '\t'] := rfl
  rw [matchesIn_iff_of_textStart rfl tree]
  simp only [State.start, reaches_sequence_cons_iff, reaches_sequence_nil_iff, lit, oneOf,
    reaches_star_char_iff, reaches_plus_char_iff, reaches_char_iff, contains_oneOf, List.any_cons,
    List.any_nil, Bool.or_false, ClassItem.contains_ofChar, decide_eq_true_eq]
  constructor
  · rintro ⟨tabs, _, rfl, allTabs, spaces, _, rfl, nonempty, allSpaces, _, rest, rfl, rfl, _⟩
    exact ⟨tabs, spaces, rest, rfl, allTabs, nonempty, allSpaces⟩
  · rintro ⟨tabs, spaces, rest, rfl, allTabs, nonempty, allSpaces⟩
    exact ⟨tabs, _, rfl, allTabs, spaces, _, rfl, nonempty, allSpaces, _, rest, rfl, rfl, trivial⟩

/-- What is found in the indentation depends on the blanks at the start only. -/
theorem mixedIndentation_matchesIn_congr
    (lead : text.takeWhile isBlank = out.takeWhile isBlank) :
    mixedIndentation.matchesIn text = mixedIndentation.matchesIn out := by
  have transfer : ∀ {text out : List Char}, text.takeWhile isBlank = out.takeWhile isBlank →
      mixedIndentation.matchesIn text = true → mixedIndentation.matchesIn out = true := by
    intro text out lead found
    obtain ⟨tabs, spaces, rest, rfl, allTabs, nonempty, allSpaces⟩ :=
      mixedIndentation_matchesIn_iff.mp found
    have allBlank : ∀ c ∈ tabs ++ (spaces ++ ['\t']), isBlank c = true := by
      intro c isMember
      simp only [List.mem_append, List.mem_singleton] at isMember
      rcases isMember with isTab | isSpace | rfl
      · obtain rfl := allTabs c isTab
        decide
      · obtain rfl := allSpaces c isSpace
        decide
      · decide
    have split : tabs ++ (spaces ++ '\t' :: rest) = (tabs ++ (spaces ++ ['\t'])) ++ rest := by simp
    rw [split, List.takeWhile_append_of_pos allBlank] at lead
    refine mixedIndentation_matchesIn_iff.mpr ⟨tabs, spaces,
      rest.takeWhile isBlank ++ out.dropWhile isBlank, ?_, allTabs, nonempty, allSpaces⟩
    calc out = out.takeWhile isBlank ++ out.dropWhile isBlank := by simp
      _ = _ := by simp [← lead]
  exact Bool.eq_iff_iff.mpr ⟨transfer lead, transfer lead.symm⟩

/-! ## The rule-set -/

/-- The steps of rules that are made from patterns and templates. -/
def patternSteps (entries : RuleSet) : Steps :=
  entries.filterMap fun (name, entry) =>
    match entry with
    | .rule rule => some (name, rule.patternStep)
    | _ => none

/-- The rule-set that every file gets first. -/
def whitespaceTable : LineTable where
  name := "common"
  steps := patternSteps whitespaceRules

theorem whitespaceTable_provided : store.Provides whitespaceTable := by
  refine ⟨whitespaceRules, rfl, ?_, rfl⟩
  refine .rule (by decide) (@Rule.FromPattern.does _ trailingBlanks ?_)
    (.rule (by decide) (@Rule.FromPattern.does _ mixedIndentation ?_) .nil)
  · exact ⟨rfl, rfl, rfl, ⟨_, rfl, by decide⟩, .inr ⟨_, _, rfl, rfl⟩, rfl⟩
  · exact ⟨rfl, rfl, rfl, ⟨_, rfl, by decide⟩, .inl rfl, rfl⟩

end LineRules.Builtin
