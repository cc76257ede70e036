import LineRules.Proofs.Format.Languages

/-!
# What formatting changes

Over the built-in rules, formatting changes a text exactly if it reports something that a
rule with a replacement found (`format_changed_iff`). Lines keep their endings, and so their
numbers, unless a line that becomes empty meets the carriage return of the line before it
(`format_keeps_endings_iff`).
-/

namespace LineRules.Token

open LineRules.Format

variable {registry : Registry} {config : Config} {grammar : Grammar} {path : Path}
  {text : String} {found : List Violation}

theorem origin_of_findViolations {tree : SyntaxNode} {rules : List (TokenRule × TokenSetting)}
    (isFound : findViolations path text tree rules = .ok found) :
    ∀ violation ∈ found, violation.origin = .token := by
  induction rules generalizing found with
  | nil =>
      obtain rfl := Except.ok.inj isFound
      simp
  | cons rule rules hyp =>
      rw [findViolations] at isFound
      obtain ⟨findings, _, isFound⟩ := bind_eq_ok.mp isFound
      obtain ⟨others, isRest, isFound⟩ := bind_eq_ok.mp isFound
      obtain rfl := Except.ok.inj isFound
      refine List.forall_mem_append.mpr ⟨?_, hyp isRest⟩
      rintro violation isViolation
      obtain ⟨finding, _, rfl⟩ := List.mem_map.mp isViolation
      rfl

/-- Token rules report under their own kind. -/
theorem origin_of_lint (isFound : (lint registry config grammar path text).outcome = .ok found) :
    ∀ violation ∈ found, violation.origin = .token := by
  have nothing : (Except.ok [] : Except Fault (List Violation)) = .ok found →
      ∀ violation ∈ found, violation.origin = .token := by
    rintro ⟨⟩
    simp
  unfold lint at isFound
  simp only at isFound
  split at isFound
  case isTrue => exact nothing isFound
  case isFalse =>
    cases grammar with
    | missing => exact nothing isFound
    | installed parse =>
        simp only at isFound
        cases parsed : parse text with
        | none =>
            rw [parsed] at isFound
            exact nothing isFound
        | some tree =>
            rw [parsed] at isFound
            cases isFinding : findViolations path text tree
                (activeRules registry (resolveSettings config)) with
            | error fault =>
                simp only [isFinding] at isFound
                contradiction
            | ok findings =>
                simp only [isFinding] at isFound
                obtain rfl := Except.ok.inj isFound
                intro violation isViolation
                exact origin_of_findViolations isFinding _ (List.mem_mergeSort.mp isViolation)

end LineRules.Token

namespace LineRules.Format

open LineRules.Text LineRules.Builtin

theorem Formatter.origin_of_lint {formatter : Formatter} {path : Path} {text : String}
    {found : List Violation} (isFound : (formatter.lint path text).outcome = .ok found) :
    ∀ violation ∈ found, violation.origin = .token := by
  rw [lint] at isFound
  split at isFound
  · exact Token.origin_of_lint isFound
  · obtain rfl := Except.ok.inj isFound
    simp

/-- What formatting over the built-in rules stops with: a line of a page that opens a block
under an unknown name, or a fault of the token rules. -/
def Formatter.StopsWith (formatter : Formatter) (path : Path) (text : String) (fault : Fault) :
    Prop :=
  (formatter.language = .html ∧
      ∃ line ∈ linesOf text.toList, blockOpened line.content = .error fault) ∨
    ∃ updated, (formatter.lint path updated).outcome = .error fault

section Chosen

variable {chosen : Chosen} {customIgnore : Option Pattern}

theorem Chosen.oneLine (cut : IsCut (chosen.map Prod.fst)) :
    ∀ choice ∈ chosen, OneLine choice.1.content :=
  fun _ isChoice => cut.oneLine (List.mem_map_of_mem isChoice)

theorem Chosen.map_ending_settled :
    (chosen.settled customIgnore).map Line.ending = (chosen.map Prod.fst).map Line.ending := by
  rw [settled, List.map_map, List.map_map]
  rfl

theorem Chosen.isCut_settled (cut : IsCut (chosen.map Prod.fst)) :
    IsCut (chosen.settled customIgnore) := by
  refine cut.of_endings map_ending_settled ?_
  rw [settled, List.forall_mem_map]
  exact fun choice isChoice =>
    oneLine_settledLine choice.2.tells.oneLine (Chosen.oneLine cut choice isChoice)

/-- Contents that differ make texts that differ, since no line break is ever written. -/
theorem Chosen.flatMap_chars_settled_eq_iff (cut : IsCut (chosen.map Prod.fst)) :
    (chosen.settled customIgnore).flatMap Line.chars = (chosen.map Prod.fst).flatMap Line.chars ↔
      chosen.settled customIgnore = chosen.map Prod.fst :=
  ⟨(isCut_settled cut).eq_of_flatMap_chars_eq cut map_ending_settled, congrArg _⟩

end Chosen

/-- Formatting over the built-in rules settles every line under the rules of a language. -/
theorem format_chosen {formatter : Formatter} (builtIn : formatter.store = store) (path : Path)
    (text : String) :
    match (formatter.format path text).outcome with
    | .error fault => formatter.StopsWith path text fault
    | .ok result => ∃ chosen : Chosen, chosen.map Prod.fst = linesOf text.toList ∧
        result.given = text ∧
        result.updated =
          String.ofList ((chosen.settled formatter.customIgnore).flatMap Line.chars) ∧
        ∃ linted, (∀ violation ∈ linted, violation.origin = .token) ∧
          result.violations = (runLines (isExecutable text.toList) formatter.customIgnore 1
            chosen.planned).2.map (violationOf path) ++ linted := by
  cases planned : plan formatter.language ((linesOf text.toList).map Line.content) with
  | error fault =>
      have stopped : (formatter.format path text).outcome = .error fault := by
        rw [Formatter.format]
        exact outcome_bind_error (by rw [planned]; rfl) _
      rw [stopped]
      obtain ⟨isPage, content, isContent, unknown⟩ := exists_of_plan_eq_error planned
      obtain ⟨line, isLine, rfl⟩ := List.mem_map.mp isContent
      exact .inl ⟨isPage, line, isLine, unknown⟩
  | ok plans =>
      obtain ⟨chosen, given, rfl⟩ := exists_chosen_of_plan planned
      have cut : IsCut (chosen.map Prod.fst) := given ▸ isCut_linesOf text.toList
      have oneLine := Chosen.oneLine cut
      have formatted := @Formatter.format_outcome_lint path formatter text chosen.planned
        (chosen.fst_planned.trans given) (by rw [chosen.names_planned, planned]) ?_
      · simp only [Chosen.runLines_fst oneLine] at formatted
        rw [formatted]
        cases linted : (formatter.lint path _).outcome with
        | error fault => exact .inr ⟨_, linted⟩
        | ok found =>
            exact ⟨chosen, given, rfl, rfl, found, Formatter.origin_of_lint linted, rfl⟩
      · rw [builtIn]
        exact chosen.provides

/-! ## Whether anything changes -/

/-- **Changes are told truthfully.** Whatever the language and the lines left alone on
request, formatting over the built-in rules changes a text exactly if one of the violations
is of a rule with a replacement. -/
theorem format_changed_iff (language : Language) (customIgnore : Option Pattern)
    (linter : Option Linter) (path : Path) (text : String) :
    let formatter : Formatter := { language, store, customIgnore, linter }
    match (formatter.format path text).outcome with
    | .error fault => formatter.StopsWith path text fault
    | .ok result => result.changed = true ↔
        ∃ violation ∈ result.violations, store.isFixable violation = true := by
  intro formatter
  have gives := @format_chosen formatter rfl path text
  cases done : (formatter.format path text).outcome with
  | error fault =>
      rw [done] at gives
      exact gives
  | ok result =>
      rw [done] at gives
      obtain ⟨chosen, given, isGiven, updated, linted, tokens, violations⟩ := gives
      have cut : IsCut (chosen.map Prod.fst) := given ▸ isCut_linesOf text.toList
      have kept : result.updated = text ↔ chosen.settled customIgnore = chosen.map Prod.fst := by
        rw [updated, ← String.toList_inj, String.toList_ofList,
          ← Chosen.flatMap_chars_settled_eq_iff cut, given, flatMap_chars_linesOf]
      have unfixable : ∀ violation ∈ linted, store.isFixable violation = false := by
        intro violation isLinted
        simp [Store.isFixable, tokens violation isLinted]
      have silent : (∀ violation ∈ result.violations, store.isFixable violation = false) ↔
          chosen.settled customIgnore = chosen.map Prod.fst := by
        rw [violations, List.forall_mem_append, List.forall_mem_map,
          Chosen.settled_eq_iff (Chosen.oneLine cut) path]
        exact and_iff_left unfixable
      have same : result.changed = false ↔ result.updated = text := by
        rw [Formatted.changed, isGiven, decide_eq_false_iff_not, not_not, eq_comm]
      have unfound : (¬∃ violation ∈ result.violations, store.isFixable violation = true) ↔
          ∀ violation ∈ result.violations, store.isFixable violation = false := by
        simp
      change result.changed = true ↔
        ∃ violation ∈ result.violations, store.isFixable violation = true
      rw [← not_iff_not, Bool.not_eq_true, same, unfound, silent, kept]

/-! ## The endings of lines -/

theorem Chosen.endingsApart_settled_iff {chosen : Chosen} {customIgnore : Option Pattern}
    (cut : IsCut (chosen.map Prod.fst)) :
    EndingsApart (chosen.settled customIgnore) ↔
      (chosen.map Prod.fst).IsChain fun line next =>
        ¬(line.ending = ['\r'] ∧ next.ending = ['\n'] ∧
          isEmptied customIgnore next.content = true) := by
  rw [EndingsApart, settled, List.isChain_map, List.isChain_map]
  refine List.IsChain.iff_of_mem_imp fun choice next _ isNext => ?_
  have empty := @settledLine_eq_nil_iff _ _ _ customIgnore _ next.2.tells
    (Chosen.oneLine cut next isNext)
  simp only [Format.settled, Line.mk.injEq, empty]
  exact not_congr (and_congr_right' and_comm)

theorem Chosen.map_ending_filter_settled {chosen : Chosen} {customIgnore : Option Pattern}
    (cut : IsCut (chosen.map Prod.fst)) :
    ((chosen.settled customIgnore).filter (· ≠ ⟨[], []⟩)).map Line.ending =
      ((chosen.map Prod.fst).filter fun line =>
        !(line.ending.isEmpty && isEmptied customIgnore line.content)).map Line.ending := by
  rw [settled, List.filter_map, List.filter_map, List.map_map, List.map_map]
  refine congrArg _ (List.filter_congr fun choice isChoice => ?_)
  have empty := @settledLine_eq_nil_iff _ _ _ customIgnore _ choice.2.tells
    (Chosen.oneLine cut choice isChoice)
  rw [Bool.eq_iff_iff]
  simp [Format.settled, empty, and_comm]

/-- **Lines keep their endings.** Over the built-in rules, the lines of a formatted text end
as those of the text do, except for a last one without an ending of which nothing is left.
This fails exactly where a line that ends with a line feed and of which nothing is left
stands after one that ends with a carriage return. -/
theorem format_keeps_endings_iff (language : Language) (customIgnore : Option Pattern)
    (linter : Option Linter) (path : Path) (text : String) :
    let formatter : Formatter := { language, store, customIgnore, linter }
    let lines := linesOf text.toList
    match (formatter.format path text).outcome with
    | .error fault => formatter.StopsWith path text fault
    | .ok result => (linesOf result.updated.toList).map Line.ending =
          (lines.filter fun line =>
            !(line.ending.isEmpty && isEmptied customIgnore line.content)).map Line.ending ↔
        lines.IsChain fun line next =>
          ¬(line.ending = ['\r'] ∧ next.ending = ['\n'] ∧
            isEmptied customIgnore next.content = true) := by
  intro formatter lines
  have gives := @format_chosen formatter rfl path text
  cases done : (formatter.format path text).outcome with
  | error fault =>
      rw [done] at gives
      exact gives
  | ok result =>
      rw [done] at gives
      obtain ⟨chosen, given, _, updated, _⟩ := gives
      have cut : IsCut (chosen.map Prod.fst) := given ▸ isCut_linesOf text.toList
      simp only [lines, ← given, updated, String.toList_ofList]
      rw [← Chosen.endingsApart_settled_iff cut, ← Chosen.map_ending_filter_settled cut]
      exact (Chosen.isCut_settled cut).map_ending_linesOf_iff

/-- A blank line that ends with a line feed is lost after a carriage return, and what is
reported of the line after it moves to another line. -/
theorem format_joins_lines :
    let formatter : Formatter := { language := .javaScript, store := store }
    let path : Path := ⟨.relative, ["a.js"]⟩
    let shown (text : String) := (formatter.format path text).outcome.map fun result =>
      (result.updated, result.violations.map fun violation => (violation.ruleId, violation.line?))
    shown "x;\r  \ndebugger\n" = .ok ("x;\r\ndebugger\n",
        [("common.trailing_whitespace", some 2), ("js.debugger_statement", some 3)]) ∧
      shown "x;\r\ndebugger\n" = .ok ("x;\r\ndebugger\n",
        [("js.debugger_statement", some 2)]) ∧
      (linesOf "x;\r  \ndebugger\n".toList).map Line.ending = [['\r'], ['\n'], ['\n']] ∧
      (linesOf "x;\r\ndebugger\n".toList).map Line.ending = [['\r', '\n'], ['\n']] := by
  decide +kernel

end LineRules.Format
