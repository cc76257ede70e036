import LineRules.Proofs.Builtin.Settling
import LineRules.Proofs.Format.FixedPoint
import LineRules.Proofs.Script.Settled

/-!
# Scripts after formatting

The rules for JavaScript settle every line in one run: `scriptTable_settlesLine` puts
together what is known of the gap rules and of the patterns that only report. The main
statement is `format_script_settled`.
-/

namespace LineRules.Builtin

open LineRules.Text LineRules.Pattern LineRules.Pattern.Node LineRules.Format

/-! ## The rule-set -/

/-- The step of the rule for calls that write to the console. -/
def consoleStep : LineStep where
  fires := consoleCall.matchesIn
  message number text :=
    match consoleCall.search? text with
    | some found =>
      match callMessage number .null (.found found) (.ofLine "" number false none) with
      | .ok message => message
      | .error _ => .null
    | none => .null
  ignoreInScripts := true

/-- The rules for JavaScript as steps. -/
def scriptSteps : Steps := patternSteps scriptRules.dropLast ++ [("console_call", consoleStep)]

/-- The rules that replace text. -/
def scriptFixSteps : Steps := scriptSteps.take 6

/-- The rules that only report. -/
def scriptReportSteps : Steps := scriptSteps.drop 6

/-- The rule-set of JavaScript. -/
def scriptTable : LineTable where
  name := "js"
  ignore := some scriptComment
  steps := scriptSteps

theorem consoleStep_does : Rule.Does {
    regex := some consoleCall
    test := .firstMatch
    message := .callback callMessage
    ignoreInScripts := true } consoleStep := by
  refine Rule.does_of rfl ?_ ?_
  · intro context text shows
    cases search : consoleCall.search? text with
    | none =>
        refine ⟨.value .null, ?_, ?_, ?_⟩
        · simp [Rule.runTest, Rule.requirePattern, shows.item, asText_ofList, search, bind,
            Except.bind, pure, Except.pure]
        · simp [consoleStep, Pattern.matchesIn, search, Evidence.isTruthy, Value.isTruthy]
        · simp [consoleStep, Pattern.matchesIn, search]
    | some found =>
        refine ⟨.found found, ?_, ?_, ?_⟩
        · simp [Rule.runTest, Rule.requirePattern, shows.item, asText_ofList, search, bind,
            Except.bind, pure, Except.pure]
        · simp [consoleStep, Pattern.matchesIn, search, Evidence.isTruthy]
        · intro _
          simp [consoleStep, search, Rule.messageFor, callMessage]
  · intro run text evidence shows
    have same : consoleStep.change text = text := rfl
    rw [Rule.runReplacer_none rfl, same, Run.write_of_shows shows]

/-- Rules that are made from patterns and templates, in order, are their steps. -/
theorem scriptTable_provided : store.Provides scriptTable := by
  refine ⟨scriptRules, rfl, ?_, rfl⟩
  refine .other (by simp) ?_
  refine .rule (by decide) (@Rule.FromPattern.does _ anonymousFunction ?_)
    (.rule (by decide) (@Rule.FromPattern.does _ functionBrace ?_)
    (.rule (by decide) (@Rule.FromPattern.does _ tightKeyword ?_)
    (.rule (by decide) (@Rule.FromPattern.does _ tightElse ?_)
    (.rule (by decide) (@Rule.FromPattern.does _ elseTight ?_)
    (.rule (by decide) (@Rule.FromPattern.does _ looseSemicolon ?_)
    (.rule (by decide) (@Rule.FromPattern.does _ looseEquality ?_)
    (.rule (by decide) (@Rule.FromPattern.does _ debuggerStatement ?_)
    (.rule (by decide) consoleStep_does .nil))))))))
  · exact ⟨rfl, rfl, rfl, ⟨_, rfl, by decide⟩, .inr ⟨_, _, rfl, rfl⟩, rfl⟩
  · exact ⟨rfl, rfl, rfl, ⟨_, rfl, by decide⟩, .inr ⟨_, _, rfl, rfl⟩, rfl⟩
  · exact ⟨rfl, rfl, rfl, ⟨_, rfl, by decide⟩, .inr ⟨_, _, rfl, rfl⟩, rfl⟩
  · exact ⟨rfl, rfl, rfl, ⟨_, rfl, by decide⟩, .inr ⟨_, _, rfl, rfl⟩, rfl⟩
  · exact ⟨rfl, rfl, rfl, ⟨_, rfl, by decide⟩, .inr ⟨_, _, rfl, rfl⟩, rfl⟩
  · exact ⟨rfl, rfl, rfl, ⟨_, rfl, by decide⟩, .inr ⟨_, _, rfl, rfl⟩, rfl⟩
  · exact ⟨rfl, rfl, rfl, ⟨_, rfl, by decide⟩, .inl rfl, rfl⟩
  · exact ⟨rfl, rfl, rfl, ⟨_, rfl, by decide⟩, .inl rfl, rfl⟩

/-! ## What is left alone -/

/-- Comments open with one of their marks after the indentation. -/
theorem scriptComment_matchesIn_iff {text : List Char} : scriptComment.matchesIn text = true ↔
    ∃ mark ∈ ["//", "/*", "*"], mark.toList <+: text.dropWhile isBlank := by
  have tree : scriptComment.node =
      sequence [textStart, star blank, words ["//", "/*", "*"]] := rfl
  have solid : ∀ mark ∈ ["//", "/*", "*"], ∀ rest : List Char,
      ∀ c ∈ (mark.toList ++ rest).head?, isBlank c = false := by
    intro mark isMark rest
    simp only [List.mem_cons, List.not_mem_nil, or_false] at isMark
    rcases isMark with rfl | rfl | rfl
    · rintro c ⟨⟩
      decide
    · rintro c ⟨⟩
      decide
    · rintro c ⟨⟩
      decide
  rw [matchesIn_iff_of_textStart rfl tree]
  simp only [State.start, reaches_sequence_cons_iff, reaches_sequence_nil_iff, blank, oneOf,
    reaches_star_char_iff, contains_oneOf, List.any_cons, List.any_nil, Bool.or_false,
    ClassItem.contains_anyBlank, reaches_words_iff (by simp : ["//", "/*", "*"] ≠ [])]
  constructor
  · rintro ⟨blanks, _, rfl, allBlank, mark, isMark, last, rfl, _⟩
    exact ⟨mark, isMark, last, (dropWhile_run allBlank (solid mark isMark last)).symm⟩
  · rintro ⟨mark, isMark, last, split⟩
    have allBlank : ∀ c ∈ text.takeWhile isBlank, isBlank c = true :=
      List.all_eq_true.mp List.all_takeWhile
    have cut : text = text.takeWhile isBlank ++ (mark.toList ++ last) := by
      rw [split, List.takeWhile_append_dropWhile]
    exact ⟨_, _, cut, allBlank, mark, isMark, last, rfl, trivial⟩

theorem scriptComment_matchesIn_congr {text out : List Char} (same : SameOpening text out) :
    scriptComment.matchesIn text = scriptComment.matchesIn out := by
  have two : ∀ {c d : Char} {text : List Char}, [c, d] <+: text ↔ ∃ rest, text = c :: d :: rest := by
    intro c d text
    simp [List.IsPrefix, eq_comm]
  have one : ∀ {c : Char} {text : List Char}, [c] <+: text ↔ text.head? = some c := by
    intro c text
    cases text with
    | nil => simp
    | cons d text => simp [eq_comm]
  have slashes : "//".toList = ['/', '/'] := rfl
  have slashStar : "/*".toList = ['/', '*'] := rfl
  have star : "*".toList = ['*'] := rfl
  rw [Bool.eq_iff_iff, scriptComment_matchesIn_iff, scriptComment_matchesIn_iff]
  simp only [List.mem_cons, List.not_mem_nil, or_false, exists_eq_or_imp, exists_eq_left, slashes,
    slashStar, star, two, one, same.first]
  rw [same.dropWhile_iff (by decide : '/' ∈ openers), same.dropWhile_iff (by decide : '*' ∈ openers)]

/-! ## Every line -/

theorem scriptFixSteps_eq :
    scriptFixSteps.map (fun step => (step.2.fires, step.2.change)) =
      scriptFixes.map fun fix => (fix.pattern.matchesIn, fix.apply) := rfl

theorem fix_scriptFixSteps (text : List Char) : Steps.fix scriptFixSteps text =
    scriptFixes.foldl (fun text fix => fix.apply text) text := by
  have changes := congrArg (List.map Prod.snd) scriptFixSteps_eq
  simp only [List.map_map, Function.comp_def] at changes
  rw [Steps.fix_eq, changes, List.foldl_map]

theorem scriptFixes_edited {fix : ScriptFix} (isFix : fix ∈ scriptFixes) (text : List Char) :
    Edited fix.gap.swap [] text (fix.apply text) :=
  (scriptFixes_setBy isFix).edited text

/-- What gap rules keep is kept by all rules that replace text. -/
theorem scriptFixSteps_induction {kept : List Char → Prop} {text : List Char} (start : kept text)
    (edit : ∀ fix ∈ scriptFixes, ∀ {text out}, Edited fix.gap.swap [] text out → kept text →
      kept out) : kept (Steps.fix scriptFixSteps text) := by
  rw [fix_scriptFixSteps]
  exact List.foldlRecOn scriptFixes _ start fun text done fix isFix =>
    edit fix isFix (scriptFixes_edited isFix text) done

theorem not_right_of_openers {fix : ScriptFix} (isFix : fix ∈ scriptFixes) {d : Char}
    (isOpener : d ∈ openers) (rest : List Char) : ¬ fix.gap.right d rest := by
  have ends : ∃ c, EndsAt fix.gap c ∧ c ∉ openers := by
    simp only [scriptFixes, List.mem_cons, List.not_mem_nil, or_false] at isFix
    rcases isFix with rfl | rfl | rfl | rfl | rfl | rfl
    · exact ⟨_, callGap_endsAt, by decide⟩
    · exact ⟨_, braceGap_endsAt, by decide⟩
    · exact ⟨_, keywordGap_endsAt, by decide⟩
    · exact ⟨_, elseLeadingGap_endsAt, by decide⟩
    · exact ⟨_, elseTrailingGap_endsAt, by decide⟩
    · exact ⟨_, semicolonGap_endsAt, by decide⟩
  obtain ⟨c, endsAt, other⟩ := ends
  intro right
  rw [endsAt right] at isOpener
  exact other isOpener

theorem fill_subset {fix : ScriptFix} (isFix : fix ∈ scriptFixes) : fix.gap.fill ⊆ [' '] := by
  revert fix
  decide

theorem scriptFixSteps_quiet (text : List Char) :
    ∀ step ∈ scriptFixSteps, step.2.fires (Steps.fix scriptFixSteps text) = false := by
  have settled : ∀ fix ∈ scriptFixes, Free fix.gap.Found [] (Steps.fix scriptFixSteps text) := by
    rw [fix_scriptFixSteps]
    refine @settled_foldl _ (fun _ => True) ScriptFix.apply (fun fix => Free fix.gap.Found [])
      scriptFixes ?_ ?_ ?_ text trivial
    · exact fun _ _ _ _ => trivial
    · intro fix isFix text _
      exact scriptFixes_settle isFix (scriptFixes_edited isFix text)
    · refine (List.pairwise_map.mp scriptFixes_pairwise).imp_of_mem ?_
      intro fixed edit _ isEdit outlasts text _ free
      exact outlasts (scriptFixes_edited isEdit text) free
  generalize Steps.fix scriptFixSteps text = out at settled ⊢
  have quiet : ∀ fires ∈ (scriptFixSteps.map fun step => (step.2.fires, step.2.change)).map Prod.fst,
      fires out = false := by
    rw [scriptFixSteps_eq]
    simp only [List.map_map, List.forall_mem_map, Function.comp_apply]
    exact fun fix isFix => (scriptFixes_setBy isFix).matchesIn_eq_false (settled fix isFix)
  simp only [List.map_map, List.forall_mem_map, Function.comp_apply] at quiet
  exact quiet

theorem sameOpening_fix (text : List Char) : SameOpening text (Steps.fix scriptFixSteps text) := by
  refine scriptFixSteps_induction (SameOpening.refl text) ?_
  intro fix isFix middle out edited same
  exact same.trans (Gap.sameOpening_of_edited (fun _ => not_right_of_openers isFix) edited (.inl rfl))

/-- The rules for JavaScript settle every line in one run. -/
theorem scriptTable_settlesLine : SettlesLine scriptTable scriptFixSteps scriptReportSteps where
  split := (List.take_append_drop 6 _).symm
  reporting := by
    have steps : scriptReportSteps = [("loose_equality", _), ("debugger_statement", _),
        ("console_call", consoleStep)] := rfl
    rw [steps]
    simp only [List.mem_cons, List.not_mem_nil, or_false, forall_eq_or_imp, forall_eq]
    exact ⟨fun _ => rfl, fun _ => rfl, fun _ => rfl⟩
  still step isStep := by
    have among : step ∈ patternSteps scriptRules.dropLast :=
      List.mem_of_mem_take (show step ∈ (patternSteps scriptRules.dropLast).take 6 from isStep)
    obtain ⟨⟨_, entry⟩, _, isPattern⟩ := List.mem_filterMap.mp among
    cases entry with
    | rule rule =>
        obtain rfl := Option.some.inj isPattern
        exact rule.still_patternStep
    | pattern | ruleSet | value => contradiction
  always := by
    decide
  quiet _ := scriptFixSteps_quiet _
  oneLine oneLine := by
    refine scriptFixSteps_induction oneLine ?_
    intro fix isFix text out edited oneLine
    have absent : ∀ d, d ≠ ' ' → d ∉ text → d ∉ out := by
      intro d other notInText inOut
      rcases Gap.mem_of_edited edited inOut with inText | inFill
      · exact notInText inText
      · exact other (by simpa using fill_subset isFix inFill)
    exact ⟨absent _ (by decide) oneLine.1, absent _ (by decide) oneLine.2⟩
  empty := by
    rw [scriptFixSteps, scriptReportSteps, List.take_append_drop]
    decide
  trimmed _ trimmed := by
    refine scriptFixSteps_induction trimmed ?_
    intro fix isFix text out edited trimmed
    rw [Trimmed, Gap.getLast?_of_edited edited]
    exact trimmed
  lead _ := (sameOpening_fix _).lead.symm
  ignored := by
    intro text _ _ notIgnored
    have same := scriptComment_matchesIn_congr (sameOpening_fix text)
    simpa [scriptTable, ← same] using notIgnored
  executable _ _ := (sameOpening_fix _).isExecutable.symm

/-- The ids of the rules for scripts that replace nothing. -/
def scriptReportIds : List String :=
  ["common.mixed_indentation", "js.loose_equality", "js.debugger_statement", "js.console_call"]

theorem keepsReports_scriptReportIds (path : Path) :
    KeepsReports (fun entry => (violationOf path entry).ruleId ∈ scriptReportIds) scriptTable
      scriptFixSteps scriptReportSteps :=
  keepsReports_of_ruleIds (fun ruleId => ruleId ∈ scriptReportIds) path (by decide)
    (by decide) (by decide) (by decide)

theorem keepsReports_replaces (path : Path) :
    KeepsReports (fun entry => !store.replaces (violationOf path entry).ruleId) scriptTable
      scriptFixSteps scriptReportSteps :=
  keepsReports_of_ruleIds (fun ruleId => !store.replaces ruleId) path (by decide)
    (by decide) (by decide) (by decide)

/-- Formatting a script reaches its fixed point in one run, and a second run reports what
the rules reported that replace nothing. -/
theorem format_script_settled (customIgnore : Option Pattern) (path : Path) (text : String) :
    let formatter : Formatter :=
      { language := .javaScript, store := store, customIgnore := customIgnore, linter := none }
    ∃ first second : Formatted, (formatter.format path text).outcome = .ok first ∧
      (formatter.format path first.updated).outcome = .ok second ∧
      second.updated = first.updated ∧
      (customIgnore = none → ReturnsPaired text.toList →
        (second.violations =
          first.violations.filter fun violation => violation.ruleId ∈ scriptReportIds) ∧
        second.violations =
          first.violations.filter fun violation => !store.replaces violation.ruleId) := by
  intro formatter
  obtain ⟨first, second, isFirst, isSecond, same, reported⟩ :=
    @format_settled _ _ _ formatter path (Formatter.lint_of_no_linter path rfl) (fun _ => rfl)
      ⟨whitespaceTable_provided, scriptTable_provided⟩ scriptTable_settlesLine text
  refine ⟨first, second, isFirst, isSecond, same, fun noCustom paired => ⟨?_, ?_⟩⟩
  · exact reported noCustom paired (fun ruleId => ruleId ∈ scriptReportIds)
      (keepsReports_scriptReportIds path)
  · exact reported noCustom paired (fun ruleId => !store.replaces ruleId)
      (keepsReports_replaces path)

end LineRules.Builtin
