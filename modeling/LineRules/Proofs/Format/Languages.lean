import LineRules.Proofs.Format.FixedPoint
import LineRules.Proofs.Format.Stops
import LineRules.Proofs.Page.Lines

/-!
# The rule-sets of languages

Whatever the language of a file and the blocks in a page, every line gets the rules for
every file and then those of a language, of which there are five. Each of them tells its
changes (`LanguageTable`), and every plan of a file is a choice of one for each line
(`exists_chosen_of_plan`).
-/

namespace LineRules

open LineRules.Text

/-- The rule with an id: its name stands after the last point, the name of its rule-set,
aliases included, before it. -/
def Store.ruleNamed? (store : Store) (ruleId : String) : Option Rule := do
  let path := segments ruleId
  let entries ← store.lookupName (".".intercalate path.dropLast)
  match entries.get? (path.getLast?.getD "") with
  | some (.rule rule) => some rule
  | _ => none

/-- Whether an id, under whatever name of its rule-set, is that of a rule that replaces
text. -/
def Store.replacesText (store : Store) (ruleId : String) : Bool :=
  (store.ruleNamed? ruleId).any fun rule => rule.replacer.isSome

/-- Whether a violation was reported by a rule for lines that replaces text. -/
def Store.isFixable (store : Store) (violation : Violation) : Bool :=
  violation.origin = .line && store.replacesText violation.ruleId

/-- A store that has a table has it under every name of it. -/
theorem Store.Provides.rename {store : Store} {table : LineTable} (provides : store.Provides table)
    {name : String} (same : store.lookupName name = store.lookupName table.name) :
    store.Provides { table with name := name } := by
  obtain ⟨entries, isEntries, does, own⟩ := provides
  exact ⟨entries, same.trans isEntries, does, own⟩

namespace Builtin

open LineRules.Format

theorem scriptTable_tells : TellsLine scriptTable scriptFixSteps scriptReportSteps := by
  refine scriptTable_settlesLine.tells ?_ ?_
  · have steps : scriptFixSteps = [("anonymous_function_spacing", _), ("function_brace_spacing", _),
        ("keyword_spacing", _), ("else_leading_space", _), ("else_trailing_space", _),
        ("space_before_semicolon", _)] := rfl
    rw [steps]
    simp only [List.mem_cons, List.not_mem_nil, or_false, forall_eq_or_imp, forall_eq]
    refine ⟨?_, ?_, ?_, ?_, ?_, ?_⟩
    all_goals exact ⟨_, by decide, fun _ _ => rfl⟩
  · intro text _
    refine @scriptFixSteps_induction (fun out => out = [] → text = []) text id ?_
    rintro fix _ middle _ edited hyp rfl
    exact hyp (Gap.eq_nil_of_edited edited)

theorem styleTable_tells : TellsLine styleTable styleSteps [] := by
  refine styleTable_settlesLine.tells ?_ ?_
  · have steps : styleSteps = [("hex_uppercase", _), ("hex_shorthand", _),
        ("property_colon_spacing", _), ("zero_units", _)] := rfl
    rw [steps]
    simp only [List.mem_cons, List.not_mem_nil, or_false, forall_eq_or_imp, forall_eq]
    refine ⟨?_, ?_, ?_, ?_⟩
    all_goals exact ⟨_, by decide, fun _ _ => rfl⟩
  · intro text oneLine
    refine @styleSteps_induction _ (fun out => out = [] → text = []) oneLine id ?_
    rintro edit middle _ isEdit edited hyp rfl
    exact hyp (List.head?_eq_none_iff.mp (isEdit.head?_of_edited edited).symm)

/-- Of the rules under a name, those that change lines replace text, and the others do not. -/
def SplitsByReplacement (name : String) (fixes reports : Steps) : Prop :=
  (∀ step ∈ fixes, store.replacesText (name ++ "." ++ step.1) = true) ∧
    ∀ step ∈ reports, store.replacesText (name ++ "." ++ step.1) = false

instance (name : String) (fixes reports : Steps) :
    Decidable (SplitsByReplacement name fixes reports) :=
  inferInstanceAs (Decidable (_ ∧ _))

theorem whitespace_splits : SplitsByReplacement "common" whitespaceFixes whitespaceReports := by
  decide +kernel

theorem script_splits : ∀ name ∈ ["js", "html.script"],
    SplitsByReplacement name scriptFixSteps scriptReportSteps := by
  decide +kernel

theorem style_splits : ∀ name ∈ ["css", "html.style"], SplitsByReplacement name styleSteps [] := by
  decide +kernel

theorem page_splits : SplitsByReplacement "html" pageSteps [] := by
  decide +kernel

/-- The messages of rules that replace text are those that have a remedy. -/
theorem keepsReports_isFixable {table : LineTable} {fixes reports : Steps} (path : Path)
    (splits : SplitsByReplacement table.name fixes reports) :
    KeepsReports (fun entry => !store.isFixable (violationOf path entry)) table fixes reports := by
  have byId : (fun entry => !store.isFixable (violationOf path entry)) =
      fun entry => !store.replacesText (violationOf path entry).ruleId := by
    funext entry
    simp [Store.isFixable, violationOf]
  rw [byId]
  refine keepsReports_of_ruleIds (fun ruleId => !store.replacesText ruleId) path ?_ ?_ ?_ ?_
  · exact fun step isStep => by rw [whitespace_splits.1 step isStep]; rfl
  · exact fun step isStep => by rw [whitespace_splits.2 step isStep]; rfl
  · exact fun step isStep => by rw [splits.1 step isStep]; rfl
  · exact fun step isStep => by rw [splits.2 step isStep]; rfl

/-- A rule-set of a language: what the store has under its name, and that it tells its
changes. -/
structure LanguageTable where
  table : LineTable
  fixes : Steps
  reports : Steps
  provided : store.Provides table
  tells : TellsLine table fixes reports
  keeps (path : Path) :
    KeepsReports (fun entry => !store.isFixable (violationOf path entry)) table fixes reports

namespace LanguageTable

/-- The rules for scripts, in files of their own. -/
def script : LanguageTable where
  table := scriptTable
  fixes := scriptFixSteps
  reports := scriptReportSteps
  provided := scriptTable_provided
  tells := scriptTable_tells
  keeps path := keepsReports_isFixable path (script_splits _ (by decide))

/-- The rules for style sheets, in files of their own. -/
def style : LanguageTable where
  table := styleTable
  fixes := styleSteps
  reports := []
  provided := styleTable_provided
  tells := styleTable_tells
  keeps path := keepsReports_isFixable path (style_splits _ (by decide))

/-- The rules for pages. -/
def page : LanguageTable where
  table := pageTable
  fixes := pageSteps
  reports := []
  provided := pageTable_provided
  tells := pageTable_tells
  keeps path := keepsReports_isFixable path page_splits

/-- The rules for the code in a block of a page. -/
def ofBlock : Block → LanguageTable
  | .script => {
      table := { scriptTable with name := "html.script" }
      fixes := scriptFixSteps
      reports := scriptReportSteps
      provided := scriptTable_provided.rename rfl
      tells := scriptTable_tells.rename _
      keeps := fun path => keepsReports_isFixable path (script_splits _ (by decide)) }
  | .style => {
      table := { styleTable with name := "html.style" }
      fixes := styleSteps
      reports := []
      provided := styleTable_provided.rename rfl
      tells := styleTable_tells.rename _
      keeps := fun path => keepsReports_isFixable path (style_splits _ (by decide)) }

/-- The rule-sets that lines get under a choice. -/
def refs (choice : LanguageTable) : List String := ["common", choice.table.name]

theorem refs_ofBlock (block : Block) : (ofBlock block).refs = ["common", "html." ++ block.tag] := by
  cases block <;> rfl

/-- The built-in rules have both tables that a line is run through under a choice. -/
theorem provides_pair (choice : LanguageTable) :
    ∀ table ∈ [whitespaceTable, choice.table], store.Provides table := by
  intro table isTable
  rcases List.mem_pair.mp isTable with rfl | rfl
  · exact whitespaceTable_provided
  · exact choice.provided

end LanguageTable

end Builtin

namespace Format

open LineRules.Builtin

/-- Lines, each with a rule-set of a language. -/
abbrev Chosen := List (Line × LanguageTable)

theorem exists_chosen_of_planPage {block : Option Block} {lines : List Line}
    {plans : List (List String)} (isPlan : planPage block (lines.map Line.content) = .ok plans) :
    ∃ chosen : Chosen, chosen.map Prod.fst = lines ∧
      plans = chosen.map fun choice => choice.2.refs := by
  induction lines generalizing block plans with
  | nil =>
      obtain rfl := Except.ok.inj isPlan
      exact ⟨[], rfl, rfl⟩
  | cons line lines hyp =>
      have onward : ∀ {next : Option Block} (choice : LanguageTable),
          (do
            let plan ← planPage next (lines.map Line.content)
            return choice.refs :: plan) = .ok plans →
          ∃ chosen : Chosen, chosen.map Prod.fst = line :: lines ∧
            plans = chosen.map fun choice => choice.2.refs := by
        intro next choice isPlan
        obtain ⟨rest, isRest, isPlan⟩ := bind_eq_ok.mp isPlan
        obtain ⟨chosen, given, rfl⟩ := hyp isRest
        obtain rfl := Except.ok.inj isPlan
        exact ⟨(line, choice) :: chosen, by rw [List.map_cons, given], rfl⟩
      cases block with
      | some block =>
          rw [List.map_cons, planPage] at isPlan
          split at isPlan
          · exact onward .page isPlan
          · exact onward (.ofBlock block) (by rwa [LanguageTable.refs_ofBlock])
      | none =>
          rw [List.map_cons, planPage] at isPlan
          obtain ⟨opened, _, isPlan⟩ := bind_eq_ok.mp isPlan
          cases opened with
          | none => exact onward .page isPlan
          | some opened => exact onward .page isPlan

/-- Every line of a file gets the rules for every file and then those of a language. -/
theorem exists_chosen_of_plan {language : Language} {lines : List Line}
    {plans : List (List String)} (isPlan : plan language (lines.map Line.content) = .ok plans) :
    ∃ chosen : Chosen, chosen.map Prod.fst = lines ∧
      plans = chosen.map fun choice => choice.2.refs := by
  have alike : ∀ choice : LanguageTable,
      (Except.ok ((lines.map Line.content).map fun _ => choice.refs) : Except Fault _) = .ok plans →
      ∃ chosen : Chosen, chosen.map Prod.fst = lines ∧
        plans = chosen.map fun choice => choice.2.refs := by
    intro choice isPlan
    obtain rfl := Except.ok.inj isPlan
    exact ⟨lines.map fun line => (line, choice), by simp [Function.comp_def], by simp⟩
  cases language with
  | javaScript => exact alike .script isPlan
  | css => exact alike .style isPlan
  | html => exact exists_chosen_of_planPage isPlan

/-! ## Lines under a choice -/

/-- Lines with the tables of their choice. -/
def Chosen.planned (chosen : Chosen) : List Planned :=
  chosen.map fun choice => (choice.1, [whitespaceTable, choice.2.table])

theorem Chosen.fst_planned (chosen : Chosen) :
    chosen.planned.map Prod.fst = chosen.map Prod.fst := by
  rw [planned, List.map_map]
  rfl

theorem Chosen.provides (chosen : Chosen) :
    ∀ planned ∈ chosen.planned, ∀ table ∈ planned.2, store.Provides table := by
  intro other isOther
  obtain ⟨choice, _, rfl⟩ := List.mem_map.mp isOther
  exact choice.2.provides_pair

theorem Chosen.names_planned (chosen : Chosen) :
    (chosen.planned.map fun planned => planned.2.map LineTable.name) =
      chosen.map fun choice => choice.2.refs := by
  rw [planned, List.map_map]
  rfl

/-- What becomes of lines under a choice. -/
def Chosen.settled (chosen : Chosen) (customIgnore : Option Pattern) : List Line :=
  chosen.map fun choice => Format.settled choice.2.table choice.2.fixes customIgnore choice.1

variable {chosen : Chosen} {executable : Bool} {customIgnore : Option Pattern} {number : Nat}

theorem Chosen.runLines_fst (oneLine : ∀ choice ∈ chosen, OneLine choice.1.content) :
    (runLines executable customIgnore number chosen.planned).1 = chosen.settled customIgnore := by
  refine runLines_map_fst (fun choice isChoice _ => ?_) number
  rw [runPlanned, runAll_fst choice.2.tells.toInTurn (oneLine choice isChoice)]
  rfl

/-- The lines come out as they were exactly if nothing was reported that has a remedy. -/
theorem Chosen.settled_eq_iff (oneLine : ∀ choice ∈ chosen, OneLine choice.1.content)
    (path : Path) : chosen.settled customIgnore = chosen.map Prod.fst ↔
      ∀ entry ∈ (runLines executable customIgnore number chosen.planned).2,
        store.isFixable (violationOf path entry) = false := by
  induction chosen generalizing number with
  | nil => simp [settled, planned, runLines]
  | cons choice chosen hyp =>
      obtain ⟨here, others⟩ := List.forall_mem_cons.mp oneLine
      have first := @runAll_same_iff _ _ _ ⟨number, executable, customIgnore⟩ _ _ choice.2.tells here
        (choice.2.keeps path)
      have rest := @hyp (number + 1) others
      simp only [Bool.not_eq_true'] at first
      simp only [planned, settled, List.map_cons, runLines, runPlanned, List.forall_mem_append,
        List.cons.injEq] at rest ⊢
      rw [rest, ← first, Format.settled]
      refine and_congr_left' ⟨fun same => congrArg Line.content same, fun same => ?_⟩
      rw [same]

end Format

end LineRules
