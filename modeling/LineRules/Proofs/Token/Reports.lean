import Mathlib.Data.Int.Order.Basic
import Mathlib.Data.Prod.Lex
import LineRules.Proofs.RuleSet.Overlay
import LineRules.Proofs.Token.Ids
import LineRules.Proofs.Token.Loading
import LineRules.Token.Lint

/-!
# What token rules report

The settings of a configuration lie over those for newer editions, and these over the base ones:
`effectiveSetting?` says which one counts for an id, and `settingOrder` in which order the ids
come. What is reported is what the active rules find, id after id (`reportsUnder`), in a stable
sort by place (`IsStableSort`), which is unique (`IsStableSort.unique`): `lint_reports`.
-/

namespace LineRules.Token

variable {registry : Registry} {config : Config} {path : Path} {text id : String}
  {tree : SyntaxNode}

/-! ## Registries -/

/-- Registries that come from registering rules. -/
inductive Registry.Built : Registry → Prop where
  | empty : Built {}
  | register {registry next : Registry} {rule : TokenRule} (built : Built registry)
      (registered : registry.register rule = .ok next) : Built next

theorem Registry.Built.exists_rules (built : registry.Built) :
    ∃ rules, BuiltFrom rules registry := by
  induction built with
  | empty => exact ⟨[], .empty⟩
  | register _ registered hyp =>
      obtain ⟨rules, built⟩ := hyp
      exact ⟨_, built.register registered⟩

/-- Every rule is registered under its own id. -/
theorem Registry.Built.id_eq (built : registry.Built) {rule : TokenRule}
    (found : registry.get? id = some rule) : rule.id = id := by
  obtain ⟨rules, built⟩ := built.exists_rules
  exact (built.of_get? found).1

theorem Registry.Built.registerAll (built : registry.Built) (notices : List Notice)
    (rules : List TokenRule) : (registry.registerAll notices rules).registry.Built := by
  induction rules generalizing registry notices with
  | nil => exact built
  | cons rule rules hyp =>
      rw [Registry.registerAll]
      cases registered : registry.register rule with
      | error => exact built
      | ok next => exact hyp (.register built registered) _

/-- Loading the built-in rules and plugins is registering rules. -/
theorem Registry.Built.load (built : registry.Built) (modules : Modules) (specs : List String) :
    (registry.load modules specs).registry.Built := by
  have builtin := built.registerAll [] builtinRules
  rw [Registry.load]
  split
  · exact builtin
  · split
    · exact builtin
    · dsimp only
      split
      · exact builtin.registerAll _ _
      · exact builtin.registerAll _ _

/-! ## Settings -/

/-- The setting that counts for an id: that of the configuration, else that for newer editions, else
the base one. -/
def effectiveSetting? (config : Config) (id : String) : Option TokenSetting :=
  (config.tokenRules.get? id).or
    ((if 5 < config.ecmaVersion then newerSettings.get? id else none).or (baseSettings.get? id))

/-- The ids with settings: the base ones, then the further ones of the configuration. -/
def settingOrder (config : Config) : List String :=
  baseSettings.names ++ config.tokenRules.names.filter fun id => id ∉ baseSettings.names

theorem get?_resolveSettings (once : config.tokenRules.names.Nodup) (id : String) :
    (resolveSettings config).get? id = effectiveSetting? config id := by
  have newer : newerSettings.names.Nodup := by decide
  rw [resolveSettings, Keyed.get?_update once, effectiveSetting?]
  split
  · rw [Keyed.get?_update newer]
  · rw [Option.none_or]

theorem names_resolveSettings (once : config.tokenRules.names.Nodup) :
    (resolveSettings config).names = settingOrder config := by
  have base : (baseSettings.update newerSettings).names = baseSettings.names := by decide
  rw [resolveSettings, Keyed.names_update once, settingOrder]
  split
  · rw [base]
  · rfl

theorem nodup_resolveSettings (config : Config) : (resolveSettings config).names.Nodup := by
  rw [resolveSettings]
  refine Keyed.nodup_update ?_ _
  split <;> decide

/-- The rule of an id with its setting, if it is registered and not turned off. -/
def active? (registry : Registry) (config : Config) (id : String) :
    Option (TokenRule × TokenSetting) :=
  (effectiveSetting? config id).bind fun setting =>
    if setting.severity = .off then none else (registry.get? id).map (·, setting)

theorem activeRules_eq (once : config.tokenRules.names.Nodup) :
    activeRules registry (resolveSettings config) =
      (settingOrder config).filterMap (active? registry config) := by
  rw [activeRules, ← Keyed.filterMap_names (nodup_resolveSettings config),
    List.filterMap_filterMap, names_resolveSettings once]
  refine congrArg (List.filterMap · _) (funext fun id => ?_)
  rw [get?_resolveSettings once, active?]
  cases effectiveSetting? config id <;> rfl

/-! ## Sorting by place -/

/-- Where a violation stands; an unknown line or column counts as zero. -/
def placeOf (violation : Violation) : Int ×ₗ Int :=
  toLex (violation.line?.getD 0, violation.column?.getD 0)

theorem placeLe_iff {a b : Violation} : placeLe a b = true ↔ placeOf a ≤ placeOf b := by
  simp [placeLe, placeOf, Prod.Lex.toLex_le_toLex]

/-- The one list is the other one sorted by place, in which violations of one place keep their
order. -/
structure IsStableSort (unsorted sorted : List Violation) : Prop where
  ordered : sorted.Pairwise fun a b => placeOf a ≤ placeOf b
  kept : ∀ place, sorted.filter (placeOf · = place) = unsorted.filter (placeOf · = place)

namespace IsStableSort

variable {unsorted sorted other : List Violation}

theorem mergeSort (unsorted : List Violation) :
    IsStableSort unsorted (unsorted.mergeSort placeLe) := by
  have trans : ∀ a b c, placeLe a b = true → placeLe b c = true → placeLe a c = true := by
    intro a b c
    simpa only [placeLe_iff] using le_trans
  have total : ∀ a b, (placeLe a b || placeLe b a) = true := by
    intro a b
    simpa only [Bool.or_eq_true, placeLe_iff] using le_total (placeOf a) (placeOf b)
  refine ⟨?ordered, fun place => ?kept⟩
  case ordered =>
    simpa only [placeLe_iff] using List.pairwise_mergeSort trans total unsorted
  case kept =>
    have here : (unsorted.filter (placeOf · = place)).Pairwise fun a b => placeLe a b = true := by
      refine List.pairwise_of_forall_mem_list fun a isHere b isThere => placeLe_iff.mpr ?_
      rw [List.mem_filter, decide_eq_true_eq] at isHere isThere
      rw [isHere.2, isThere.2]
    have within := (List.sublist_mergeSort trans total here List.filter_sublist).filter
      (placeOf · = place)
    simp only [List.filter_filter, Bool.and_self] at within
    exact (within.eq_of_length
      ((List.mergeSort_perm unsorted placeLe).filter _).length_eq.symm).symm

/-- Sorting loses nothing and reports nothing twice. -/
theorem perm (sort : IsStableSort unsorted sorted) : sorted.Perm unsorted := by
  rw [List.perm_iff_count]
  intro violation
  have alike : ∀ list : List Violation, list.count violation =
      (list.filter (placeOf · = placeOf violation)).count violation := by
    intro list
    rw [List.count_filter (by simp)]
  rw [alike sorted, alike unsorted, sort.kept]

/-- In a sorted list that has the violations of another one at each place, nothing stands before
the first violation of the other one. -/
private theorem first_le {a b : Violation} {rest : List Violation}
    (ordered : (a :: rest).Pairwise fun a b => placeOf a ≤ placeOf b)
    (isMember : b ∈ (a :: rest).filter (placeOf · = placeOf b)) : placeOf a ≤ placeOf b := by
  rcases List.mem_cons.mp (List.mem_of_mem_filter isMember) with rfl | later
  · exact le_rfl
  · exact List.rel_of_pairwise_cons ordered later

/-- There is one stable sort only. -/
theorem unique (sort : IsStableSort unsorted sorted) (otherSort : IsStableSort unsorted other) :
    sorted = other := by
  have same : ∀ place, sorted.filter (placeOf · = place) = other.filter (placeOf · = place) :=
    fun place => (sort.kept place).trans (otherSort.kept place).symm
  obtain ⟨ordered, -⟩ := sort
  obtain ⟨otherOrdered, -⟩ := otherSort
  induction sorted generalizing other with
  | nil =>
      cases other with
      | nil => rfl
      | cons b rest => simpa using same (placeOf b)
  | cons a rest hyp =>
      cases other with
      | nil => simpa using same (placeOf a)
      | cons b others =>
          have level : placeOf a = placeOf b := le_antisymm
            (first_le ordered (by rw [same]; simp)) (first_le otherOrdered (by rw [← same]; simp))
          obtain ⟨rfl, _⟩ : a = b ∧ rest.filter (placeOf · = placeOf b) =
              others.filter (placeOf · = placeOf b) := by
            simpa [level] using same (placeOf b)
          refine congrArg (a :: ·) (hyp ?_ (List.Pairwise.of_cons ordered)
            (List.Pairwise.of_cons otherOrdered))
          intro place
          have here := same place
          rw [List.filter_cons, List.filter_cons] at here
          split at here
          · exact (List.cons.inj here).2
          · exact here

end IsStableSort

/-! ## Reports -/

/-- A finding, as it is reported. -/
def reportOf (path : Path) (id : String) (severity : TokenSeverity) (finding : Finding) :
    Violation where
  ruleId := id
  severity := match severity with
    | .error => .error
    | .warn | .off => .warn
  message := "Line " ++ toString finding.line ++ ": " ++ finding.message ++ " (" ++ id ++ ")"
  location := some ⟨some path, some finding.line, some finding.column⟩
  origin := .token

/-- What is reported under an id: the findings of its rule under its setting, and nothing if there
is no such rule or setting or the rule is turned off. -/
def reportsUnder (registry : Registry) (config : Config) (path : Path) (text : String)
    (tree : SyntaxNode) (id : String) : Except Fault (List Violation) :=
  match registry.get? id, effectiveSetting? config id with
  | some rule, some ⟨severity, options⟩ =>
    if severity = .off then .ok []
    else (rule.check ⟨path, text, some tree, options⟩).map fun findings =>
      findings.map (reportOf path id severity)
  | _, _ => .ok []

theorem violationOf_eq {rule : TokenRule} (named : rule.id = id) (setting : TokenSetting) :
    violationOf path rule setting = reportOf path id setting.severity := by
  funext finding
  obtain ⟨severity, options⟩ := setting
  cases severity <;> simp [violationOf, reportOf, named]

theorem reportsUnder_of_none (inactive : active? registry config id = none) :
    reportsUnder registry config path text tree id = .ok [] := by
  rw [reportsUnder]
  rw [active?] at inactive
  cases registered : registry.get? id with
  | none => rfl
  | some rule =>
      cases set : effectiveSetting? config id with
      | none => rfl
      | some setting =>
          have off : setting.severity = .off := by
            simpa [set, registered] using inactive
          exact if_pos off

theorem reportsUnder_of_some (built : registry.Built) {rule : TokenRule} {setting : TokenSetting}
    (active : active? registry config id = some (rule, setting)) :
    reportsUnder registry config path text tree id =
      (rule.check ⟨path, text, some tree, setting.options⟩).map fun findings =>
        findings.map (violationOf path rule setting) := by
  obtain ⟨held, set, active⟩ := Option.bind_eq_some_iff.mp active
  split at active
  case isTrue => contradiction
  case isFalse seen =>
    obtain ⟨found, registered, same⟩ := Option.map_eq_some_iff.mp active
    obtain ⟨rfl, rfl⟩ := Prod.mk.inj same
    rw [reportsUnder, registered, set, violationOf_eq (built.id_eq registered)]
    exact if_neg seen

/-- Rules that are run one after another report what they find, id after id. -/
theorem findViolations_filterMap (built : registry.Built) (ids : List String) :
    findViolations path text tree (ids.filterMap (active? registry config)) =
      (ids.mapM (reportsUnder registry config path text tree)).map List.flatten := by
  induction ids with
  | nil => rfl
  | cons id ids hyp =>
      rw [List.filterMap_cons, List.mapM_cons]
      cases active : active? registry config id with
      | none =>
          rw [reportsUnder_of_none active]
          simp only [hyp]
          cases ids.mapM (reportsUnder registry config path text tree) <;> rfl
      | some found =>
          obtain ⟨rule, setting⟩ := found
          rw [reportsUnder_of_some built active]
          simp only [findViolations, hyp]
          cases rule.check ⟨path, text, some tree, setting.options⟩ with
          | error fault => rfl
          | ok findings => cases ids.mapM (reportsUnder registry config path text tree) <;> rfl

/-- A syntax tree is given, or no tree is given and the parser finds it. -/
def IsTreeOf (grammar : Grammar) (text : String) (given : Option SyntaxNode) (tree : SyntaxNode) :
    Prop :=
  given = some tree ∨ given = none ∧ ∃ parse, grammar = .installed parse ∧ parse text = some tree

theorem lint_eq {grammar : Grammar} {given : Option SyntaxNode}
    (isTree : IsTreeOf grammar text given tree) :
    lint registry config grammar path text given =
      .ofExcept ((findViolations path text tree (activeRules registry (resolveSettings config))).map
        (·.mergeSort placeLe)) := by
  unfold lint
  cases activeRules registry (resolveSettings config) with
  | nil => simp [findViolations, Except.map, Noted.ofExcept, pure]
  | cons rule rules =>
      have sorts : ∀ found : Except Fault (List Violation),
          ((do return (← found).mergeSort placeLe) : Noted (List Violation)) =
            .ofExcept (found.map (·.mergeSort placeLe)) := by
        intro found
        cases found <;> rfl
      obtain rfl | ⟨rfl, parse, rfl, isParsed⟩ := isTree
      · exact sorts _
      · simp only [isParsed]
        exact sorts _

/-- What token rules report of a syntax tree: the findings of the rules that are registered and not
turned off, id after id in the order of the settings, each finding once, in a stable sort by line
and column. If one of the checks fails, its fault is the outcome. Settings that were read have no id
twice (`nodup_tokenRules`), and a registry that was loaded is built (`Registry.Built.load`). -/
theorem lint_reports (built : registry.Built) (once : config.tokenRules.names.Nodup)
    {grammar : Grammar} {given : Option SyntaxNode} (isTree : IsTreeOf grammar text given tree) :
    match (settingOrder config).mapM (reportsUnder registry config path text tree) with
    | .ok found => ∃ sorted, IsStableSort found.flatten sorted ∧
        lint registry config grammar path text given = ⟨.ok sorted, []⟩
    | .error fault => lint registry config grammar path text given = ⟨.error fault, []⟩ := by
  rw [lint_eq isTree, activeRules_eq once, findViolations_filterMap built]
  cases (settingOrder config).mapM (reportsUnder registry config path text tree) with
  | ok found => exact ⟨_, .mergeSort _, rfl⟩
  | error fault => rfl

/-- Two built-in rules find one declaration, and are reported in the order of the settings. -/
theorem lint_reports_declaration :
    let config : Config := { tokenRules := [("csf-no-var", { severity := .error })] }
    let declarator : SyntaxNode := .mk (some "variable_declarator") none (0, 0) none
    let tree : SyntaxNode :=
      .mk (some "variable_declaration") (some (1, 0)) (0, 0) (some [declarator, declarator])
    let place : Location := ⟨some (.ofString "a.js"), some 2, some 1⟩
    ∃ sorted, IsStableSort
        [⟨"csf-no-multiple-vars", .error,
            "Line 2: Each variable should have its own declaration (csf-no-multiple-vars)",
            some place, .token⟩,
          ⟨"csf-no-var", .error, "Line 2: Use let or const instead of var (csf-no-var)",
            some place, .token⟩] sorted ∧
      lint (Registry.load {} [] []).registry config .missing (.ofString "a.js") "" (some tree) =
        ⟨.ok sorted, []⟩ := by
  intro config declarator tree place
  have once : config.tokenRules.names.Nodup := by decide
  have isTree : IsTreeOf .missing "" (some tree) tree := .inl rfl
  exact lint_reports (Registry.Built.empty.load [] []) once isTree

end LineRules.Token
