import LineRules.Config.Read

/-!
# What reading a configuration ends with

A table is read as a configuration or refused in words that name a setting, unless one of
its settings stops the reading with a fault of another kind: a test given as a list or table,
a severity with more digits than can be written, or a pattern or template that is refused for
another reason than the way it is written. `faults` lists what the settings of a table can
stop with, and `ofTable_accounted` says that nothing else does and that an accepted table has
no such setting. Each kind of setting does stop some table (`ofTable_stopped`).
-/

namespace LineRules.Config

open LineRules.Text

/-! ## Settings that stop the reading -/

/-- What a pattern or template stops with: a refusal that does not blame the way it is
written. -/
def compileFaults {α : Type} : Except Pattern.PatternError α → List Fault
  | .ok _ => []
  | .error error => if error.isMalformed then [] else [.pattern error]

/-- What a test stops with: a list or table cannot be compared with the names of tests. -/
def testFaults : Option Value → List Fault
  | some (.list items) => [.notComparable (Value.list items).kindName]
  | some (.table entries) => [.notComparable (Value.table entries).kindName]
  | _ => []

/-- What a severity stops with: too many digits. -/
def severityFaults : Value → List Fault
  | .int number => if Decimal.isTooLong number then [.numberTooLong] else []
  | _ => []

/-- What the template of a rule stops with, if its pattern can be used. -/
def templateFaults (pattern : Except Pattern.PatternError Pattern) (template : Option String) :
    List Fault :=
  match pattern, template with
  | .ok pattern, some template => compileFaults (pattern.template template)
  | _, _ => []

/-- A truth value that may be left out. -/
def flagOf : Option Value → Bool
  | some (.bool flag) => flag
  | _ => false

/-- What the settings of a rule stop with. -/
def ruleFaults (table : Keyed Value) : List Fault :=
  let source := ((table.get? "regex").bind Value.text?).getD ""
  let pattern := Pattern.compile source (flagOf (table.get? "ignore-case"))
  compileFaults pattern ++ testFaults (table.get? "test") ++
    templateFaults pattern ((table.get? "replacer").bind Value.text?)

mutual

/-- What an entry of a rule-set stops with. -/
def entryFaults (name : String) : Value → List Fault
  | .text source => if name = ignoreName then compileFaults (Pattern.compile source) else []
  | .table table =>
    if name = ignoreName then []
    else if Keyed.has table "regex" then ruleFaults table else ruleSetFaults table
  | _ => []

/-- What the entries of a rule-set stop with. -/
def ruleSetFaults : List (String × Value) → List Fault
  | [] => []
  | (name, value) :: rest => entryFaults name value ++ ruleSetFaults rest

end

/-- What a rule-set or alias at the top stops with. -/
def topFaults : Value → List Fault
  | .table table => ruleSetFaults table
  | _ => []

/-- What the setting of a token rule stops with. -/
def tokenFaults : Value → List Fault
  | .table options => severityFaults ((Keyed.get? options "severity").getD (.text "warn"))
  | value => severityFaults value

/-- What the pattern of lines to leave alone stops with. -/
def ignoreFaults : Option Value → List Fault
  | some (.text source) =>
    if (trim source.toList).isEmpty then [] else compileFaults (Pattern.compile source)
  | _ => []

/-- What the entries of a table stop with, one after another. -/
def entriesFaults (faults : Value → List Fault) : Option Value → List Fault
  | some (.table entries) => entries.flatMap fun entry => faults entry.2
  | _ => []

/-- What the settings of a configuration stop with. -/
def faults (table : Keyed Value) : List Fault :=
  ignoreFaults (table.get? "ignore") ++
    entriesFaults tokenFaults (spelled table "token-rules" "token_rules") ++
    entriesFaults topFaults (table.get? "rules")

/-! ## Reading part by part -/

/-- A part is accepted and no setting in it could stop the reading, or a setting is refused
by its name, or one of the faults stops the reading. -/
def Accounted {α : Type} (faults : List Fault) : Except Fault α → Prop
  | .ok _ => faults = []
  | .error (.config (.setting _ _)) => True
  | .error fault => fault ∈ faults

namespace Accounted

variable {α β : Type} {first second : List Fault} {read : Except Fault α}

theorem refuse (faults : List Fault) (field : String) (problem : SettingProblem) :
    Accounted faults (Config.refuse field problem : Except Fault α) := trivial

/-- A fault of a part is one of the whole. -/
theorem error_of_subset {fault : Fault} (stopped : Accounted first (.error fault : Except Fault α))
    (within : first ⊆ second) : Accounted second (.error fault : Except Fault β) := by
  cases fault with
  | config error =>
      cases error with
      | setting field problem => trivial
      | fileNotFound | malformedFile | unreadableFile => exact within stopped
  | _ => exact within stopped

/-- Parts are read one after another, up to the first one that is not accepted. -/
theorem bind {next : α → Except Fault β} (here : Accounted first read)
    (later : ∀ value, read = .ok value → Accounted second (next value)) :
    Accounted (first ++ second) (read >>= next) := by
  cases read with
  | error fault => exact here.error_of_subset (List.subset_append_left _ _)
  | ok value =>
      obtain rfl : first = [] := here
      exact later value rfl

theorem map {f : α → β} (here : Accounted first read) : Accounted first (read.map f) := by
  cases read with
  | error fault => exact here.error_of_subset (List.Subset.refl _)
  | ok value => exact here

/-- A part that cannot stop the reading leaves that to the parts after it. -/
theorem quiet {next : α → Except Fault β} (here : Accounted [] read)
    (later : ∀ value, read = .ok value → Accounted second (next value)) :
    Accounted second (read >>= next) :=
  here.bind later

end Accounted

variable {field : String} {value : Option Value} {table : Keyed Value}

theorem readFlag_accounted (field : String) (value : Option Value) :
    Accounted [] (readFlag field value) := by
  unfold readFlag
  split <;> first | rfl | trivial

theorem readFlag_eq_ok {flag : Bool} (read : readFlag field value = .ok flag) :
    flag = flagOf value := by
  unfold readFlag at read
  split at read
  · simpa [flagOf, eq_comm] using read
  · simpa [flagOf, eq_comm] using read
  · contradiction

theorem readMessage_accounted (field : String) (value : Option Value) :
    Accounted [] (readMessage field value) := by
  unfold readMessage
  split <;> first | rfl | trivial

theorem readTemplateText_accounted (field : String) (value : Option Value) :
    Accounted [] (readTemplateText field value) := by
  unfold readTemplateText
  split <;> first | rfl | trivial

theorem readTemplateText_eq_ok {template : Option String}
    (read : readTemplateText field value = .ok template) : template = value.bind Value.text? := by
  unfold readTemplateText at read
  split at read
  · simpa [eq_comm] using read
  · simpa [Value.text?, eq_comm] using read
  · simpa [Value.text?, eq_comm] using read
  · contradiction

theorem readPolicy_accounted (field : String) (value : Option Value) :
    Accounted [] (readPolicy field value) := by
  unfold readPolicy
  split <;> first | rfl | trivial

theorem readCount_accounted (field : String) (value : Option Value) :
    Accounted [] (readCount field value) := by
  unfold readCount
  split
  · rfl
  · split
    · trivial
    · rfl
  · trivial

theorem readTest_accounted (field : String) (value : Option Value) :
    Accounted (testFaults value) (readTest field value) := by
  unfold readTest
  split
  · rfl
  · rfl
  · rfl
  · rfl
  · exact List.mem_singleton_self _
  · exact List.mem_singleton_self _
  · trivial

theorem compileSetting_accounted (field source : String) (ignoreCase : Bool) :
    Accounted (compileFaults (Pattern.compile source ignoreCase))
      (compileSetting field source ignoreCase) := by
  unfold compileSetting
  cases Pattern.compile source ignoreCase with
  | ok pattern => rfl
  | error error =>
      simp only [compileFaults]
      split
      · trivial
      · exact List.mem_singleton_self _

theorem compileSetting_eq_ok {source : String} {ignoreCase : Bool} {pattern : Pattern}
    (read : compileSetting field source ignoreCase = .ok pattern) :
    Pattern.compile source ignoreCase = .ok pattern := by
  unfold compileSetting at read
  split at read
  case h_1 compiled =>
    cases read
    exact compiled
  case h_2 => split at read <;> contradiction

theorem checkTemplate_accounted (field : String) (pattern : Pattern) (template : Option String) :
    Accounted (templateFaults (.ok pattern) template) (checkTemplate field pattern template) := by
  unfold checkTemplate
  cases template with
  | none => rfl
  | some template =>
      simp only [templateFaults]
      cases pattern.template template with
      | ok pieces => rfl
      | error error =>
          simp only [compileFaults]
          split
          · trivial
          · exact List.mem_singleton_self _

/-! ## Rules and rule-sets -/

theorem readRule_accounted (field : String) (table : Keyed Value) :
    Accounted (ruleFaults table) (readRule field table) := by
  unfold readRule ruleFaults
  rw [List.append_assoc]
  dsimp only
  split
  · trivial
  · split
    · trivial
    · refine .quiet (readFlag_accounted _ _) fun ignoreCase isFlag => ?_
      obtain rfl := readFlag_eq_ok isFlag
      refine (compileSetting_accounted _ _ _).bind fun pattern compiled => ?_
      rw [compileSetting_eq_ok compiled]
      refine .quiet (readMessage_accounted _ _) fun message _ => ?_
      refine .quiet (readTemplateText_accounted _ _) fun template isTemplate => ?_
      obtain rfl := readTemplateText_eq_ok isTemplate
      refine (readTest_accounted _ _).bind fun test _ => ?_
      refine .quiet (readFlag_accounted _ _) fun testFullItem _ => ?_
      refine .quiet (readPolicy_accounted _ _) fun ignoreInScripts _ => ?_
      refine .quiet (readCount_accounted _ _) fun count _ => ?_
      rw [← List.append_nil (templateFaults _ _)]
      exact (checkTemplate_accounted _ _ _).bind fun _ _ => rfl

mutual

theorem readEntry_accounted (field name : String) :
    ∀ value, Accounted (entryFaults name value) (readEntry field name value)
  | .text source => by
      rw [readEntry, entryFaults]
      split
      · exact (compileSetting_accounted _ _ _).map
      · rfl
  | .table table => by
      rw [readEntry, entryFaults]
      split
      · trivial
      · split
        · exact (readRule_accounted _ _).map
        · exact (readRuleSet_accounted field table).map
  | .null | .bool _ | .int _ | .float _ | .moment _ | .list _ | .tuple _ => by
      simp only [readEntry]
      trivial

theorem readRuleSet_accounted (field : String) :
    ∀ entries, Accounted (ruleSetFaults entries) (readRuleSet field entries)
  | [] => rfl
  | (name, value) :: rest => by
      rw [readRuleSet, ruleSetFaults]
      refine (readEntry_accounted (field ++ "." ++ name) name value).bind fun entry _ => ?_
      rw [← List.append_nil (ruleSetFaults rest)]
      exact (readRuleSet_accounted field rest).bind fun _ _ => rfl

end

theorem readTopEntry_accounted (field : String) (value : Value) :
    Accounted (topFaults value) (readTopEntry field value) := by
  cases value with
  | text => rfl
  | table table => exact (readRuleSet_accounted field table).map
  | _ => trivial

theorem readTopEntries_accounted (root : RuleSet) (entries : List (String × Value)) :
    Accounted (entries.flatMap fun entry => topFaults entry.2) (readTopEntries root entries) := by
  induction entries generalizing root with
  | nil => rfl
  | cons entry entries hyp =>
      obtain ⟨written, value⟩ := entry
      rw [readTopEntries, List.flatMap_cons]
      dsimp only
      split
      · trivial
      · exact (readTopEntry_accounted _ value).bind fun entry _ => hyp _

theorem readRuleSets_accounted (value : Option Value) :
    Accounted (entriesFaults topFaults value) (readRuleSets value) := by
  unfold readRuleSets
  split
  · rfl
  · rfl
  · exact readTopEntries_accounted _ _
  · trivial

/-! ## The other settings -/

theorem readSeverity_accounted (field : String) (value : Value) :
    Accounted (severityFaults value) (readSeverity field value) := by
  unfold readSeverity severityFaults
  cases value with
  | int number =>
      dsimp only
      generalize Decimal.isTooLong number = tooLong
      cases tooLong with
      | true => exact List.mem_singleton_self _
      | false =>
          generalize severityNamed? (toString number).toList = named
          cases named with
          | none => trivial
          | some severity => rfl
  | text word =>
      dsimp only [pure_bind]
      generalize severityNamed? word.toList = named
      cases named with
      | none => trivial
      | some severity => rfl
  | _ => trivial

theorem readTokenSetting_accounted (field : String) (value : Value) :
    Accounted (tokenFaults value) (readTokenSetting field value) := by
  unfold readTokenSetting
  split
  case h_1 options =>
    rw [tokenFaults, ← List.append_nil (severityFaults _)]
    exact (readSeverity_accounted _ _).bind fun _ _ => rfl
  case h_2 notTable =>
    rw [tokenFaults.eq_2 value notTable, ← List.append_nil (severityFaults _)]
    exact (readSeverity_accounted _ _).bind fun _ _ => rfl

theorem readTokenEntries_accounted (settings : Keyed TokenSetting)
    (entries : List (String × Value)) :
    Accounted (entries.flatMap fun entry => tokenFaults entry.2)
      (readTokenEntries settings entries) := by
  induction entries generalizing settings with
  | nil => rfl
  | cons entry entries hyp =>
      obtain ⟨written, value⟩ := entry
      rw [readTokenEntries, List.flatMap_cons]
      dsimp only
      split
      · exact (readTokenSetting_accounted _ value).bind fun setting _ => hyp _
      · trivial

theorem readTokenRules_accounted (value : Option Value) :
    Accounted (entriesFaults tokenFaults value) (readTokenRules value) := by
  unfold readTokenRules
  split
  · rfl
  · rfl
  · exact readTokenEntries_accounted _ _
  · trivial

theorem readIgnore_accounted (value : Option Value) :
    Accounted (ignoreFaults value) (readIgnore value) := by
  rcases value with _ | value
  · rfl
  cases value with
  | null => rfl
  | text source =>
      unfold readIgnore ignoreFaults
      dsimp only
      split
      · rfl
      · exact (compileSetting_accounted _ _ _).map
  | _ => trivial

theorem readEcmaVersion_accounted (value : Option Value) :
    Accounted [] (readEcmaVersion value) := by
  unfold readEcmaVersion
  split
  · rfl
  · rfl
  · dsimp only
    split
    · rfl
    · split <;> split <;> first | rfl | trivial
    · trivial
  · trivial

theorem readPlugins_accounted (value : Option Value) : Accounted [] (readPlugins value) := by
  unfold readPlugins
  split
  · rfl
  · rfl
  · split
    · rfl
    · trivial
  · trivial

/-! ## Configurations -/

/-- A table is read as a configuration, and then none of its settings could stop the reading,
or it is refused for a setting that is named, or what one of its settings can stop with is
what the reading ends with. -/
theorem ofTable_accounted (table : Keyed Value) (source : Option Path) :
    match ofTable table source with
    | .ok _ => faults table = []
    | .error (.config (.setting _ _)) => True
    | .error fault => fault ∈ faults table := by
  have read : Accounted (faults table) (ofTable table source) := by
    unfold ofTable faults
    rw [List.append_assoc]
    refine .quiet (readEcmaVersion_accounted _) fun ecmaVersion _ => ?_
    refine (readIgnore_accounted _).bind fun ignore _ => ?_
    refine (readTokenRules_accounted _).bind fun tokenRules _ => ?_
    refine .quiet (readPlugins_accounted _) fun plugins _ => ?_
    rw [← List.append_nil (entriesFaults topFaults _)]
    exact (readRuleSets_accounted _).bind fun _ _ => rfl
  revert read
  rcases ofTable table source with fault | config
  · cases fault with
    | config error => cases error <;> exact id
    | _ => exact id
  · exact id

/-! ## Tables that stop the reading -/

/-- What the reading stops with. -/
def stop? {α : Type} : Except Fault α → Option Fault
  | .ok _ => none
  | .error fault => some fault

theorem stop?_eq_some_iff {α : Type} {read : Except Fault α} {fault : Fault} :
    stop? read = some fault ↔ read = .error fault := by
  cases read <;> simp [stop?]

/-- A table with one rule for scripts. -/
def ruleTable (settings : Keyed Value) : Keyed Value :=
  [("rules", .table [("js", .table [("r", .table (("regex", .text "x") :: settings))])])]

/-- A list for the test of a rule, an unknown group in a template, a repetition count that is
too large, and a severity of 4301 digits stop the reading without a refusal. -/
theorem ofTable_stopped :
    ofTable (ruleTable [("test", .list [])]) = .error (.notComparable "list") ∧
      ofTable (ruleTable [("replacer", .text "\\g<a>")]) =
        .error (.pattern (.noSuchGroup ['a'])) ∧
      ofTable [("ignore", .text "x\x7b4294967295\x7d")] = .error (.pattern .countTooLarge) ∧
      ofTable [("token-rules", .table [("csf-no-var", .int (Nat.pow 10 4300))])] =
        .error .numberTooLong := by
  simp only [← stop?_eq_some_iff]
  decide +kernel

end LineRules.Config
