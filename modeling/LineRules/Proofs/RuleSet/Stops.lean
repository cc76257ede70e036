import LineRules.Proofs.Config.Accepted
import LineRules.Proofs.Files.Selection
import LineRules.Proofs.RuleSet.Every
import LineRules.Proofs.RuleSet.Tables

/-!
# What rule-sets stop with

A rule that a configuration gives can stop the work on a line in two ways only: its count does
not fit into 64 bits, or its message names an argument by a number of too many digits. A
rule-set can stop it if a rule-set stands where its ignore pattern should. `RuleSet.faults`
lists all that, and `RuleSet.refusals` what texts in the place of ignore patterns stop the
making of a store with. Making a store stops with nothing else (`compileIgnores_stopsIn`), and
running its rule-sets on a text goes on with a text or stops with one of the faults
(`Store.applyAll_endsIn`).
-/

namespace LineRules

open LineRules.Pattern LineRules.Text

/-! ## Faults of rules and rule-sets -/

/-- What a token of a message stops with: a number of too many digits. -/
def MessagePiece.fault? : MessagePiece → Option Fault
  | literal _ => none
  | token digits =>
    if Decimal.digitLimit < digits.length then some (.tooManyDigits digits.length) else none

/-- What a replacement count that is not negative stops with: more than 64 bits hold. -/
def countFaults : Value → List Fault
  | .int count => if 9223372036854775807 < count then [.countRange] else []
  | _ => []

/-- What a message stops with. -/
def MessageSpec.faults : MessageSpec → List Fault
  | template text => (messagePieces text.toList).filterMap MessagePiece.fault?
  | _ => []

/-- What a rule that a configuration gives stops with. -/
def Rule.faults (rule : Rule) : List Fault :=
  rule.message.faults ++
    match rule.replacer with
    | some (.template _) => countFaults rule.count
    | _ => []

/-- What a text stops with where it stands for an ignore pattern. -/
def ignoreFaults (source : String) : List Fault :=
  match Pattern.compile source with
  | .ok _ => []
  | .error error => [.pattern error]

/-- What a rule-set of a store stops with where it stands for an ignore pattern. -/
def ruleSetAsPattern : Fault := .rulePart .ignorePattern (Entry.kindName true (.ruleSet []))

/-- What an entry under a name is refused with, where it is a text for an ignore pattern. -/
def leafRefusals (name : String) : Entry → List Fault
  | .value (.text source) => if name = ignoreName then ignoreFaults source else []
  | _ => []

/-- What the texts for ignore patterns in a rule-set are refused with. -/
def RuleSet.refusals (entries : RuleSet) : List Fault :=
  RuleSet.collect (fun _ => []) leafRefusals entries

/-- What a rule-set under a name stops the work on a line with, apart from its entries. -/
def nodeFaults (name : String) : List Fault :=
  if name = ignoreName then [ruleSetAsPattern] else []

/-- What an entry that is no rule-set stops the work on a line with. -/
def leafFaults (_name : String) : Entry → List Fault
  | .rule rule => rule.faults
  | _ => []

/-- What the entries of a rule-set stop the work on a line with. -/
def RuleSet.faults (entries : RuleSet) : List Fault :=
  RuleSet.collect nodeFaults leafFaults entries

/-! ## Rules -/

variable {faults : List Fault} {run : Run} {text : List Char}

/-- The work goes on with a text for the line, or a fault of a list has stopped it. -/
def Progress.EndsIn (faults : List Fault) : Progress → Prop
  | going run => ∃ text, run.context.Shows text
  | stopped fault _ => fault ∈ faults

theorem Progress.EndsIn.andThen {progress : Progress} {next : Run → Progress}
    (ends : progress.EndsIn faults)
    (later : ∀ run text, run.context.Shows text → (next run).EndsIn faults) :
    (progress.andThen next).EndsIn faults := by
  cases progress with
  | going run =>
      obtain ⟨text, shows⟩ := ends
      exact later run text shows
  | stopped fault run => exact ends

theorem Progress.EndsIn.mono {others : List Fault} {progress : Progress}
    (ends : progress.EndsIn faults) (subset : faults ⊆ others) : progress.EndsIn others := by
  cases progress with
  | going run => exact ends
  | stopped fault run => exact subset ends

namespace Rule

variable {rule : Rule}

/-- A rule only stops with faults of a list, whenever the line is a text, and else leaves a
text. -/
def EndsIn (faults : List Fault) (rule : Rule) : Prop :=
  ∀ {run text}, run.context.Shows text → (rule.runOn {} run).EndsIn faults

/-- A rule whose test succeeds or fails, and whose message and replacement stop with faults of
a list only. -/
theorem endsIn_of
    (test : ∀ {context text}, context.Shows text → ∃ evidence, rule.runTest context = .ok evidence)
    (message : ∀ {context text evidence fault}, context.Shows text →
      rule.messageFor context.lineNumber context.item evidence context = .error fault →
      fault ∈ faults)
    (replace : ∀ {run text evidence}, run.context.Shows text →
      (rule.runReplacer {} evidence run).EndsIn faults) : rule.EndsIn faults := by
  intro run text shows
  obtain ⟨evidence, tested⟩ := test shows
  simp only [runOn, tested, Progress.bindExcept]
  split
  case isFalse => exact ⟨text, shows⟩
  case isTrue =>
    cases worded : rule.messageFor run.context.lineNumber run.context.item evidence run.context with
    | error fault => exact message shows worded
    | ok note =>
        have logged : (logMessage {} note run).context.Shows text := by
          rw [logMessage_context]
          exact shows
        exact replace logged

/-- A rule that is a step on lines never stops. -/
theorem Does.endsIn {step : LineStep} (does : rule.Does step) : rule.EndsIn faults := by
  intro run text shows
  rw [does.2 shows]
  split
  · exact ⟨step.change text, rfl, rfl⟩
  · exact ⟨text, shows⟩

theorem mem_faults_of_fillTemplate {template : String} {arguments : List Value} {fault : Fault}
    (stopped : fillTemplate template arguments = .error fault) :
    fault ∈ (MessageSpec.template template).faults := by
  have refused : (messagePieces template.toList).mapM
      (MessagePiece.fill (arguments.map fun value => value.shown.toList)) = .error fault := by
    rw [fillTemplate] at stopped
    cases filled : (messagePieces template.toList).mapM
        (MessagePiece.fill (arguments.map fun value => value.shown.toList)) with
    | error other => simpa [filled, bind, Except.bind] using stopped
    | ok parts => simp [filled, bind, Except.bind, pure, Except.pure] at stopped
  obtain ⟨piece, isPiece, stopped⟩ := Disk.exists_of_mapM_eq_error refused
  refine List.mem_filterMap.mpr ⟨piece, isPiece, ?_⟩
  cases piece with
  | literal text => contradiction
  | token digits =>
      rw [MessagePiece.fill] at stopped
      rw [MessagePiece.fault?]
      split at stopped
      case isTrue long =>
        cases stopped
        rw [if_pos long]
      case isFalse => contradiction

/-- A rule that a configuration gives stops with its own faults only. -/
theorem FromTable.endsIn {rule : Rule} {pattern : Pattern} (made : rule.FromTable pattern) :
    rule.EndsIn rule.faults := by
  refine endsIn_of ?_ ?_ ?_
  · intro context text shows
    have read : (if rule.testFullItem then context.fullItem else context.item).asText = .ok text := by
      rw [shows.item, shows.fullItem, ite_self, asText_ofList]
    have required : rule.requirePattern context = .ok pattern := by
      rw [requirePattern, made.regex]
    obtain isSearch | isMatch := made.test
    · simp only [runTest, isSearch, required, read, bind, Except.bind, pure, Except.pure]
      exact ⟨_, rfl⟩
    · simp only [runTest, isMatch, required, read, bind, Except.bind, pure, Except.pure]
      split
      · exact ⟨_, rfl⟩
      · exact ⟨_, rfl⟩
  · intro context text evidence fault shows stopped
    rw [messageFor] at stopped
    rw [faults, List.mem_append]
    left
    split at stopped
    case h_1 => contradiction
    case h_2 template isTemplate =>
      rw [isTemplate]
      cases filled : fillTemplate template [.int context.lineNumber, context.item] with
      | ok words => simp [filled, Except.map] at stopped
      | error other =>
          obtain rfl : other = fault := by simpa [filled, Except.map] using stopped
          exact mem_faults_of_fillTemplate filled
    case h_3 answer isCallback => exact absurd isCallback (made.message answer)
    case h_4 => contradiction
  · intro run text evidence shows
    obtain none | ⟨template, pieces, isTemplate, read⟩ := made.replacer
    · rw [runReplacer_none none]
      exact ⟨text, shows⟩
    · obtain ⟨count, isCount, positive⟩ := made.count
      by_cases large : 9223372036854775807 < count
      · have counted : countOf rule.count = .error .countRange := by
          rw [isCount, countOf, if_neg (by simp; omega)]
        have stopped : rule.replaceByTemplate template run.context = .error .countRange := by
          simp [replaceByTemplate, requirePattern, made.regex, counted, bind, Except.bind]
        simp only [runReplacer, isTemplate, stopped, Progress.bindExcept, Progress.EndsIn]
        simp [faults, isTemplate, isCount, countFaults, large]
      · have counted : countOf rule.count = .ok count := by
          rw [isCount, countOf, if_pos (by simp; omega)]
        have replaced : rule.replaceByTemplate template run.context =
            .ok (.text (String.ofList (pattern.replacePieces pieces count text))) := by
          simp [replaceByTemplate, requirePattern, made.regex, counted, read, shows.fullItem,
            asText_ofList, bind, Except.bind, Except.mapError, pure, Except.pure]
        rw [runReplacer_some isTemplate shows replaced]
        exact ⟨_, rfl, rfl⟩

end Rule

/-! ## Rule-sets -/

/-- A rule-set under a name stops with faults of a list only, as far as its name goes. -/
def NodeStopsIn (faults : List Fault) (name : String) : Prop :=
  nodeFaults name ⊆ faults

/-- An entry that is no rule-set stops the work on lines with faults of a list only, and the
making of a store with refusals of another one. -/
def LeafStopsIn (refusals faults : List Fault) (name : String) : Entry → Prop
  | .rule rule => name ≠ ignoreName ∧ rule.EndsIn faults
  | .pattern _ => True
  | .value value =>
    ∃ source, value = .text source ∧ (name = ignoreName → ignoreFaults source ⊆ refusals)
  | .ruleSet _ => False

/-- All that an entry stops with are refusals and faults of two lists. -/
def Entry.StopsIn (refusals faults : List Fault) : String → Entry → Prop :=
  Entry.Every (NodeStopsIn faults) (LeafStopsIn refusals faults)

/-- All that the entries of a rule-set stop with are refusals and faults of two lists. -/
def RuleSet.StopsIn (refusals faults : List Fault) (entries : RuleSet) : Prop :=
  entries.Every (NodeStopsIn faults) (LeafStopsIn refusals faults)

variable {refusals : List Fault} {entries : RuleSet} {name : String} {entry : Entry} {fault : Fault}

mutual

theorem compileEntry_stopsIn :
    ∀ {entry : Entry} {name : String}, entry.StopsIn refusals faults name →
      match RuleSet.compileEntry name entry with
      | .ok compiled => compiled.StopsIn [] faults name
      | .error fault => fault ∈ refusals
  | .ruleSet entries, name, every => by
      obtain ⟨named, inside⟩ := Entry.every_ruleSet_iff.mp every
      have compiled := compileIgnores_stopsIn inside
      rw [RuleSet.compileEntry]
      cases made : RuleSet.compileIgnores entries with
      | error fault =>
          rw [made] at compiled
          exact compiled
      | ok entries =>
          rw [made] at compiled
          exact .ruleSet named compiled
  | .value value, name, every => by
      obtain ⟨source, rfl, free⟩ := every.holds rfl
      rw [RuleSet.compileEntry]
      by_cases isIgnore : name = ignoreName
      · rw [if_pos isIgnore]
        cases compiled : Pattern.compile source with
        | error error => exact free isIgnore (by simp [ignoreFaults, compiled])
        | ok pattern => exact .leaf rfl trivial
      · rw [if_neg isIgnore]
        exact .leaf rfl ⟨source, rfl, fun same => absurd same isIgnore⟩
  | .rule _, _, every => .leaf rfl (every.holds rfl)
  | .pattern _, _, _ => .leaf rfl trivial

/-- The texts for ignore patterns are compiled and stop nothing any more, or one of them is
refused. -/
theorem compileIgnores_stopsIn :
    ∀ {entries : List (String × Entry)}, RuleSet.StopsIn refusals faults entries →
      match RuleSet.compileIgnores entries with
      | .ok compiled => compiled.StopsIn [] faults
      | .error fault => fault ∈ refusals
  | [], _ => RuleSet.every_nil
  | (name, entry) :: rest, every => by
      obtain ⟨holds, others⟩ := RuleSet.every_cons_iff.mp every
      have first := compileEntry_stopsIn holds
      have later := compileIgnores_stopsIn others
      rw [RuleSet.compileIgnores]
      cases made : RuleSet.compileEntry name entry with
      | error fault =>
          rw [made] at first
          exact first
      | ok entry =>
          rw [made] at first
          cases madeRest : RuleSet.compileIgnores rest with
          | error fault =>
              rw [madeRest] at later
              exact later
          | ok rest =>
              rw [madeRest] at later
              exact RuleSet.every_cons_iff.mpr ⟨first, later⟩

end

namespace RuleSet

/-- Something else than a pattern in the place of an ignore pattern stops with a fault of the
list. -/
theorem mem_faults_of_asIgnorePattern (stops : entry.StopsIn [] faults ignoreName)
    (stopped : entry.asIgnorePattern true = .error fault) : fault ∈ faults := by
  cases entry with
  | rule given => exact absurd rfl (stops.holds rfl).1
  | pattern pattern => contradiction
  | ruleSet entries =>
      cases stopped
      exact (Entry.every_ruleSet_iff.mp stops).1 (List.mem_singleton_self _)
  | value held =>
      obtain ⟨source, rfl, free⟩ := stops.holds rfl
      rw [Entry.asIgnorePattern, compileIgnore] at stopped
      cases compiled : Pattern.compile source with
      | error error =>
          have isRefused : Fault.pattern error ∈ ignoreFaults source := by
            simp [ignoreFaults, compiled]
          exact absurd (free rfl isRefused) List.not_mem_nil
      | ok pattern =>
          rw [compiled] at stopped
          contradiction

/-- Whether a line is to be worked on is told, unless something else than a pattern stands for
the ignore pattern. -/
theorem mem_faults_of_admits (stops : entries.StopsIn [] faults) {context : Context}
    (shows : context.Shows text) (stopped : entries.admits true context = .error fault) :
    fault ∈ faults := by
  have read : context.fullItem.asText = .ok text := by
    rw [shows.fullItem, asText_ofList]
  rw [admits] at stopped
  cases found : entries.get? ignoreName with
  | none =>
      simp only [found, read, pure, Except.pure, bind, Except.bind] at stopped
      split at stopped <;> contradiction
  | some entry =>
      cases own : entry.asIgnorePattern true with
      | error other =>
          simp only [found, own, bind, Except.bind] at stopped
          cases stopped
          exact mem_faults_of_asIgnorePattern (stops.get? found) own
      | ok own' =>
          simp only [found, own, read, pure, Except.pure, bind, Except.bind] at stopped
          split at stopped <;> contradiction

/-- Running the rules of a rule-set one after another. -/
theorem runRules_endsIn (stops : entries.StopsIn [] faults) (shows : run.context.Shows text) :
    (entries.runRules {} name run).EndsIn faults := by
  induction entries generalizing run text with
  | nil => exact ⟨text, shows⟩
  | cons first entries hyp =>
      obtain ⟨ruleName, entry⟩ := first
      obtain ⟨holds, others⟩ := every_cons_iff.mp stops
      cases entry with
      | rule given =>
          have next : ∀ run text, run.context.Shows text →
              (runRules {} name entries run).EndsIn faults := fun _ _ shows => hyp others shows
          have apply : Progress.EndsIn faults (if given.appliesTo ruleName run.context then
              (given.runOn {} (run.underRule name ruleName)).andThen (runRules {} name entries)
            else runRules {} name entries run) := by
            split
            case isTrue => exact ((holds.holds rfl).2 (Run.shows_underRule shows)).andThen next
            case isFalse => exact hyp others shows
          exact apply
      | pattern | ruleSet | value => exact hyp others shows

end RuleSet

/-! ## Stores -/

namespace Store

variable {store : Store}

/-- Running a rule-set of a store. -/
theorem apply_endsIn (stops : store.root.StopsIn [] faults) (name : String)
    (shows : run.context.Shows text) : (store.apply {} (.named name) run).EndsIn faults := by
  rw [apply, lookup]
  cases found : store.lookupName name with
  | none => exact ⟨text, shows⟩
  | some entries =>
      have inside : entries.StopsIn [] faults := every_of_lookupName stops found
      dsimp only
      cases admitted : entries.admits true run.context with
      | error fault => exact RuleSet.mem_faults_of_admits inside shows admitted
      | ok works =>
          simp only [Progress.bindExcept]
          split
          · exact RuleSet.runRules_endsIn inside shows
          · exact ⟨text, shows⟩

/-- Running rule-sets of a store one after another. -/
theorem applyAll_endsIn (stops : store.root.StopsIn [] faults) (names : List String)
    (shows : run.context.Shows text) :
    (store.applyAll {} (names.map .named) run).EndsIn faults := by
  induction names generalizing run text with
  | nil => exact ⟨text, shows⟩
  | cons name names hyp =>
      exact (apply_endsIn stops name shows).andThen fun _ _ later => hyp later

end Store

end LineRules
