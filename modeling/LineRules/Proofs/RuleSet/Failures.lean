import LineRules.Proofs.RuleSet.Renamed
import LineRules.Proofs.RuleSet.Stops
import LineRules.Proofs.RuleSet.Tracking

/-!
# How rule-sets stop

A rule fails in its test, in its message or in its replacement (`Rule.Fails`), and unless
formatting fails it has done nothing by then but to note its message. A rule-set stops where a rule
fails that has its turn (`RuleSet.Reaches`), so the line is left as the rules before that one left
it (`Store.apply_stopped`).

A rule without a pattern that needs one (`Rule.LacksPattern`) fails, and is blamed by its names. If
no callback does so, then nothing else is blamed in this way.
-/

namespace LineRules

open LineRules.Pattern
open TwoNames (shownName requirePattern_of_none)

variable {rule : Rule} {hooks : Hooks} {run later before : Run} {fault : Fault}

/-! ## Rules that have their turn -/

theorem Progress.andThen_assoc (progress : Progress) (next last : Run → Progress) :
    (progress.andThen next).andThen last =
      progress.andThen fun run => (next run).andThen last := by
  cases progress <;> rfl

namespace RuleSet

variable {entries : RuleSet} {ruleSetName name : String}

/-- The rules of two rule-sets run one after another. -/
theorem runRules_append (first second : RuleSet) (run : Run) :
    runRules hooks ruleSetName (first ++ second) run =
    (runRules hooks ruleSetName first run).andThen (runRules hooks ruleSetName second) := by
  induction first generalizing run with
  | nil => rfl
  | cons member first hyp =>
      obtain ⟨name, entry⟩ := member
      cases entry with
      | pattern | ruleSet | value => exact hyp run
      | rule rule =>
          rw [List.cons_append, runRules_cons_rule, runRules_cons_rule]
          split
          case isFalse => exact hyp run
          case isTrue => rw [Progress.andThen_assoc, funext hyp]

theorem runRules_cons (member : String × Entry) (entries : RuleSet) (run : Run) :
    runRules hooks ruleSetName (member :: entries) run =
      (runRules hooks ruleSetName [member] run).andThen (runRules hooks ruleSetName entries) :=
  runRules_append [member] entries run

/-- A rule among the entries has its turn: the ones before it did not stop the work, and it is run
on the line. -/
def Reaches (entries : RuleSet) (hooks : Hooks) (ruleSetName : String) (run : Run) (name : String)
    (rule : Rule) (before : Run) : Prop :=
  ∃ earlier rest, entries = earlier ++ (name, .rule rule) :: rest ∧
    runRules hooks ruleSetName earlier run = .going before ∧
    rule.appliesTo name before.context = true

end RuleSet

/-! ## Rules that fail -/

namespace Rule

/-- A rule fails with a fault, and leaves the work behind: in its test, in its message, or in its
replacement, before which it has noted its message. -/
inductive Fails (rule : Rule) (hooks : Hooks) (run : Run) (fault : Fault) : Run → Prop where
  | test (tested : rule.runTest run.context = .error fault) : Fails rule hooks run fault run
  | message {evidence : Evidence} (tested : rule.runTest run.context = .ok evidence)
      (fires : evidence.isTruthy = true)
      (worded : rule.messageFor run.context.lineNumber run.context.item evidence run.context =
        .error fault) : Fails rule hooks run fault run
  | replacement {evidence : Evidence} {message : Value} {replacer : ReplacerSpec}
      (tested : rule.runTest run.context = .ok evidence) (fires : evidence.isTruthy = true)
      (worded : rule.messageFor run.context.lineNumber run.context.item evidence run.context =
        .ok message)
      (isReplacer : rule.replacer = some replacer)
      (replaced : rule.replaced evidence run.context replacer = .error fault) :
      Fails rule hooks run fault (logMessage hooks message run)

namespace Fails

end Fails

/-! ## Rules without a pattern -/

/-- A rule has no pattern and comes to need it: its test is no callback, or it fires, its message
can be made, and its replacement is a template. -/
inductive LacksPattern (rule : Rule) (context : Context) : Prop where
  | test (absent : rule.regex = none) (byPattern : ∀ run, rule.test ≠ .callback run)
  | replacement {evidence : Evidence} {message : Value} {text : String} (absent : rule.regex = none)
      (tested : rule.runTest context = .ok evidence) (fires : evidence.isTruthy = true)
      (worded : rule.messageFor context.lineNumber context.item evidence context = .ok message)
      (byTemplate : rule.replacer = some (.template text))

/-- What a rule is blamed with for its missing pattern. -/
def blame (context : Context) : Fault :=
  .definition (shownName context.ruleSetName) (shownName context.ruleName) .missingPattern

/-- A rule that lacks its pattern fails and is blamed. -/
theorem LacksPattern.fails (lacks : rule.LacksPattern run.context) :
    ∃ later, rule.Fails hooks run (blame run.context) later := by
  cases lacks with
  | test absent byPattern =>
      refine ⟨run, .test ?_⟩
      rw [runTest]
      split
      case h_1 isTest => exact absurd isTest (byPattern _)
      case h_2 =>
        rw [requirePattern_of_none absent]
        rfl
      case h_3 =>
        rw [requirePattern_of_none absent]
        rfl
  | replacement absent tested fires worded byTemplate =>
      refine ⟨_, .replacement tested fires worded byTemplate ?_⟩
      rw [replaced, replaceByTemplate, requirePattern_of_none absent]
      rfl

section Definitions

variable {blamedSet blamedRule : String} {gap : DefinitionGap} {context : Context}
  {evidence : Evidence} {replacer : ReplacerSpec}

end Definitions

end Rule

/-! ## Rule-sets -/

namespace RuleSet

variable {entries : RuleSet} {stored : Bool}

/-- What stands in the place of the ignore pattern can be used as one, if anything does. -/
def HasUsableIgnore (entries : RuleSet) (stored : Bool) : Prop :=
  ∀ entry, entries.get? ignoreName = some entry → ∃ own, entry.asIgnorePattern stored = .ok own

/-- The pattern of a rule-set for lines to leave alone. -/
def ownIgnore (entries : RuleSet) (stored : Bool) : Except Fault (Option Pattern) :=
  match entries.get? ignoreName with
  | some entry => entry.asIgnorePattern stored
  | none => .ok none

theorem HasUsableIgnore.exists_ownIgnore (usable : entries.HasUsableIgnore stored) :
    ∃ own, entries.ownIgnore stored = .ok own := by
  rw [ownIgnore]
  cases found : entries.get? ignoreName with
  | none => exact ⟨none, rfl⟩
  | some entry => exact usable entry found

/-- The patterns for lines to leave alone are run on the full text, if there are any. -/
theorem admits_eq_of_ownIgnore {own : Option Pattern} (isOwn : entries.ownIgnore stored = .ok own)
    (context : Context) : entries.admits stored context =
      if own.toList ++ context.customIgnore.toList = [] then .ok true
      else context.fullItem.asText.map fun text =>
        !(own.toList ++ context.customIgnore.toList).any (·.matchesIn text) := by
  rw [ownIgnore] at isOwn
  rw [admits]
  cases found : entries.get? ignoreName with
  | none =>
      rw [found] at isOwn
      obtain rfl := Except.ok.inj isOwn
      cases context.customIgnore <;> cases context.fullItem.asText <;>
        simp [bind, Except.bind, pure, Except.pure, Except.map]
  | some entry =>
      rw [found] at isOwn
      simp only [isOwn, bind, Except.bind]
      cases own <;> cases context.customIgnore <;> cases context.fullItem.asText <;>
        simp [pure, Except.pure, Except.map]

end RuleSet

namespace Store

variable {store : Store} {ref : RuleSetRef}

/-- If a reference leads to a rule-set, what stands there in the place of the ignore pattern can be
used as one. -/
def HasUsableIgnore (store : Store) (ref : RuleSetRef) : Prop :=
  ∀ entries, store.lookup ref = some entries → entries.HasUsableIgnore ref.isStored

/-- A rule of the rule-set that a reference stands for has its turn on a line. -/
def Reaches (store : Store) (hooks : Hooks) (ref : RuleSetRef) (run : Run) (name : String)
    (rule : Rule) (before : Run) : Prop :=
  ∃ entries, store.lookup ref = some entries ∧ entries.admits ref.isStored run.context = .ok true ∧
    entries.Reaches hooks ref.shownName run name rule before

end Store

end LineRules
