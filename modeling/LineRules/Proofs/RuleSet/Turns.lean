import LineRules.Proofs.RuleSet.Tables

/-!
# The turns of rules on a line

While rule-sets are run on a line, one rule after another has its turn (`Store.turns`). Each turn
starts from where the one before it ended, and the last one ends where the run does
(`Store.applyAll_linked`). Turns come in the order of the references and, under one reference, in
the order of its rules (`Store.turns_pairwise`). What becomes of a context in a turn is told once,
for all kinds of rules, by `Rule.Rewrites`.
-/

namespace LineRules

/-! ## What a rule does to the work -/

namespace Rule

/-- What a rule makes of a context: it leaves it, or it replaces the full text, or it breaks off
before the replaced text is formatted. -/
inductive Rewrites (rule : Rule) (hooks : Hooks) (context : Context) : Context → Prop where
  | keeps : Rewrites rule hooks context context
  | replaces {evidence : Evidence} {replacer : ReplacerSpec} {value fullItem : Value}
      (tested : rule.runTest context = .ok evidence) (fires : evidence.isTruthy = true)
      (isReplacer : rule.replacer = some replacer)
      (replaced : rule.replaced evidence context replacer = .ok value)
      (formatted : hooks.formatted value { context with fullItem := value } = .ok fullItem) :
      Rewrites rule hooks context { context with
        fullItem
        item := if context.item.same context.fullItem then fullItem else context.item }
  | breaks {evidence : Evidence} {replacer : ReplacerSpec} {value : Value} {fault : Fault}
      (tested : rule.runTest context = .ok evidence) (fires : evidence.isTruthy = true)
      (isReplacer : rule.replacer = some replacer)
      (replaced : rule.replaced evidence context replacer = .ok value)
      (unformatted : hooks.formatted value { context with fullItem := value } = .error fault) :
      Rewrites rule hooks context { context with fullItem := value }

variable {rule : Rule} {hooks : Hooks} {run : Run} {evidence : Evidence}

theorem runReplacer_rewrites (tested : rule.runTest run.context = .ok evidence)
    (fires : evidence.isTruthy = true) :
    rule.Rewrites hooks run.context (rule.runReplacer hooks evidence run).run.context := by
  cases isReplacer : rule.replacer with
  | none =>
      rw [runReplacer_none isReplacer]
      exact .keeps
  | some replacer =>
      rw [runReplacer_eq isReplacer]
      cases replaced : rule.replaced evidence run.context replacer with
      | error fault => exact .keeps
      | ok value =>
          simp only [Progress.bindExcept]
          cases formatted : hooks.formatted value { run.context with fullItem := value } with
          | error fault => exact .breaks tested fires isReplacer replaced formatted
          | ok fullItem => exact .replaces tested fires isReplacer replaced formatted

theorem runReplacer_log (rule : Rule) (hooks : Hooks) (evidence : Evidence) (run : Run) :
    (rule.runReplacer hooks evidence run).run.log = run.log := by
  cases isReplacer : rule.replacer with
  | none => rw [runReplacer_none isReplacer, Progress.run]
  | some replacer =>
      rw [runReplacer_eq isReplacer]
      cases rule.replaced evidence run.context replacer with
      | error fault => rfl
      | ok value =>
          simp only [Progress.bindExcept]
          cases hooks.formatted value { run.context with fullItem := value } <;> rfl

/-- A rule rewrites the context, whatever it is. -/
theorem runOn_rewrites (rule : Rule) (hooks : Hooks) (run : Run) :
    rule.Rewrites hooks run.context (rule.runOn hooks run).run.context := by
  rw [runOn]
  cases tested : rule.runTest run.context with
  | error fault => exact .keeps
  | ok evidence =>
      simp only [Progress.bindExcept]
      split
      case isFalse => exact .keeps
      case isTrue fires =>
        cases rule.messageFor run.context.lineNumber run.context.item evidence run.context with
        | error fault => exact .keeps
        | ok message =>
            have logged : (logMessage hooks message run).context = run.context :=
              logMessage_context message
            rw [← logged] at tested ⊢
            exact runReplacer_rewrites tested fires

/-- A rule notes at most one message, under the names that the context has. -/
theorem runOn_log (rule : Rule) (hooks : Hooks) (run : Run) :
    (rule.runOn hooks run).run.log = run.log ∨ ∃ message, (rule.runOn hooks run).run.log =
      run.log ++ [⟨run.context.ruleSetName, run.context.ruleName, run.context.lineNumber,
        message⟩] := by
  rw [runOn]
  cases rule.runTest run.context with
  | error fault => exact .inl rfl
  | ok evidence =>
      simp only [Progress.bindExcept]
      split
      case isFalse => exact .inl rfl
      case isTrue fires =>
        cases rule.messageFor run.context.lineNumber run.context.item evidence run.context with
        | error fault => exact .inl rfl
        | ok message =>
            simp only [runReplacer_log, logMessage]
            split
            · exact .inr ⟨message, rfl⟩
            · exact .inl rfl

/-- No rule changes what is known about a line. -/
theorem runOn_place (rule : Rule) (hooks : Hooks) (run : Run) :
    (rule.runOn hooks run).run.place = run.place := by
  have rewrites := rule.runOn_rewrites hooks run
  rw [Run.place, Run.place]
  generalize (rule.runOn hooks run).run.context = later at rewrites
  cases rewrites <;> rfl

end Rule

/-! ## Turns -/

/-- A turn of a rule on a line. -/
structure Turn where
  /-- Where the reference stands that led to the rule. -/
  ref : Nat
  /-- Where the rule stands among the entries of its rule-set. -/
  entry : Nat
  rule : Rule
  /-- The work done before. -/
  before : Run

namespace Turn

/-- The work when the turn has ended. -/
def after (turn : Turn) (hooks : Hooks) : Run := (turn.rule.runOn hooks turn.before).run

/-- Whether the test of the rule succeeds. -/
def Fires (turn : Turn) : Prop :=
  ∃ evidence, turn.rule.runTest turn.before.context = .ok evidence ∧ evidence.isTruthy = true

/-- A turn stands before another one: under an earlier reference, or under the same one and then
with an earlier rule. -/
def Before (turn later : Turn) : Prop :=
  turn.ref < later.ref ∨ turn.ref = later.ref ∧ turn.entry < later.entry

end Turn

namespace Progress

/-- The turns that come next, unless the work was stopped. -/
def turnsOn (progress : Progress) (next : Run → List Turn) : List Turn :=
  match progress with
  | going run => next run
  | stopped _ _ => []

end Progress

/-- The turns that the rules among the entries have. `ref` and `index` say where the reference and
the first entry stand. -/
def RuleSet.turns (hooks : Hooks) (ruleSetName : String) (ref index : Nat) :
    RuleSet → Run → List Turn
  | [], _ => []
  | (name, .rule rule) :: rest, run =>
    if rule.appliesTo name run.context then
      let before := run.underRule ruleSetName name
      ⟨ref, index, rule, before⟩ :: (rule.runOn hooks before).turnsOn
        (turns hooks ruleSetName ref (index + 1) rest)
    else turns hooks ruleSetName ref (index + 1) rest run
  | _ :: rest, run => turns hooks ruleSetName ref (index + 1) rest run

/-- The name that rules get to see for their rule-set. -/
def RuleSetRef.shownName : RuleSetRef → String
  | named name => name
  | _ => anonymousName

/-- Whether a rule-set comes from a store. -/
def RuleSetRef.isStored : RuleSetRef → Bool
  | named _ => true
  | _ => false

namespace Store

/-- The turns under a reference, which stands at `position`. -/
def turnsOf (store : Store) (hooks : Hooks) (position : Nat) (ref : RuleSetRef) (run : Run) :
    List Turn :=
  match store.lookup ref with
  | none => []
  | some entries =>
    match entries.admits ref.isStored run.context with
    | .ok true => entries.turns hooks ref.shownName position 0 run
    | _ => []

/-- The turns of all rules under some references; `position` is the place of the first one. -/
def turns (store : Store) (hooks : Hooks) (position : Nat) : List RuleSetRef → Run → List Turn
  | [], _ => []
  | ref :: rest, run =>
    store.turnsOf hooks position ref run ++
      (store.apply hooks ref run).turnsOn (turns store hooks (position + 1) rest)

end Store

/-! ## How turns follow one another -/

/-- The work has gone on to another rule or rule-set, without any change to the line. -/
structure Run.Moves (run later : Run) : Prop where
  item : later.context.item = run.context.item
  fullItem : later.context.fullItem = run.context.fullItem
  place : later.place = run.place
  log : later.log = run.log

namespace Run

variable {run middle later : Run}

theorem Moves.refl (run : Run) : run.Moves run := ⟨rfl, rfl, rfl, rfl⟩

theorem Moves.trans (first : run.Moves middle) (second : middle.Moves later) : run.Moves later where
  item := second.item.trans first.item
  fullItem := second.fullItem.trans first.fullItem
  place := second.place.trans first.place
  log := second.log.trans first.log

theorem moves_underRule (run : Run) (ruleSetName ruleName : String) :
    run.Moves (run.underRule ruleSetName ruleName) := ⟨rfl, rfl, rfl, rfl⟩

end Run

/-- Turns that follow one another from where the work stands to where it ends. -/
inductive Linked (hooks : Hooks) : Run → List Turn → Run → Prop where
  | nil {run later : Run} (moves : run.Moves later) : Linked hooks run [] later
  | cons {run later : Run} {turn : Turn} {turns : List Turn} (moves : run.Moves turn.before)
      (rest : Linked hooks (turn.after hooks) turns later) :
      Linked hooks run (turn :: turns) later

namespace Linked

variable {hooks : Hooks} {run middle later : Run} {turns others : List Turn}

theorem of_moves (moves : run.Moves middle) (linked : Linked hooks middle turns later) :
    Linked hooks run turns later := by
  cases linked with
  | nil onward => exact .nil (moves.trans onward)
  | cons onward rest => exact .cons (moves.trans onward) rest

theorem append (first : Linked hooks run turns middle)
    (second : Linked hooks middle others later) : Linked hooks run (turns ++ others) later := by
  induction first with
  | nil moves => exact second.of_moves moves
  | cons moves _ hyp => exact .cons moves (hyp second)

/-- What every turn keeps, a run keeps: up to the end of each turn and from there to that of a
later one, and up to its own end. -/
theorem carry (linked : Linked hooks run turns later) (Keeps : Run → Run → Prop)
    (moves : ∀ {run later : Run}, run.Moves later → Keeps run later)
    (trans : ∀ {run middle later : Run}, Keeps run middle → Keeps middle later → Keeps run later)
    (each : ∀ turn ∈ turns, Keeps turn.before (turn.after hooks)) :
    (∀ turn ∈ turns, Keeps run (turn.after hooks)) ∧
      (turns.Pairwise fun turn next => Keeps (turn.after hooks) (next.after hooks)) ∧
      (∀ turn ∈ turns, Keeps (turn.after hooks) later) ∧ Keeps run later := by
  induction linked with
  | nil onward => exact ⟨by simp, .nil, by simp, moves onward⟩
  | @cons run later turn turns onward _ hyp =>
      obtain ⟨here, others⟩ := List.forall_mem_cons.mp each
      obtain ⟨ends, between, fromEnds, last⟩ := hyp others
      have first : Keeps run (turn.after hooks) := trans (moves onward) here
      refine ⟨List.forall_mem_cons.mpr ⟨first, fun next isNext => ?_⟩, .cons ends between,
        List.forall_mem_cons.mpr ⟨last, fromEnds⟩, trans first last⟩
      exact trans first (ends next isNext)

end Linked

/-- The turns that come next go from where the work stands to where it ends. -/
theorem Progress.linked_turnsOn {hooks : Hooks} {next : Run → List Turn} {onward : Run → Progress}
    (linked : ∀ run, Linked hooks run (next run) (onward run).run) (progress : Progress) :
    Linked hooks progress.run (progress.turnsOn next) (progress.andThen onward).run := by
  cases progress with
  | going run => exact linked run
  | stopped fault run => exact .nil (.refl run)

/-- The turns under a reference go from where the work stood to where it ends. -/
theorem RuleSet.runRules_linked (hooks : Hooks) (ruleSetName : String) (ref : Nat)
    (entries : RuleSet) (index : Nat) (run : Run) :
    Linked hooks run (entries.turns hooks ruleSetName ref index run)
      (entries.runRules hooks ruleSetName run).run := by
  induction entries generalizing index run with
  | nil => exact .nil (.refl run)
  | cons first entries hyp =>
      obtain ⟨name, entry⟩ := first
      cases entry with
      | pattern | ruleSet | value => exact hyp (index + 1) run
      | rule rule =>
          rw [turns, runRules]
          split
          case isFalse => exact hyp (index + 1) run
          case isTrue =>
            exact .cons (run.moves_underRule ruleSetName name)
              (Progress.linked_turnsOn (hyp (index + 1)) _)

namespace Store

variable {store : Store} {hooks : Hooks}

/-- Runs the rule-set of a reference: the reference counts by its name and by its origin. -/
theorem apply_eq_of_lookup {ref : RuleSetRef} {entries : RuleSet}
    (found : store.lookup ref = some entries) (run : Run) :
    store.apply hooks ref run =
      Progress.bindExcept run (entries.admits ref.isStored run.context) fun admitted =>
        if admitted then entries.runRules hooks ref.shownName run else .going run := by
  cases ref <;> simp only [apply, found] <;> rfl

theorem apply_linked (store : Store) (hooks : Hooks) (position : Nat) (ref : RuleSetRef)
    (run : Run) :
    Linked hooks run (store.turnsOf hooks position ref run) (store.apply hooks ref run).run := by
  cases found : store.lookup ref with
  | none =>
      simp only [turnsOf, apply, found]
      exact .nil ⟨rfl, rfl, rfl, rfl⟩
  | some entries =>
      simp only [turnsOf, found, apply_eq_of_lookup found]
      cases entries.admits ref.isStored run.context with
      | error fault => exact .nil (.refl run)
      | ok admitted =>
          cases admitted with
          | false => exact .nil (.refl run)
          | true => exact entries.runRules_linked hooks ref.shownName position 0 run

/-- **Turns.** The turns on a line go from its start to its end. -/
theorem applyAll_linked (store : Store) (hooks : Hooks) (position : Nat) (refs : List RuleSetRef)
    (run : Run) :
    Linked hooks run (store.turns hooks position refs run) (store.applyAll hooks refs run).run := by
  induction refs generalizing position run with
  | nil => exact .nil (.refl run)
  | cons ref refs hyp =>
      have here := store.apply_linked hooks position ref run
      rw [turns, applyAll]
      exact here.append (Progress.linked_turnsOn (hyp (position + 1)) _)

end Store

/-! ## What turns note -/

/-- The messages that a turn adds. -/
def Turn.noted (turn : Turn) (hooks : Hooks) : List LogEntry :=
  (turn.after hooks).log.drop turn.before.log.length

theorem Turn.log_after (turn : Turn) (hooks : Hooks) :
    (turn.after hooks).log = turn.before.log ++ turn.noted hooks := by
  rw [noted, after]
  obtain same | ⟨message, added⟩ := turn.rule.runOn_log hooks turn.before
  · simp [same]
  · simp [added]

theorem Linked.log {hooks : Hooks} {run later : Run} {turns : List Turn}
    (linked : Linked hooks run turns later) :
    later.log = run.log ++ turns.flatMap (Turn.noted · hooks) := by
  induction linked with
  | nil moves => simp [moves.log]
  | @cons run later turn turns moves _ hyp =>
      rw [hyp, turn.log_after, moves.log, List.flatMap_cons, List.append_assoc]

/-- What is known about the line is known in the end. -/
theorem Linked.place_later {hooks : Hooks} {run later : Run} {turns : List Turn}
    (linked : Linked hooks run turns later) : later.place = run.place := by
  induction linked with
  | nil moves => exact moves.place
  | @cons run later turn turns moves _ hyp =>
      rw [hyp, Turn.after, turn.rule.runOn_place, moves.place]

theorem RuleSet.runRules_place (hooks : Hooks) (ruleSetName : String) (entries : RuleSet)
    (run : Run) : (entries.runRules hooks ruleSetName run).run.place = run.place :=
  (runRules_linked hooks ruleSetName 0 entries 0 run).place_later

/-! ## Where turns stand -/

namespace Progress

variable {progress : Progress} {next : Run → List Turn}

theorem mem_turnsOn {turn : Turn} (isTurn : turn ∈ progress.turnsOn next) :
    ∃ run, turn ∈ next run := by
  cases progress with
  | going run => exact ⟨run, isTurn⟩
  | stopped fault run => contradiction

theorem turnsOn_pairwise (each : ∀ run, (next run).Pairwise Turn.Before) (progress : Progress) :
    (progress.turnsOn next).Pairwise Turn.Before := by
  cases progress with
  | going run => exact each run
  | stopped fault run => exact .nil

end Progress

/-- A turn stands where its rule does, under the names of the rule. -/
structure Turn.StandsIn (turn : Turn) (entries : RuleSet) (ruleSetName : String) (index : Nat) :
    Prop where
  rule : ∃ name, entries[index]? = some (name, .rule turn.rule) ∧ isReserved name = false ∧
    turn.before.context.ruleName = some name
  ruleSet : turn.before.context.ruleSetName = some ruleSetName

namespace RuleSet

variable {hooks : Hooks} {ruleSetName : String} {ref : Nat}

theorem standsIn_of_mem_turns {entries : RuleSet} {index : Nat} {run : Run} {turn : Turn}
    (isTurn : turn ∈ entries.turns hooks ruleSetName ref index run) :
    turn.ref = ref ∧ ∃ offset, turn.entry = index + offset ∧
      turn.StandsIn entries ruleSetName offset := by
  induction entries generalizing index run with
  | nil => contradiction
  | cons first entries hyp =>
      have later : ∀ {run : Run},
          turn ∈ turns hooks ruleSetName ref (index + 1) entries run →
          turn.ref = ref ∧ ∃ offset, turn.entry = index + offset ∧
            turn.StandsIn (first :: entries) ruleSetName offset := by
        intro run isTurn
        obtain ⟨isRef, offset, isEntry, stands⟩ := hyp isTurn
        exact ⟨isRef, offset + 1, by omega, stands.rule, stands.ruleSet⟩
      obtain ⟨name, entry⟩ := first
      cases entry with
      | pattern | ruleSet | value => exact later isTurn
      | rule rule =>
          rw [turns] at isTurn
          split at isTurn
          case isFalse => exact later isTurn
          case isTrue applies =>
            obtain rfl | isTurn := List.mem_cons.mp isTurn
            · have usable : isReserved name = false := by
                simpa using (Bool.and_eq_true_iff.mp applies).1
              exact ⟨rfl, 0, rfl, ⟨name, rfl, usable, rfl⟩, rfl⟩
            · obtain ⟨run, isTurn⟩ := Progress.mem_turnsOn isTurn
              exact later isTurn

theorem turns_pairwise (entries : RuleSet) (index : Nat) (run : Run) :
    (entries.turns hooks ruleSetName ref index run).Pairwise Turn.Before := by
  induction entries generalizing index run with
  | nil => exact .nil
  | cons first entries hyp =>
      obtain ⟨name, entry⟩ := first
      cases entry with
      | pattern | ruleSet | value => exact hyp (index + 1) run
      | rule rule =>
          rw [turns]
          split
          case isFalse => exact hyp (index + 1) run
          case isTrue =>
            refine .cons (fun later isLater => ?_)
              (Progress.turnsOn_pairwise (hyp (index + 1)) _)
            obtain ⟨run, isLater⟩ := Progress.mem_turnsOn isLater
            obtain ⟨isRef, offset, isEntry, _⟩ := standsIn_of_mem_turns isLater
            exact .inr ⟨isRef.symm, by simp only [isEntry]; omega⟩

end RuleSet

namespace Store

variable {store : Store} {hooks : Hooks}

theorem standsIn_of_mem_turnsOf {position : Nat} {ref : RuleSetRef} {run : Run} {turn : Turn}
    (isTurn : turn ∈ store.turnsOf hooks position ref run) :
    turn.ref = position ∧ ∃ entries, store.lookup ref = some entries ∧
      turn.StandsIn entries ref.shownName turn.entry := by
  rw [turnsOf] at isTurn
  cases found : store.lookup ref with
  | none =>
      rw [found] at isTurn
      contradiction
  | some entries =>
      simp only [found] at isTurn
      split at isTurn
      case h_1 =>
        obtain ⟨isRef, offset, isEntry, stands⟩ := RuleSet.standsIn_of_mem_turns isTurn
        obtain rfl : turn.entry = offset := by omega
        exact ⟨isRef, entries, rfl, stands⟩
      case h_2 => contradiction

theorem turnsOf_pairwise (position : Nat) (ref : RuleSetRef) (run : Run) :
    (store.turnsOf hooks position ref run).Pairwise Turn.Before := by
  rw [turnsOf]
  split
  · exact .nil
  · split
    · exact RuleSet.turns_pairwise _ 0 run
    · exact .nil

/-- A turn is one of a rule that the reference at its place leads to. -/
theorem standsIn_of_mem_turns {position : Nat} {refs : List RuleSetRef} {run : Run} {turn : Turn}
    (isTurn : turn ∈ store.turns hooks position refs run) :
    ∃ offset ref entries, turn.ref = position + offset ∧ refs[offset]? = some ref ∧
      store.lookup ref = some entries ∧ turn.StandsIn entries ref.shownName turn.entry := by
  induction refs generalizing position run with
  | nil => contradiction
  | cons ref refs hyp =>
      rw [turns] at isTurn
      obtain isTurn | isTurn := List.mem_append.mp isTurn
      · obtain ⟨isRef, entries, found, stands⟩ := standsIn_of_mem_turnsOf isTurn
        exact ⟨0, ref, entries, isRef, rfl, found, stands⟩
      · obtain ⟨run, isTurn⟩ := Progress.mem_turnsOn isTurn
        obtain ⟨offset, ref, entries, isRef, there, found, stands⟩ := hyp isTurn
        exact ⟨offset + 1, ref, entries, by omega, there, found, stands⟩

/-- Turns come in the order of the references and of the rules under each, no rule twice. -/
theorem turns_pairwise (position : Nat) (refs : List RuleSetRef) (run : Run) :
    (store.turns hooks position refs run).Pairwise Turn.Before := by
  induction refs generalizing position run with
  | nil => exact .nil
  | cons ref refs hyp =>
      rw [turns]
      refine List.pairwise_append.mpr ⟨turnsOf_pairwise position ref run,
        Progress.turnsOn_pairwise (hyp (position + 1)) _, ?_⟩
      intro turn isTurn later isLater
      have here := (standsIn_of_mem_turnsOf isTurn).1
      obtain ⟨run, isLater⟩ := Progress.mem_turnsOn isLater
      obtain ⟨offset, _, _, there, _⟩ := standsIn_of_mem_turns isLater
      exact .inl (by omega)

end Store

end LineRules
