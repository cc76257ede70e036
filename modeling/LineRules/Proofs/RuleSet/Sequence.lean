import LineRules.Proofs.RuleSet.Failures
import LineRules.Proofs.RuleSet.Overlay
import LineRules.Proofs.RuleSet.Surroundings

/-!
# Rule-sets as sequences of rules

Whether a line is left alone is decided once, when a rule-set is begun. From then on its rules are
run as if each of them were a rule-set of its own (`RuleSet.applyAll_apart`), and no ignore pattern
is asked again, whatever the rules make of the line (`Store.apply_direct`).
-/

namespace LineRules

variable {entries : RuleSet} {hooks : Hooks} {store : Store}

/-- Lines are no longer left alone. -/
def Surroundings.unignored : Surroundings where
  customIgnore _ := none

namespace RuleSet

/-- The rules of a rule-set, each as a rule-set of its own. -/
def apart (entries : RuleSet) : List RuleSetRef :=
  entries.filterMap fun (name, entry) =>
    match entry with
    | .rule rule => some (.direct [(name, .rule rule)])
    | _ => none

/-- A rule-set of one rule runs that rule, if no lines are left alone. -/
theorem apply_single {name : String} (other : name ≠ ignoreName) (rule : Rule) {run : Run}
    (unignored : run.context.customIgnore = none) :
    store.apply hooks (.direct [(name, .rule rule)]) run =
      runRules hooks anonymousName [(name, .rule rule)] run := by
  have admitted : admits [(name, .rule rule)] false run.context = .ok true := by
    have isOwn : ownIgnore [(name, .rule rule)] false = .ok none := by
      simp [ownIgnore, Keyed.get?, other]
    rw [admits_eq_of_ownIgnore isOwn, unignored]
    rfl
  have found : store.lookup (.direct [(name, .rule rule)]) = some [(name, .rule rule)] := rfl
  rw [Store.apply_eq_of_lookup found]
  exact congrArg (Progress.bindExcept run · _) admitted

/-- Rules that are run one after another as rule-sets of their own are run as the rules of one
rule-set. -/
theorem applyAll_apart (others : ∀ rule, (ignoreName, Entry.rule rule) ∉ entries) {run : Run}
    (unignored : run.context.customIgnore = none) :
    store.applyAll hooks entries.apart run = entries.runRules hooks anonymousName run := by
  induction entries generalizing run with
  | nil => rfl
  | cons first entries hyp =>
      obtain ⟨name, entry⟩ := first
      have later : ∀ {run : Run}, run.context.customIgnore = none →
          store.applyAll hooks (apart entries) run = runRules hooks anonymousName entries run :=
        fun unignored => hyp (fun rule isMember => others rule (.tail _ isMember)) unignored
      cases entry with
      | pattern | ruleSet | value => exact later unignored
      | rule rule =>
          have other : name ≠ ignoreName := by
            rintro rfl
            exact others rule (.head _)
          have cut : apart ((name, .rule rule) :: entries) =
              .direct [(name, .rule rule)] :: apart entries := rfl
          rw [cut, Store.applyAll, apply_single other rule unignored, runRules_cons _ entries]
          have place := runRules_place hooks anonymousName [(name, .rule rule)] run
          cases came : runRules hooks anonymousName [(name, .rule rule)] run with
          | stopped fault run => rfl
          | going middle =>
              rw [came] at place
              exact later ((congrArg LinePlace.customIgnore place).trans unignored)

end RuleSet

namespace Store

/-- A rule-set that is given directly runs its rules, each as a rule-set of its own, on lines that
it does not leave alone. -/
theorem apply_direct_of_admits (once : entries.names.Nodup) (usable : entries.HasUsableIgnore false)
    (overlooks : entries.Overlooks .unignored) (overlook : hooks.Overlook .unignored) {run : Run}
    (admitted : entries.admits false run.context = .ok true) :
    (store.apply hooks (.direct entries) run).within .unignored =
      store.applyAll hooks entries.apart (run.within .unignored) := by
  have others : ∀ rule, (ignoreName, Entry.rule rule) ∉ entries := by
    intro rule isMember
    obtain ⟨own, isOwn⟩ := usable _ (Keyed.get?_of_mem once isMember)
    contradiction
  have found : store.lookup (.direct entries) = some entries := rfl
  calc (store.apply hooks (.direct entries) run).within .unignored
      = (entries.runRules hooks anonymousName run).within .unignored := by
        rw [apply_eq_of_lookup found]
        exact congrArg (fun step => (Progress.bindExcept run step _).within .unignored) admitted
    _ = entries.runRules hooks anonymousName (run.within .unignored) :=
        (RuleSet.runRules_within overlooks overlook (fun _ _ _ _ => rfl) anonymousName run).symm
    _ = store.applyAll hooks entries.apart (run.within .unignored) :=
        (RuleSet.applyAll_apart others rfl).symm

/-- **Rule-sets are sequences of rules.** If one of its ignore patterns matches a line, a rule-set
does nothing to it. Else it does what its rules do in order, each as a rule-set of its own where no
lines are left alone: they make the same of the line, note the same and stop with the same fault. -/
theorem apply_direct (store : Store) (once : entries.names.Nodup)
    (usable : entries.HasUsableIgnore false) (overlooks : entries.Overlooks .unignored)
    (overlook : hooks.Overlook .unignored) (run : Run) :
    ∃ own, entries.ownIgnore false = .ok own ∧
      (∀ line, run.context.fullItem = .text line →
        if (own.toList ++ run.context.customIgnore.toList).any (·.matchesIn line.toList) then
          store.apply hooks (.direct entries) run = .going run
        else
          (store.apply hooks (.direct entries) run).within .unignored =
            store.applyAll hooks entries.apart (run.within .unignored)) ∧
      (own.toList ++ run.context.customIgnore.toList = [] →
        (store.apply hooks (.direct entries) run).within .unignored =
          store.applyAll hooks entries.apart (run.within .unignored)) := by
  obtain ⟨own, isOwn⟩ := usable.exists_ownIgnore
  have admits := RuleSet.admits_eq_of_ownIgnore isOwn run.context
  refine ⟨own, isOwn, fun line isText => ?_, fun nothing => ?_⟩
  · have decided : entries.admits false run.context = .ok
        !(own.toList ++ run.context.customIgnore.toList).any (·.matchesIn line.toList) := by
      rw [admits, isText]
      split
      case isTrue nothing =>
        rw [nothing]
        rfl
      case isFalse => rfl
    split
    case isTrue matched =>
      have found : store.lookup (.direct entries) = some entries := rfl
      rw [matched] at decided
      rw [apply_eq_of_lookup found]
      exact congrArg (Progress.bindExcept run · _) decided
    case isFalse unmatched =>
      rw [Bool.not_eq_true] at unmatched
      rw [unmatched] at decided
      exact apply_direct_of_admits once usable overlooks overlook decided
  · rw [if_pos nothing] at admits
    exact apply_direct_of_admits once usable overlooks overlook admits

theorem overlooks_writing (text : String) (change : Surroundings) :
    (Rule.writing text).Overlooks change where
  test := by
    rintro _ ⟨⟩ _ _ _
    rfl
  message := by rintro _ ⟨⟩
  replacer := by
    rintro _ ⟨⟩ _ _ _ _
    rfl

/-- The first rule writes what the custom pattern matches, and the second one is run all the same. -/
theorem apply_direct_writing :
    let pattern : Pattern := ⟨"b", false, Pattern.Node.lit 'b', 0, [], false⟩
    let entries : RuleSet := [("first", .rule (.writing "b")), ("second", .rule (.writing "c"))]
    let run : Run :=
      { context := { item := .text "a", fullItem := .text "a", customIgnore := some pattern } }
    pattern.matchesIn "b".toList = true ∧
      ((Store.mk []).apply {} (.direct entries) run).run.context.fullItem = .text "c" ∧
      ((Store.mk []).apply {} (.direct entries) run).within .unignored =
        (Store.mk []).applyAll {} [.direct [("first", .rule (.writing "b"))],
          .direct [("second", .rule (.writing "c"))]] (run.within .unignored) := by
  intro pattern entries run
  have once : entries.names.Nodup := by decide
  have usable : entries.HasUsableIgnore false := by
    intro entry found
    contradiction
  have overlooks : entries.Overlooks .unignored := by
    intro name rule
      (isMember : _ ∈ [(_, Entry.rule (.writing "b")), (_, Entry.rule (.writing "c"))])
    rcases isMember with _ | ⟨_, _ | ⟨_, ⟨⟩⟩⟩
    · exact overlooks_writing "b" _
    · exact overlooks_writing "c" _
  have overlook : Hooks.Overlook {} .unignored := by rintro _ ⟨⟩
  obtain ⟨_, ⟨⟩, sequence, _⟩ := apply_direct (Store.mk []) once usable overlooks overlook run
  exact ⟨by decide, rfl, sequence "a" rfl⟩

end Store

end LineRules
