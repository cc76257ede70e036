import LineRules.Proofs.RuleSet.Stops
import LineRules.Proofs.Script.Lines
import LineRules.Proofs.StyleSheet.Lines

/-!
# The built-in rules never stop

Every built-in rule takes a text to a text, whatever the line (`ruleSets_stopsIn`), so a store
stops with nothing but what the rule-sets laid over the built-in ones stop with
(`storeWith_stopsIn`).
-/

namespace LineRules.Builtin

open LineRules.Pattern LineRules.Text

variable {refusals faults : List Fault}

/-- A rule-set whose rules are steps on lines stops with nothing but what its other entries
stop with. -/
theorem stopsIn_of_doesSteps {entries : RuleSet} {steps : Steps} (does : entries.DoesSteps steps)
    (others : ∀ member ∈ entries, (∀ rule, member.2 ≠ .rule rule) →
      member.2.StopsIn refusals faults member.1) : entries.StopsIn refusals faults := by
  induction does with
  | nil => exact RuleSet.every_nil
  | @rule name rule step entries steps usable does _ hyp =>
      have notIgnore : name ≠ ignoreName := by
        rintro rfl
        have reserved : isReserved ignoreName = true := by decide
        rw [reserved] at usable
        contradiction
      exact RuleSet.every_cons_iff.mpr ⟨.leaf rfl ⟨notIgnore, does.endsIn⟩,
        hyp fun member isMember => others member (List.mem_cons_of_mem _ isMember)⟩
  | other notRule _ hyp =>
      exact RuleSet.every_cons_iff.mpr ⟨others _ List.mem_cons_self notRule,
        hyp fun member isMember => others member (List.mem_cons_of_mem _ isMember)⟩

/-- A table of the built-in store stops with nothing, since it has only rules and perhaps a
pattern for lines to leave alone. -/
theorem stopsIn_of_provided {table : LineTable} {entries : RuleSet}
    (provided : store.Provides table) (named : store.lookupName table.name = some entries)
    (others : ∀ member ∈ entries, (∃ rule, member.2 = .rule rule) ∨
      ∃ pattern, member.2 = .pattern pattern) : entries.StopsIn refusals faults := by
  obtain ⟨found, isFound, does, _⟩ := provided
  obtain rfl : entries = found := Option.some.inj (named.symm.trans isFound)
  refine stopsIn_of_doesSteps does fun member isMember notRule => ?_
  obtain ⟨rule, isRule⟩ | ⟨pattern, isPattern⟩ := others member isMember
  · exact absurd isRule (notRule rule)
  · rw [isPattern]
    exact .leaf rfl trivial

/-- The rule for the order of class names. -/
def classNamesRule : Rule where
  regex := some classAttribute
  test := .callback testClassNames
  message := .callback classNamesMessage
  replacer := some (.callback orderClassNames)

/-- The rule for the order of class names takes every text to a text. -/
theorem classNamesRule_endsIn : classNamesRule.EndsIn faults := by
  refine Rule.endsIn_of ?_ ?_ ?_
  · intro context text shows
    simp only [classNamesRule, Rule.runTest, testClassNames, shows.item, Bool.false_eq_true,
      if_false, asText_ofList, bind, Except.bind, pure, Except.pure]
    split
    · exact ⟨_, rfl⟩
    · exact ⟨_, rfl⟩
  · intro context text evidence fault _ stopped
    cases evidence <;> contradiction
  · intro run text evidence shows
    have replaced : orderClassNames run.context.fullItem evidence (some classAttribute)
        run.context = .ok (.text (String.ofList (classAttribute.replaceBy (fun found =>
          "class=\"".toList ++ orderNames (found.group 1) ++ ['"']) text))) := by
      simp only [orderClassNames, shows.fullItem, asText_ofList, bind, Except.bind, pure, Except.pure]
    have isReplacer : classNamesRule.replacer = some (.callback orderClassNames) := rfl
    rw [Rule.runReplacer_some isReplacer shows replaced]
    exact ⟨_, rfl, rfl⟩

theorem pageRules_stopsIn : pageRules.StopsIn refusals faults := by
  refine RuleSet.every_cons_iff.mpr ⟨.leaf rfl trivial, ?_⟩
  refine RuleSet.every_cons_iff.mpr ⟨.leaf rfl ⟨by decide, classNamesRule_endsIn⟩, ?_⟩
  refine RuleSet.every_cons_iff.mpr ⟨.leaf rfl ⟨by decide, Rule.Does.endsIn
    (@Rule.FromPattern.does _ selfClosedVoid ?_)⟩, ?_⟩
  · exact ⟨rfl, rfl, rfl, ⟨_, rfl, by decide⟩, .inr ⟨_, _, rfl, rfl⟩, rfl⟩
  have text : ∀ {name target}, name ≠ ignoreName →
      (Entry.value (.text target)).StopsIn refusals faults name := fun named =>
    .leaf rfl ⟨_, rfl, fun same => absurd same named⟩
  exact RuleSet.every_cons_iff.mpr ⟨text (by decide),
    RuleSet.every_cons_iff.mpr ⟨text (by decide), RuleSet.every_nil⟩⟩

/-- The built-in rules never stop. -/
theorem ruleSets_stopsIn : ruleSets.StopsIn refusals faults := by
  have whitespace : whitespaceRules.StopsIn refusals faults :=
    stopsIn_of_provided whitespaceTable_provided rfl (by simp [whitespaceRules])
  have script : scriptRules.StopsIn refusals faults :=
    stopsIn_of_provided scriptTable_provided rfl (by simp [scriptRules])
  have style : styleRules.StopsIn refusals faults :=
    stopsIn_of_provided styleTable_provided rfl (by simp [styleRules])
  have node : ∀ {name} {entries : RuleSet}, name ≠ ignoreName → entries.StopsIn refusals faults →
      (Entry.ruleSet entries).StopsIn refusals faults name := fun named inside =>
    .ruleSet (by simp [NodeStopsIn, nodeFaults, named]) inside
  exact RuleSet.every_cons_iff.mpr ⟨node (by decide) whitespace,
    RuleSet.every_cons_iff.mpr ⟨node (by decide) script,
    RuleSet.every_cons_iff.mpr ⟨node (by decide) style,
    RuleSet.every_cons_iff.mpr ⟨node (by decide) pageRules_stopsIn, RuleSet.every_nil⟩⟩⟩⟩

/-- A store stops with nothing but what the rule-sets laid over the built-in ones stop with, and
its making with nothing but what texts in them are refused with. -/
theorem storeWith_stopsIn {custom : RuleSet} (stops : custom.StopsIn refusals faults) :
    match storeWith custom with
    | .ok store => store.root.StopsIn [] faults
    | .error fault => fault ∈ refusals := by
  have root : store.root = ruleSets := rfl
  have compiled := compileIgnores_stopsIn (RuleSet.every_overlay ruleSets_stopsIn stops)
  rw [storeWith]
  by_cases empty : custom.isEmpty = true
  · rw [if_pos empty]
    exact ruleSets_stopsIn
  · rw [if_neg empty, Store.merged, Store.ofRuleSets, root]
    cases made : RuleSet.compileIgnores (RuleSet.overlay ruleSets custom) with
    | error fault =>
        rw [made] at compiled
        exact compiled
    | ok root =>
        rw [made] at compiled
        exact compiled

end LineRules.Builtin
