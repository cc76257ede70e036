import LineRules.Proofs.RuleSet.Aliases
import LineRules.Proofs.RuleSet.Overlay
import LineRules.Proofs.RuleSet.Renamed

/-!
# Code inside pages

Scripts and styles inside pages get the rules for scripts and style sheets by an alias. Custom
rule-sets that say nothing of pages leave these aliases alone, so what they change for scripts and
style sheets, they change inside pages too (`applyAll_embedded`).
-/

namespace LineRules.Builtin

open LineRules.Text

variable {custom : RuleSet} {store : Store} {hooks : Hooks}

/-- A rule-set in which no other one is nested, and whose rules look at no names. -/
theorem ignoresNames_of_flat {entries : RuleSet}
    (flat : ∀ member ∈ entries, member.2.ruleSet? = none ∧ member.2.IgnoresName) :
    entries.IgnoresNames :=
  fun member isMember => .leaf (flat member isMember).1 (flat member isMember).2

/-- No built-in rule looks at the name of its rule-set. -/
theorem ruleSets_ignoresNames : ruleSets.IgnoresNames := by
  have tables : whitespaceRules.IgnoresNames ∧ scriptRules.IgnoresNames ∧
      styleRules.IgnoresNames ∧ pageRules.IgnoresNames := by
    refine ⟨ignoresNames_of_flat ?_, ignoresNames_of_flat ?_, ignoresNames_of_flat ?_,
      ignoresNames_of_flat ?_⟩
    all_goals
      simp only [whitespaceRules, scriptRules, styleRules, pageRules, List.forall_mem_cons,
        List.not_mem_nil, false_imp_iff, implies_true, and_true, Entry.ruleSet?, true_and,
        Entry.IgnoresName]
      and_intros
    -- The callbacks, as far as there are any, name their context only to leave it unused.
    all_goals rintro _ ⟨⟩ <;> constructor <;> rintro _ ⟨⟩ <;> intros <;> rfl
  obtain ⟨whitespace, script, style, page⟩ := tables
  have nested : ∀ {name : String} {entries : RuleSet}, entries.IgnoresNames →
      Entry.Every (fun _ => True) (fun _ entry => entry.IgnoresName) name (.ruleSet entries) :=
    fun inside => .ruleSet trivial inside
  simp only [RuleSet.IgnoresNames, RuleSet.Every, ruleSets, List.forall_mem_cons]
  exact ⟨nested whitespace, nested script, nested style, nested page, by simp⟩

/-- No rule in a store looks at the name of its rule-set if no custom rule does. -/
theorem storeWith_ignoresNames (made : storeWith custom = .ok store)
    (ignores : custom.IgnoresNames) : store.root.IgnoresNames := by
  rw [storeWith] at made
  split at made
  case isTrue =>
    cases made
    exact ruleSets_ignoresNames
  case isFalse =>
    obtain ⟨root, isRoot, rfl⟩ := map_eq_ok.mp made
    refine RuleSet.every_compileIgnores ?_ isRoot
      (RuleSet.every_overlay ruleSets_ignoresNames ignores)
    rintro _ _ _ _ _ ⟨⟩

/-- Custom rule-sets that say nothing of pages leave the rules for pages as they are. -/
theorem get?_html_storeWith (made : storeWith custom = .ok store) (apart : "html" ∉ custom.names) :
    store.root.get? "html" = some (.ruleSet pageRules) := by
  rw [storeWith] at made
  split at made
  case isTrue =>
    cases made
    rfl
  case isFalse =>
    obtain ⟨root, isRoot, rfl⟩ := map_eq_ok.mp made
    have stands : (RuleSet.overlay Builtin.store.root custom).get? "html" =
        some (.ruleSet pageRules) := by
      rw [RuleSet.get?_overlay_of_not_mem apart]
      rfl
    obtain ⟨entry, isEntry, found⟩ := RuleSet.get?_compileIgnores isRoot stands
    cases isEntry
    exact found

/-- Custom rule-sets that say nothing of pages leave what stands below the rules for pages. -/
theorem pointsTo_storeWith (made : storeWith custom = .ok store) (apart : "html" ∉ custom.names)
    (below : String) {name target : String} (path : segments name = ["html", below])
    (named : below ≠ "") (stands : pageRules.get? below = some (.value (.text target))) :
    store.PointsTo name target := by
  have pages := get?_html_storeWith made apart
  rw [Store.PointsTo, RuleSet.entryAt?, path, if_neg (by simpa using named)]
  simp only [RuleSet.entryAlong?, pages, stands]

/-- **Code inside pages.** Custom rule-sets that say nothing of pages do to a script or a style
inside a page what they do to a script or a style sheet: the text, the messages and the faults are
the same but for the name of the rule-set, if no callback looks at that. -/
theorem applyAll_embedded (made : storeWith custom = .ok store) (apart : "html" ∉ custom.names)
    (ignores : custom.IgnoresNames) (ignore : hooks.IgnoreName) (run : Run) :
    TwoNames.Ends { first := "html.script", second := "js" }
        (store.applyAll hooks [.named "common", .named "html.script"] run)
        (store.applyAll hooks [.named "common", .named "js"] run) ∧
      TwoNames.Ends { first := "html.style", second := "css" }
        (store.applyAll hooks [.named "common", .named "html.style"] run)
        (store.applyAll hooks [.named "common", .named "css"] run) := by
  have inside := storeWith_ignoresNames made ignores
  have script : store.PointsTo "html.script" "js" :=
    pointsTo_storeWith made apart "script" (by decide) (by decide) (by rfl)
  have style : store.PointsTo "html.style" "css" :=
    pointsTo_storeWith made apart "style" (by decide) (by decide) (by rfl)
  exact ⟨TwoNames.applyAll_ends (Store.lookupName_of_pointsTo script) inside ignore
      [.named "common"] run,
    TwoNames.applyAll_ends (Store.lookupName_of_pointsTo style) inside ignore
      [.named "common"] run⟩

/-- Custom rules for scripts in which one without a pattern comes under a name of its own, and an
alias for the rules for style sheets. -/
def incompleteRules : RuleSet :=
  [("js", .ruleSet [("no_todo", .rule {})]), ("sheets", .value (.text "css"))]

/-- The rule without a pattern stops the work on scripts on their own and inside pages. -/
theorem applyAll_embedded_incomplete :
    ∃ store, storeWith incompleteRules = .ok store ∧ "html" ∉ incompleteRules.names ∧
      ∃ run : Run, ∃ first second,
        store.applyAll {} [.named "common", .named "html.script"] run =
          .stopped (.definition "html.script" "no_todo" .missingPattern) first ∧
        store.applyAll {} [.named "common", .named "js"] run =
          .stopped (.definition "js" "no_todo" .missingPattern) second ∧
        TwoNames.Ends { first := "html.script", second := "js" }
          (store.applyAll {} [.named "common", .named "html.script"] run)
          (store.applyAll {} [.named "common", .named "js"] run) := by
  have ignores : incompleteRules.IgnoresNames := by
    simp only [RuleSet.IgnoresNames, RuleSet.Every, incompleteRules, List.forall_mem_cons]
    refine ⟨.ruleSet trivial ?_, .leaf rfl ?_, by simp⟩
    · simp only [List.forall_mem_cons]
      refine ⟨.leaf rfl ?_, by simp⟩
      rintro _ ⟨⟩
      constructor <;> rintro _ ⟨⟩
    · rintro _ ⟨⟩
  have ignore : Hooks.IgnoreName {} := by rintro _ ⟨⟩
  refine ⟨_, rfl, by decide, ⟨.ofLine "x" 1 false none, [], []⟩, _, _, rfl, rfl, ?_⟩
  exact (applyAll_embedded (by rfl) (by decide) ignores ignore _).1

end LineRules.Builtin
