import LineRules.Proofs.RuleSet.Overlay

/-!
# Layers of rule-sets

What stands where after rule-sets were laid over those of a store: `LayeredAt` says it for a
path, and `merged_layers` that it holds for every path of every store.

A name may stand for a rule-set as an alias. Rules that are laid over an alias take its place,
so they are not added to the rules that it stands for (`merged_keeps_iff`).
-/

namespace LineRules

variable {base upper entries : RuleSet} {entry : Entry} {name : String} {path start : List String}

/-! ## Layers -/

/-- What stands under the dotted name that some names make up. -/
def RuleSet.entryUnder? (root : RuleSet) (path : List String) : Option Entry :=
  root.entryAt? (".".intercalate path)

/-- Some entry on the way to a path ends it: one of the upper tree that is no rule-set, or one
of the base that is none, with a rule-set of the upper tree in its place. -/
def IsCutOff (base upper : RuleSet) (path : List String) : Prop :=
  ∃ start, start ≠ [] ∧ start <+: path ∧ start ≠ path ∧
    ((∃ entry, upper.entryUnder? start = some entry ∧ entry.ruleSet? = none) ∨
      ∃ entry entries, base.entryUnder? start = some entry ∧ entry.ruleSet? = none ∧
        upper.entryUnder? start = some (.ruleSet entries))

/-- What stands at a path after a tree was laid over a store's. Entries of the upper tree are
compiled as those of a store are. -/
structure LayeredAt (base upper merged : RuleSet) (path : List String) : Prop where
  /-- An entry of the upper tree that is no rule-set counts. -/
  single {entry : Entry} : upper.entryUnder? path = some entry → entry.ruleSet? = none →
    merged.entryUnder? path = some (entry.compiled (path.getLastD ""))
  /-- Two rule-sets are put together. The names of the base keep their places, and new ones
  follow in their own order. -/
  both {lower entries : RuleSet} : base.entryUnder? path = some (.ruleSet lower) →
    upper.entryUnder? path = some (.ruleSet entries) →
    ∃ joined : RuleSet, merged.entryUnder? path = some (.ruleSet joined) ∧
      joined.names = lower.names ++ entries.names.filter fun name => name ∉ lower.names
  /-- A rule-set of the upper tree counts where the base has none. -/
  new {entries : RuleSet} : (∀ lower, base.entryUnder? path ≠ some (.ruleSet lower)) →
    upper.entryUnder? path = some (.ruleSet entries) →
    merged.entryUnder? path = some (.ruleSet (RuleSet.compiled entries))
  /-- Where the upper tree has nothing, the entry of the base counts. -/
  kept : upper.entryUnder? path = none → ¬IsCutOff base upper path →
    merged.entryUnder? path = base.entryUnder? path
  /-- Where the path has been cut off, nothing stands. -/
  cutOff : upper.entryUnder? path = none → IsCutOff base upper path →
    merged.entryUnder? path = none

namespace RuleSet

/-- Names that can make up a dotted name. -/
def IsPath (path : List String) : Prop :=
  path ≠ [] ∧ ∀ name ∈ path, name ≠ "" ∧ '.' ∉ name.toList

instance (path : List String) : Decidable (IsPath path) := inferInstanceAs (Decidable (_ ∧ _))

theorem IsPath.of_prefix (isPath : IsPath path) (nonempty : start ≠ []) (isStart : start <+: path) :
    IsPath start :=
  ⟨nonempty, fun name isName => isPath.2 name (isStart.subset isName)⟩

theorem entryUnder?_eq (root : RuleSet) (isPath : IsPath path) :
    root.entryUnder? path = root.entryAlong? path :=
  entryAt?_intercalate root isPath.1 isPath.2

/-- Where the upper tree has an entry, it is laid over what the base has there. -/
theorem entryUnder?_overlay_of_some (distinct : upper.isDistinct = true) (isPath : IsPath path)
    (found : upper.entryUnder? path = some entry) :
    (overlay base (compiled upper)).entryUnder? path =
      some (overlayEntry (base.entryUnder? path) (entry.compiled (path.getLastD ""))) := by
  rw [entryUnder?_eq _ isPath] at found
  have isCompiled : (compiled upper).entryAlong? path =
      some (entry.compiled (path.getLastD "")) := by
    rw [entryAlong?_compiled, found]
    rfl
  rw [entryUnder?_eq _ isPath, entryUnder?_eq _ isPath,
    entryAlong?_overlay_of_some (isDistinct_compiled distinct) isCompiled]

/-- A path on which nothing of the upper tree stands in the way leads on as before. -/
theorem entryUnder?_overlay_of_not_isCutOff (distinct : upper.isDistinct = true)
    (isPath : IsPath path) (absent : upper.entryUnder? path = none)
    (leads : ¬IsCutOff base upper path) :
    (overlay base (compiled upper)).entryUnder? path = base.entryUnder? path := by
  rw [entryUnder?_eq _ isPath] at absent ⊢
  rw [entryUnder?_eq _ isPath]
  refine entryAlong?_overlay_of_none (isDistinct_compiled distinct) ?_ ?_
  · rw [entryAlong?_compiled, absent]
    rfl
  · intro start isStart entry isEntry single
    rw [entryAlong?_compiled, Option.mem_def, Option.map_eq_some_iff] at isEntry
    obtain ⟨given, isGiven, rfl⟩ := isEntry
    have nonempty : start ≠ [] := by
      rintro rfl
      contradiction
    have shorter : start ≠ path := by
      rintro rfl
      rw [absent] at isGiven
      contradiction
    rw [ruleSet?_compiled, Option.map_eq_none_iff] at single
    refine leads ⟨start, nonempty, isStart, shorter, .inl ⟨given, ?_, single⟩⟩
    rw [entryUnder?_eq _ (isPath.of_prefix nonempty isStart), isGiven]

/-- A path that is cut off leads nowhere, unless the upper tree leads on. -/
theorem entryUnder?_overlay_of_isCutOff (distinct : upper.isDistinct = true)
    (isPath : IsPath path) (absent : upper.entryUnder? path = none)
    (cutOff : IsCutOff base upper path) :
    (overlay base (compiled upper)).entryUnder? path = none := by
  obtain ⟨start, nonempty, isStart, shorter, cut⟩ := cutOff
  have startAlong : ∀ {root : RuleSet}, root.entryUnder? start = root.entryAlong? start :=
    entryUnder?_eq _ (isPath.of_prefix nonempty isStart)
  have compiledDistinct := isDistinct_compiled distinct
  rw [entryUnder?_eq _ isPath] at absent ⊢
  simp only [startAlong] at cut
  obtain ⟨rest, rfl⟩ := isStart
  have further : rest ≠ [] := by
    rintro rfl
    exact shorter (List.append_nil start).symm
  rcases cut with ⟨entry, found, single⟩ | ⟨entry, entries, isLower, single, found⟩
  · have isCompiled : (compiled upper).entryAlong? start =
        some (entry.compiled (start.getLastD "")) := by
      rw [entryAlong?_compiled, found]
      rfl
    refine entryAlong?_overlay_of_single compiledDistinct isCompiled ?_ further
    rw [ruleSet?_compiled, single]
    rfl
  · have isCompiled : (compiled upper).entryAlong? start = some (.ruleSet (compiled entries)) := by
      rw [entryAlong?_compiled, found]
      rfl
    have new : (base.entryAlong? start).bind Entry.ruleSet? = none := by
      rw [isLower]
      exact single
    rw [entryAlong?_overlay_of_new compiledDistinct isCompiled new further, entryAlong?_compiled,
      absent]
    rfl

/-- A tree laid over another one, along a path. -/
theorem layeredAt_overlay (distinct : upper.isDistinct = true) (isPath : IsPath path) :
    LayeredAt base upper (overlay base (compiled upper)) path := by
  have once : ∀ {entries : RuleSet}, upper.entryUnder? path = some (.ruleSet entries) →
      (compiled entries).names.Nodup := by
    intro entries found
    rw [entryUnder?_eq _ isPath] at found
    rw [names_compiled]
    exact (isDistinct_iff.mp (isDistinct_of_entryAlong? distinct found)).1
  refine ⟨?single, ?both, ?new, entryUnder?_overlay_of_not_isCutOff distinct isPath,
    entryUnder?_overlay_of_isCutOff distinct isPath⟩
  case single =>
    intro entry found single
    rw [entryUnder?_overlay_of_some distinct isPath found, overlayEntry_of_single]
    rw [ruleSet?_compiled, single]
    rfl
  case both =>
    intro lower entries isLower found
    refine ⟨overlay lower (compiled entries), ?_, ?_⟩
    · rw [entryUnder?_overlay_of_some distinct isPath found, isLower]
      rfl
    · rw [names_overlay (once found), names_compiled]
  case new =>
    intro entries alone found
    have nothing : (base.entryUnder? path).bind Entry.ruleSet? = none := by
      cases stands : base.entryUnder? path with
      | none => rfl
      | some old =>
          cases old with
          | ruleSet lower => exact absurd stands (alone lower)
          | rule | pattern | value => rfl
    rw [entryUnder?_overlay_of_some distinct isPath found, Entry.compiled,
      overlayEntry_ruleSet (once found), nothing, Option.getD_none, overlay_nil (once found)]

end RuleSet

/-- **Layers.** A tree whose texts for ignore patterns are patterns can be laid over every store.
What stands at a path then is what the two trees have there, name by name, and in order. To lay
the same tree over the result changes nothing. -/
theorem merged_layers {given overrides : RuleSet} {store : Store}
    (made : Store.ofRuleSets given = .ok store) (distinct : overrides.isDistinct = true)
    (valid : overrides.refusals = []) :
    ∃ merged : Store, store.merged overrides = .ok merged ∧
      (∀ path, RuleSet.IsPath path → LayeredAt store.root overrides merged.root path) ∧
      merged.merged overrides = .ok merged := by
  have isMerged := Store.merged_eq made valid
  refine ⟨_, isMerged, fun path isPath => RuleSet.layeredAt_overlay distinct isPath, ?_⟩
  rw [Store.merged_eq isMerged valid,
    RuleSet.overlay_overlay (RuleSet.isDistinct_compiled distinct)]

/-- Rules for scripts, with an alias for them. -/
def sampleRules : RuleSet :=
  [("js", .ruleSet [("a", .rule {}), ("b", .rule {})]),
    ("html", .ruleSet [("script", .value (.text "js"))])]

/-- A further rule for scripts, before a new form of an old one, and lines to leave alone. -/
def sampleLayer : RuleSet :=
  [("js", .ruleSet [("c", .rule {}), (ignoreName, .value (.text "^//")),
    ("b", .rule { ignoreInScripts := true })])]

/-- New rules come after the old ones, and a text for an ignore pattern is compiled. -/
theorem merged_layers_sampleLayer :
    Store.ofRuleSets sampleRules = .ok ⟨sampleRules⟩ ∧ sampleLayer.isDistinct = true ∧
      sampleLayer.refusals = [] ∧ ∃ merged : Store,
        Store.merged ⟨sampleRules⟩ sampleLayer = .ok merged ∧
        (∃ joined : RuleSet, merged.root.entryUnder? ["js"] = some (.ruleSet joined) ∧
          joined.names = ["a", "b", "c", ignoreName]) ∧
        merged.root.entryUnder? ["js", ignoreName] =
          some ((Entry.value (.text "^//")).compiled ignoreName) ∧
        merged.merged sampleLayer = .ok merged := by
  have made : Store.ofRuleSets sampleRules = .ok ⟨sampleRules⟩ := rfl
  have distinct : sampleLayer.isDistinct = true := by decide
  have valid : sampleLayer.refusals = [] := by decide +kernel
  obtain ⟨merged, isMerged, layered, again⟩ := merged_layers made distinct valid
  obtain ⟨joined, isJoined, names⟩ := (layered ["js"] (by decide)).both rfl rfl
  exact ⟨made, distinct, valid, merged, isMerged, ⟨joined, isJoined, by rw [names]; decide⟩,
    (layered ["js", ignoreName] (by decide)).single rfl rfl, again⟩

/-! ## Rules that are added under a name -/

theorem Store.lookupName_of_ruleSet {store : Store}
    (found : store.root.entryAt? name = some (.ruleSet entries)) : store.lookupName name = some entries := by
  rw [lookupName, follow, found]

/-- A name that leads to a rule-set and is no alias leads there by itself. -/
theorem Store.entryAt?_of_not_isAlias {store : Store} (found : store.lookupName name = some entries)
    (direct : store.isAlias name = false) : store.root.entryAt? name = some (.ruleSet entries) := by
  rw [lookupName, follow] at found
  rw [isAlias] at direct
  split at found
  case h_1 isRuleSet => rw [isRuleSet, Option.some.inj found]
  case h_2 isText =>
    rw [isText] at direct
    contradiction
  case h_3 => contradiction

/-- An alias is no rule-set. -/
theorem Store.ruleSet?_of_isAlias {store : Store} (aliased : store.isAlias name = true) :
    (store.root.entryAt? name).bind Entry.ruleSet? = none := by
  rw [isAlias] at aliased
  cases found : store.root.entryAt? name with
  | none => rfl
  | some entry =>
      cases entry with
      | ruleSet =>
          rw [found] at aliased
          contradiction
      | rule | pattern | value => rfl

/-- **Added rules.** Rules that are laid over the name of a rule-set make a rule-set under that
name. It has all rules that the name stood for exactly if the name was no alias, or they are all
given again. -/
theorem merged_keeps_iff {given overrides rules added : RuleSet} {store : Store}
    (made : Store.ofRuleSets given = .ok store) (distinct : overrides.isDistinct = true)
    (valid : overrides.refusals = []) (named : store.lookup (.named name) = some rules)
    (adds : overrides.entryAt? name = some (.ruleSet added)) :
    ∃ (merged : Store) (kept : RuleSet), store.merged overrides = .ok merged ∧
      merged.lookup (.named name) = some kept ∧ added.names ⊆ kept.names ∧
      (rules.names ⊆ kept.names ↔ store.isAlias name = false ∨ rules.names ⊆ added.names) := by
  let lower := ((store.root.entryAt? name).bind Entry.ruleSet?).getD []
  have isAdded : (RuleSet.compiled overrides).entryAt? name =
      some (.ruleSet (RuleSet.compiled added)) := by
    rw [RuleSet.entryAt?_compiled, adds]
    rfl
  have compiledDistinct := RuleSet.isDistinct_compiled distinct
  have once : (RuleSet.compiled added).names.Nodup :=
    (RuleSet.isDistinct_iff.mp (RuleSet.isDistinct_of_entryAt? compiledDistinct isAdded)).1
  have names := @RuleSet.names_overlay lower _ once
  rw [RuleSet.names_compiled] at names
  refine ⟨_, RuleSet.overlay lower (RuleSet.compiled added), Store.merged_eq made valid,
    Store.lookupName_of_ruleSet (RuleSet.entryAt?_overlay compiledDistinct isAdded), ?_, ?_⟩
  · intro rule isAdded
    rw [names]
    by_cases known : rule ∈ lower.names
    · exact List.mem_append_left _ known
    · exact List.mem_append_right _ (List.mem_filter.mpr ⟨isAdded, by simpa using known⟩)
  · cases aliased : store.isAlias name with
    | false =>
        have isLower : lower = rules := by
          simp only [lower, Store.entryAt?_of_not_isAlias named aliased]
          rfl
        refine iff_of_true ?_ (.inl rfl)
        rw [names, isLower]
        exact List.subset_append_left _ _
    | true =>
        have isLower : lower = [] := by
          simp only [lower, Store.ruleSet?_of_isAlias aliased]
          rfl
        have same : (RuleSet.overlay lower (RuleSet.compiled added)).names = added.names := by
          rw [names, isLower]
          simp [Keyed.names]
        simp [same]

/-- A rule for scripts in pages, whose rule-set is an alias. -/
def pageScriptRules : RuleSet :=
  [("html", .ruleSet [("script", .ruleSet [("no_todo", .rule {})])])]

/-- Rules that are added under a name of its own are added to those that it has. -/
theorem merged_keeps_sampleLayer :
    Store.ofRuleSets sampleRules = .ok ⟨sampleRules⟩ ∧ sampleLayer.isDistinct = true ∧
      sampleLayer.refusals = [] ∧
      ∃ (merged : Store) (kept : RuleSet), Store.merged ⟨sampleRules⟩ sampleLayer = .ok merged ∧
        merged.lookup (.named "js") = some kept ∧ ["a", "b"] ⊆ kept.names := by
  have made : Store.ofRuleSets sampleRules = .ok ⟨sampleRules⟩ := rfl
  have distinct : sampleLayer.isDistinct = true := by decide
  have valid : sampleLayer.refusals = [] := by decide +kernel
  have named : (Store.mk sampleRules).lookup (.named "js") =
      some [("a", .rule {}), ("b", .rule {})] := rfl
  obtain ⟨merged, kept, isMerged, isKept, _, keeps⟩ :=
    merged_keeps_iff made distinct valid named rfl
  exact ⟨made, distinct, valid, merged, kept, isMerged, isKept, keeps.mpr (.inl rfl)⟩

/-- A rule that is added to the rules for scripts in pages takes their place. -/
theorem merged_loses_rules :
    Builtin.store.lookup (.named "html.script") = some Builtin.scriptRules ∧
      pageScriptRules.entryAt? "html.script" = some (.ruleSet [("no_todo", .rule {})]) ∧
      ((Builtin.store.merged pageScriptRules).toOption.bind
        (·.lookup (.named "html.script"))).map Keyed.names = some ["no_todo"] ∧
      "keyword_spacing" ∈ Builtin.scriptRules.names := by
  refine ⟨rfl, rfl, rfl, by decide⟩

end LineRules
