import LineRules.Proofs.RuleSet.Overlay
import LineRules.Token.Plugin

/-!
# Loading token rules

What is in a registry depends only on the sequence of rules that were registered in it: of each id
the last rule counts (`Registry.BuiltFrom.get?_eq`), and the ids stand in the order of their first
registration (`Registry.BuiltFrom.ids_eq`). Loading registers the built-in rules and then those of
plugins. To register a part of the sequence again at its end changes neither the last rules nor
the order, and so loading twice is loading once (`Registry.load_registers`).
-/

namespace LineRules.Token

open LineRules.Text

variable {registry next other : Registry} {rule : TokenRule} {rules added : List TokenRule}
  {notices : List Notice} {modules : Modules} {specs : List String} {id : String}

/-! ## Registered rules -/

/-- The last rule with an id. -/
def lastRule? (rules : List TokenRule) (id : String) : Option TokenRule :=
  rules.findRev? fun rule => rule.id = id

/-- The ids of rules, in the order in which they come first. -/
def firstIds (rules : List TokenRule) : List String := (rules.map TokenRule.id).eraseDups

namespace Registry

/-- A registry in which rules were registered, in their order. -/
inductive BuiltFrom : List TokenRule → Registry → Prop where
  | empty : BuiltFrom [] {}
  | register {rules : List TokenRule} {registry next : Registry} {rule : TokenRule}
      (built : BuiltFrom rules registry) (registered : registry.register rule = .ok next) :
      BuiltFrom (rules ++ [rule]) next

theorem register_iff : registry.register rule = .ok next ↔
    isRegistrable rule.id.toList = true ∧ next = ⟨registry.rules.put rule.id rule⟩ := by
  rw [register]
  split <;> simp [*, eq_comm]

end Registry

theorem lastRule?_append (rules added : List TokenRule) (id : String) :
    lastRule? (rules ++ added) id = (lastRule? added id).or (lastRule? rules id) := by
  simp only [lastRule?, List.findRev?_eq_find?_reverse, List.reverse_append, List.find?_append]

theorem lastRule?_singleton (rule : TokenRule) (id : String) :
    lastRule? [rule] id = if rule.id = id then some rule else none := by
  by_cases same : rule.id = id <;> simp [lastRule?, same]

/-- Rules whose ids are all known bring no new ids. -/
theorem firstIds_append_of_known (known : ∀ rule ∈ added, rule.id ∈ rules.map TokenRule.id) :
    firstIds (rules ++ added) = firstIds rules := by
  have nothing : (added.map TokenRule.id).removeAll (rules.map TokenRule.id) = [] := by
    rw [List.removeAll, List.filter_eq_nil_iff]
    simpa using known
  rw [firstIds, List.map_append, List.eraseDups_append, nothing, List.eraseDups_nil,
    List.append_nil, firstIds]

theorem firstIds_append_of_new (new : rule.id ∉ rules.map TokenRule.id) :
    firstIds (rules ++ [rule]) = firstIds rules ++ [rule.id] := by
  have alone : [rule.id].removeAll (rules.map TokenRule.id) = [rule.id] := by
    rw [List.removeAll, List.filter_eq_self]
    simpa using new
  rw [firstIds, List.map_append, List.eraseDups_append, List.map_singleton, alone, firstIds,
    List.eraseDups_cons]
  rfl

theorem mem_firstIds_iff : id ∈ firstIds rules ↔ id ∈ rules.map TokenRule.id := List.mem_eraseDups

namespace Registry

/-- The last rule with an id counts. -/
theorem BuiltFrom.get?_eq (built : BuiltFrom rules registry) (id : String) :
    registry.get? id = lastRule? rules id := by
  induction built with
  | empty => rfl
  | @register rules registry next rule _ registered hyp =>
      rw [register_iff] at registered
      obtain ⟨_, rfl⟩ := registered
      rw [get?, Keyed.get?_put, lastRule?_append, lastRule?_singleton, ← hyp]
      split <;> rfl

/-- The ids stand in the order of first registration. -/
theorem BuiltFrom.ids_eq (built : BuiltFrom rules registry) : registry.ids = firstIds rules := by
  induction built with
  | empty => rfl
  | @register rules registry next rule _ registered hyp =>
      rw [register_iff] at registered
      obtain ⟨_, rfl⟩ := registered
      have names : registry.rules.names = firstIds rules := hyp
      rw [ids, Keyed.names_put, names]
      split
      case isTrue known =>
        rw [mem_firstIds_iff] at known
        rw [firstIds_append_of_known (by simpa using known)]
      case isFalse new =>
        rw [mem_firstIds_iff] at new
        rw [firstIds_append_of_new new]

theorem BuiltFrom.isRegistrable (built : BuiltFrom rules registry) :
    ∀ rule ∈ rules, isRegistrable rule.id.toList = true := by
  induction built with
  | empty => simp
  | @register rules registry next rule _ registered hyp =>
      rw [register_iff] at registered
      rw [List.forall_mem_append]
      exact ⟨hyp, by simpa using registered.1⟩

theorem BuiltFrom.nodup_ids (built : BuiltFrom rules registry) : registry.ids.Nodup := by
  induction built with
  | empty => exact .nil
  | @register rules registry next rule _ registered hyp =>
      rw [register_iff] at registered
      obtain ⟨_, rfl⟩ := registered
      exact Keyed.nodup_put hyp _ _

/-- A registry is known by the last rules and the order of the ids. -/
theorem BuiltFrom.eq_of_same (built : BuiltFrom rules registry) (builtOther : BuiltFrom added other)
    (last : lastRule? rules = lastRule? added) (first : firstIds rules = firstIds added) :
    registry = other := by
  have ids : registry.rules.names = other.rules.names :=
    built.ids_eq.trans (first.trans builtOther.ids_eq.symm)
  have found : registry.rules.get? = other.rules.get? := by
    funext id
    exact (built.get?_eq id).trans (last ▸ (builtOther.get?_eq id).symm)
  have same : registry.rules = other.rules := by
    rw [← Keyed.filterMap_names built.nodup_ids, ← Keyed.filterMap_names builtOther.nodup_ids, ids,
      found]
  exact congrArg Registry.mk same

/-! ## Registering several rules -/

/-- Rules are all registered exactly if their ids have the right form. -/
theorem registerAll_fault_iff : (registry.registerAll notices rules).fault = none ↔
    ∀ rule ∈ rules, Token.isRegistrable rule.id.toList = true := by
  induction rules generalizing registry notices with
  | nil => simp [registerAll]
  | cons rule rules hyp =>
      rw [registerAll, List.forall_mem_cons, register]
      by_cases accepted : Token.isRegistrable rule.id.toList = true
      · simp only [accepted, if_true, hyp, true_and]
      · simp [accepted]

theorem BuiltFrom.registerAll (built : BuiltFrom rules registry)
    (finished : (registry.registerAll notices added).fault = none) :
    BuiltFrom (rules ++ added) (registry.registerAll notices added).registry := by
  induction added generalizing rules registry notices with
  | nil => simpa [Registry.registerAll] using built
  | cons rule added hyp =>
      rw [Registry.registerAll] at finished ⊢
      cases registered : registry.register rule with
      | error error => simp [registered] at finished
      | ok next =>
          simp only [registered] at finished ⊢
          simpa using hyp (built.register registered) finished

end Registry

/-! ## Loading -/

/-- The rules of a plugin by its name as it is given; a blank name stands for none. -/
def rulesOfSpec (modules : Modules) (spec : String) : Except Fault (List TokenRule) :=
  if (trim spec.toList).isEmpty then .ok [] else loadPlugin modules (trim spec.toList)

/-- The rules of plugins come in the order of their names. -/
theorem loadPlugins_eq (modules : Modules) (specs : List String) :
    loadPlugins modules specs = (specs.mapM (rulesOfSpec modules)).map List.flatten := by
  induction specs with
  | nil => rfl
  | cons spec specs hyp =>
      rw [loadPlugins, List.mapM_cons, hyp, rulesOfSpec]
      dsimp only
      split
      case isTrue => cases specs.mapM (rulesOfSpec modules) <;> rfl
      case isFalse =>
        cases loadPlugin modules (trim spec.toList) with
        | error fault => rfl
        | ok rules => cases specs.mapM (rulesOfSpec modules) <;> rfl

/-- A rule that finds nothing. -/
def silentRule (id description : String) : TokenRule := ⟨id, description, fun _ => .ok []⟩

/-- A module that exports a list of rules. -/
def listModule (name : String) (rules : List TokenRule) : PluginModule where
  name := name
  members := [("TOKEN_RULES", .list (rules.map .rule))]

theorem rulesOfItems_map_rule (rules : List TokenRule) :
    rulesOfItems (rules.map .rule) = .ok rules := by
  induction rules with
  | nil => rfl
  | cons rule rules hyp =>
      rw [rulesOfItems] at hyp ⊢
      rw [List.map_cons, List.mapM_cons, hyp]
      rfl

theorem rulesOfExport_listModule {name : String} (steps : Nat)
    (found : modules.find? name = some (listModule name rules)) :
    rulesOfExport modules (steps + 1) (.moduleRef name) = .ok rules := by
  have unnamed : (listModule name rules).members.get? "csf_token_rules" = none := rfl
  have listed : (listModule name rules).members.get? "TOKEN_RULES" =
      some (.list (rules.map .rule)) := rfl
  simp only [rulesOfExport, found, unnamed, listed, rulesOfItems_map_rule]

namespace Registry

/-- The built-in rules can all be registered. -/
theorem registerAll_builtinRules (registry : Registry) (notices : List Notice) :
    (registry.registerAll notices builtinRules).fault = none := by
  rw [registerAll_fault_iff]
  decide

/-- Where all plugins can be loaded, their rules are registered after the built-in ones. -/
theorem load_of_found (registry : Registry) {found : List (List TokenRule)}
    (isFound : specs.mapM (rulesOfSpec modules) = .ok found) :
    ∃ notices, ((registry.load modules specs).fault =
        ((registry.registerAll [] builtinRules).registry.registerAll notices found.flatten).fault) ∧
      (registry.load modules specs).registry =
        ((registry.registerAll [] builtinRules).registry.registerAll notices
          found.flatten).registry := by
  refine ⟨(registry.registerAll [] builtinRules).notices, ?_⟩
  simp only [load, registerAll_builtinRules, loadPlugins_eq, isFound, Except.map]
  split <;> exact ⟨rfl, rfl⟩

/-- Loading succeeds exactly if all plugins can be loaded and the ids of their rules have the right
form. -/
theorem load_fault_iff : (registry.load modules specs).fault = none ↔
    ∃ found, specs.mapM (rulesOfSpec modules) = .ok found ∧
      ∀ rule ∈ found.flatten, Token.isRegistrable rule.id.toList = true := by
  cases isFound : specs.mapM (rulesOfSpec modules) with
  | error fault => simp [load, registerAll_builtinRules, loadPlugins_eq, isFound, Except.map]
  | ok found =>
      obtain ⟨notices, fault, _⟩ := load_of_found registry isFound
      rw [fault, registerAll_fault_iff]
      simp

/-- Loading registers the built-in rules and then those of plugins. -/
theorem BuiltFrom.load (built : BuiltFrom rules registry) {found : List (List TokenRule)}
    (isFound : specs.mapM (rulesOfSpec modules) = .ok found)
    (loaded : (registry.load modules specs).fault = none) :
    BuiltFrom (rules ++ builtinRules ++ found.flatten) (registry.load modules specs).registry := by
  obtain ⟨notices, fault, result⟩ := load_of_found registry isFound
  rw [result]
  exact (built.registerAll (registerAll_builtinRules registry [])).registerAll (fault ▸ loaded)

end Registry

/-- Rules that are registered again right after themselves change no last rule. -/
theorem lastRule?_append_again (rules added : List TokenRule) :
    lastRule? (rules ++ added ++ added) = lastRule? (rules ++ added) := by
  funext id
  rw [lastRule?_append, lastRule?_append]
  cases lastRule? added id <;> rfl

theorem firstIds_append_again (rules added : List TokenRule) :
    firstIds (rules ++ added ++ added) = firstIds (rules ++ added) := by
  refine firstIds_append_of_known fun rule isMember => ?_
  rw [List.map_append]
  exact List.mem_append_right _ (List.mem_map_of_mem isMember)

namespace Registry

/-- Every rule is registered under its own id, which has the right form. -/
theorem BuiltFrom.of_get? (built : BuiltFrom rules registry)
    (found : registry.get? id = some rule) :
    rule.id = id ∧ Token.isRegistrable id.toList = true := by
  rw [built.get?_eq, lastRule?, List.findRev?_eq_find?_reverse] at found
  have named : rule.id = id := by simpa using List.find?_some found
  have isMember : rule ∈ rules := by simpa using List.mem_of_find?_eq_some found
  exact ⟨named, named ▸ built.isRegistrable rule isMember⟩

/-- To load the same plugins again changes nothing. -/
theorem BuiltFrom.load_load (built : BuiltFrom rules registry)
    (loaded : (registry.load modules specs).fault = none) :
    ((registry.load modules specs).registry.load modules specs).fault = none ∧
      ((registry.load modules specs).registry.load modules specs).registry =
        (registry.load modules specs).registry := by
  have conditions := loaded
  rw [load_fault_iff] at conditions
  have again : ((registry.load modules specs).registry.load modules specs).fault = none := by
    rw [load_fault_iff]
    exact conditions
  obtain ⟨found, isFound, _⟩ := conditions
  have once := built.load isFound loaded
  have twice := once.load isFound again
  rw [List.append_assoc] at once
  rw [List.append_assoc, List.append_assoc rules] at twice
  exact ⟨again, twice.eq_of_same once (lastRule?_append_again _ _) (firstIds_append_again _ _)⟩

/-- **Loading.** Where rules are loaded, the last rule of each id counts: among those registered
before, then the built-in ones, and then those of plugins in the order of their names. Each rule is
registered under its own id, which has the right form, and the ids stand in the order of first
registration. To load the same plugins again succeeds and changes nothing. -/
theorem load_registers (built : BuiltFrom rules registry)
    (loaded : (registry.load modules specs).fault = none) :
    ∃ found, specs.mapM (rulesOfSpec modules) = .ok found ∧
      let sequence := rules ++ builtinRules ++ found.flatten
      let result := (registry.load modules specs).registry
      (∀ id, result.get? id = sequence.findRev? fun rule => rule.id = id) ∧
        (∀ id rule, result.get? id = some rule →
          rule.id = id ∧ Token.isRegistrable id.toList = true) ∧
        result.ids = (sequence.map TokenRule.id).eraseDups ∧
        (result.load modules specs).fault = none ∧
        (result.load modules specs).registry = result := by
  obtain ⟨found, isFound, _⟩ := load_fault_iff.mp loaded
  have result := built.load isFound loaded
  exact ⟨found, isFound, result.get?_eq, fun _ _ => result.of_get?, result.ids_eq,
    built.load_load loaded⟩

/-- A rule of a plugin takes the place of an older one, and one under a built-in id stays after the
built-in rules were loaded again. -/
theorem load_registers_plugin :
    let modules := [listModule "p" [silentRule "csf-a" "new", silentRule "csf-no-var" "mine"]]
    let registry : Registry :=
      ⟨[("csf-b", silentRule "csf-b" ""), ("csf-a", silentRule "csf-a" "old")]⟩
    let result := (registry.load modules [" p ", ""]).registry
    BuiltFrom [silentRule "csf-b" "", silentRule "csf-a" "old"] registry ∧
      (registry.load modules [" p ", ""]).fault = none ∧
      result.get? "csf-a" = some (silentRule "csf-a" "new") ∧
      result.get? "csf-no-var" = some (silentRule "csf-no-var" "mine") ∧
      result.ids = ["csf-b", "csf-a", "csf-catch-arg-name", "csf-no-multiple-vars", "csf-no-var"] ∧
      (result.load modules [" p ", ""]).registry = result := by
  intro modules registry result
  have first : BuiltFrom [silentRule "csf-b" ""] ⟨[("csf-b", silentRule "csf-b" "")]⟩ :=
    BuiltFrom.empty.register rfl
  have built : BuiltFrom [silentRule "csf-b" "", silentRule "csf-a" "old"] registry :=
    first.register rfl
  have named : rulesOfSpec modules " p " =
      .ok [silentRule "csf-a" "new", silentRule "csf-no-var" "mine"] :=
    rulesOfExport_listModule _ rfl
  have blank : rulesOfSpec modules "" = .ok [] := rfl
  have isFound : [" p ", ""].mapM (rulesOfSpec modules) =
      .ok [[silentRule "csf-a" "new", silentRule "csf-no-var" "mine"], []] := by
    rw [List.mapM_cons, named, List.mapM_cons, blank]
    rfl
  have loaded : (registry.load modules [" p ", ""]).fault = none :=
    load_fault_iff.mpr ⟨_, isFound, by decide⟩
  obtain ⟨found, isGiven, last, _, ids, _, again⟩ := load_registers built loaded
  rw [isFound] at isGiven
  obtain rfl := Except.ok.inj isGiven
  exact ⟨built, loaded, last "csf-a", last "csf-no-var", ids, again⟩

end Registry

end LineRules.Token
