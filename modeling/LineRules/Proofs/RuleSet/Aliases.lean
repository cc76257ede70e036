import Mathlib.Logic.Relation
import LineRules.Proofs.RuleSet.Every

/-!
# Aliases

A name leads to another one if it is an alias of it. `Store.resolve` follows aliases until a
name comes up again, and it ends because every name but the first stands in the store as a text.
It finds the same as `Store.lookupName`, which counts its steps instead (`lookupName_eq_resolve`).
What a name stands for is the rule-set at the end of its chain of aliases, and it stands for
nothing exactly if the chain ends elsewhere or goes round in a circle (`lookup_named_iff`).
-/

namespace LineRules

open Relation

/-! ## The names in a store -/

namespace RuleSet

/-- The names that aliases at all levels stand for. -/
def aliasTargets (entries : RuleSet) : List String :=
  collect (fun _ => []) (fun _ entry => entry.alias?.toList) entries

mutual

theorem length_collect_alias? : ∀ (entry : Entry) (name : String),
    (entry.collect (fun _ => []) (fun _ entry => entry.alias?.toList) name).length =
      entryAliases entry
  | .ruleSet entries, _ => length_aliasTargets entries
  | .rule _, _ => rfl
  | .pattern _, _ => rfl
  | .value held, _ => by cases held <;> rfl

theorem length_aliasTargets : ∀ entries : List (String × Entry),
    (aliasTargets entries).length = aliasCount entries
  | [] => rfl
  | (name, entry) :: rest => by
      rw [aliasTargets, collect, List.length_append, length_collect_alias? entry name, aliasCount]
      exact congrArg _ (length_aliasTargets rest)

end

/-- A text at the end of a path is one of the names that aliases stand for. -/
theorem mem_aliasTargets {root : RuleSet} {path : List String} {target : String}
    (found : root.entryAlong? path = some (.value (.text target))) :
    target ∈ aliasTargets root := by
  induction path generalizing root with
  | nil => contradiction
  | cons name rest hyp =>
      by_cases last : rest = []
      · subst last
        have here : (name, Entry.value (.text target)) ∈ root := Keyed.mem_of_get? found
        exact collect_subset_of_mem here (List.mem_singleton.mpr rfl)
      · rw [entryAlong?_cons root name last] at found
        have inner := hyp found
        rw [inside] at inner
        cases stands : root.get? name with
        | none =>
            rw [stands] at inner
            contradiction
        | some entry =>
            rw [stands] at inner
            cases entry with
            | ruleSet entries => exact collect_subset_of_mem (Keyed.mem_of_get? stands) inner
            | rule | pattern | value => contradiction

end RuleSet

namespace Store

variable {store : Store} {name target last : String} {seen : List String} {entries : RuleSet}

/-- A name is an alias of another one. -/
def PointsTo (store : Store) (name target : String) : Prop :=
  store.root.entryAt? name = some (.value (.text target))

/-- A name at which neither a rule-set nor an alias stands. -/
def IsDead (store : Store) (name : String) : Prop :=
  (store.root.entryAt? name).bind Entry.ruleSet? = none ∧
    (store.root.entryAt? name).bind Entry.alias? = none

theorem PointsTo.mem_aliasTargets (points : store.PointsTo name target) :
    target ∈ RuleSet.aliasTargets store.root := by
  rw [PointsTo, RuleSet.entryAt?] at points
  split at points
  case isTrue => contradiction
  case isFalse => exact RuleSet.mem_aliasTargets points

theorem PointsTo.unique : Relator.RightUnique store.PointsTo := by
  intro name target other points leads
  rw [PointsTo] at points leads
  rw [points] at leads
  simpa using leads

/-- The names that aliases stand for and that have not been seen. -/
def unseen (store : Store) (seen : List String) : List String :=
  (RuleSet.aliasTargets store.root).filter (· ∉ seen)

/-- How many names a walk can still come to: the one it is at counts if it was given from
outside. -/
def ahead (store : Store) (seen : List String) (name : String) : Nat :=
  (store.unseen seen).length + if name ∈ RuleSet.aliasTargets store.root then 0 else 1

theorem ahead_lt (new : name ∉ seen) (points : store.PointsTo name target) :
    store.ahead (name :: seen) target < store.ahead seen name := by
  have fewer : store.unseen (name :: seen) = (store.unseen seen).filter (· ≠ name) := by
    rw [unseen, unseen, List.filter_filter]
    exact List.filter_congr fun other _ => by simp
  have target : target ∈ RuleSet.aliasTargets store.root := points.mem_aliasTargets
  rw [ahead, ahead, if_pos target, fewer]
  by_cases inside : name ∈ RuleSet.aliasTargets store.root
  · have among : name ∈ store.unseen seen := List.mem_filter.mpr ⟨inside, by simpa using new⟩
    have shorter := List.length_filter_lt_length_iff_exists.mpr
      (⟨name, among, by simp⟩ : ∃ other ∈ store.unseen seen, ¬decide (other ≠ name) = true)
    rw [if_pos inside]
    omega
  · have shorter := List.length_filter_le (fun other => decide (other ≠ name)) (store.unseen seen)
    rw [if_neg inside]
    omega

theorem ahead_pos (store : Store) (new : name ∉ seen) : 0 < store.ahead seen name := by
  rw [ahead]
  split
  case isTrue inside =>
    have among : name ∈ store.unseen seen := List.mem_filter.mpr ⟨inside, by simpa using new⟩
    have some := List.length_pos_of_mem among
    omega
  case isFalse => omega

theorem ahead_nil_le (store : Store) (name : String) :
    store.ahead [] name ≤ RuleSet.aliasCount store.root + 1 := by
  have all : (store.unseen []).length ≤ RuleSet.aliasCount store.root := by
    rw [← RuleSet.length_aliasTargets]
    exact List.length_filter_le _ _
  rw [ahead]
  split <;> omega

/-! ## Walks -/

/-- Follows aliases from a name, unless it has been seen, to a rule-set. -/
def resolve (store : Store) (seen : List String) (name : String) : Option RuleSet :=
  if _new : name ∈ seen then none
  else
    match _stands : store.root.entryAt? name with
    | some (.ruleSet entries) => some entries
    | some (.value (.text target)) => resolve store (name :: seen) target
    | _ => none
termination_by store.ahead seen name
decreasing_by exact ahead_lt _new _stands

/-- A walk that ends at a rule-set has come to it by aliases. -/
theorem exists_of_resolve_eq_some (found : store.resolve seen name = some entries) :
    ∃ last, ReflTransGen store.PointsTo name last ∧
      store.root.entryAt? last = some (.ruleSet entries) := by
  fun_induction resolve store seen name with
  | case1 => contradiction
  | case2 seen name new others stands =>
      obtain rfl := Option.some.inj found
      exact ⟨name, .refl, stands⟩
  | case3 seen name new target points hyp =>
      obtain ⟨last, chain, stands⟩ := hyp found
      exact ⟨last, .head points chain, stands⟩
  | case4 => contradiction

/-- A walk that leads nowhere has come to a name with neither, or to one that leads to itself. The
names seen lead to the one the walk is at. -/
theorem exists_of_resolve_eq_none (lost : store.resolve seen name = none)
    (leads : ∀ other ∈ seen, TransGen store.PointsTo other name) :
    ∃ last, ReflTransGen store.PointsTo name last ∧
      (store.IsDead last ∨ TransGen store.PointsTo last last) := by
  fun_induction resolve store seen name with
  | case1 seen name known => exact ⟨name, .refl, .inr (leads name known)⟩
  | case2 => contradiction
  | case3 seen name new target points hyp =>
      have later : ∀ other ∈ name :: seen, TransGen store.PointsTo other target := by
        intro other isSeen
        obtain rfl | isSeen := List.mem_cons.mp isSeen
        · exact .single points
        · exact .tail (leads other isSeen) points
      obtain ⟨last, chain, stops⟩ := hyp lost later
      exact ⟨last, .head points chain, stops⟩
  | case4 seen name new noRuleSet noAlias =>
      refine ⟨name, .refl, .inl ⟨?_, ?_⟩⟩
      · cases stands : store.root.entryAt? name with
        | none => rfl
        | some entry =>
            cases entry with
            | ruleSet entries => exact absurd stands (noRuleSet entries)
            | rule | pattern | value => rfl
      · cases stands : store.root.entryAt? name with
        | none => rfl
        | some entry =>
            cases entry with
            | value held =>
                cases held with
                | text target => exact absurd stands (noAlias target)
                | _ => rfl
            | rule | pattern | ruleSet => rfl

/-! ## Chains of aliases -/

/-- At the end of a chain that leads to a rule-set there is no alias. -/
theorem not_pointsTo_of_ruleSet (stands : store.root.entryAt? last = some (.ruleSet entries)) :
    ¬store.PointsTo last target := by
  rw [PointsTo, stands]
  simp

/-- Whatever a name on a circle leads to is on the circle. -/
theorem circle_of_chain (circle : TransGen store.PointsTo name name)
    (chain : ReflTransGen store.PointsTo name last) : TransGen store.PointsTo last last := by
  induction chain with
  | refl => exact circle
  | tail _ points hyp =>
      obtain ⟨next, leads, back⟩ := TransGen.head'_iff.mp hyp
      obtain rfl := PointsTo.unique points leads
      exact .tail' back points

/-- A chain that starts at a rule-set ends there. -/
theorem eq_of_chain_of_ruleSet (stands : store.root.entryAt? name = some (.ruleSet entries))
    (chain : ReflTransGen store.PointsTo name last) : last = name := by
  obtain rfl | ⟨next, points, _⟩ := chain.cases_head
  · rfl
  · exact absurd points (not_pointsTo_of_ruleSet stands)

/-- All chains from a name that end at a rule-set end at the same one. -/
theorem ruleSet_unique {other : String} {others : RuleSet}
    (chain : ReflTransGen store.PointsTo name last)
    (stands : store.root.entryAt? last = some (.ruleSet entries))
    (leads : ReflTransGen store.PointsTo name other)
    (isOther : store.root.entryAt? other = some (.ruleSet others)) : entries = others := by
  have same : last = other := by
    obtain onward | back := ReflTransGen.total_of_right_unique PointsTo.unique chain leads
    · exact (eq_of_chain_of_ruleSet stands onward).symm
    · exact eq_of_chain_of_ruleSet isOther back
  rw [same, isOther] at stands
  simpa using stands.symm

/-- From a name that leads to a rule-set, no chain leads to a dead end or into a circle. -/
theorem not_lost_of_chain {other : String} (chain : ReflTransGen store.PointsTo name last)
    (stands : store.root.entryAt? last = some (.ruleSet entries))
    (leads : ReflTransGen store.PointsTo name other) :
    ¬(store.IsDead other ∨ TransGen store.PointsTo other other) := by
  have onward : ReflTransGen store.PointsTo other last := by
    obtain back | onward := ReflTransGen.total_of_right_unique PointsTo.unique chain leads
    · rw [eq_of_chain_of_ruleSet stands back]
    · exact onward
  rintro (⟨noRuleSet, noAlias⟩ | circle)
  · obtain rfl | ⟨next, points, _⟩ := onward.cases_head
    · rw [stands] at noRuleSet
      contradiction
    · rw [points] at noAlias
      contradiction
  · obtain ⟨next, points, _⟩ := TransGen.head'_iff.mp (circle_of_chain circle onward)
    exact not_pointsTo_of_ruleSet stands points

/-! ## Steps that are counted -/

theorem exists_of_follow_eq_some {steps : Nat} (found : store.follow steps name = some entries) :
    ∃ last, ReflTransGen store.PointsTo name last ∧
      store.root.entryAt? last = some (.ruleSet entries) := by
  induction steps generalizing name with
  | zero => contradiction
  | succ steps hyp =>
      rw [follow] at found
      split at found
      case h_1 others stands =>
        obtain rfl := Option.some.inj found
        exact ⟨name, .refl, stands⟩
      case h_2 target points =>
        obtain ⟨last, chain, stands⟩ := hyp found
        exact ⟨last, .head points chain, stands⟩
      case h_3 => contradiction

/-- As many steps as there are names ahead are enough. -/
theorem follow_of_resolve {steps : Nat} (found : store.resolve seen name = some entries)
    (enough : store.ahead seen name ≤ steps) : store.follow steps name = some entries := by
  fun_induction resolve store seen name generalizing steps with
  | case1 => contradiction
  | case2 seen name new others stands =>
      have here := ahead_pos store new
      obtain ⟨steps, rfl⟩ : ∃ fewer, steps = fewer + 1 := ⟨steps - 1, by omega⟩
      rw [follow, stands]
      exact found
  | case3 seen name new target points hyp =>
      have fewer := ahead_lt new points
      obtain ⟨steps, rfl⟩ : ∃ fewer, steps = fewer + 1 := ⟨steps - 1, by omega⟩
      rw [follow, points]
      exact hyp found (by omega)
  | case4 => contradiction

/-- To count steps and to remember names comes to the same. -/
theorem lookupName_eq_resolve (store : Store) (name : String) :
    store.lookupName name = store.resolve [] name := by
  cases found : store.resolve [] name with
  | some entries => exact follow_of_resolve found (ahead_nil_le store name)
  | none =>
      obtain ⟨other, leads, lost⟩ := exists_of_resolve_eq_none found (by simp)
      cases followed : store.lookupName name with
      | none => rfl
      | some entries =>
          obtain ⟨last, chain, stands⟩ := exists_of_follow_eq_some followed
          exact absurd lost (not_lost_of_chain chain stands leads)

/-- A name stands for the rule-set that its chain of aliases ends at. -/
theorem lookupName_eq_some_iff : store.lookupName name = some entries ↔
    ∃ last, ReflTransGen store.PointsTo name last ∧
      store.root.entryAt? last = some (.ruleSet entries) := by
  rw [lookupName_eq_resolve]
  refine ⟨exists_of_resolve_eq_some, ?_⟩
  rintro ⟨last, chain, stands⟩
  cases found : store.resolve [] name with
  | none =>
      obtain ⟨other, leads, lost⟩ := exists_of_resolve_eq_none found (by simp)
      exact absurd lost (not_lost_of_chain chain stands leads)
  | some others =>
      obtain ⟨other, leads, isOther⟩ := exists_of_resolve_eq_some found
      rw [ruleSet_unique leads isOther chain stands]

/-- A name stands for nothing if its chain of aliases ends at no rule-set, or does not end. -/
theorem lookupName_eq_none_iff : store.lookupName name = none ↔
    ∃ last, ReflTransGen store.PointsTo name last ∧
      (store.IsDead last ∨ TransGen store.PointsTo last last) := by
  constructor
  · intro lost
    rw [lookupName_eq_resolve] at lost
    exact exists_of_resolve_eq_none lost (by simp)
  · rintro ⟨other, leads, lost⟩
    refine Option.eq_none_iff_forall_ne_some.mpr fun entries found => ?_
    obtain ⟨last, chain, stands⟩ := lookupName_eq_some_iff.mp found
    exact not_lost_of_chain chain stands leads lost

/-- An alias stands for what the name stands for that it is an alias of. -/
theorem lookupName_of_pointsTo (points : store.PointsTo name target) :
    store.lookupName name = store.lookupName target := by
  refine Option.ext fun entries => ?_
  rw [lookupName_eq_some_iff, lookupName_eq_some_iff]
  constructor
  · rintro ⟨last, chain, stands⟩
    obtain rfl | ⟨next, leads, rest⟩ := chain.cases_head
    · exact absurd points (not_pointsTo_of_ruleSet stands)
    · obtain rfl := PointsTo.unique points leads
      exact ⟨last, rest, stands⟩
  · rintro ⟨last, chain, stands⟩
    exact ⟨last, .head points chain, stands⟩

/-- **Aliases.** A name stands for what is found by following aliases until a name comes up again.
That is the rule-set at the end of its chain of aliases, and nothing if the chain ends elsewhere
or goes round in a circle. An alias stands for the same as the name that it is an alias of. -/
theorem lookup_named_iff (store : Store) (name : String) :
    store.lookup (.named name) = store.resolve [] name ∧
      (∀ entries, store.lookup (.named name) = some entries ↔
        ∃ last, ReflTransGen store.PointsTo name last ∧
          store.root.entryAt? last = some (.ruleSet entries)) ∧
      (store.lookup (.named name) = none ↔
        ∃ last, ReflTransGen store.PointsTo name last ∧
          (store.IsDead last ∨ TransGen store.PointsTo last last)) ∧
      ∀ target, store.PointsTo name target →
        store.lookup (.named name) = store.lookup (.named target) :=
  ⟨lookupName_eq_resolve store name, fun _ => lookupName_eq_some_iff, lookupName_eq_none_iff,
    fun _ => lookupName_of_pointsTo⟩

/-- From outside a circle of names, a chain can lead into it. -/
example :
    let store : Store :=
      ⟨[("a", .value (.text "b")), ("b", .value (.text "c")), ("c", .value (.text "b")),
        ("d", .value (.text "e.f")), ("e", .ruleSet [("f", .ruleSet [])])]⟩
    store.lookup (.named "a") = none ∧ store.lookup (.named "d") = some [] :=
  ⟨rfl, rfl⟩

end Store

end LineRules
