import LineRules.Proofs.RuleSet.Stops

/-!
# Compiled rule-sets

In the rule-sets of a store, texts for ignore patterns stand compiled. `RuleSet.compiled` is a
tree of rule-sets after that; the names in it and their order are the same. Making a store gives
just that tree, unless a text is refused (`compileIgnores_of_refusals_eq_nil`), and it leaves
the tree of a store alone (`compiled_of_compileIgnores`).
-/

namespace LineRules

open LineRules.Text

/-! ## Trees of rule-sets -/

mutual

/-- Whether every rule-set in an entry has each name once. -/
def Entry.isDistinct : Entry → Bool
  | .ruleSet entries => decide (Keyed.names entries).Nodup && RuleSet.areDistinct entries
  | _ => true

/-- Whether every rule-set in the entries of a rule-set has each name once. -/
def RuleSet.areDistinct : List (String × Entry) → Bool
  | [] => true
  | (_, entry) :: rest => entry.isDistinct && RuleSet.areDistinct rest

end

/-- Whether a rule-set and every rule-set in it has each name once. -/
def RuleSet.isDistinct (entries : RuleSet) : Bool := (Entry.ruleSet entries).isDistinct

mutual

/-- An entry under a name, in which texts for ignore patterns are compiled as far as they can
be. -/
def Entry.compiled (name : String) : Entry → Entry
  | .ruleSet entries => .ruleSet (RuleSet.compiled entries)
  | .value (.text source) =>
    if name = ignoreName then
      match Pattern.compile source with
      | .ok pattern => .pattern pattern
      | .error _ => .value (.text source)
    else .value (.text source)
  | entry => entry

/-- The entries of a rule-set, in which texts for ignore patterns are compiled as far as they
can be. -/
def RuleSet.compiled : List (String × Entry) → RuleSet
  | [] => []
  | (name, entry) :: rest => (name, entry.compiled name) :: RuleSet.compiled rest

end

variable {entries root : RuleSet} {entry : Entry} {name : String} {path : List String}

namespace RuleSet

theorem isDistinct_iff :
    entries.isDistinct = true ↔ entries.names.Nodup ∧ areDistinct entries = true := by
  simp [isDistinct, Entry.isDistinct]

theorem areDistinct_iff :
    areDistinct entries = true ↔ ∀ member ∈ entries, member.2.isDistinct = true := by
  induction entries with
  | nil => simp [areDistinct]
  | cons first entries hyp => simp [areDistinct, hyp]

/-- A rule-set inside of one that has each name once is such a one. -/
theorem isDistinct_inside (distinct : root.isDistinct = true) :
    (root.inside name).isDistinct = true := by
  rw [inside]
  cases found : root.get? name with
  | none => rfl
  | some entry =>
      cases entry with
      | ruleSet entries =>
          exact areDistinct_iff.mp (isDistinct_iff.mp distinct).2 _ (Keyed.mem_of_get? found)
      | rule | pattern | value => rfl

theorem isDistinct_of_entryAlong? (distinct : root.isDistinct = true)
    (found : root.entryAlong? path = some entry) : entry.isDistinct = true := by
  induction path generalizing root with
  | nil => contradiction
  | cons name rest hyp =>
      by_cases last : rest = []
      · subst last
        exact areDistinct_iff.mp (isDistinct_iff.mp distinct).2 _ (Keyed.mem_of_get? found)
      · rw [entryAlong?_cons _ _ last] at found
        exact hyp (isDistinct_inside distinct) found

theorem isDistinct_of_entryAt? (distinct : root.isDistinct = true)
    (found : root.entryAt? name = some entry) : entry.isDistinct = true := by
  rw [entryAt?] at found
  split at found
  case isTrue => contradiction
  case isFalse => exact isDistinct_of_entryAlong? distinct found

/-! ## Compiled trees -/

theorem ruleSet?_compiled (name : String) (entry : Entry) :
    (entry.compiled name).ruleSet? = entry.ruleSet?.map compiled := by
  cases entry with
  | rule | pattern | ruleSet => rfl
  | value held =>
      cases held with
      | text source =>
          rw [Entry.compiled]
          split
          case isTrue => cases Pattern.compile source <;> rfl
          case isFalse => rfl
      | _ => rfl

theorem names_compiled (entries : RuleSet) : (compiled entries).names = entries.names := by
  induction entries with
  | nil => rfl
  | cons first entries hyp =>
      rw [compiled]
      exact congrArg (first.1 :: ·) hyp

theorem get?_compiled (entries : RuleSet) (name : String) :
    (compiled entries).get? name = (entries.get? name).map (Entry.compiled name) := by
  induction entries with
  | nil => rfl
  | cons first entries hyp =>
      obtain ⟨key, held⟩ := first
      rw [compiled, Keyed.get?, Keyed.get?]
      split
      case isTrue same => rw [same, Option.map_some]
      case isFalse => exact hyp

theorem inside_compiled (root : RuleSet) (name : String) :
    (compiled root).inside name = compiled (root.inside name) := by
  rw [inside, get?_compiled, inside]
  cases root.get? name with
  | none => rfl
  | some entry =>
      simp only [Option.map_some, Option.bind_some, ruleSet?_compiled]
      cases entry.ruleSet? <;> rfl

/-- At the end of a path stands the entry that stood there, compiled. -/
theorem entryAlong?_compiled (root : RuleSet) (path : List String) :
    (compiled root).entryAlong? path =
      (root.entryAlong? path).map (Entry.compiled (path.getLastD "")) := by
  induction path generalizing root with
  | nil => rfl
  | cons name rest hyp =>
      by_cases last : rest = []
      · subst last
        exact get?_compiled root name
      · obtain ⟨next, others, rfl⟩ := List.exists_cons_of_ne_nil last
        rw [entryAlong?_cons _ _ last, inside_compiled, hyp, entryAlong?_cons _ _ last]
        rfl

theorem entryAt?_compiled (root : RuleSet) (name : String) : (compiled root).entryAt? name =
    (root.entryAt? name).map (Entry.compiled ((segments name).getLastD "")) := by
  rw [entryAt?, entryAt?]
  split
  · rfl
  · exact entryAlong?_compiled root _

mutual

theorem isDistinct_compiledEntry : ∀ {entry : Entry} {name : String},
    entry.isDistinct = true → (entry.compiled name).isDistinct = true
  | .ruleSet entries, _, distinct => by
      rw [Entry.compiled]
      obtain ⟨once, inside⟩ := isDistinct_iff.mp distinct
      exact isDistinct_iff.mpr ⟨by rwa [names_compiled], areDistinct_compiled inside⟩
  | .rule _, _, _ => rfl
  | .pattern _, _, _ => rfl
  | .value held, name, _ => by
      have single := ruleSet?_compiled name (.value held)
      generalize Entry.compiled name (.value held) = entry at single
      cases entry with
      | ruleSet => contradiction
      | rule | pattern | value => rfl

theorem areDistinct_compiled : ∀ {entries : List (String × Entry)},
    areDistinct entries = true → areDistinct (compiled entries) = true
  | [], _ => rfl
  | (name, entry) :: rest, distinct => by
      obtain ⟨here, later⟩ := Bool.and_eq_true_iff.mp distinct
      rw [compiled, areDistinct, isDistinct_compiledEntry here, areDistinct_compiled later]
      rfl

end

theorem isDistinct_compiled (distinct : entries.isDistinct = true) :
    (compiled entries).isDistinct = true :=
  @isDistinct_compiledEntry (.ruleSet entries) "" distinct

mutual

theorem compileEntry_of_collect_eq_nil : ∀ {entry : Entry} {name : String},
    entry.collect (fun _ => []) leafRefusals name = [] →
      compileEntry name entry = .ok (entry.compiled name)
  | .ruleSet entries, _, free => by
      rw [compileEntry, compileIgnores_of_refusals_eq_nil free, Entry.compiled]
      rfl
  | .rule _, _, _ => rfl
  | .pattern _, _, _ => rfl
  | .value held, name, free => by
      cases held with
      | text source =>
          rw [compileEntry, Entry.compiled]
          split
          case isTrue isIgnore =>
            rw [Entry.collect_of_single rfl, leafRefusals, if_pos isIgnore, ignoreFaults] at free
            cases read : Pattern.compile source with
            | ok pattern => rfl
            | error error =>
                rw [read] at free
                contradiction
          case isFalse => rfl
      | _ => rfl

/-- Where no text for an ignore pattern is refused, all of them are compiled. -/
theorem compileIgnores_of_refusals_eq_nil : ∀ {entries : List (String × Entry)},
    refusals entries = [] → compileIgnores entries = .ok (compiled entries)
  | [], _ => rfl
  | (name, entry) :: rest, free => by
      obtain ⟨here, later⟩ := List.append_eq_nil_iff.mp free
      rw [compileIgnores, compileEntry_of_collect_eq_nil here,
        compileIgnores_of_refusals_eq_nil later, compiled]
      rfl

end

mutual

theorem compiled_of_compileEntry : ∀ {entry made : Entry} {name : String},
    compileEntry name entry = .ok made →
      made.collect (fun _ => []) leafRefusals name = [] ∧ made.compiled name = made
  | .ruleSet entries, _, _, isMade => by
      obtain ⟨others, isOthers, rfl⟩ := map_eq_ok.mp isMade
      obtain ⟨free, same⟩ := compiled_of_compileIgnores isOthers
      exact ⟨free, congrArg Entry.ruleSet same⟩
  | .rule _, _, _, isMade => by
      cases isMade
      exact ⟨rfl, rfl⟩
  | .pattern _, _, _, isMade => by
      cases isMade
      exact ⟨rfl, rfl⟩
  | .value held, _, name, isMade => by
      cases held with
      | text source =>
          rw [compileEntry] at isMade
          split at isMade
          case isTrue isIgnore =>
            obtain ⟨pattern, _, rfl⟩ := map_eq_ok.mp isMade
            exact ⟨rfl, rfl⟩
          case isFalse other =>
            cases isMade
            exact ⟨if_neg other, if_neg other⟩
      | _ =>
          cases isMade
          exact ⟨rfl, rfl⟩

/-- In the rule-sets of a store, all texts for ignore patterns are compiled already. -/
theorem compiled_of_compileIgnores : ∀ {entries : List (String × Entry)} {made : RuleSet},
    compileIgnores entries = .ok made → refusals made = [] ∧ compiled made = made
  | [], _, isMade => by
      cases isMade
      exact ⟨rfl, rfl⟩
  | (name, entry) :: rest, _, isMade => by
      obtain ⟨first, isFirst, isMade⟩ := bind_eq_ok.mp isMade
      obtain ⟨others, isOthers, isMade⟩ := bind_eq_ok.mp isMade
      cases isMade
      obtain ⟨here, same⟩ := compiled_of_compileEntry isFirst
      obtain ⟨later, others⟩ := compiled_of_compileIgnores isOthers
      refine ⟨List.append_eq_nil_iff.mpr ⟨here, later⟩, ?_⟩
      rw [compiled, same, others]

end

/-- Every entry is compiled by itself. -/
theorem get?_compileIgnores {made : RuleSet} (isMade : compileIgnores entries = .ok made)
    (found : entries.get? name = some entry) :
    ∃ other, compileEntry name entry = .ok other ∧ made.get? name = some other := by
  induction entries generalizing made with
  | nil => contradiction
  | cons first entries hyp =>
      obtain ⟨key, held⟩ := first
      obtain ⟨first, isFirst, isMade⟩ := bind_eq_ok.mp isMade
      obtain ⟨others, isOthers, isMade⟩ := bind_eq_ok.mp isMade
      cases isMade
      rw [Keyed.get?] at found ⊢
      split at found
      case isTrue same =>
        cases found
        exact ⟨first, same ▸ isFirst, if_pos same⟩
      case isFalse other =>
        rw [if_neg other]
        exact hyp isOthers found

end RuleSet

end LineRules
