import LineRules.Builtin.Store
import LineRules.Proofs.Config.Accepted
import LineRules.Proofs.RuleSet.Paths

/-!
# What holds of every entry of a rule-set

`RuleSet.Every node leaf` says something of the names of all rule-sets that are nested in a
rule-set, and something of all its other entries, at every depth. It is kept where entries are
put somewhere, where rule-sets are laid over each other and where they are compiled, and it
holds of every rule-set that is looked up. `RuleSet.collect` lists something for every entry in the same way.
-/

namespace LineRules

namespace Keyed

variable {α : Type} {table other : Keyed α} {name : String} {value : α} {member : String × α}

theorem mem_of_get? (found : table.get? name = some value) : (name, value) ∈ table := by
  induction table with
  | nil => contradiction
  | cons first table hyp =>
      obtain ⟨key, held⟩ := first
      rw [get?] at found
      split at found
      case isTrue same =>
        cases found
        exact List.mem_cons.mpr (.inl (by rw [same]))
      case isFalse => exact List.mem_cons_of_mem _ (hyp found)

theorem mem_put (isMember : member ∈ table.put name value) :
    member ∈ table ∨ member = (name, value) := by
  induction table with
  | nil => exact .inr (List.mem_singleton.mp isMember)
  | cons first table hyp =>
      obtain ⟨key, held⟩ := first
      rw [put] at isMember
      split at isMember
      case isTrue same =>
        obtain rfl | isMember := List.mem_cons.mp isMember
        · exact .inr (by rw [same])
        · exact .inl (List.mem_cons_of_mem _ isMember)
      case isFalse =>
        obtain rfl | isMember := List.mem_cons.mp isMember
        · exact .inl List.mem_cons_self
        · exact (hyp isMember).imp_left (List.mem_cons_of_mem _)

theorem mem_update (isMember : member ∈ table.update other) : member ∈ table ∨ member ∈ other := by
  induction other generalizing table with
  | nil => exact .inl isMember
  | cons first other hyp =>
      obtain isPut | isMember := hyp isMember
      · obtain isMember | rfl := mem_put isPut
        · exact .inl isMember
        · exact .inr List.mem_cons_self
      · exact .inr (List.mem_cons_of_mem _ isMember)

end Keyed

/-- Something holds of the names of an entry and of all rule-sets in it, as far as they are
rule-sets, and something of all other entries in it. -/
inductive Entry.Every (node : String → Prop) (leaf : String → Entry → Prop) :
    String → Entry → Prop where
  | ruleSet {name : String} {entries : RuleSet} (named : node name)
      (inside : ∀ member ∈ entries, Every node leaf member.1 member.2) :
      Every node leaf name (.ruleSet entries)
  | leaf {name : String} {entry : Entry} (single : entry.ruleSet? = none)
      (holds : leaf name entry) : Every node leaf name entry

/-- Something holds of the names of all rule-sets in a rule-set, and something of all its other
entries. -/
def RuleSet.Every (node : String → Prop) (leaf : String → Entry → Prop) (entries : RuleSet) :
    Prop :=
  ∀ member ∈ entries, Entry.Every node leaf member.1 member.2

mutual

/-- What is listed for an entry: for a rule-set something by its name and what is listed for its
entries, and something for every other entry. -/
def Entry.collect {α : Type} (node : String → List α) (leaf : String → Entry → List α)
    (name : String) : Entry → List α
  | .ruleSet entries => node name ++ RuleSet.collect node leaf entries
  | entry => leaf name entry

/-- What is listed for the entries of a rule-set. -/
def RuleSet.collect {α : Type} (node : String → List α) (leaf : String → Entry → List α) :
    List (String × Entry) → List α
  | [] => []
  | (name, entry) :: rest => entry.collect node leaf name ++ RuleSet.collect node leaf rest

end

theorem Entry.collect_of_single {α : Type} {node : String → List α}
    {leaf : String → Entry → List α} {name : String} {entry : Entry}
    (single : entry.ruleSet? = none) : entry.collect node leaf name = leaf name entry := by
  cases entry with
  | ruleSet entries => contradiction
  | rule | pattern | value => rfl

theorem RuleSet.collect_subset_of_mem {α : Type} {node : String → List α}
    {leaf : String → Entry → List α} {entries : RuleSet} {member : String × Entry}
    (isMember : member ∈ entries) :
    member.2.collect node leaf member.1 ⊆ RuleSet.collect node leaf entries := by
  induction entries with
  | nil => contradiction
  | cons first entries hyp =>
      obtain ⟨name, entry⟩ := first
      rw [collect]
      obtain rfl | isMember := List.mem_cons.mp isMember
      · exact List.subset_append_left _ _
      · exact List.subset_append_of_subset_right _ (hyp isMember)

variable {node : String → Prop} {leaf : String → Entry → Prop} {name : String} {entry : Entry}
  {entries root other : RuleSet}

theorem Entry.every_ruleSet_iff :
    Entry.Every node leaf name (.ruleSet entries) ↔ node name ∧ entries.Every node leaf := by
  constructor
  · rintro (⟨named, inside⟩ | ⟨single, _⟩)
    · exact ⟨named, inside⟩
    · contradiction
  · exact fun every => .ruleSet every.1 every.2

theorem Entry.Every.holds (every : Entry.Every node leaf name entry)
    (single : entry.ruleSet? = none) : leaf name entry := by
  obtain ⟨_, _⟩ | ⟨_, holds⟩ := every
  · contradiction
  · exact holds

namespace RuleSet

theorem every_nil : Every node leaf [] := fun _ absent => nomatch absent

theorem every_cons_iff :
    Every node leaf ((name, entry) :: entries) ↔
      Entry.Every node leaf name entry ∧ entries.Every node leaf :=
  List.forall_mem_cons

mutual

theorem collect_eq_nil_iff_entry {α : Type} {node : String → List α}
    {leaf : String → Entry → List α} : ∀ {entry : Entry} {name : String},
      entry.collect node leaf name = [] ↔
        Entry.Every (fun name => node name = []) (fun name entry => leaf name entry = []) name entry
  | .ruleSet entries, name => by
      rw [Entry.collect, List.append_eq_nil_iff, collect_eq_nil_iff, Entry.every_ruleSet_iff]
  | .rule _, _ => ⟨fun free => .leaf rfl free, fun every => every.holds rfl⟩
  | .pattern _, _ => ⟨fun free => .leaf rfl free, fun every => every.holds rfl⟩
  | .value _, _ => ⟨fun free => .leaf rfl free, fun every => every.holds rfl⟩

/-- Nothing is listed exactly if nothing is listed for any entry. -/
theorem collect_eq_nil_iff {α : Type} {node : String → List α} {leaf : String → Entry → List α} :
    ∀ {entries : List (String × Entry)}, collect node leaf entries = [] ↔
      Every (fun name => node name = []) (fun name entry => leaf name entry = []) entries
  | [] => ⟨fun _ => every_nil, fun _ => rfl⟩
  | (name, entry) :: rest => by
      rw [collect, List.append_eq_nil_iff, collect_eq_nil_iff_entry, collect_eq_nil_iff,
        every_cons_iff]

end

theorem Every.get? (every : entries.Every node leaf) (found : entries.get? name = some entry) :
    Entry.Every node leaf name entry :=
  every _ (Keyed.mem_of_get? found)

theorem Every.put (every : entries.Every node leaf) (holds : Entry.Every node leaf name entry) :
    Every node leaf (entries.put name entry) := by
  intro member isMember
  obtain isMember | rfl := Keyed.mem_put isMember
  · exact every member isMember
  · exact holds

theorem Every.update (every : entries.Every node leaf) (others : other.Every node leaf) :
    Every node leaf (Keyed.update entries other) := fun member isMember =>
  (Keyed.mem_update isMember).elim (every member) (others member)

theorem Every.inside (every : root.Every node leaf) : (root.inside name).Every node leaf := by
  rw [RuleSet.inside]
  cases found : root.get? name with
  | none => exact every_nil
  | some entry =>
      cases entry with
      | ruleSet entries => exact (Entry.every_ruleSet_iff.mp (every.get? found)).2
      | _ => exact every_nil

/-- What holds of an entry wherever it is put is kept where it is put at the end of a path. -/
theorem Every.assignAlong (named : ∀ name, node name) (every : root.Every node leaf)
    (holds : ∀ name, Entry.Every node leaf name entry) (path : List String) :
    (Config.assignAlong root entry path).Every node leaf := by
  induction path generalizing root with
  | nil => exact every
  | cons name rest hyp =>
      by_cases last : rest = []
      · subst last
        rw [Config.assignAlong_singleton]
        refine every.put ?_
        unfold Config.replaced
        split
        case h_1 old new found =>
          have olds := Entry.every_ruleSet_iff.mp (every.get? found)
          have news := Entry.every_ruleSet_iff.mp (holds name)
          exact .ruleSet (named name) (olds.2.update news.2)
        case h_2 => exact holds name
      · rw [Config.assignAlong_cons _ _ _ last]
        exact every.put (.ruleSet (named name) (hyp every.inside))

mutual

theorem every_overlayEntry {old : Option Entry} :
    ∀ {entry : Entry} {name : String}, (∀ held ∈ old, Entry.Every node leaf name held) →
      Entry.Every node leaf name entry → Entry.Every node leaf name (overlayEntry old entry)
  | .ruleSet upper, name, olds, holds => by
      obtain ⟨named, uppers⟩ := Entry.every_ruleSet_iff.mp holds
      unfold overlayEntry
      split
      case h_1 base =>
        have bases := Entry.every_ruleSet_iff.mp (olds _ rfl)
        exact .ruleSet named (every_overlay bases.2 uppers)
      case h_2 => exact holds
  | .rule _, _, _, holds => holds
  | .pattern _, _, _, holds => holds
  | .value _, _, _, holds => holds

/-- What holds of the entries of two rule-sets holds of the one laid over the other. -/
theorem every_overlay :
    ∀ {upper : List (String × Entry)} {base : RuleSet}, base.Every node leaf →
      Every node leaf upper → (overlay base upper).Every node leaf
  | [], _, bases, _ => bases
  | (name, entry) :: rest, base, bases, uppers => by
      obtain ⟨holds, others⟩ := every_cons_iff.mp uppers
      have held : ∀ old ∈ base.get? name, Entry.Every node leaf name old :=
        fun _ isOld => bases.get? isOld
      rw [overlay]
      exact every_overlay (bases.put (every_overlayEntry held holds)) others

end

mutual

theorem every_compileEntry (compiles : ∀ {name source pattern},
      leaf name (.value (.text source)) → leaf name (.pattern pattern)) :
    ∀ {entry made : Entry} {name : String}, compileEntry name entry = .ok made →
      Entry.Every node leaf name entry → Entry.Every node leaf name made
  | .ruleSet entries, _, _, isMade, holds => by
      obtain ⟨named, inside⟩ := Entry.every_ruleSet_iff.mp holds
      obtain ⟨others, isOthers, rfl⟩ := map_eq_ok.mp isMade
      exact .ruleSet named (every_compileIgnores compiles isOthers inside)
  | .rule _, _, _, isMade, holds => by
      cases isMade
      exact holds
  | .pattern _, _, _, isMade, holds => by
      cases isMade
      exact holds
  | .value held, _, name, isMade, holds => by
      cases held with
      | text source =>
          rw [compileEntry] at isMade
          split at isMade
          case isTrue =>
            obtain ⟨pattern, _, rfl⟩ := map_eq_ok.mp isMade
            exact .leaf rfl (compiles (holds.holds rfl))
          case isFalse =>
            cases isMade
            exact holds
      | _ =>
          cases isMade
          exact holds

/-- What holds of the entries of a rule-set holds after texts for ignore patterns were compiled,
if it holds of patterns where it holds of texts. -/
theorem every_compileIgnores (compiles : ∀ {name source pattern},
      leaf name (.value (.text source)) → leaf name (.pattern pattern)) :
    ∀ {entries : List (String × Entry)} {made : RuleSet}, compileIgnores entries = .ok made →
      Every node leaf entries → made.Every node leaf
  | [], _, isMade, _ => by
      cases isMade
      exact every_nil
  | (name, entry) :: rest, _, isMade, holds => by
      obtain ⟨here, others⟩ := every_cons_iff.mp holds
      obtain ⟨first, isFirst, isMade⟩ := bind_eq_ok.mp isMade
      obtain ⟨later, isLater, isMade⟩ := bind_eq_ok.mp isMade
      cases isMade
      exact every_cons_iff.mpr
        ⟨every_compileEntry compiles isFirst here, every_compileIgnores compiles isLater others⟩

end

theorem Every.exists_of_entryAlong? {path : List String} (every : root.Every node leaf)
    (found : root.entryAlong? path = some entry) : ∃ name, Entry.Every node leaf name entry := by
  induction path generalizing root with
  | nil => contradiction
  | cons name rest hyp =>
      by_cases last : rest = []
      · subst last
        exact ⟨name, every.get? found⟩
      · rw [entryAlong?_cons root name last] at found
        exact hyp every.inside found

theorem Every.exists_of_entryAt? (every : root.Every node leaf)
    (found : root.entryAt? name = some entry) : ∃ name, Entry.Every node leaf name entry := by
  rw [entryAt?] at found
  split at found
  · contradiction
  · exact every.exists_of_entryAlong? found

end RuleSet

/-- What holds of the entries of a store holds of those of every rule-set in it. -/
theorem Store.every_of_lookupName {store : Store} (every : store.root.Every node leaf)
    (found : store.lookupName name = some entries) : entries.Every node leaf := by
  rw [lookupName] at found
  generalize RuleSet.aliasCount store.root + 1 = steps at found
  induction steps generalizing name with
  | zero => contradiction
  | succ steps hyp =>
      rw [follow] at found
      split at found
      case h_1 _ isRuleSet =>
        cases found
        obtain ⟨_, holds⟩ := every.exists_of_entryAt? isRuleSet
        exact (Entry.every_ruleSet_iff.mp holds).2
      case h_2 => exact hyp found
      case h_3 => contradiction

end LineRules
