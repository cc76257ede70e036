import LineRules.Proofs.RuleSet.Layers

/-!
# The names of a store

`RuleSet.paths` lists the paths to all rule-sets and aliases in a tree, and the names of a store
are these paths, joined by points (`Store.names_eq`). A path is listed exactly if a rule-set or an
alias is found at its end (`RuleSet.mem_paths_iff`), and one is listed before another one if it
leads to a rule-set above it or turns off to an earlier entry (`RuleSet.Precedes`). So the names are
just those under which a rule-set or an alias is found, each one once and in that order
(`Store.names_addressed`).
-/

namespace LineRules

open LineRules.Text

/-- Whether a rule-set or an alias stands under a name. -/
def Entry.isAddressable (entry : Entry) : Bool := entry.ruleSet?.isSome || entry.alias?.isSome

mutual

/-- The paths to an entry under a name and to what is nested in it, as far as they lead to rule-sets
and aliases. -/
def Entry.paths (name : String) : Entry → List (List String)
  | .ruleSet entries => [name] :: (RuleSet.paths entries).map (name :: ·)
  | .value (.text _) => [[name]]
  | _ => []

/-- The paths to all rule-sets and aliases in a tree, each before those that go further. -/
def RuleSet.paths : List (String × Entry) → List (List String)
  | [] => []
  | (name, entry) :: rest => entry.paths name ++ RuleSet.paths rest

end

variable {root entries : RuleSet} {entry : Entry} {name : String} {path other rest : List String}

/-! ## Paths and names -/

theorem Entry.paths_eq (entry : Entry) (name : String) :
    entry.paths name = (if entry.isAddressable then [[name]] else []) ++
      (RuleSet.paths (entry.ruleSet?.getD [])).map (name :: ·) := by
  cases entry with
  | value held => cases held <;> rfl
  | rule | pattern | ruleSet => rfl

theorem Entry.mem_paths_iff : path ∈ entry.paths name ↔
    (path = [name] ∧ entry.isAddressable = true) ∨
      ∃ rest ∈ RuleSet.paths (entry.ruleSet?.getD []), path = name :: rest := by
  rw [paths_eq, List.mem_append, List.mem_map]
  refine or_congr ?here (by simp only [eq_comm])
  case here => split <;> simp [*]

namespace RuleSet

theorem paths_eq_flatMap (entries : RuleSet) :
    paths entries = entries.flatMap fun member => member.2.paths member.1 := by
  induction entries with
  | nil => rfl
  | cons first entries hyp => rw [paths, hyp, List.flatMap_cons]

theorem ne_nil_of_mem_paths (isMember : path ∈ paths entries) : path ≠ [] := by
  rw [paths_eq_flatMap] at isMember
  obtain ⟨member, _, isMember⟩ := List.mem_flatMap.mp isMember
  obtain ⟨rfl, _⟩ | ⟨rest, _, rfl⟩ := Entry.mem_paths_iff.mp isMember <;> simp

/-- A dotted name after a beginning. -/
def dotted (start : String) (path : List String) : String := start ++ ".".intercalate path

theorem dotted_cons (start name : String) (nonempty : path ≠ []) :
    dotted start (name :: path) = dotted (start ++ name ++ ".") path := by
  rw [dotted, String.intercalate_cons_of_ne_nil nonempty, dotted]
  simp only [String.append_assoc]

mutual

theorem entryNames_eq : ∀ (entry : Entry) (start name : String),
    entryNames (start ++ name) entry = (entry.paths name).map (dotted start)
  | .ruleSet entries, start, name => by
      have deeper : (paths entries).map (dotted start ∘ (name :: ·)) =
          (paths entries).map (dotted (start ++ name ++ ".")) :=
        List.map_congr_left fun path isMember =>
          dotted_cons start name (ne_nil_of_mem_paths isMember)
      rw [entryNames, namesUnder_eq entries, Entry.paths, List.map_cons, List.map_map, deeper]
      simp [dotted]
  | .rule _, _, _ => rfl
  | .pattern _, _, _ => rfl
  | .value held, start, name => by cases held <;> simp [entryNames, Entry.paths, dotted]

theorem namesUnder_eq : ∀ (entries : List (String × Entry)) (start : String),
    namesUnder start entries = (paths entries).map (dotted start)
  | [], _ => rfl
  | (name, entry) :: rest, start => by
      rw [namesUnder, entryNames_eq entry, namesUnder_eq rest, paths, List.map_append]

end

end RuleSet

/-- The names of a store are the paths in it. -/
theorem Store.names_eq (store : Store) :
    store.names = (RuleSet.paths store.root).map ".".intercalate := by
  rw [names, RuleSet.namesUnder_eq]
  exact List.map_congr_left fun path _ => by simp [RuleSet.dotted]

/-! ## Paths and entries -/

namespace RuleSet

/-- A path leads to an addressable entry under its first name, or on from there. -/
theorem cons_mem_paths_iff (once : root.names.Nodup) : name :: rest ∈ paths root ↔
    (rest = [] ∧ ∃ entry, root.get? name = some entry ∧ entry.isAddressable = true) ∨
      rest ∈ paths (root.inside name) := by
  rw [paths_eq_flatMap, List.mem_flatMap, inside]
  constructor
  · rintro ⟨⟨key, entry⟩, isMember, isPath⟩
    have found : root.get? key = some entry := Keyed.get?_of_mem once isMember
    obtain ⟨same, addressable⟩ | ⟨others, deeper, same⟩ := Entry.mem_paths_iff.mp isPath
    · obtain ⟨rfl, rfl⟩ := List.cons.inj same
      exact .inl ⟨rfl, entry, found, addressable⟩
    · obtain ⟨rfl, rfl⟩ := List.cons.inj same
      exact .inr (by rwa [found])
  · rintro (⟨rfl, entry, found, addressable⟩ | deeper)
    · exact ⟨(name, entry), Keyed.mem_of_get? found,
        Entry.mem_paths_iff.mpr (.inl ⟨rfl, addressable⟩)⟩
    · cases found : root.get? name with
      | none =>
          rw [found] at deeper
          contradiction
      | some entry =>
          rw [found] at deeper
          exact ⟨(name, entry), Keyed.mem_of_get? found,
            Entry.mem_paths_iff.mpr (.inr ⟨rest, deeper, rfl⟩)⟩

/-- The paths of a tree are those at whose ends rule-sets and aliases are found. -/
theorem mem_paths_iff (distinct : root.isDistinct = true) : path ∈ paths root ↔
    ∃ entry, root.entryAlong? path = some entry ∧ entry.isAddressable = true := by
  induction path generalizing root with
  | nil =>
      exact iff_of_false (fun isMember => ne_nil_of_mem_paths isMember rfl) (by simp [entryAlong?])
  | cons name rest hyp =>
      rw [cons_mem_paths_iff (isDistinct_iff.mp distinct).1, hyp (isDistinct_inside distinct)]
      by_cases last : rest = []
      · subst last
        simp [entryAlong?]
      · rw [entryAlong?_cons root name last]
        simp [last]

/-! ## The order of paths -/

/-- The rule-set at the end of a path, empty if there is none. -/
def under (root : RuleSet) (path : List String) : RuleSet := path.foldl inside root

/-- A path comes before those that go further, and where two paths part, the one to the entry that
was put in first comes first. -/
def Precedes (root : RuleSet) (path other : List String) : Prop :=
  (path <+: other ∧ path ≠ other) ∨
    ∃ start first second rest others, path = start ++ first :: rest ∧
      other = start ++ second :: others ∧ [first, second].Sublist (root.under start).names

theorem Precedes.cons (precedes : (root.inside name).Precedes path other) :
    root.Precedes (name :: path) (name :: other) := by
  obtain ⟨above, apart⟩ | ⟨start, first, second, rest, others, rfl, rfl, earlier⟩ := precedes
  · exact .inl ⟨List.cons_prefix_cons.mpr ⟨rfl, above⟩, by simpa using apart⟩
  · exact .inr ⟨name :: start, first, second, rest, others, rfl, rfl, earlier⟩

theorem isDistinct_under (distinct : root.isDistinct = true) (path : List String) :
    (root.under path).isDistinct = true := by
  induction path generalizing root with
  | nil => exact distinct
  | cons name path hyp => exact hyp (isDistinct_inside distinct)

theorem Precedes.ne (distinct : root.isDistinct = true) (precedes : root.Precedes path other) :
    path ≠ other := by
  obtain ⟨_, apart⟩ | ⟨start, first, second, rest, others, rfl, rfl, earlier⟩ := precedes
  · exact apart
  · intro same
    obtain ⟨rfl, _⟩ := List.cons.inj (List.append_cancel_left same)
    have once := (isDistinct_iff.mp (isDistinct_under distinct start)).1
    simpa using once.sublist earlier

/-- The first name of a path is one of the names of the tree. -/
theorem exists_cons_of_mem_paths (isMember : path ∈ paths entries) :
    ∃ name rest, path = name :: rest ∧ name ∈ entries.names := by
  rw [paths_eq_flatMap] at isMember
  obtain ⟨⟨name, entry⟩, isEntry, isMember⟩ := List.mem_flatMap.mp isMember
  have known : name ∈ entries.names := List.mem_map_of_mem (f := Prod.fst) isEntry
  obtain ⟨rfl, _⟩ | ⟨rest, _, rfl⟩ := Entry.mem_paths_iff.mp isMember
  · exact ⟨name, [], rfl, known⟩
  · exact ⟨name, rest, rfl, known⟩

mutual

theorem pairwise_paths_entry : ∀ (entry : Entry) {root : RuleSet} {name : String},
    root.isDistinct = true → root.get? name = some entry →
      (entry.paths name).Pairwise root.Precedes
  | .ruleSet entries, root, name, distinct, found => by
      have isInside : root.inside name = entries := by
        rw [inside, found]
        rfl
      have isSuffix : entries <:+ root.inside name := by simp [isInside]
      have deeper := pairwise_paths_of_suffix entries isSuffix (isDistinct_inside distinct)
      rw [Entry.paths, List.pairwise_cons]
      refine ⟨fun path isMember => ?above, deeper.map _ fun _ _ => Precedes.cons⟩
      case above =>
        obtain ⟨rest, isRest, rfl⟩ := List.mem_map.mp isMember
        exact .inl ⟨by simp, by simpa using (ne_nil_of_mem_paths isRest).symm⟩
  | .rule _, _, _, _, _ => .nil
  | .pattern _, _, _, _, _ => .nil
  | .value held, _, _, _, _ => by cases held <;> simp [Entry.paths]

theorem pairwise_paths_of_suffix : ∀ (entries : List (String × Entry)) {root : RuleSet},
    entries <:+ root → root.isDistinct = true → (paths entries).Pairwise root.Precedes
  | [], _, _, _ => .nil
  | (name, entry) :: rest, root, isSuffix, distinct => by
      have once := (isDistinct_iff.mp distinct).1
      have found : root.get? name = some entry :=
        Keyed.get?_of_mem once (isSuffix.subset List.mem_cons_self)
      have isRest : rest <:+ root := (List.suffix_cons _ _).trans isSuffix
      rw [paths, List.pairwise_append]
      refine ⟨pairwise_paths_entry entry distinct found,
        pairwise_paths_of_suffix rest isRest distinct, fun path isHere other isLater => ?_⟩
      obtain ⟨second, others, rfl, isSecond⟩ := exists_cons_of_mem_paths isLater
      have earlier : [name, second].Sublist root.names :=
        ((List.singleton_sublist.mpr isSecond).cons_cons name).trans
          (isSuffix.sublist.map Prod.fst)
      obtain ⟨rfl, _⟩ | ⟨deeper, _, rfl⟩ := Entry.mem_paths_iff.mp isHere
      · exact .inr ⟨[], name, second, [], others, rfl, rfl, earlier⟩
      · exact .inr ⟨[], name, second, deeper, others, rfl, rfl, earlier⟩

end

/-- The paths of a tree are listed in order. -/
theorem pairwise_paths (distinct : root.isDistinct = true) : (paths root).Pairwise root.Precedes :=
  pairwise_paths_of_suffix root List.suffix_rfl distinct

/-! ## Names without points -/

/-- A name that can stand between points. -/
def IsSegment (name : String) : Prop := name ≠ "" ∧ '.' ∉ name.toList

instance (name : String) : Decidable (IsSegment name) := inferInstanceAs (Decidable (_ ∧ _))

/-- All names at all levels can stand between points. -/
def IsSegmented (root : RuleSet) : Prop := root.Every IsSegment fun name _ => IsSegment name

theorem IsSegmented.isSegment (segmented : root.IsSegmented) (known : name ∈ root.names) :
    IsSegment name := by
  obtain ⟨⟨key, entry⟩, isMember, rfl⟩ := List.mem_map.mp known
  obtain ⟨named, _⟩ | ⟨_, named⟩ := segmented (key, entry) isMember <;> exact named

theorem isPath_of_mem_paths (distinct : root.isDistinct = true) (segmented : root.IsSegmented)
    (isMember : path ∈ paths root) : IsPath path := by
  induction path generalizing root with
  | nil => exact absurd rfl (ne_nil_of_mem_paths isMember)
  | cons name rest hyp =>
      obtain ⟨_, _, same, known⟩ := exists_cons_of_mem_paths isMember
      obtain ⟨rfl, rfl⟩ := List.cons.inj same
      refine ⟨List.cons_ne_nil _ _, List.forall_mem_cons.mpr ⟨segmented.isSegment known, ?_⟩⟩
      obtain ⟨rfl, _⟩ | deeper := (cons_mem_paths_iff (isDistinct_iff.mp distinct).1).mp isMember
      · simp
      · exact (hyp (isDistinct_inside distinct) (Every.inside segmented) deeper).2

end RuleSet

/-- The segments of a dotted name, joined by points. -/
theorem intercalate_segments (name : String) : ".".intercalate (segments name) = name := by
  refine String.toList_injective ?_
  rw [String.toList_intercalate, segments, List.map_map]
  simpa [Function.comp_def] using intercalate_split '.' name.toList

/-! ## The names of a store -/

/-- A name is listed exactly if a rule-set or an alias is found under it. -/
theorem Store.mem_names_iff {store : Store} (distinct : store.root.isDistinct = true)
    (segmented : store.root.IsSegmented) : name ∈ store.names ↔
      ∃ entry, store.root.entryAt? name = some entry ∧ entry.isAddressable = true := by
  rw [store.names_eq, List.mem_map]
  constructor
  · rintro ⟨path, isMember, rfl⟩
    have isPath := RuleSet.isPath_of_mem_paths distinct segmented isMember
    rw [RuleSet.entryAt?_intercalate _ isPath.1 isPath.2]
    exact (RuleSet.mem_paths_iff distinct).mp isMember
  · rintro ⟨entry, found, addressable⟩
    rw [RuleSet.entryAt?] at found
    split at found
    case isTrue => contradiction
    case isFalse =>
      exact ⟨segments name, (RuleSet.mem_paths_iff distinct).mpr ⟨entry, found, addressable⟩,
        intercalate_segments name⟩

/-- The names of a store are listed in the order of their paths. -/
theorem Store.pairwise_names {store : Store} (distinct : store.root.isDistinct = true)
    (segmented : store.root.IsSegmented) : store.names.Pairwise fun name other =>
      store.root.Precedes (segments name) (segments other) := by
  have areSegments : ∀ path ∈ RuleSet.paths store.root,
      segments (".".intercalate path) = path := by
    intro path isMember
    have isPath := RuleSet.isPath_of_mem_paths distinct segmented isMember
    exact segments_intercalate isPath.1 fun name isName => (isPath.2 name isName).2
  rw [store.names_eq, List.pairwise_map]
  refine (RuleSet.pairwise_paths distinct).imp_of_mem fun isPath isOther precedes => ?_
  rwa [areSegments _ isPath, areSegments _ isOther]

/-- **Names.** In a store whose names are not empty and have no points in them, the names are just
those under which a rule-set or an alias is found. None comes twice, a rule-set comes before what is
nested in it, and what was put in first comes first. -/
theorem Store.names_addressed {store : Store} (distinct : store.root.isDistinct = true)
    (segmented : store.root.IsSegmented) :
    (∀ name, name ∈ store.names ↔ ∃ entry, store.root.entryAt? name = some entry ∧
        (entry.ruleSet?.isSome = true ∨ entry.alias?.isSome = true)) ∧
      store.names.Nodup ∧
      store.names.Pairwise fun name other =>
        store.root.Precedes (segments name) (segments other) := by
  have ordered := store.pairwise_names distinct segmented
  refine ⟨fun name => ?_, ordered.imp fun precedes same => ?_, ordered⟩
  · simp only [mem_names_iff distinct segmented, Entry.isAddressable, Bool.or_eq_true]
  · exact precedes.ne distinct (by rw [same])

/-- The names of a store with an alias inside of a rule-set. -/
theorem Store.names_addressed_sampleRules :
    sampleRules.isDistinct = true ∧ sampleRules.IsSegmented ∧
      (Store.mk sampleRules).names = ["js", "html", "html.script"] ∧
      (∃ entry, sampleRules.entryAt? "html.script" = some entry ∧
        (entry.ruleSet?.isSome = true ∨ entry.alias?.isSome = true)) ∧
      sampleRules.Precedes (segments "html") (segments "html.script") := by
  have distinct : sampleRules.isDistinct = true := by decide
  have segmented : sampleRules.IsSegmented := by
    intro member isMember
    obtain rfl | rfl : member = ("js", .ruleSet [("a", .rule {}), ("b", .rule {})]) ∨
        member = ("html", .ruleSet [("script", .value (.text "js"))]) := by
      simpa [sampleRules] using isMember
    · refine .ruleSet (by decide) fun inner isInner => ?_
      obtain rfl | rfl : inner = ("a", .rule {}) ∨ inner = ("b", .rule {}) := by
        simpa using isInner
      · exact .leaf rfl (by decide)
      · exact .leaf rfl (by decide)
    · refine .ruleSet (by decide) fun inner isInner => ?_
      obtain rfl := List.mem_singleton.mp isInner
      exact .leaf rfl (by decide)
  have listed : (Store.mk sampleRules).names = ["js", "html", "html.script"] := by decide
  obtain ⟨found, _, ordered⟩ := @Store.names_addressed ⟨sampleRules⟩ distinct segmented
  rw [listed] at found ordered
  simp only [List.pairwise_cons] at ordered
  exact ⟨distinct, segmented, listed, (found "html.script").mp (by simp),
    ordered.2.1 "html.script" (by simp)⟩

end LineRules
