import LineRules.Proofs.RuleSet.Compiled

/-!
# Rule-sets laid over others

What is found in a tree of rule-sets after another one was laid over it. At the end of a path
that the upper tree leads to, its entry stands, and two rule-sets are put together there
(`entryAlong?_overlay_of_some`). Any other path leads to what it led to before, unless it goes
through an entry of the upper tree that is no rule-set (`entryAlong?_overlay_of_none`). To lay
a tree over another one twice is to do it once (`overlay_overlay`).
-/

namespace LineRules

namespace Keyed

variable {α : Type} {table : Keyed α} {name : String} {value : α}

/-- Where each name stands once, every entry is found under its name. -/
theorem get?_of_mem (once : table.names.Nodup) (isMember : (name, value) ∈ table) :
    table.get? name = some value := by
  induction table with
  | nil => contradiction
  | cons first table hyp =>
      obtain ⟨new, once⟩ := List.nodup_cons.mp once
      obtain rfl | isLater := List.mem_cons.mp isMember
      · exact if_pos rfl
      · have other : first.1 ≠ name := fun same =>
          new (same ▸ List.mem_map_of_mem (f := Prod.fst) isLater)
        rw [get?, if_neg other, hyp once isLater]

/-- Where each name stands once, the names and what is found under them are the table. -/
theorem filterMap_names (once : table.names.Nodup) :
    table.names.filterMap (fun name => (table.get? name).map (name, ·)) = table := by
  have found : ∀ entry ∈ table, (table.get? entry.1).map (entry.1, ·) = some entry := by
    intro entry isMember
    rw [get?_of_mem once isMember]
    rfl
  calc table.names.filterMap (fun name => (table.get? name).map (name, ·))
      = table.filterMap (fun entry => (table.get? entry.1).map (entry.1, ·)) := List.filterMap_map
    _ = table.filterMap some := List.filterMap_congr found
    _ = table := List.filterMap_some

/-- Putting what stands there already changes nothing. -/
theorem put_of_get? (found : table.get? name = some value) : table.put name value = table := by
  induction table with
  | nil => contradiction
  | cons first table hyp =>
      obtain ⟨key, held⟩ := first
      rw [get?] at found
      rw [put]
      split at found
      case isTrue same =>
        obtain rfl := Option.some.inj found
        rw [if_pos same]
      case isFalse other => rw [if_neg other, hyp found]

/-- A new name comes last. -/
theorem put_of_not_mem (new : name ∉ table.names) :
    table.put name value = table ++ [(name, value)] := by
  induction table with
  | nil => rfl
  | cons first table hyp =>
      obtain ⟨key, held⟩ := first
      have other : key ≠ name := fun same => new (by simp [names, same])
      rw [put, if_neg other, hyp fun later => new (List.mem_cons_of_mem _ later), List.cons_append]

end Keyed

variable {base upper entries : RuleSet} {entry : Entry} {name : String}
  {path start rest : List String}

namespace RuleSet

/-! ## One tree over another -/

theorem overlayEntry_of_single (single : entry.ruleSet? = none) (old : Option Entry) :
    overlayEntry old entry = entry := by
  cases entry with
  | ruleSet => contradiction
  | rule | pattern | value => rfl

/-- Over nothing, a rule-set is put as it is. -/
theorem overlay_of_disjoint (once : upper.names.Nodup)
    (apart : ∀ name ∈ upper.names, name ∉ base.names) : overlay base upper = base ++ upper := by
  induction upper generalizing base with
  | nil => rw [overlay, List.append_nil]
  | cons first upper hyp =>
      obtain ⟨key, entry⟩ := first
      obtain ⟨new, once⟩ := List.nodup_cons.mp once
      have absent : key ∉ base.names := apart key List.mem_cons_self
      have same : overlayEntry none entry = entry := by cases entry <;> rfl
      have later : ∀ name ∈ Keyed.names upper, name ∉ (base ++ [(key, entry)]).names := by
        intro name isLater known
        rw [Keyed.names, List.map_append, List.mem_append] at known
        rcases known with old | isKey
        · exact apart name (List.mem_cons_of_mem _ isLater) old
        · obtain rfl := List.mem_singleton.mp isKey
          exact new isLater
      rw [overlay, Keyed.get?_eq_none_iff.mpr absent, same, Keyed.put_of_not_mem absent,
        hyp once later, List.append_assoc]
      rfl

theorem overlay_nil (once : upper.names.Nodup) : overlay [] upper = upper :=
  overlay_of_disjoint once fun _ _ => List.not_mem_nil

/-- A rule-set is laid over the rule-set that stands there, or over nothing. -/
theorem overlayEntry_ruleSet (once : upper.names.Nodup) (old : Option Entry) :
    overlayEntry old (.ruleSet upper) =
      .ruleSet (overlay ((old.bind Entry.ruleSet?).getD []) upper) := by
  have alone : Entry.ruleSet upper = .ruleSet (overlay [] upper) := by rw [overlay_nil once]
  match old with
  | none => exact alone
  | some (.ruleSet base) => rfl
  | some (.rule _) => exact alone
  | some (.pattern _) => exact alone
  | some (.value _) => exact alone

/-- The entries of the upper rule-set count where it has the name. -/
theorem get?_overlay (once : upper.names.Nodup) (name : String) : (overlay base upper).get? name =
    ((upper.get? name).map (overlayEntry (base.get? name))).or (base.get? name) := by
  induction upper generalizing base with
  | nil => rfl
  | cons first upper hyp =>
      obtain ⟨key, entry⟩ := first
      obtain ⟨new, once⟩ := List.nodup_cons.mp once
      rw [overlay, hyp once, Keyed.get?_put, Keyed.get?]
      split
      case isTrue same =>
        subst same
        rw [Keyed.get?_eq_none_iff.mpr new]
        rfl
      case isFalse => rfl

/-- Under a name that the upper rule-set does not have, the entry of the base stands. -/
theorem get?_overlay_of_not_mem (absent : name ∉ upper.names) :
    (overlay base upper).get? name = base.get? name := by
  induction upper generalizing base with
  | nil => rfl
  | cons first upper hyp =>
      obtain ⟨key, entry⟩ := first
      have other : key ≠ name := fun same => absent (List.mem_cons.mpr (.inl same.symm))
      rw [overlay, hyp fun later => absent (List.mem_cons_of_mem _ later), Keyed.get?_put,
        if_neg other]

/-- Names of the base keep their places, new ones come last. -/
theorem names_overlay (once : upper.names.Nodup) : (overlay base upper).names =
    base.names ++ upper.names.filter fun name => name ∉ base.names := by
  induction upper generalizing base with
  | nil => simp [overlay, Keyed.names]
  | cons first upper hyp =>
      obtain ⟨key, entry⟩ := first
      obtain ⟨new, once⟩ := List.nodup_cons.mp once
      rw [overlay, hyp once]
      exact Keyed.names_put_append_filter new base _

theorem inside_overlay (distinct : upper.isDistinct = true)
    (leads : ∀ entry ∈ upper.get? name, entry.ruleSet? ≠ none) :
    (overlay base upper).inside name = overlay (base.inside name) (upper.inside name) := by
  rw [inside, get?_overlay (isDistinct_iff.mp distinct).1, inside, inside]
  cases found : upper.get? name with
  | none => rfl
  | some entry =>
      cases entry with
      | ruleSet entries =>
          have once : (Keyed.names entries).Nodup := by
            have inner := @isDistinct_inside _ name distinct
            rw [inside, found] at inner
            exact (isDistinct_iff.mp inner).1
          rw [Option.map_some, overlayEntry_ruleSet once]
          rfl
      | rule | pattern | value => exact absurd rfl (leads _ found)

/-! ## Laying a tree over another one again -/

/-- Entries that are there already change nothing. -/
theorem overlay_eq_self (absorbed : ∀ member ∈ upper, ∃ entry, base.get? member.1 = some entry ∧
    overlayEntry (some entry) member.2 = entry) : overlay base upper = base := by
  induction upper with
  | nil => rfl
  | cons first upper hyp =>
      obtain ⟨entry, found, same⟩ := absorbed first List.mem_cons_self
      rw [overlay, found, same, Keyed.put_of_get? found]
      exact hyp fun member isMember => absorbed member (List.mem_cons_of_mem _ isMember)

theorem overlay_overlay_of_members (once : upper.names.Nodup)
    (again : ∀ member ∈ upper, ∀ old,
      overlayEntry (some (overlayEntry old member.2)) member.2 = overlayEntry old member.2) :
    overlay (overlay base upper) upper = overlay base upper := by
  refine overlay_eq_self fun member isMember => ?_
  obtain ⟨name, entry⟩ := member
  have found : upper.get? name = some entry := Keyed.get?_of_mem once isMember
  refine ⟨overlayEntry (base.get? name) entry, ?_, again _ isMember _⟩
  rw [get?_overlay once, found]
  rfl

mutual

theorem overlayEntry_overlayEntry : ∀ {entry : Entry}, entry.isDistinct = true →
    ∀ old, overlayEntry (some (overlayEntry old entry)) entry = overlayEntry old entry
  | .ruleSet upper, distinct, old => by
      obtain ⟨once, inside⟩ := isDistinct_iff.mp distinct
      rw [overlayEntry_ruleSet once old, overlayEntry_ruleSet once]
      exact congrArg Entry.ruleSet
        (overlay_overlay_of_members once (overlayEntry_overlayEntry_of_mem inside))
  | .rule _, _, _ => rfl
  | .pattern _, _, _ => rfl
  | .value _, _, _ => rfl

theorem overlayEntry_overlayEntry_of_mem : ∀ {upper : List (String × Entry)},
    areDistinct upper = true → ∀ member ∈ upper, ∀ old,
      overlayEntry (some (overlayEntry old member.2)) member.2 = overlayEntry old member.2
  | (_, _) :: _, distinct, member, isMember, old => by
      obtain ⟨here, later⟩ := Bool.and_eq_true_iff.mp distinct
      rcases List.mem_cons.mp isMember with rfl | isLater
      · exact overlayEntry_overlayEntry here old
      · exact overlayEntry_overlayEntry_of_mem later member isLater old

end

/-- Laying a tree over another one again changes nothing. -/
theorem overlay_overlay (distinct : upper.isDistinct = true) :
    overlay (overlay base upper) upper = overlay base upper := by
  obtain ⟨once, inside⟩ := isDistinct_iff.mp distinct
  exact overlay_overlay_of_members once (overlayEntry_overlayEntry_of_mem inside)

/-! ## What is found along a path -/

/-- Where the upper tree leads to an entry, that entry is found, over what stood there. -/
theorem entryAlong?_overlay_of_some (distinct : upper.isDistinct = true)
    (found : upper.entryAlong? path = some entry) : (overlay base upper).entryAlong? path =
      some (overlayEntry (base.entryAlong? path) entry) := by
  induction path generalizing base upper with
  | nil => contradiction
  | cons name rest hyp =>
      by_cases last : rest = []
      · subst last
        have here : upper.get? name = some entry := found
        rw [entryAlong?, get?_overlay (isDistinct_iff.mp distinct).1, here, entryAlong?]
        rfl
      · have leads : ∀ entry ∈ upper.get? name, entry.ruleSet? ≠ none := by
          intro first isFirst single
          rw [entryAlong?_cons _ _ last, inside, Option.mem_def.mp isFirst, Option.bind_some,
            single, Option.getD_none, entryAlong?_nil] at found
          contradiction
        rw [entryAlong?_cons _ _ last] at found ⊢
        rw [inside_overlay distinct leads, hyp (isDistinct_inside distinct) found,
          entryAlong?_cons base _ last]

/-- Where the upper tree leads nowhere, and through rule-sets only as far as it leads, what was
found before is found. -/
theorem entryAlong?_overlay_of_none (distinct : upper.isDistinct = true)
    (absent : upper.entryAlong? path = none)
    (leads : ∀ start, start <+: path → ∀ entry ∈ upper.entryAlong? start, entry.ruleSet? ≠ none) :
    (overlay base upper).entryAlong? path = base.entryAlong? path := by
  induction path generalizing base upper with
  | nil => rfl
  | cons name rest hyp =>
      by_cases last : rest = []
      · subst last
        have here : upper.get? name = none := absent
        rw [entryAlong?, get?_overlay (isDistinct_iff.mp distinct).1, here]
        rfl
      · have first : ∀ entry ∈ upper.get? name, entry.ruleSet? ≠ none :=
          leads [name] (by simp)
        rw [entryAlong?_cons _ _ last] at absent ⊢
        rw [inside_overlay distinct first, entryAlong?_cons base _ last]
        refine hyp (isDistinct_inside distinct) absent fun start isStart entry isEntry => ?_
        have nonempty : start ≠ [] := by
          rintro rfl
          contradiction
        refine leads (name :: start) (List.cons_prefix_cons.mpr ⟨rfl, isStart⟩) entry ?_
        rwa [entryAlong?_cons _ _ nonempty]

/-- Below an entry of the upper tree that is no rule-set, nothing is found. -/
theorem entryAlong?_overlay_of_single (distinct : upper.isDistinct = true)
    (found : upper.entryAlong? start = some entry) (single : entry.ruleSet? = none)
    (nonempty : rest ≠ []) : (overlay base upper).entryAlong? (start ++ rest) = none := by
  have isPath : start ≠ [] := by
    rintro rfl
    contradiction
  rw [entryAlong?_append _ _ nonempty, if_neg isPath, entryAlong?_overlay_of_some distinct found,
    overlayEntry_of_single single, Option.bind_some, single]
  rfl

/-- Below a rule-set of the upper tree that has none under it, only the upper tree counts. -/
theorem entryAlong?_overlay_of_new (distinct : upper.isDistinct = true)
    (found : upper.entryAlong? start = some (.ruleSet entries))
    (new : (base.entryAlong? start).bind Entry.ruleSet? = none) (nonempty : rest ≠ []) :
    (overlay base upper).entryAlong? (start ++ rest) = upper.entryAlong? (start ++ rest) := by
  have once : (Keyed.names entries).Nodup :=
    (isDistinct_iff.mp (isDistinct_of_entryAlong? distinct found)).1
  have isPath : start ≠ [] := by
    rintro rfl
    contradiction
  rw [entryAlong?_append _ _ nonempty, if_neg isPath, entryAlong?_append _ _ nonempty,
    if_neg isPath, entryAlong?_overlay_of_some distinct found, overlayEntry_ruleSet once, new,
    Option.getD_none, overlay_nil once, found]

/-- What stands under a name at which the upper tree has a rule-set. -/
theorem entryAt?_overlay (distinct : upper.isDistinct = true)
    (found : upper.entryAt? name = some (.ruleSet entries)) :
    (overlay base upper).entryAt? name = some (.ruleSet
      (overlay (((base.entryAt? name).bind Entry.ruleSet?).getD []) entries)) := by
  rw [entryAt?] at found ⊢
  rw [entryAt?]
  split at found
  case isTrue => contradiction
  case isFalse named =>
    have inner := isDistinct_of_entryAlong? distinct found
    rw [if_neg named, if_neg named, entryAlong?_overlay_of_some distinct found,
      overlayEntry_ruleSet (isDistinct_iff.mp inner).1]

/-! ## Compiled trees over each other -/

theorem compiled_put (table : RuleSet) (name : String) (entry : Entry) :
    compiled (table.put name entry) = (compiled table).put name (entry.compiled name) := by
  induction table with
  | nil => rfl
  | cons first table hyp =>
      obtain ⟨key, held⟩ := first
      rw [Keyed.put, compiled, Keyed.put]
      split
      case isTrue same =>
        subst same
        rfl
      case isFalse => rw [compiled, hyp]

mutual

theorem compiled_overlayEntry : ∀ {entry : Entry} (old : Option Entry) (name : String),
    (overlayEntry old entry).compiled name =
      overlayEntry (old.map (Entry.compiled name)) (entry.compiled name)
  | .ruleSet upper, old, name => by
      cases old with
      | none => rfl
      | some old =>
          cases old with
          | ruleSet base => exact congrArg Entry.ruleSet (compiled_overlay upper base)
          | rule | pattern => rfl
          | value held =>
              have single := ruleSet?_compiled name (.value held)
              rw [Option.map_some]
              generalize Entry.compiled name (.value held) = entry at single
              cases entry with
              | ruleSet => contradiction
              | rule | pattern | value => rfl
  | .rule _, _, _ => rfl
  | .pattern _, _, _ => rfl
  | .value held, old, name => by
      have single := ruleSet?_compiled name (.value held)
      rw [overlayEntry_of_single rfl, overlayEntry_of_single single]

/-- It makes no difference whether trees are compiled before they are laid over each other or
after that. -/
theorem compiled_overlay : ∀ (upper : List (String × Entry)) (base : RuleSet),
    compiled (overlay base upper) = overlay (compiled base) (compiled upper)
  | [], _ => rfl
  | (name, entry) :: rest, base => by
      rw [overlay, compiled_overlay rest, compiled_put, compiled_overlayEntry, compiled, overlay,
        get?_compiled]

end

theorem refusals_overlay (free : refusals base = []) (upperFree : refusals upper = []) :
    refusals (overlay base upper) = [] :=
  collect_eq_nil_iff.mpr
    (every_overlay (collect_eq_nil_iff.mp free) (collect_eq_nil_iff.mp upperFree))

end RuleSet

/-- A tree is laid over a store, unless a text for an ignore pattern is refused. -/
theorem Store.merged_eq {given overrides : RuleSet} {store : Store}
    (made : ofRuleSets given = .ok store) (valid : overrides.refusals = []) :
    store.merged overrides = .ok ⟨RuleSet.overlay store.root (RuleSet.compiled overrides)⟩ := by
  obtain ⟨root, isRoot, rfl⟩ := map_eq_ok.mp made
  obtain ⟨free, same⟩ := RuleSet.compiled_of_compileIgnores isRoot
  rw [merged, ofRuleSets,
    RuleSet.compileIgnores_of_refusals_eq_nil (RuleSet.refusals_overlay free valid),
    RuleSet.compiled_overlay, same]
  rfl

end LineRules
