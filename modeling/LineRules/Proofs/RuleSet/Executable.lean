import LineRules.Proofs.RuleSet.Compiled
import LineRules.Proofs.RuleSet.Surroundings

/-!
# Rules that executable scripts do without

Some rules are skipped in executable scripts. What a rule-set does to a line of such a script is
what it does to the same line of any other file without these rules (`Store.apply_script`): a rule
that is skipped leaves no trace that later rules, messages or faults could show.
-/

namespace LineRules

open LineRules.Text

/-- The file is an executable script. -/
def Surroundings.script : Surroundings where
  executable _ := true

/-- The file is no executable script. -/
def Surroundings.plain : Surroundings where
  executable _ := false

mutual

/-- What is left of an entry under a name without the rules that are skipped in executable
scripts. What stands in the place of the ignore pattern is never run as a rule, and stays. -/
def Entry.forScripts (name : String) : Entry → Option Entry
  | .rule rule => if rule.ignoreInScripts && name ≠ ignoreName then none else some (.rule rule)
  | .ruleSet entries => some (.ruleSet (RuleSet.forScripts entries))
  | entry => some entry

/-- A rule-set without the rules that are skipped in executable scripts, at all levels. -/
def RuleSet.forScripts : List (String × Entry) → RuleSet
  | [] => []
  | (name, entry) :: rest =>
    match entry.forScripts name with
    | some kept => (name, kept) :: RuleSet.forScripts rest
    | none => RuleSet.forScripts rest

end

/-- A store without the rules that are skipped in executable scripts. -/
def Store.forScripts (store : Store) : Store := ⟨RuleSet.forScripts store.root⟩

/-- A reference to a rule-set without the rules that are skipped in executable scripts. -/
def RuleSetRef.forScripts : RuleSetRef → RuleSetRef
  | direct entries => direct (RuleSet.forScripts entries)
  | ref => ref

variable {entries root : RuleSet} {entry : Entry} {store : Store} {hooks : Hooks}

/-! ## What is left of a tree -/

namespace RuleSet

theorem forScripts_cons (name : String) (entry : Entry) (rest : RuleSet) :
    forScripts ((name, entry) :: rest) =
      ((entry.forScripts name).map (name, ·)).toList ++ forScripts rest := by
  rw [forScripts]
  cases entry.forScripts name <;> rfl

theorem names_forScripts_subset (entries : RuleSet) :
    (forScripts entries).names ⊆ entries.names := by
  induction entries with
  | nil => exact List.Subset.refl _
  | cons first entries hyp =>
      obtain ⟨name, entry⟩ := first
      rw [forScripts]
      split
      case h_1 => exact List.cons_subset_cons name hyp
      case h_2 => exact List.subset_cons_of_subset name hyp

/-- Under a name stands what is left of its entry, where each name stands once. -/
theorem get?_forScripts (once : entries.names.Nodup) (name : String) :
    (forScripts entries).get? name = (entries.get? name).bind (Entry.forScripts name) := by
  induction entries with
  | nil => rfl
  | cons first entries hyp =>
      obtain ⟨key, entry⟩ := first
      obtain ⟨new, once⟩ := List.nodup_cons.mp once
      rw [forScripts_cons, Keyed.get?]
      split
      case isTrue same =>
        subst same
        have absent : (forScripts entries).get? key = none :=
          Keyed.get?_eq_none_iff.mpr fun later => new (names_forScripts_subset entries later)
        cases left : entry.forScripts key with
        | none => simpa [left] using absent
        | some kept => simp [left, Keyed.get?]
      case isFalse other =>
        rw [← hyp once]
        cases entry.forScripts key with
        | none => rfl
        | some kept => exact if_neg other

/-- What stands in the place of the ignore pattern stays there. -/
theorem get?_ignoreName_forScripts (entries : RuleSet) :
    (forScripts entries).get? ignoreName =
      (entries.get? ignoreName).bind (Entry.forScripts ignoreName) := by
  induction entries with
  | nil => rfl
  | cons first entries hyp =>
      obtain ⟨key, entry⟩ := first
      rw [forScripts_cons, Keyed.get?]
      split
      case isTrue same =>
        subst same
        cases entry with
        | rule rule => simp [Entry.forScripts, Keyed.get?]
        | pattern | ruleSet | value => rfl
      case isFalse other =>
        rw [← hyp]
        cases entry.forScripts key with
        | none => rfl
        | some kept => exact if_neg other

theorem inside_forScripts (once : root.names.Nodup) (name : String) :
    (forScripts root).inside name = forScripts (root.inside name) := by
  rw [inside, get?_forScripts once, inside]
  cases root.get? name with
  | none => rfl
  | some entry =>
      cases entry with
      | rule rule =>
          rw [Option.bind_some, Entry.forScripts]
          split <;> rfl
      | pattern | ruleSet | value => rfl

/-- At the end of a path stands what is left of the entry that stood there. -/
theorem entryAlong?_forScripts (distinct : root.isDistinct = true) (path : List String) :
    (forScripts root).entryAlong? path =
      (root.entryAlong? path).bind (Entry.forScripts (path.getLastD "")) := by
  induction path generalizing root with
  | nil => rfl
  | cons name rest hyp =>
      have once := (isDistinct_iff.mp distinct).1
      by_cases last : rest = []
      · subst last
        exact get?_forScripts once name
      · obtain ⟨next, others, rfl⟩ := List.exists_cons_of_ne_nil last
        rw [entryAlong?_cons _ _ last, inside_forScripts once, hyp (isDistinct_inside distinct),
          entryAlong?_cons _ _ last]
        rfl

theorem entryAt?_forScripts (distinct : root.isDistinct = true) (name : String) :
    (forScripts root).entryAt? name =
      (root.entryAt? name).bind (Entry.forScripts ((segments name).getLastD "")) := by
  rw [entryAt?, entryAt?]
  split
  · rfl
  · exact entryAlong?_forScripts distinct _

mutual

theorem entryAliases_forScripts : ∀ (entry : Entry) (name : String),
    ((entry.forScripts name).map entryAliases).getD 0 = entryAliases entry
  | .ruleSet entries, _ => aliasCount_forScripts entries
  | .rule rule, name => by
      rw [Entry.forScripts]
      split <;> rfl
  | .pattern _, _ => rfl
  | .value _, _ => rfl

/-- Every alias is left. -/
theorem aliasCount_forScripts : ∀ (entries : List (String × Entry)),
    aliasCount (forScripts entries) = aliasCount entries
  | [] => rfl
  | (name, entry) :: rest => by
      rw [aliasCount, ← entryAliases_forScripts entry name, ← aliasCount_forScripts rest,
        forScripts]
      cases entry.forScripts name with
      | none => exact (Nat.zero_add _).symm
      | some kept => rfl

end

/-- Whether a line is left alone does not depend on rules. -/
theorem admits_forScripts (entries : RuleSet) (stored : Bool) (context : Context) :
    (forScripts entries).admits stored context = entries.admits stored context := by
  rw [admits, admits, get?_ignoreName_forScripts]
  cases entries.get? ignoreName with
  | none => rfl
  | some entry =>
      cases entry with
      | rule rule => simp [Entry.forScripts]
      | pattern | ruleSet | value => rfl

end RuleSet

namespace Store

/-- A name leads to what is left of the rule-set that it led to. -/
theorem lookupName_forScripts (distinct : store.root.isDistinct = true) (name : String) :
    store.forScripts.lookupName name = (store.lookupName name).map RuleSet.forScripts := by
  have followed : ∀ steps name, store.forScripts.follow steps name =
      (store.follow steps name).map RuleSet.forScripts := by
    intro steps
    induction steps with
    | zero => exact fun _ => rfl
    | succ steps hyp =>
        intro name
        rw [follow, follow, Store.forScripts, RuleSet.entryAt?_forScripts distinct]
        cases store.root.entryAt? name with
        | none => rfl
        | some entry =>
            cases entry with
            | rule rule =>
                rw [Option.bind_some, Entry.forScripts]
                cases rule.ignoreInScripts && _ <;> rfl
            | pattern | ruleSet => rfl
            | value held =>
                cases held with
                | text target => exact hyp target
                | _ => rfl
  rw [lookupName, lookupName, Store.forScripts, RuleSet.aliasCount_forScripts]
  exact followed _ name

theorem lookup_forScripts (distinct : store.root.isDistinct = true) (ref : RuleSetRef) :
    store.forScripts.lookup ref.forScripts = (store.lookup ref).map RuleSet.forScripts := by
  cases ref with
  | named name => exact lookupName_forScripts distinct name
  | null | direct | other => rfl

end Store

/-! ## Running what is left -/

/-- Rules that do not look at whether a file is an executable script do the same in all files. -/
theorem Rule.Overlooks.plain {rule : Rule} (overlooks : rule.Overlooks .script) :
    rule.Overlooks .plain where
  test isTest item regex context :=
    (overlooks.test isTest item regex (context.within .plain)).symm.trans
      (overlooks.test isTest item regex context)
  message isMessage number item evidence context :=
    (overlooks.message isMessage number item evidence (context.within .plain)).symm.trans
      (overlooks.message isMessage number item evidence context)
  replacer isReplacer fullItem evidence regex context :=
    (overlooks.replacer isReplacer fullItem evidence regex (context.within .plain)).symm.trans
      (overlooks.replacer isReplacer fullItem evidence regex context)

theorem Hooks.Overlook.plain (overlook : hooks.Overlook .script) : hooks.Overlook .plain :=
  fun format isFormat value context =>
    (overlook format isFormat value (context.within .plain)).symm.trans
      (overlook format isFormat value context)

/-- In executable scripts, a rule is run under a name exactly if it is left and run in other
files. -/
theorem Rule.appliesTo_script (rule : Rule) (name : String) (context : Context) :
    rule.appliesTo name (context.within .script) =
      (((Entry.rule rule).forScripts name).isSome &&
        rule.appliesTo name (context.within .plain)) := by
  rw [Entry.forScripts]
  by_cases isIgnore : name = ignoreName
  · simp [appliesTo, isIgnore, isReserved]
  · cases skipped : rule.ignoreInScripts <;>
      simp [appliesTo, Context.within, Surroundings.script, Surroundings.plain, isIgnore, skipped]

/-- The rules that are left do in other files what all rules do in executable scripts. -/
theorem RuleSet.runRules_script (overlooks : entries.Overlooks .script)
    (overlook : hooks.Overlook .script) (ruleSetName : String) (run : Run) :
    entries.runRules hooks ruleSetName (run.within .script) =
      ((forScripts entries).runRules hooks ruleSetName (run.within .plain)).within .script := by
  induction entries generalizing run with
  | nil => rfl
  | cons first entries hyp =>
      obtain ⟨name, entry⟩ := first
      have others := hyp fun name rule isMember => overlooks name rule (.tail _ isMember)
      cases entry with
      | pattern | ruleSet | value => exact others run
      | rule rule =>
          have here : rule.Overlooks .script := overlooks name rule (.head _)
          have applies : rule.appliesTo name (run.within .script).context =
              (((Entry.rule rule).forScripts name).isSome &&
                rule.appliesTo name (run.within .plain).context) :=
            rule.appliesTo_script name run.context
          rw [runRules_cons_rule, applies, forScripts]
          cases left : (Entry.rule rule).forScripts name with
          | none => exact others run
          | some kept =>
              obtain rfl : Entry.rule rule = kept := by
                rw [Entry.forScripts] at left
                split at left
                · contradiction
                · exact Option.some.inj left
              simp only [Option.isSome_some, Bool.true_and, runRules_cons_rule]
              split
              case isFalse => exact others run
              case isTrue =>
                have script : (run.within .script).underRule ruleSetName name =
                    (run.underRule ruleSetName name).within .script := rfl
                have plain : (run.within .plain).underRule ruleSetName name =
                    (run.underRule ruleSetName name).within .plain := rfl
                rw [script, plain, Rule.runOn_within here overlook,
                  Rule.runOn_within here.plain overlook.plain]
                cases rule.runOn hooks (run.underRule ruleSetName name) with
                | going later => exact others later
                | stopped fault later => rfl

namespace RuleSetRef

theorem shownName_forScripts (ref : RuleSetRef) : ref.forScripts.shownName = ref.shownName := by
  cases ref <;> rfl

theorem isStored_forScripts (ref : RuleSetRef) : ref.forScripts.isStored = ref.isStored := by
  cases ref <;> rfl

end RuleSetRef

/-- A rule-set does to a line of an executable script what it does in any other file without the
rules that executable scripts do without. -/
theorem Store.apply_script (distinct : store.root.isDistinct = true) {ref : RuleSetRef}
    (overlooks : ∀ entries, store.lookup ref = some entries → entries.Overlooks .script)
    (overlook : hooks.Overlook .script) (run : Run) :
    store.apply hooks ref (run.within .script) =
      (store.forScripts.apply hooks ref.forScripts (run.within .plain)).within .script := by
  have left := lookup_forScripts distinct ref
  cases found : store.lookup ref with
  | none =>
      rw [found] at left
      cases ref with
      | direct entries => contradiction
      | null | named | other =>
          simp only [RuleSetRef.forScripts] at left ⊢
          simp only [apply, found, left]
          rfl
  | some entries =>
      rw [found] at left
      have admits : (RuleSet.forScripts entries).admits ref.isStored (run.within .plain).context =
          entries.admits ref.isStored (run.within .script).context :=
        RuleSet.admits_forScripts entries _ _
      rw [apply_eq_of_lookup found, apply_eq_of_lookup left, ref.shownName_forScripts,
        ref.isStored_forScripts, admits]
      cases entries.admits ref.isStored (run.within .script).context with
      | error fault => rfl
      | ok admitted =>
          cases admitted with
          | false => rfl
          | true => exact RuleSet.runRules_script (overlooks entries found) overlook _ run

end LineRules
