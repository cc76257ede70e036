import LineRules.Config.Read

/-!
# Entries at the end of paths

What stands where after an entry was put at the end of a path of names. At the end of the
path and below it the new entry is found, over an old rule-set only under its own names
(`entryAlong?_assignAlong_self`, `entryAlong?_assignAlong_below`); apart from the path nothing
changes (`entryAlong?_assignAlong_apart`). What is found under a dotted name is what stands at
the end of its path (`entryAt?_intercalate`).
-/

namespace LineRules

open LineRules.Text

namespace Keyed

variable {α : Type}

theorem get?_eq_none_iff {table : Keyed α} {name : String} :
    table.get? name = none ↔ name ∉ table.names := by
  rw [← has_iff, has, Option.not_isSome_iff_eq_none]

/-- Of two tables put together, the second one counts where it has the name. -/
theorem get?_update {other : Keyed α} (distinct : other.names.Nodup) (table : Keyed α)
    (name : String) : (table.update other).get? name = (other.get? name).or (table.get? name) := by
  induction other generalizing table with
  | nil => rfl
  | cons entry other hyp =>
      obtain ⟨key, value⟩ := entry
      obtain ⟨new, distinct⟩ := List.nodup_cons.mp distinct
      have step : table.update ((key, value) :: other) = (table.put key value).update other := rfl
      rw [step, hyp distinct, get?_put, get?]
      by_cases same : key = name
      · subst same
        rw [get?_eq_none_iff.mpr new]
        simp
      · simp [same]

theorem nodup_put {table : Keyed α} (once : table.names.Nodup) (name : String) (value : α) :
    (table.put name value).names.Nodup := by
  rw [names_put]
  split
  case isTrue => exact once
  case isFalse new =>
    refine List.nodup_append.mpr ⟨once, by simp, ?_⟩
    rintro known isKnown _ isNew rfl
    exact new (List.mem_singleton.mp isNew ▸ isKnown)

/-- A name is new after another one if it was new before and is not that one. -/
theorem names_put_append_filter {rest : List String} {name : String} (new : name ∉ rest)
    (table : Keyed α) (value : α) : (table.put name value).names ++
        rest.filter (fun later => later ∉ (table.put name value).names) =
      table.names ++ (name :: rest).filter fun later => later ∉ table.names := by
  rw [names_put, List.filter_cons]
  by_cases known : name ∈ table.names
  · simp [known]
  · have others : ∀ later ∈ rest,
        decide (later ∉ table.names ++ [name]) = decide (later ∉ table.names) := by
      intro later isLater
      have other : later ≠ name := fun same => new (same ▸ isLater)
      simp [other]
    simp only [known, if_false, not_false_eq_true, decide_true, if_true, List.append_assoc,
      List.filter_congr others, List.singleton_append]

/-- Of two tables put together, the names of the first one keep their places, and the new ones
come last. -/
theorem names_update {other : Keyed α} (distinct : other.names.Nodup) (table : Keyed α) :
    (table.update other).names =
      table.names ++ other.names.filter fun name => name ∉ table.names := by
  induction other generalizing table with
  | nil => simp [update, names]
  | cons entry other hyp =>
      obtain ⟨key, value⟩ := entry
      obtain ⟨new, distinct⟩ := List.nodup_cons.mp distinct
      exact (hyp distinct (table.put key value)).trans (names_put_append_filter new table value)

theorem nodup_update {table : Keyed α} (once : table.names.Nodup) (other : Keyed α) :
    (table.update other).names.Nodup := by
  induction other generalizing table with
  | nil => exact once
  | cons entry other hyp => exact hyp (nodup_put once entry.1 entry.2)

end Keyed

/-! ## Names and paths -/

theorem Text.split_append {separator : Char} {part : List Char} (solid : separator ∉ part)
    (rest : List Char) :
    split separator (part ++ separator :: rest) = part :: split separator rest := by
  induction part with
  | nil => simp [split]
  | cons c part hyp =>
      have other : c ≠ separator := Ne.symm (List.ne_of_not_mem_cons solid)
      rw [List.cons_append, split, if_neg other, hyp (List.not_mem_of_not_mem_cons solid)]

theorem Text.split_self {separator : Char} {part : List Char} (solid : separator ∉ part) :
    split separator part = [part] := by
  induction part with
  | nil => rfl
  | cons c part hyp =>
      have other : c ≠ separator := Ne.symm (List.ne_of_not_mem_cons solid)
      rw [split, if_neg other, hyp (List.not_mem_of_not_mem_cons solid)]

/-- Names without points, joined by points, are the segments of the dotted name. -/
theorem segments_intercalate {path : List String} (nonempty : path ≠ [])
    (solid : ∀ name ∈ path, '.' ∉ name.toList) : segments (".".intercalate path) = path := by
  induction path with
  | nil => contradiction
  | cons name path hyp =>
      have here : '.' ∉ name.toList := solid name (by simp)
      cases path with
      | nil => simp [segments, split_self here]
      | cons next path =>
          have rest := hyp (by simp) fun other isOther => solid other (by simp [isOther])
          have cut : (".".intercalate (name :: next :: path)).toList =
              name.toList ++ '.' :: (".".intercalate (next :: path)).toList := by
            simp [String.toList_append]
          rw [segments, cut, split_append here, List.map_cons, String.ofList_toList]
          exact congrArg (name :: ·) rest

namespace RuleSet

variable {root other : RuleSet} {entry : Entry} {name : String} {path rest query : List String}

/-- The rule-set under a name, empty if there is none. -/
def inside (root : RuleSet) (name : String) : RuleSet :=
  ((root.get? name).bind Entry.ruleSet?).getD []

theorem entryAlong?_nil (path : List String) : entryAlong? [] path = none := by
  cases path with
  | nil => rfl
  | cons name path => cases path <;> rfl

theorem entryAlong?_cons (root : RuleSet) (name : String) (nonempty : rest ≠ []) :
    root.entryAlong? (name :: rest) = (root.inside name).entryAlong? rest := by
  obtain ⟨next, rest, rfl⟩ := List.exists_cons_of_ne_nil nonempty
  simp only [inside, entryAlong?]
  cases found : root.get? name with
  | none => exact (entryAlong?_nil _).symm
  | some entry => cases entry <;> first | rfl | exact (entryAlong?_nil _).symm

/-- What is found along a path depends on what stands under its first name. -/
theorem entryAlong?_congr (same : root.get? name = other.get? name) (rest : List String) :
    root.entryAlong? (name :: rest) = other.entryAlong? (name :: rest) := by
  cases rest with
  | nil => exact same
  | cons next rest => simp only [entryAlong?, same]

/-- A path is followed through the rule-set at the end of its first part. -/
theorem entryAlong?_append (root : RuleSet) (path : List String) (nonempty : rest ≠ []) :
    root.entryAlong? (path ++ rest) =
      if path = [] then root.entryAlong? rest
      else ((root.entryAlong? path).bind Entry.ruleSet?).bind fun entries =>
        entryAlong? entries rest := by
  induction path generalizing root with
  | nil => rfl
  | cons name path hyp =>
      rw [List.cons_append, entryAlong?_cons root name (by simp [nonempty]), hyp,
        if_neg (List.cons_ne_nil _ _)]
      split
      case isTrue last =>
        subst last
        rw [entryAlong?, inside]
        cases (root.get? name).bind Entry.ruleSet? with
        | none => exact entryAlong?_nil rest
        | some entries => rfl
      case isFalse more => rw [entryAlong?_cons root name more]

/-- What is found under a dotted name stands at the end of its path. -/
theorem entryAt?_intercalate (root : RuleSet) (nonempty : path ≠ [])
    (named : ∀ name ∈ path, name ≠ "" ∧ '.' ∉ name.toList) :
    root.entryAt? (".".intercalate path) = root.entryAlong? path := by
  have last : path.getLast? ≠ some "" := fun isLast =>
    (named "" (List.mem_of_getLast? isLast)).1 rfl
  rw [entryAt?, segments_intercalate nonempty fun name isName => (named name isName).2]
  simp [last]

end RuleSet

namespace Config

open RuleSet

variable {root new : RuleSet} {entry : Entry} {name : String} {path rest query : List String}

/-- What becomes of an entry where another one is put. -/
def replaced (old : Option Entry) (entry : Entry) : Entry :=
  match old, entry with
  | some (.ruleSet old), .ruleSet new => .ruleSet (Keyed.update old new)
  | _, _ => entry

theorem assignAlong_singleton (root : RuleSet) (entry : Entry) (name : String) :
    assignAlong root entry [name] = root.put name (replaced (root.get? name) entry) := by
  simp only [assignAlong, replaced]
  cases root.get? name with
  | none => rfl
  | some old => cases old <;> cases entry <;> rfl

theorem assignAlong_cons (root : RuleSet) (entry : Entry) (name : String) (nonempty : rest ≠ []) :
    assignAlong root entry (name :: rest) =
      root.put name (.ruleSet (assignAlong (root.inside name) entry rest)) := by
  obtain ⟨next, rest, rfl⟩ := List.exists_cons_of_ne_nil nonempty
  rfl

theorem inside_assignAlong_cons (root : RuleSet) (entry : Entry) (name : String)
    (nonempty : rest ≠ []) :
    (assignAlong root entry (name :: rest)).inside name =
      assignAlong (root.inside name) entry rest := by
  rw [assignAlong_cons root entry name nonempty, inside, Keyed.get?_put, if_pos rfl]
  rfl

theorem get?_assignAlong_of_ne {other : String} (apart : name ≠ other) (root : RuleSet)
    (entry : Entry) (rest : List String) :
    (assignAlong root entry (name :: rest)).get? other = root.get? other := by
  cases rest with
  | nil => rw [assignAlong_singleton, Keyed.get?_put, if_neg apart]
  | cons next rest => rw [assignAlong_cons _ _ _ (by simp), Keyed.get?_put, if_neg apart]

/-- Where the entry is put, it is found, together with the entries of an old rule-set. -/
theorem entryAlong?_assignAlong_self (root : RuleSet) (entry : Entry) (nonempty : path ≠ []) :
    (assignAlong root entry path).entryAlong? path =
      some (replaced (root.entryAlong? path) entry) := by
  induction path generalizing root with
  | nil => contradiction
  | cons name rest hyp =>
      by_cases last : rest = []
      · subst last
        rw [assignAlong_singleton, entryAlong?, Keyed.get?_put, if_pos rfl, entryAlong?]
      · rw [entryAlong?_cons _ name last, inside_assignAlong_cons _ _ _ last, hyp _ last,
          entryAlong?_cons root name last]

/-- Apart from the path nothing changes. -/
theorem entryAlong?_assignAlong_apart (root : RuleSet) (entry : Entry)
    (notBelow : ¬path <+: query) (notAbove : ¬query <+: path) :
    (assignAlong root entry path).entryAlong? query = root.entryAlong? query := by
  induction path generalizing root query with
  | nil => exact absurd List.nil_prefix notBelow
  | cons name path hyp =>
      cases query with
      | nil => exact absurd List.nil_prefix notAbove
      | cons other query =>
          by_cases same : name = other
          · subst same
            rw [List.cons_prefix_cons] at notBelow notAbove
            have more : query ≠ [] := by
              rintro rfl
              exact notAbove ⟨rfl, List.nil_prefix⟩
            have further : path ≠ [] := by
              rintro rfl
              exact notBelow ⟨rfl, List.nil_prefix⟩
            rw [entryAlong?_cons _ name more, inside_assignAlong_cons _ _ _ further,
              hyp _ (by simpa using notBelow) (by simpa using notAbove),
              entryAlong?_cons root name more]
          · exact entryAlong?_congr (get?_assignAlong_of_ne same root entry path) query

/-- Below a rule-set that is put somewhere, its own names lead into it, and other ones to what
stood there before. -/
theorem entryAlong?_assignAlong_below (root : RuleSet) (nonempty : path ≠ [])
    (distinct : new.names.Nodup) (name : String) (rest : List String) :
    (assignAlong root (.ruleSet new) path).entryAlong? (path ++ name :: rest) =
      if name ∈ new.names then new.entryAlong? (name :: rest)
      else root.entryAlong? (path ++ name :: rest) := by
  have old := entryAlong?_append root path (List.cons_ne_nil name rest)
  rw [if_neg nonempty] at old
  rw [entryAlong?_append _ _ (by simp), if_neg nonempty,
    entryAlong?_assignAlong_self root _ nonempty, old]
  by_cases known : name ∈ new.names
  · have isNew : new.get? name ≠ none := fun absent => Keyed.get?_eq_none_iff.mp absent known
    rw [if_pos known]
    cases root.entryAlong? path with
    | none => rfl
    | some entry =>
        cases entry with
        | ruleSet old =>
            refine entryAlong?_congr ?_ rest
            rw [Keyed.get?_update distinct]
            cases found : Keyed.get? new name with
            | none => exact absurd found isNew
            | some entry => rfl
        | _ => rfl
  · have absent : new.get? name = Keyed.get? [] name := Keyed.get?_eq_none_iff.mpr known
    have nothing : new.entryAlong? (name :: rest) = none := by
      rw [entryAlong?_congr absent, entryAlong?_nil]
    rw [if_neg known]
    cases root.entryAlong? path with
    | none => exact nothing
    | some entry =>
        cases entry with
        | ruleSet old =>
            refine entryAlong?_congr ?_ rest
            rw [Keyed.get?_update distinct, absent]
            rfl
        | _ => exact nothing

end Config

end LineRules
