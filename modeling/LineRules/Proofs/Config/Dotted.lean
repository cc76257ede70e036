import LineRules.Proofs.RuleSet.Paths

/-!
# Entries at dotted names

What stands at a dotted name after an entry was put at one (`entryAt?_putAt`). At that name the
new entry stands; if it is a rule-set and one stood there before, the old one is updated name by
name (`IsUpdate`). At a name whose path leads neither to nor through that place nothing changes.
-/

namespace LineRules

open LineRules.Text

/-- The last part of a text is empty exactly if the text is empty or ends in a separator. -/
theorem Text.getLast?_split_eq_some_nil_iff {separator : Char} {text : List Char} :
    (split separator text).getLast? = some [] ↔ text = [] ∨ text.getLast? = some separator := by
  induction text with
  | nil => simp [split]
  | cons c rest hyp =>
      obtain ⟨part, parts, cut⟩ := List.exists_cons_of_ne_nil (split_ne_nil separator rest)
      rw [cut] at hyp
      rw [split, cut]
      by_cases isSeparator : c = separator
      · subst isSeparator
        rw [if_pos rfl, List.getLast?_cons_cons, hyp]
        cases rest <;> simp
      · rw [if_neg isSeparator]
        cases parts with
        | nil =>
            have joined := intercalate_split separator rest
            rw [cut] at joined
            obtain rfl : part = rest := by simpa [List.intercalate] using joined
            cases part with
            | nil => simp [isSeparator]
            | cons => simpa using hyp
        | cons next parts =>
            have more : rest ≠ [] := by
              rintro rfl
              simp [split] at cut
            rw [List.getLast?_cons_cons] at hyp ⊢
            rw [hyp]
            obtain ⟨d, rest, rfl⟩ := List.exists_cons_of_ne_nil more
            simp

/-- A name has an empty last segment exactly if it is empty or ends in a point. -/
theorem getLast?_segments_iff {name : String} :
    (segments name).getLast? = some "" ↔ name = "" ∨ name.toList.getLast? = some '.' := by
  have empty : ∀ part : List Char, String.ofList part = "" ↔ part = [] := by
    intro part
    exact String.ofList_eq_empty_iff
  rw [segments, List.getLast?_map, Option.map_eq_some_iff]
  simp only [empty, exists_eq_right, getLast?_split_eq_some_nil_iff, String.toList_eq_nil_iff]

namespace RuleSet

/-- A rule-set that was updated by another one name by name: the new entry of a name counts, and
the old one where there is no new one. Old names keep their places, and new ones come last. -/
structure IsUpdate (old new updated : RuleSet) : Prop where
  found : ∀ name, updated.get? name = (new.get? name).or (old.get? name)
  ordered : updated.names = old.names ++ new.names.filter fun name => name ∉ old.names

theorem isUpdate {new : RuleSet} (once : new.names.Nodup) (old : RuleSet) :
    IsUpdate old new (old.update new) :=
  ⟨Keyed.get?_update once old, Keyed.names_update once old⟩

/-- What is found where an entry was put over an older one: the entry, or the older rule-set updated
if both of them are rule-sets. -/
def IsPut (old : Option Entry) (entry : Entry) (found : Option Entry) : Prop :=
  match old, entry with
  | some (.ruleSet old), .ruleSet new =>
    ∃ updated, found = some (.ruleSet updated) ∧ IsUpdate old new updated
  | _, _ => found = some entry

theorem isPut {entry : Entry} (once : ∀ new, entry = .ruleSet new → (Keyed.names new).Nodup)
    (old : Option Entry) : IsPut old entry (some (Config.replaced old entry)) := by
  unfold IsPut
  split
  case h_1 old new => exact ⟨_, rfl, isUpdate (once new rfl) old⟩
  case h_2 apart =>
    rw [Config.replaced]
    exact apart

end RuleSet

namespace Config

open RuleSet

/-- **Put and get.** An entry that was put at a dotted name is found there, unless it is a rule-set
and one stood there before: then the old one is found, updated name by name. At a name whose path is
no start of the path of that name, and does not start with it, what was found before is found. -/
theorem entryAt?_putAt (root : RuleSet) {name : String} (nonempty : name ≠ "")
    (closed : name.toList.getLast? ≠ some '.') {entry : Entry}
    (once : ∀ new, entry = .ruleSet new → (Keyed.names new).Nodup) :
    IsPut (root.entryAt? name) entry ((putAt root name entry).entryAt? name) ∧
      ∀ other, ¬segments name <+: segments other → ¬segments other <+: segments name →
        (putAt root name entry).entryAt? other = root.entryAt? other := by
  have named : (segments name).getLast? ≠ some "" := by simp [getLast?_segments_iff, *]
  have isPath : segments name ≠ [] := by
    rw [segments]
    exact fun none => split_ne_nil _ _ (List.map_eq_nil_iff.mp none)
  refine ⟨?_, fun other notBelow notAbove => ?_⟩
  · simp only [entryAt?, putAt, if_neg named, entryAlong?_assignAlong_self root entry isPath]
    exact isPut once _
  · simp only [entryAt?, putAt, entryAlong?_assignAlong_apart root entry notBelow notAbove]

/-- A rule-set that is put at a name with an empty segment updates the one that stood there, and
leaves the alias beside it. -/
theorem entryAt?_putAt_updated :
    let root : RuleSet :=
      [("a", .ruleSet [("", .ruleSet [("b", .ruleSet [("x", .value (.int 1)),
        ("y", .value (.int 2))])]), ("c", .value (.text "js"))])]
    let new : RuleSet := [("z", .value (.int 4)), ("x", .value (.int 3))]
    let updated : RuleSet :=
      [("x", .value (.int 3)), ("y", .value (.int 2)), ("z", .value (.int 4))]
    IsPut (root.entryAt? "a..b") (.ruleSet new) (some (.ruleSet updated)) ∧
      (putAt root "a..b" (.ruleSet new)).entryAt? "a.c" = root.entryAt? "a.c" := by
  intro root new updated
  have once : ∀ given, Entry.ruleSet new = .ruleSet given → (Keyed.names given).Nodup := by
    rintro _ ⟨⟩
    decide
  have nonempty : "a..b" ≠ "" := by decide
  have closed : "a..b".toList.getLast? ≠ some '.' := by decide
  obtain ⟨put, apart⟩ := entryAt?_putAt root nonempty closed once
  exact ⟨put, apart "a.c" (by decide) (by decide)⟩

end Config

end LineRules
