import LineRules.Proofs.Config.Accepted
import LineRules.Proofs.RuleSet.Paths

/-!
# Rules that a configuration keeps

The tables under `rules` may spell the names that lead to a rule as nested tables or joined by
points. `given` lists what they give, with the path of each setting. Where no rule or alias
stands at or above another setting, a rule is found at its path exactly if no table at the top
that comes later has an entry of its own on the way to it (`readRuleSets_keeps_iff`): a later
table takes over the old entries of a rule-set one by one, and each as a whole. A nested table
that follows a dotted one loses rules in this way (`readRuleSets_loses`).
-/

namespace LineRules.Config

open LineRules.Text LineRules.RuleSet

/-! ## Settings and their paths -/

/-- What a setting under `rules` is. -/
inductive Kind where
  | rule (table : Keyed Value)
  | alias
  | pattern
  | ruleSet

/-- Rules and aliases lead no further. -/
def Kind.isEnd : Kind → Bool
  | .rule _ => true
  | .alias => true
  | _ => false

/-- A setting under `rules`, with its place as refusals name it and the names that lead to
it. -/
structure Given where
  field : String
  path : List String
  kind : Kind

mutual

/-- What an entry of a rule-set gives at a path. -/
def givenIn (field : String) (path : List String) (name : String) : Value → List Given
  | .text _ => [⟨field, path, if name = ignoreName then .pattern else .alias⟩]
  | .table table =>
    if Keyed.has table "regex" then [⟨field, path, .rule table⟩]
    else ⟨field, path, .ruleSet⟩ :: givenUnder field path table
  | _ => []

/-- What the entries of a rule-set give under a path. -/
def givenUnder (field : String) (path : List String) : List (String × Value) → List Given
  | [] => []
  | (name, value) :: rest =>
    givenIn (field ++ "." ++ name) (path ++ [name]) name value ++ givenUnder field path rest

end

/-- The path of a setting at the top. -/
def topPath (written : String) : List String := segments (topName written)

/-- What a setting at the top gives. -/
def givenAtTop (setting : String × Value) : List Given :=
  match setting.2 with
  | .table table =>
    ⟨topField setting.1, topPath setting.1, .ruleSet⟩ ::
      givenUnder (topField setting.1) (topPath setting.1) table
  | _ => [⟨topField setting.1, topPath setting.1, .alias⟩]

/-- What the settings under `rules` give, in order. -/
def given (settings : List (String × Value)) : List Given := settings.flatMap givenAtTop

/-- Neither of two settings is a rule or alias that stands at the path of the other one or
above it. -/
def Given.Apart (a b : Given) : Prop :=
  (a.kind.isEnd = true → ¬a.path <+: b.path) ∧ (b.kind.isEnd = true → ¬b.path <+: a.path)

instance (a b : Given) : Decidable (a.Apart b) := inferInstanceAs (Decidable (_ ∧ _))

mutual

/-- Whether every table in a value has each name once. -/
def isDistinct : Value → Bool
  | .table entries => decide (Keyed.names entries).Nodup && areDistinct entries
  | _ => true

/-- Whether every table in the entries of a table has each name once. -/
def areDistinct : List (String × Value) → Bool
  | [] => true
  | (_, value) :: rest => isDistinct value && areDistinct rest

end

/-- The names of the entries of a table. -/
def entryNames : Value → List String
  | .table table => Keyed.names table
  | _ => []

/-- Whether a setting at the top has an entry of its own on the way to a path. -/
def TakesOver (setting : String × Value) (path : List String) : Prop :=
  ∃ name ∈ entryNames setting.2, topPath setting.1 ++ [name] <+: path

instance (setting : String × Value) (path : List String) : Decidable (TakesOver setting path) :=
  inferInstanceAs (Decidable (∃ name ∈ _, _))

/-! ## Rules in the rule-set of a table -/

/-- What is found along a path that begins at an entry. -/
def entryFrom (entry : Entry) : List String → Option Entry
  | [] => some entry
  | path => entry.ruleSet?.bind fun entries => entryAlong? entries path

variable {field name : String} {path rest : List String} {table : Keyed Value} {rule : Rule}
  {entry : Entry} {entries : RuleSet} {setting : Given}

theorem entryAlong?_cons_self (name : String) (entry : Entry) (others : RuleSet)
    (rest : List String) :
    entryAlong? ((name, entry) :: others) (name :: rest) = entryFrom entry rest := by
  cases rest with
  | nil => simp [entryAlong?, Keyed.get?, entryFrom]
  | cons next rest =>
      simp only [entryAlong?, Keyed.get?, if_true, entryFrom]
      cases entry <;> rfl

theorem entryAlong?_cons_of_ne {other : String} (different : name ≠ other) (entry : Entry)
    (others : RuleSet) (rest : List String) :
    entryAlong? ((name, entry) :: others) (other :: rest) = others.entryAlong? (other :: rest) :=
  entryAlong?_congr (by simp [Keyed.get?, different]) rest

theorem mem_names_of_entryAlong? (found : entries.entryAlong? (name :: rest) = some entry) :
    name ∈ entries.names := by
  refine Classical.byContradiction fun unknown => ?_
  have absent : entries.get? name = Keyed.get? [] name := Keyed.get?_eq_none_iff.mpr unknown
  rw [entryAlong?_congr absent, entryAlong?_nil] at found
  contradiction

mutual

/-- A rule that is given in an entry is found in what the entry is read as. -/
theorem entryFrom_of_mem_givenIn :
    ∀ {value : Value} {field name : String} {path : List String} {entry : Entry},
      ReadAs field name value entry → isDistinct value = true →
      ∀ {setting : Given}, setting ∈ givenIn field path name value →
      ∀ {table : Keyed Value}, setting.kind = .rule table →
      ∃ rest rule, setting.path = path ++ rest ∧ readRule setting.field table = .ok rule ∧
        entryFrom entry rest = some (.rule rule)
  | .table _, _, _, path, _, .rule _ isRule read, _, _, isGiven, _, isKind => by
      rw [givenIn, if_pos isRule, List.mem_singleton] at isGiven
      subst isGiven
      cases isKind
      exact ⟨[], _, (List.append_nil path).symm, read, rfl⟩
  | .table _, _, _, _, _, .ruleSet _ notRule read, distinct, _, isGiven, _, isKind => by
      rw [givenIn, if_neg (by simp [notRule]), List.mem_cons] at isGiven
      obtain rfl | isGiven := isGiven
      · cases isKind
      · simp only [isDistinct, Bool.and_eq_true, decide_eq_true_eq] at distinct
        obtain ⟨name, rest, rule, isPath, isRead, found⟩ :=
          entryAlong?_of_mem_givenUnder read distinct.1 distinct.2 isGiven isKind
        exact ⟨name :: rest, rule, isPath, isRead, found⟩
  | .text _, _, name, _, _, _, _, _, isGiven, _, isKind => by
      rw [givenIn, List.mem_singleton] at isGiven
      subst isGiven
      dsimp only at isKind
      split at isKind <;> cases isKind

/-- A rule that is given under a path is found in the rule-set that is read. -/
theorem entryAlong?_of_mem_givenUnder :
    ∀ {table : List (String × Value)} {field : String} {path : List String} {entries : RuleSet},
      readRuleSet field table = .ok entries → (Keyed.names table).Nodup →
      areDistinct table = true →
      ∀ {setting : Given}, setting ∈ givenUnder field path table →
      ∀ {rule : Keyed Value}, setting.kind = .rule rule →
      ∃ name rest parsed, setting.path = path ++ name :: rest ∧
        readRule setting.field rule = .ok parsed ∧
        entries.entryAlong? (name :: rest) = some (.rule parsed)
  | [], _, _, _, _, _, _, _, isGiven, _, _ => by
      rw [givenUnder] at isGiven
      contradiction
  | (name, value) :: table, _, path, _, read, distinct, deep, _, isGiven, _, isKind => by
      obtain ⟨entry, others, isEntry, isRest, rfl⟩ := readRuleSet_cons_eq_ok.mp read
      obtain ⟨new, distinct⟩ := List.nodup_cons.mp distinct
      rw [areDistinct, Bool.and_eq_true] at deep
      rw [givenUnder, List.mem_append] at isGiven
      obtain isGiven | isGiven := isGiven
      · obtain ⟨rest, rule, isPath, isRead, found⟩ :=
          entryFrom_of_mem_givenIn (readEntry_eq_ok isEntry) deep.1 isGiven isKind
        exact ⟨name, rest, rule, by rw [isPath, List.append_assoc, List.singleton_append],
          isRead, by rw [entryAlong?_cons_self, found]⟩
      · obtain ⟨other, rest, rule, isPath, isRead, found⟩ :=
          entryAlong?_of_mem_givenUnder isRest distinct deep.2 isGiven isKind
        have known := mem_names_of_entryAlong? found
        rw [names_readRuleSet isRest] at known
        have apart : name ≠ other := fun same => new (same ▸ known)
        exact ⟨other, rest, rule, isPath, isRead, by rw [entryAlong?_cons_of_ne apart, found]⟩

end

mutual

/-- A rule that is found in what an entry is read as is given in the entry. -/
theorem mem_givenIn_of_entryFrom :
    ∀ {value : Value} {name : String} {entry : Entry} (field : String) (path : List String),
      ReadAs field name value entry →
      ∀ {rest : List String} {rule : Rule}, entryFrom entry rest = some (.rule rule) →
      ∃ setting ∈ givenIn field path name value, setting.path = path ++ rest
  | .table _, _, _, _, path, .rule _ isRule _, [], _, _ => by
      rw [givenIn, if_pos isRule]
      exact ⟨_, List.mem_singleton_self _, (List.append_nil path).symm⟩
  | .table _, _, _, _, path, .ruleSet _ notRule read, name :: rest, _, found => by
      obtain ⟨setting, isGiven, isPath⟩ := mem_givenUnder_of_entryAlong? _ path read found
      rw [givenIn, if_neg (by simp [notRule])]
      exact ⟨setting, List.mem_cons_of_mem _ isGiven, isPath⟩
  | .table _, _, _, _, _, .rule _ _ _, _ :: _, _, found => by cases found
  | .table _, _, _, _, _, .ruleSet _ _ _, [], _, found => by cases found
  | .text _, _, _, _, _, .pattern _, [], _, found => by cases found
  | .text _, _, _, _, _, .pattern _, _ :: _, _, found => by cases found
  | .text _, _, _, _, _, .alias _, [], _, found => by cases found
  | .text _, _, _, _, _, .alias _, _ :: _, _, found => by cases found

/-- A rule that is found in a rule-set that is read is given under the path of the rule-set. -/
theorem mem_givenUnder_of_entryAlong? :
    ∀ {table : List (String × Value)} {entries : RuleSet} (field : String) (path : List String),
      readRuleSet field table = .ok entries →
      ∀ {name : String} {rest : List String} {rule : Rule},
      entries.entryAlong? (name :: rest) = some (.rule rule) →
      ∃ setting ∈ givenUnder field path table, setting.path = path ++ name :: rest
  | [], _, _, _, read, _, _, _, found => by
      cases read
      rw [entryAlong?_nil] at found
      contradiction
  | (first, value) :: table, _, field, path, read, name, rest, _, found => by
      obtain ⟨entry, others, isEntry, isRest, rfl⟩ := readRuleSet_cons_eq_ok.mp read
      rw [givenUnder]
      by_cases same : first = name
      · subst same
        rw [entryAlong?_cons_self] at found
        obtain ⟨setting, isGiven, isPath⟩ :=
          mem_givenIn_of_entryFrom _ (path ++ [first]) (readEntry_eq_ok isEntry) found
        rw [List.append_assoc, List.singleton_append] at isPath
        exact ⟨setting, List.mem_append_left _ isGiven, isPath⟩
      · rw [entryAlong?_cons_of_ne same] at found
        obtain ⟨setting, isGiven, isPath⟩ :=
          mem_givenUnder_of_entryAlong? field path isRest found
        exact ⟨setting, List.mem_append_right _ isGiven, isPath⟩

end

/-! ## One setting after another -/

theorem topPath_ne_nil (written : String) : topPath written ≠ [] := by
  simp [topPath, segments, split_ne_nil]

/-- A rule that is given apart from a setting at the top is found after the setting exactly if
it was found before and the setting has no entry on the way to it. -/
theorem entryAlong?_putAt_iff {written : String} {value : Value} {root : RuleSet}
    (read : readTopEntry (topField written) value = .ok entry) (distinct : isDistinct value = true)
    (isEnd : setting.kind.isEnd = true)
    (apart : ∀ other ∈ givenAtTop (written, value), setting.Apart other) :
    (putAt root (topName written) entry).entryAlong? setting.path = some (.rule rule) ↔
      root.entryAlong? setting.path = some (.rule rule) ∧
        ¬TakesOver (written, value) setting.path := by
  have apartPath : ∀ other ∈ givenAtTop (written, value), ¬setting.path <+: other.path :=
    fun other isOther => (apart other isOther).1 isEnd
  have isPut : putAt root (topName written) entry = assignAlong root entry (topPath written) := rfl
  rw [isPut]
  obtain ⟨word, target, rfl, rfl⟩ | ⟨table, entries, rfl, rfl, isRead⟩ := readTopEntry_eq_ok read
  case inl =>
    -- an alias may stand neither above the rule nor below it
    have isHead : ⟨topField written, topPath written, .alias⟩ ∈ givenAtTop (written, .text word) :=
      List.mem_singleton_self _
    have notAbove := apartPath _ isHead
    have notBelow := (apart _ isHead).2 rfl
    dsimp only at notAbove notBelow
    rw [entryAlong?_assignAlong_apart _ _ notBelow notAbove]
    simp [TakesOver, entryNames]
  case inr =>
    have isHead : ⟨topField written, topPath written, .ruleSet⟩ ∈
        givenAtTop (written, .table table) := List.mem_cons_self
    have notAbove := apartPath _ isHead
    dsimp only at notAbove
    by_cases below : topPath written <+: setting.path
    case neg =>
      rw [entryAlong?_assignAlong_apart _ _ below notAbove]
      have free : ¬TakesOver (written, .table table) setting.path := by
        rintro ⟨name, -, reached⟩
        exact below ((List.prefix_append _ _).trans reached)
      simp [free]
    case pos =>
      obtain ⟨rest, isPath⟩ := below
      cases rest with
      | nil => exact absurd (by simp [← isPath]) notAbove
      | cons name rest =>
          have names := names_readRuleSet isRead
          simp only [isDistinct, Bool.and_eq_true, decide_eq_true_eq] at distinct
          rw [← isPath, entryAlong?_assignAlong_below _ (topPath_ne_nil _)
            (names ▸ distinct.1) name rest, names]
          have taken : TakesOver (written, .table table) (topPath written ++ name :: rest) ↔
              name ∈ Keyed.names table := by
            simp [TakesOver, entryNames, List.prefix_append_right_inj]
          rw [taken]
          split
          case isTrue known =>
            -- a rule of the new rule-set would be given at the path of the old one
            refine iff_of_false (fun found => ?_) (fun kept => kept.2 known)
            obtain ⟨other, isOther, samePath⟩ :=
              mem_givenUnder_of_entryAlong? (topField written) (topPath written) isRead found
            have same : other.path = setting.path := samePath.trans isPath
            exact apartPath other (List.mem_cons_of_mem _ isOther) (same ▸ List.prefix_rfl)
          case isFalse unknown => exact (and_iff_left unknown).symm

/-- A rule that is given apart from settings at the top is found after them exactly if it was
found before and none of them has an entry on the way to it. -/
theorem entryAlong?_readTopEntries_iff {after : List (String × Value)} {root result : RuleSet}
    (read : readTopEntries root after = .ok result)
    (distinct : ∀ other ∈ after, isDistinct other.2 = true) (isEnd : setting.kind.isEnd = true)
    (apart : ∀ other ∈ given after, setting.Apart other) :
    result.entryAlong? setting.path = some (.rule rule) ↔
      root.entryAlong? setting.path = some (.rule rule) ∧
        ∀ other ∈ after, ¬TakesOver other setting.path := by
  induction after generalizing root with
  | nil =>
      cases read
      simp
  | cons first after hyp =>
      obtain ⟨written, value⟩ := first
      obtain ⟨_, entry, isEntry, isRest⟩ := readTopEntries_cons_eq_ok.mp read
      simp only [given, List.flatMap_cons, List.mem_append] at apart
      rw [hyp isRest (fun other isOther => distinct other (List.mem_cons_of_mem _ isOther))
          (fun other isOther => apart other (.inr isOther)),
        entryAlong?_putAt_iff isEntry (distinct _ List.mem_cons_self) isEnd
          (fun other isOther => apart other (.inl isOther)),
        List.forall_mem_cons, and_assoc]

/-- A rule that is given in a setting at the top is found once the setting is read. -/
theorem entryAlong?_putAt_of_mem_givenAtTop {written : String} {value : Value} (root : RuleSet)
    (read : readTopEntry (topField written) value = .ok entry) (distinct : isDistinct value = true)
    (isGiven : setting ∈ givenAtTop (written, value)) (isRule : setting.kind = .rule table) :
    ∃ rule, readRule setting.field table = .ok rule ∧ setting.path ≠ [] ∧
      (putAt root (topName written) entry).entryAlong? setting.path = some (.rule rule) := by
  obtain ⟨word, target, rfl, rfl⟩ | ⟨table, entries, rfl, rfl, isRead⟩ := readTopEntry_eq_ok read
  case inl =>
    obtain rfl := List.mem_singleton.mp isGiven
    cases isRule
  case inr =>
    obtain rfl | isGiven := List.mem_cons.mp isGiven
    · cases isRule
    · simp only [isDistinct, Bool.and_eq_true, decide_eq_true_eq] at distinct
      obtain ⟨name, rest, rule, isPath, isRead', found⟩ :=
        entryAlong?_of_mem_givenUnder isRead distinct.1 distinct.2 isGiven isRule
      have isPut : putAt root (topName written) (.ruleSet entries) =
          assignAlong root (.ruleSet entries) (topPath written) := rfl
      have names := names_readRuleSet isRead
      refine ⟨rule, isRead', by simp [isPath], ?_⟩
      rw [isPath, isPut, entryAlong?_assignAlong_below _ (topPath_ne_nil _) (names ▸ distinct.1),
        if_pos (mem_names_of_entryAlong? found), found]

/-- **Rules that are kept.** Where no rule or alias stands at or above another setting, a rule
is read, and found at its path exactly if no later setting at the top has an entry of its own
on the way to it. -/
theorem readRuleSets_keeps_iff {before after : List (String × Value)} {top : String × Value}
    {result : RuleSet}
    (read : readRuleSets (some (.table (before ++ top :: after))) = .ok result)
    (distinct : ∀ other ∈ before ++ top :: after, isDistinct other.2 = true)
    (apart : (given (before ++ top :: after)).Pairwise Given.Apart)
    (isGiven : setting ∈ givenAtTop top) (isRule : setting.kind = .rule table)
    (named : ∀ name ∈ setting.path, name ≠ "" ∧ '.' ∉ name.toList) :
    ∃ rule, readRule setting.field table = .ok rule ∧
      (result.entryAt? (".".intercalate setting.path) = some (.rule rule) ↔
        ∀ other ∈ after, ¬TakesOver other setting.path) := by
  obtain ⟨written, value⟩ := top
  obtain ⟨root, _, isRest⟩ := readTopEntries_append_eq_ok.mp read
  obtain ⟨_, entry, isEntry, isAfter⟩ := readTopEntries_cons_eq_ok.mp isRest
  have fromLater : ∀ other ∈ given after, setting.Apart other := by
    intro other isOther
    rw [given, List.flatMap_append, List.flatMap_cons] at apart
    obtain ⟨-, apart, -⟩ := List.pairwise_append.mp apart
    exact (List.pairwise_append.mp apart).2.2 setting isGiven other isOther
  obtain ⟨rule, isRead, nonempty, found⟩ := entryAlong?_putAt_of_mem_givenAtTop root
    isEntry (distinct (written, value) (by simp)) isGiven isRule
  refine ⟨rule, isRead, ?_⟩
  rw [RuleSet.entryAt?_intercalate _ nonempty named,
    entryAlong?_readTopEntries_iff isAfter (fun other isOther => distinct other (by simp [isOther]))
      (by simp [isRule, Kind.isEnd]) fromLater]
  exact and_iff_right found

/-! ## Dotted and nested tables -/

/-- A rule of a rule-set that is nested in another one. -/
def nestedTable : String × Value :=
  ("html", .table [("extra", .table [("b", .table [("regex", .text "y")])])])

/-- A rule of the same rule-set under its dotted name. -/
def dottedTable : String × Value :=
  ("html.extra", .table [("a", .table [("regex", .text "x")])])

/-- The dotted table adds its rule to the rule-set that the nested one has made. -/
theorem readRuleSets_keeps : ∃ result rule,
    readRuleSets (some (.table [nestedTable, dottedTable])) = .ok result ∧
      readRule "tool.csf.rules.html.extra.b" [("regex", .text "y")] = .ok rule ∧
      result.entryAt? "html.extra.b" = some (.rule rule) := by
  have accepted : (readRuleSets (some (.table [nestedTable, dottedTable]))).isOk := by
    decide +kernel
  cases read : readRuleSets (some (.table [nestedTable, dottedTable])) with
  | error fault =>
      rw [read] at accepted
      contradiction
  | ok result =>
      have path : topPath "html" = ["html"] := by decide +kernel
      have isGiven : ⟨"tool.csf.rules.html.extra.b", ["html", "extra", "b"],
          .rule [("regex", .text "y")]⟩ ∈ givenAtTop nestedTable := by
        simp [nestedTable, givenAtTop, givenUnder, givenIn, path, topField, Keyed.has, Keyed.get?]
      have inOrder : readRuleSets (some (.table ([] ++ nestedTable :: [dottedTable]))) =
          .ok result := read
      obtain ⟨rule, isRead, kept⟩ := readRuleSets_keeps_iff inOrder (by decide +kernel)
        (by decide +kernel) isGiven rfl (by decide)
      exact ⟨result, rule, rfl, isRead, kept.mpr (by decide +kernel)⟩

/-- The nested table puts its rule-set in the place of the one that the dotted table has made:
no rule or alias stands at or above another setting, and yet a rule is lost. -/
theorem readRuleSets_loses :
    (∀ other ∈ [dottedTable, nestedTable], isDistinct other.2 = true) ∧
      (given [dottedTable, nestedTable]).Pairwise Given.Apart ∧
      (∀ setting ∈ given [dottedTable, nestedTable],
        ∀ name ∈ setting.path, name ≠ "" ∧ '.' ∉ name.toList) ∧
      (given [dottedTable, nestedTable]).map (fun setting => (setting.path, setting.kind.isEnd)) =
        [(["html", "extra"], false), (["html", "extra", "a"], true), (["html"], false),
          (["html", "extra"], false), (["html", "extra", "b"], true)] ∧
      (readRuleSets (some (.table [dottedTable, nestedTable]))).toOption.map
        (fun result => ((result.entryAt? "html.extra.a").isSome,
          (result.entryAt? "html.extra.b").isSome)) = some (false, true) := by
  decide +kernel

end LineRules.Config
