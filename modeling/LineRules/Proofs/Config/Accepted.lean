import LineRules.Config.Read

/-!
# What accepted settings are read as

What a rule, an entry or a rule-set was written as, given that it was read, and what it was
read as: `FromTable` for rules, `readEntry_eq_ok` and `readRuleSet_cons_eq_ok` for rule-sets.
Rule-sets at the top are read one after another into what was read before
(`readTopEntries_append_eq_ok`).
-/

namespace LineRules

open LineRules.Text LineRules.Pattern

section Except

variable {α β : Type} {first : Except Fault α} {result : β}

theorem bind_eq_ok {next : α → Except Fault β} :
    (first >>= next) = .ok result ↔ ∃ value, first = .ok value ∧ next value = .ok result := by
  cases first with
  | error fault => simp [bind, Except.bind]
  | ok value => simp [bind, Except.bind]

theorem bind_eq_error {fault : Fault} {next : α → Except Fault β} :
    (first >>= next) = .error fault ↔
      first = .error fault ∨ ∃ value, first = .ok value ∧ next value = .error fault := by
  cases first with
  | error other => simp [bind, Except.bind]
  | ok value => simp [bind, Except.bind]

theorem map_eq_ok {f : α → β} :
    first.map f = .ok result ↔ ∃ value, first = .ok value ∧ f value = result := by
  cases first with
  | error fault => simp [Except.map]
  | ok value => simp [Except.map]

end Except

/-- A rule as a configuration gives it: it has a pattern and no callbacks, its template fits
the pattern, and its count is not negative. -/
structure Rule.FromTable (rule : Rule) (pattern : Pattern) : Prop where
  regex : rule.regex = some pattern
  test : rule.test = .search ∨ rule.test = .firstMatch
  message : ∀ run, rule.message ≠ .callback run
  replacer : rule.replacer = none ∨ ∃ template pieces,
    rule.replacer = some (.template template) ∧ pattern.template template = .ok pieces
  count : ∃ count : Int, rule.count = .int count ∧ 0 ≤ count

namespace Config

variable {field name : String} {value : Option Value} {table : Keyed Value}

theorem not_refuse_eq_ok {α : Type} {problem : SettingProblem} {result : α} :
    refuse field problem ≠ .ok result := by
  simp [refuse]

theorem readTest_eq_ok {test : TestSpec} (read : readTest field value = .ok test) :
    test = .search ∨ test = .firstMatch := by
  unfold readTest at read
  split at read
  · exact .inl (by simpa [eq_comm] using read)
  · exact .inl (by simpa [eq_comm] using read)
  · exact .inl (by simpa [eq_comm] using read)
  · exact .inr (by simpa [eq_comm] using read)
  · contradiction
  · contradiction
  · exact absurd read not_refuse_eq_ok

theorem readMessage_eq_ok {message : MessageSpec} (read : readMessage field value = .ok message)
    (run : MessageCallback) : message ≠ .callback run := by
  rintro rfl
  unfold readMessage at read
  split at read <;> simp [refuse] at read

theorem readCount_eq_ok {count : Int} (read : readCount field value = .ok count) : 0 ≤ count := by
  unfold readCount at read
  split at read
  · simp_all
  · split at read
    case isTrue => exact absurd read not_refuse_eq_ok
    case isFalse positive =>
      cases read
      omega
  · exact absurd read not_refuse_eq_ok

theorem checkTemplate_eq_ok {pattern : Pattern} {template : String}
    (checked : checkTemplate field pattern (some template) = .ok ()) :
    ∃ pieces, pattern.template template = .ok pieces := by
  unfold checkTemplate at checked
  dsimp only at checked
  split at checked
  case h_1 pieces read => exact ⟨pieces, read⟩
  case h_2 => split at checked <;> simp [refuse] at checked

theorem readRule_eq_ok {rule : Rule} (read : readRule field table = .ok rule) :
    ∃ pattern, rule.FromTable pattern := by
  unfold readRule at read
  dsimp only at read
  split at read
  · simp [refuse, bind, Except.bind] at read
  split at read
  · simp [refuse, bind, Except.bind] at read
  simp only [bind_eq_ok] at read
  obtain ⟨_, _, pattern, _, message, isMessage, template, _, test, isTest, _, _, _, _, count,
    isCount, _, checked, made⟩ := read
  cases made
  refine ⟨pattern, rfl, readTest_eq_ok isTest, readMessage_eq_ok isMessage, ?_, count, rfl,
    readCount_eq_ok isCount⟩
  cases template with
  | none => exact .inl rfl
  | some template =>
      obtain ⟨pieces, fits⟩ := checkTemplate_eq_ok checked
      exact .inr ⟨template, pieces, rfl, fits⟩

/-- What an entry of a rule-set was written as, and what it is read as. -/
inductive ReadAs (field name : String) : Value → Entry → Prop where
  | pattern {source : String} {pattern : Pattern} (named : name = ignoreName) :
      ReadAs field name (.text source) (.pattern pattern)
  | alias {word target : String} (named : name ≠ ignoreName) :
      ReadAs field name (.text word) (.value (.text target))
  | rule {table : Keyed Value} {rule : Rule} (named : name ≠ ignoreName)
      (isRule : Keyed.has table "regex" = true) (read : readRule field table = .ok rule) :
      ReadAs field name (.table table) (.rule rule)
  | ruleSet {table : Keyed Value} {entries : RuleSet} (named : name ≠ ignoreName)
      (notRule : Keyed.has table "regex" = false) (read : readRuleSet field table = .ok entries) :
      ReadAs field name (.table table) (.ruleSet entries)

theorem readEntry_eq_ok {value : Value} {entry : Entry}
    (read : readEntry field name value = .ok entry) : ReadAs field name value entry := by
  cases value with
  | text word =>
      rw [readEntry] at read
      split at read
      case isTrue named =>
        obtain ⟨pattern, _, rfl⟩ := map_eq_ok.mp read
        exact .pattern named
      case isFalse named =>
        cases read
        exact .alias named
  | table table =>
      rw [readEntry] at read
      split at read
      case isTrue => exact absurd read not_refuse_eq_ok
      case isFalse named =>
        split at read
        case isTrue isRule =>
          obtain ⟨rule, isRead, rfl⟩ := map_eq_ok.mp read
          exact .rule named isRule isRead
        case isFalse notRule =>
          obtain ⟨entries, isRead, rfl⟩ := map_eq_ok.mp read
          exact .ruleSet named (by simpa using notRule) isRead
  | _ =>
      simp only [readEntry] at read
      exact absurd read not_refuse_eq_ok

theorem readRuleSet_cons_eq_ok {value : Value} {rest : List (String × Value)} {entries : RuleSet} :
    readRuleSet field ((name, value) :: rest) = .ok entries ↔
      ∃ entry others, readEntry (field ++ "." ++ name) name value = .ok entry ∧
        readRuleSet field rest = .ok others ∧ entries = (name, entry) :: others := by
  simp only [readRuleSet, bind_eq_ok]
  constructor
  · rintro ⟨entry, isEntry, others, isRest, same⟩
    cases same
    exact ⟨entry, others, isEntry, isRest, rfl⟩
  · rintro ⟨entry, others, isEntry, isRest, rfl⟩
    exact ⟨entry, isEntry, others, isRest, rfl⟩

/-- A rule-set has the names of its table, in order. -/
theorem names_readRuleSet {entries : RuleSet} (read : readRuleSet field table = .ok entries) :
    entries.names = table.names := by
  induction table generalizing entries with
  | nil =>
      cases read
      rfl
  | cons setting table hyp =>
      obtain ⟨name, value⟩ := setting
      obtain ⟨entry, others, _, isRest, rfl⟩ := readRuleSet_cons_eq_ok.mp read
      exact congrArg (name :: ·) (hyp isRest)

/-- The name of a rule-set or alias at the top. -/
def topName (written : String) : String := String.ofList (trim written.toList)

/-- The place of a setting at the top, as refusals name it. -/
def topField (written : String) : String := "tool.csf.rules." ++ written

theorem readTopEntries_cons_eq_ok {root result : RuleSet} {written : String} {value : Value}
    {rest : List (String × Value)} :
    readTopEntries root ((written, value) :: rest) = .ok result ↔
      topName written ≠ "" ∧ ∃ entry, readTopEntry (topField written) value = .ok entry ∧
        readTopEntries (putAt root (topName written) entry) rest = .ok result := by
  rw [readTopEntries]
  dsimp only
  by_cases empty : String.ofList (trim written.toList) = ""
  · simp [empty, topName, refuse, bind, Except.bind]
  · rw [if_neg empty, bind_eq_ok]
    exact ⟨fun read => ⟨empty, read⟩, fun read => read.2⟩

/-- Rule-sets at the top are read one after another. -/
theorem readTopEntries_append_eq_ok {root result : RuleSet} {first rest : List (String × Value)} :
    readTopEntries root (first ++ rest) = .ok result ↔
      ∃ middle, readTopEntries root first = .ok middle ∧
        readTopEntries middle rest = .ok result := by
  induction first generalizing root with
  | nil => simp [readTopEntries]
  | cons setting first hyp =>
      obtain ⟨written, value⟩ := setting
      simp only [List.cons_append, readTopEntries_cons_eq_ok, hyp]
      constructor
      · rintro ⟨named, entry, isEntry, middle, isMiddle, isResult⟩
        exact ⟨middle, ⟨named, entry, isEntry, isMiddle⟩, isResult⟩
      · rintro ⟨middle, ⟨named, entry, isEntry, isMiddle⟩, isResult⟩
        exact ⟨named, entry, isEntry, middle, isMiddle, isResult⟩

/-- A setting at the top is an alias or a rule-set. -/
theorem readTopEntry_eq_ok {value : Value} {entry : Entry}
    (read : readTopEntry field value = .ok entry) :
    (∃ word target, value = .text word ∧ entry = .value (.text target)) ∨
      ∃ table entries, value = .table table ∧ entry = .ruleSet entries ∧
        readRuleSet field table = .ok entries := by
  cases value with
  | text word =>
      cases read
      exact .inl ⟨word, _, rfl, rfl⟩
  | table table =>
      obtain ⟨entries, isRead, rfl⟩ := map_eq_ok.mp read
      exact .inr ⟨table, entries, rfl, rfl, isRead⟩
  | _ => exact absurd read not_refuse_eq_ok

end Config

end LineRules
