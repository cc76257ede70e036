import LineRules.Proofs.Builtin.Stops
import LineRules.Proofs.Config.Faults
import LineRules.Proofs.Format.Stops

/-!
# Checking files by an accepted configuration

The rule-sets of an accepted configuration can be laid over the built-in ones and run on every
text, unless one of their entries stops that in a way that reading the configuration lets pass:
`ofTable_usable` says that nothing but the refusals of texts for ignore patterns, the faults of
rules and rule-sets, and pages that open a block under an unknown name can stop a check. Such
entries and pages do stop checks (`check_stopped`).
-/

namespace LineRules.Config

open LineRules.Text

/-- What rule-sets of a configuration have besides rule-sets: rules that were read, patterns
and texts. -/
def IsGiven (name : String) : Entry → Prop
  | .rule rule => name ≠ ignoreName ∧ ∃ pattern, rule.FromTable pattern
  | .pattern _ => True
  | .value value => ∃ source, value = .text source
  | .ruleSet _ => False

/-- All entries of a rule-set are such as configurations give. -/
def AllGiven (entries : RuleSet) : Prop :=
  entries.Every (fun _ => True) IsGiven

variable {field name : String} {entries root result : RuleSet}

mutual

theorem every_of_readAs :
    ∀ {value : Value} {entry : Entry} {field name : String}, ReadAs field name value entry →
      Entry.Every (fun _ => True) IsGiven name entry
  | _, _, _, _, .pattern _ => .leaf rfl trivial
  | _, _, _, _, .alias _ => .leaf rfl ⟨_, rfl⟩
  | _, _, _, _, .rule named _ read => .leaf rfl ⟨named, readRule_eq_ok read⟩
  | .table _, _, _, _, .ruleSet _ _ read => .ruleSet trivial (allGiven_readRuleSet read)

theorem allGiven_readRuleSet :
    ∀ {table : List (String × Value)} {field : String} {entries : RuleSet},
      readRuleSet field table = .ok entries → AllGiven entries
  | [], _, _, read => by
      cases read
      exact RuleSet.every_nil
  | (name, value) :: table, _, _, read => by
      obtain ⟨entry, others, isEntry, isRest, rfl⟩ := readRuleSet_cons_eq_ok.mp read
      exact RuleSet.every_cons_iff.mpr
        ⟨every_of_readAs (readEntry_eq_ok isEntry), allGiven_readRuleSet isRest⟩

end

theorem allGiven_readTopEntries {settings : List (String × Value)} (given : AllGiven root)
    (read : readTopEntries root settings = .ok result) : AllGiven result := by
  induction settings generalizing root with
  | nil =>
      cases read
      exact given
  | cons setting settings hyp =>
      obtain ⟨written, value⟩ := setting
      obtain ⟨_, entry, isEntry, isRest⟩ := readTopEntries_cons_eq_ok.mp read
      have anywhere : ∀ name, Entry.Every (fun _ => True) IsGiven name entry := by
        intro name
        obtain ⟨_, _, rfl, rfl⟩ | ⟨_, _, rfl, rfl, isRead⟩ := readTopEntry_eq_ok isEntry
        · exact .leaf rfl ⟨_, rfl⟩
        · exact .ruleSet trivial (allGiven_readRuleSet isRead)
      exact hyp (RuleSet.Every.assignAlong (fun _ => trivial) given anywhere _) isRest

theorem allGiven_readRuleSets {setting : Option Value} (read : readRuleSets setting = .ok result) :
    AllGiven result := by
  unfold readRuleSets at read
  split at read
  · cases read
    exact RuleSet.every_nil
  · cases read
    exact RuleSet.every_nil
  · exact allGiven_readTopEntries RuleSet.every_nil read
  · exact absurd read not_refuse_eq_ok

/-- The rule-sets of an accepted configuration. -/
theorem allGiven_ofTable {table : Keyed Value} {source : Option Path} {config : Config}
    (accepted : ofTable table source = .ok config) : AllGiven config.ruleSets := by
  simp only [ofTable, bind_eq_ok] at accepted
  obtain ⟨_, _, _, _, _, _, _, _, ruleSets, read, made⟩ := accepted
  cases made
  exact allGiven_readRuleSets read

/-- Entries that configurations give stop with their own refusals and faults only. -/
theorem stopsIn_of_every {refusals faults : List Fault} {name : String} {entry : Entry}
    (every : Entry.Every (fun _ => True) IsGiven name entry)
    (refused : entry.collect (fun _ => []) leafRefusals name ⊆ refusals)
    (stopped : entry.collect nodeFaults leafFaults name ⊆ faults) :
    entry.StopsIn refusals faults name := by
  induction every with
  | @ruleSet name entries _ inside hyp =>
      rw [Entry.collect] at refused stopped
      obtain ⟨_, refused⟩ := List.append_subset.mp refused
      obtain ⟨named, stopped⟩ := List.append_subset.mp stopped
      exact .ruleSet named fun member isMember => hyp member isMember
        (List.Subset.trans (RuleSet.collect_subset_of_mem isMember) refused)
        (List.Subset.trans (RuleSet.collect_subset_of_mem isMember) stopped)
  | @leaf name entry single holds =>
      refine .leaf single ?_
      rw [Entry.collect_of_single single] at refused stopped
      cases entry with
      | rule rule =>
          obtain ⟨named, pattern, made⟩ := holds
          exact ⟨named, fun shows => (made.endsIn shows).mono stopped⟩
      | pattern => trivial
      | value value =>
          obtain ⟨source, rfl⟩ := holds
          refine ⟨source, rfl, fun isIgnore => ?_⟩
          simpa [leafRefusals, isIgnore] using refused
      | ruleSet => contradiction

theorem stopsIn_of_allGiven (given : AllGiven entries) :
    entries.StopsIn (RuleSet.refusals entries) (RuleSet.faults entries) := fun member isMember =>
  stopsIn_of_every (given member isMember) (RuleSet.collect_subset_of_mem isMember)
    (RuleSet.collect_subset_of_mem isMember)

/-- **Accepted configurations.** The rule-sets of an accepted configuration are laid over the
built-in ones, unless a text for an ignore pattern is refused. Every text of a supported
language is then formatted by them, unless a rule or rule-set stops that or a line of a page
opens a block under an unknown name. -/
theorem ofTable_usable {table : Keyed Value} {source : Option Path} {config : Config}
    (accepted : ofTable table source = .ok config) :
    match Builtin.storeWith config.ruleSets with
    | .error fault => fault ∈ RuleSet.refusals config.ruleSets
    | .ok store => ∀ {path : Path} {formatter : Format.Formatter},
        Format.Formatter.ofPath? path store config.ignore = some formatter → ∀ text : String,
          match (formatter.format path text).outcome with
          | .error fault => fault ∈ RuleSet.faults config.ruleSets ∨ formatter.language = .html ∧
              ∃ line ∈ linesOf text.toList, Format.blockOpened line.content = .error fault
          | .ok _ => True := by
  have made := Builtin.storeWith_stopsIn (stopsIn_of_allGiven (allGiven_ofTable accepted))
  cases built : Builtin.storeWith config.ruleSets with
  | error fault =>
      rw [built] at made
      exact made
  | ok store =>
      rw [built] at made
      intro path formatter isFormatter text
      obtain ⟨language, _, rfl⟩ := Option.map_eq_some_iff.mp isFormatter
      split
      case h_1 fault stopped => exact Format.Formatter.format_stops made rfl stopped
      case h_2 => trivial

/-- A rule that replaces a letter can be used on every script and style sheet. -/
theorem ofTable_usable_ruleTable : ∃ config store,
    ofTable (ruleTable [("replacer", .text "y")]) = .ok config ∧
      Builtin.storeWith config.ruleSets = .ok store ∧
      ∀ (path : Path) (formatter : Format.Formatter),
        Format.Formatter.ofPath? path store config.ignore = some formatter →
        formatter.language ≠ .html → ∀ text : String,
          ∃ result, (formatter.format path text).outcome = .ok result := by
  have harmless : (ofTable (ruleTable [("replacer", .text "y")])).toOption.map
      (fun config => (RuleSet.refusals config.ruleSets, RuleSet.faults config.ruleSets)) =
        some ([], []) := by
    decide +kernel
  cases accepted : ofTable (ruleTable [("replacer", .text "y")]) with
  | error fault =>
      rw [accepted] at harmless
      contradiction
  | ok config =>
      have usable := ofTable_usable accepted
      rw [accepted] at harmless
      obtain ⟨noRefusal, noFault⟩ := Prod.mk.inj (Option.some.inj harmless)
      cases built : Builtin.storeWith config.ruleSets with
      | error fault =>
          rw [built, noRefusal] at usable
          contradiction
      | ok store =>
          rw [built, noFault] at usable
          refine ⟨config, store, rfl, built, fun path formatter isFormatter noPage text => ?_⟩
          have ends := usable isFormatter text
          cases done : (formatter.format path text).outcome with
          | ok result => exact ⟨result, rfl⟩
          | error fault =>
              rw [done] at ends
              obtain absent | ⟨isPage, _⟩ := ends
              · contradiction
              · exact absurd isPage noPage

/-! ## Checks that are stopped -/

/-- What a check of a text by a configuration stops with, if the configuration is accepted. -/
def checkStop? (table : Keyed Value) (path : Path) (text : String) : Option Fault :=
  match ofTable table with
  | .error _ => none
  | .ok config =>
    match Builtin.storeWith config.ruleSets with
    | .error fault => some fault
    | .ok store =>
      (Format.Formatter.ofPath? path store config.ignore).bind fun formatter =>
        stop? (formatter.format path text).outcome

/-- The rules for scripts, with a text or a table in the place of their ignore pattern. -/
def ignoreTable (value : Value) : Keyed Value :=
  [("rules", .table [("js.IGNORE", value)])]

/-- A text that is no pattern under the dotted name of an ignore pattern, a table there, a count
of 64 bits, and a page with a tag that is a block's only up to the case of a letter outside
ASCII stop a check by an accepted configuration. -/
theorem check_stopped :
    let script : Path := ⟨.relative, ["a.js"]⟩
    checkStop? (ignoreTable (.text "(")) script "" =
        some (.pattern (.malformed .unterminatedGroup (some ⟨0, none⟩))) ∧
      checkStop? (ignoreTable (.table [])) script "x" = some ruleSetAsPattern ∧
      checkStop? (ruleTable [("replacer", .text "y"), ("count", .int 9223372036854775808)]) script
        "x" = some .countRange ∧
      checkStop? [] ⟨.relative, ["a.html"]⟩ "<ſcript>" = some (.unknownBlock "ſcript") := by
  decide +kernel

end LineRules.Config
