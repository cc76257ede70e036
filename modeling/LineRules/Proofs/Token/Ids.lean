import LineRules.Proofs.Config.Accepted
import LineRules.Proofs.Pattern.Rounds
import LineRules.Proofs.Pattern.Segments
import LineRules.Proofs.RuleSet.Paths
import LineRules.Proofs.Text.Lowering

/-!
# Rule ids

Rule ids are checked in two places: where a rule is registered (`registryForm`), and where settings
are read, up to case and outer blanks (`settingForm`). Among the texts that begin with `csf-`, which
the registry asks for apart, both patterns match the same ones (`settingForm_matchesIn_iff`,
`isRegistrable_iff_registryForm`). But the line end in both of them also stands before a line feed
at the end of the text. Settings have dropped that by then, and the registry has not: the ids of
settings are those that can be registered and do not end with a line feed
(`register_iff_configurable`).
-/

namespace LineRules.Token

open LineRules.Text LineRules.Pattern LineRules.Pattern.Node

variable {id text : List Char} {parts : List (List Char)}

/-! ## Parts of ids -/

/-- A part of an id between the dashes. -/
def IsPart (part : List Char) : Prop := part ≠ [] ∧ ∀ c ∈ part, isIdChar c = true

/-- Parts with a dash before each. -/
def dashed (parts : List (List Char)) : List Char := parts.flatMap ('-' :: ·)

theorem IsPart.dash_not_mem {part : List Char} (isPart : IsPart part) : '-' ∉ part := by
  intro isMember
  exact absurd (isPart.2 _ isMember) (by decide)

theorem split_dashed {first : List Char} (solid : '-' ∉ first)
    (areParts : ∀ part ∈ parts, '-' ∉ part) :
    split '-' (first ++ dashed parts) = first :: parts := by
  induction parts generalizing first with
  | nil => simpa [dashed] using split_self solid
  | cons part parts hyp =>
      obtain ⟨here, others⟩ := List.forall_mem_cons.mp areParts
      have cut : first ++ dashed (part :: parts) = first ++ '-' :: (part ++ dashed parts) := rfl
      rw [cut, split_append solid, hyp here others]

theorem intercalate_dash (first : List Char) (parts : List (List Char)) :
    ['-'].intercalate (first :: parts) = first ++ dashed parts := by
  induction parts generalizing first with
  | nil => simp [dashed]
  | cons part parts hyp =>
      have rest := hyp part
      rw [List.intercalate_cons_cons, rest]
      simp [dashed]

/-- An id is `csf` and further parts. -/
theorem isRuleId_iff :
    isRuleId id = true ↔ ∃ parts, parts ≠ [] ∧ (∀ part ∈ parts, IsPart part) ∧
      id = ['c', 's', 'f'] ++ dashed parts := by
  constructor
  · intro isId
    rw [isRuleId] at isId
    split at isId
    case h_1 first second rest isSplit =>
      obtain ⟨rfl, areParts⟩ : first = ['c', 's', 'f'] ∧
          ∀ part ∈ second :: rest, IsPart part := by
        simpa [IsPart] using isId
      refine ⟨second :: rest, by simp, areParts, ?_⟩
      rw [← intercalate_dash, ← isSplit, intercalate_split]
    case h_2 => contradiction
  · rintro ⟨parts, nonempty, areParts, rfl⟩
    obtain ⟨second, rest, rfl⟩ := List.exists_cons_of_ne_nil nonempty
    have isSplit := split_dashed (by decide : '-' ∉ ['c', 's', 'f'])
      fun part isMember => (areParts part isMember).dash_not_mem
    rw [isRuleId, isSplit]
    simpa [IsPart] using areParts

/-- Nothing, or one line feed. -/
def IsEnding (ending : List Char) : Prop := ending = [] ∨ ending = ['\n']

/-- A rule can be registered under an id that may end with a line feed. -/
theorem isRegistrable_iff :
    isRegistrable id = true ↔ ∃ stem ending, isRuleId stem = true ∧ IsEnding ending ∧
      id = stem ++ ending := by
  rw [isRegistrable, Bool.or_eq_true, Bool.and_eq_true, decide_eq_true_eq]
  constructor
  · rintro (isId | ⟨feed, isId⟩)
    · exact ⟨id, [], isId, .inl rfl, by simp⟩
    · exact ⟨id.dropLast, ['\n'], isId, .inr rfl, (List.dropLast_append_getLast? _ feed).symm⟩
  · rintro ⟨stem, _, isId, rfl | rfl, rfl⟩
    · exact .inl (by simpa using isId)
    · exact .inr (by simpa using isId)

theorem isIdChar_of_mem_name : ∀ c ∈ ['c', 's', 'f'], isIdChar c = true :=
  List.all_eq_true.mp rfl

theorem holds_of_isRuleId (holds : Char → Prop) (ofDash : holds '-')
    (ofIdChar : ∀ c, isIdChar c = true → holds c) (isId : isRuleId id = true) :
    ∀ c ∈ id, holds c := by
  rw [isRuleId_iff] at isId
  obtain ⟨parts, _, areParts, rfl⟩ := isId
  intro c isMember
  rcases List.mem_append.mp isMember with inName | inParts
  · exact ofIdChar c (isIdChar_of_mem_name c inName)
  · obtain ⟨part, isPart, inPart⟩ := List.mem_flatMap.mp inParts
    rcases List.mem_cons.mp inPart with rfl | inPart
    · exact ofDash
    · exact ofIdChar c ((areParts part isPart).2 c inPart)

/-! ## The patterns of ids -/

/-- Characters of ids, as the patterns write them. -/
def idChars : Node := oneOf [.chars 'a' 'z', .chars '0' '9']

/-- A dash and a part after it. -/
def dashedPart : Node := sequence [lit '-', plus idChars]

/-- The form of an id that is registered, beside its beginning. -/
def registryForm : Pattern where
  source := "^[a-z][a-z0-9]*(?:-[a-z0-9]+)*$"
  ignoreCase := false
  node := sequence [textStart, oneOf [.chars 'a' 'z'], star idChars, star dashedPart, lineEnd]
  groups := 0
  names := []

/-- The form of an id in settings. -/
def settingForm : Pattern where
  source := "^csf-[a-z0-9]+(?:-[a-z0-9]+)*$"
  ignoreCase := false
  node := sequence [textStart, lit 'c', lit 's', lit 'f', lit '-', plus idChars, star dashedPart,
    lineEnd]
  groups := 0
  names := []

/-- The form of the registry is its text. -/
theorem compile_registryForm :
    Pattern.compile "^[a-z][a-z0-9]*(?:-[a-z0-9]+)*$" = .ok registryForm := by decide +kernel

/-- The form of settings is its text. -/
theorem compile_settingForm :
    Pattern.compile "^csf-[a-z0-9]+(?:-[a-z0-9]+)*$" = .ok settingForm := by decide +kernel

theorem contains_idChars {c : Char} :
    (CharClass.mk false .exact [.chars 'a' 'z', .chars '0' '9']).contains c = isIdChar c := by
  have letters : ∀ low high : Char, (low.toNat ≤ c.toNat && c.toNat ≤ high.toNat) =
      (decide (low ≤ c) && decide (c ≤ high)) := fun _ _ => rfl
  rw [contains_oneOf, List.any_cons, List.any_cons, List.any_nil, Bool.or_false,
    ClassItem.contains_chars, ClassItem.contains_chars, letters, letters, isIdChar, Char.isDigit,
    Bool.or_comm]
  rfl

/-- A dash and a part, as one piece. -/
def IsPiece (piece : List Char) : Prop := ∃ part, IsPart part ∧ piece = '-' :: part

theorem dashedPart_reads : dashedPart.Reads IsPiece where
  reaches := by
    intro before after opened closed condition
    simp only [dashedPart, reaches_sequence_cons_iff, reaches_sequence_nil_iff, reaches_lit_iff,
      idChars, oneOf, reaches_plus_char_iff, contains_idChars]
    constructor
    · rintro ⟨_, rfl, part, rest, rfl, nonempty, allIdChars, met⟩
      exact ⟨'-' :: part, rest, rfl, ⟨part, ⟨nonempty, allIdChars⟩, rfl⟩, by simpa using met⟩
    · rintro ⟨_, rest, rfl, ⟨part, ⟨nonempty, allIdChars⟩, rfl⟩, met⟩
      exact ⟨_, rfl, part, rest, rfl, nonempty, allIdChars, by simpa using met⟩
  nonempty := by
    rintro _ ⟨part, _, rfl⟩
    simp

theorem exists_dashed_of_pieces {pieces : List (List Char)}
    (arePieces : ∀ piece ∈ pieces, IsPiece piece) :
    ∃ parts, (∀ part ∈ parts, IsPart part) ∧ pieces.flatten = dashed parts := by
  induction pieces with
  | nil => exact ⟨[], by simp, rfl⟩
  | cons piece pieces hyp =>
      obtain ⟨⟨part, isPart, rfl⟩, others⟩ := List.forall_mem_cons.mp arePieces
      obtain ⟨parts, areParts, written⟩ := hyp others
      refine ⟨part :: parts, List.forall_mem_cons.mpr ⟨isPart, areParts⟩, ?_⟩
      rw [List.flatten_cons, written]
      rfl

/-- Rounds of a dash and a part read further parts. -/
theorem reaches_dashedParts_iff {before after : List Char} {opened closed : List (Nat × Cursor)}
    {condition : State → Prop} :
    (star dashedPart).Reaches ⟨.between before after, opened, closed⟩ condition ↔
      ∃ parts rest, after = dashed parts ++ rest ∧ (∀ part ∈ parts, IsPart part) ∧
        condition ⟨.between ((dashed parts).reverse ++ before) rest, opened, closed⟩ := by
  rw [reaches_star_iff dashedPart_reads]
  constructor
  · rintro ⟨pieces, rest, rfl, arePieces, met⟩
    obtain ⟨parts, areParts, written⟩ := exists_dashed_of_pieces arePieces
    rw [written] at met ⊢
    exact ⟨parts, rest, rfl, areParts, met⟩
  · rintro ⟨parts, rest, rfl, areParts, met⟩
    refine ⟨parts.map ('-' :: ·), rest, by rw [dashed, List.flatMap_def], ?_, ?_⟩
    · intro piece isMember
      obtain ⟨part, isPart, rfl⟩ := List.mem_map.mp isMember
      exact ⟨part, areParts part isPart, rfl⟩
    · rwa [← List.flatMap_def]

/-- What settings ask of an id. -/
theorem settingForm_matchesIn_iff : settingForm.matchesIn id = isRegistrable id := by
  rw [Bool.eq_iff_iff, isRegistrable_iff, matchesIn_iff_of_textStart rfl rfl]
  simp only [State.start, reaches_sequence_cons_iff, reaches_sequence_nil_iff, reaches_lit_iff,
    idChars, oneOf, reaches_plus_char_iff, contains_idChars, reaches_dashedParts_iff, lineEnd,
    reaches_anchor_iff, holds_lastLineEnd]
  constructor
  · rintro ⟨_, rfl, _, rfl, _, rfl, _, rfl, part, _, rfl, nonempty, allIdChars, parts, ending, rfl,
      areParts, isEnding, _⟩
    have isId : isRuleId (['c', 's', 'f'] ++ dashed (part :: parts)) = true := by
      rw [isRuleId_iff]
      exact ⟨part :: parts, by simp,
        List.forall_mem_cons.mpr ⟨⟨nonempty, allIdChars⟩, areParts⟩, rfl⟩
    exact ⟨_, ending, isId, isEnding, by simp [dashed]⟩
  · rintro ⟨stem, ending, isId, isEnding, rfl⟩
    rw [isRuleId_iff] at isId
    obtain ⟨parts, nonempty, areParts, rfl⟩ := isId
    obtain ⟨part, parts, rfl⟩ := List.exists_cons_of_ne_nil nonempty
    obtain ⟨⟨solid, allIdChars⟩, others⟩ := List.forall_mem_cons.mp areParts
    exact ⟨_, rfl, _, rfl, _, rfl, part ++ (dashed parts ++ ending), by simp [dashed], part, _, rfl,
      solid, allIdChars, parts, ending, rfl, others, isEnding, trivial⟩

/-- What the registry asks of an id beside its beginning. -/
theorem registryForm_matchesIn_iff :
    registryForm.matchesIn id = true ↔ ∃ first run parts ending,
      ('a' ≤ first ∧ first ≤ 'z') ∧ (∀ c ∈ run, isIdChar c = true) ∧
        (∀ part ∈ parts, IsPart part) ∧ IsEnding ending ∧
        id = first :: (run ++ (dashed parts ++ ending)) := by
  have letter : ∀ c : Char, ClassItem.contains (.chars 'a' 'z') c.toNat = true ↔
      'a' ≤ c ∧ c ≤ 'z' := by
    intro c
    rw [ClassItem.contains_chars, Bool.and_eq_true, decide_eq_true_eq, decide_eq_true_eq]
    rfl
  rw [matchesIn_iff_of_textStart rfl rfl]
  simp only [State.start, reaches_sequence_cons_iff, reaches_sequence_nil_iff, idChars, oneOf,
    reaches_char_iff, contains_oneOf, List.any_cons, List.any_nil, Bool.or_false, letter]
  simp only [reaches_star_char_iff, contains_idChars, reaches_dashedParts_iff, lineEnd,
    reaches_anchor_iff, holds_lastLineEnd]
  constructor
  · rintro ⟨first, _, rfl, isLetter, run, _, rfl, allIdChars, parts, ending, rfl, areParts,
      isEnding, _⟩
    exact ⟨first, run, parts, ending, isLetter, allIdChars, areParts, isEnding, rfl⟩
  · rintro ⟨first, run, parts, ending, isLetter, allIdChars, areParts, isEnding, rfl⟩
    exact ⟨first, _, rfl, isLetter, run, _, rfl, allIdChars, parts, ending, rfl, areParts, isEnding,
      trivial⟩

/-- The two checks of the registry together ask for what settings ask for. -/
theorem isRegistrable_iff_registryForm :
    isRegistrable id = true ↔ idStart.toList <+: id ∧ registryForm.matchesIn id = true := by
  rw [isRegistrable_iff, registryForm_matchesIn_iff]
  constructor
  · rintro ⟨stem, ending, isId, isEnding, rfl⟩
    rw [isRuleId_iff] at isId
    obtain ⟨parts, nonempty, areParts, rfl⟩ := isId
    obtain ⟨part, parts, rfl⟩ := List.exists_cons_of_ne_nil nonempty
    refine ⟨⟨part ++ (dashed parts ++ ending), ?_⟩, 'c', ['s', 'f'], part :: parts, ending,
      by decide, ?_, areParts, isEnding, ?_⟩
    · simp [idStart, dashed]
    · exact fun c inRun => isIdChar_of_mem_name c (List.mem_cons_of_mem _ inRun)
    · simp
  · rintro ⟨⟨rest, start⟩, first, run, parts, ending, isLetter, allIdChars, areParts, isEnding, rfl⟩
    have dash : '-' ∈ first :: (run ++ (dashed parts ++ ending)) := by
      rw [← start]
      exact List.mem_append_left _ (by decide)
    have solid : '-' ∉ first :: run := by
      rintro (_ | ⟨_, inRun⟩)
      · exact absurd isLetter (by decide)
      · exact absurd (allIdChars _ inRun) (by decide)
    cases parts with
    | nil =>
        have inEnding : '-' ∈ ending :=
          (List.mem_append.mp (dash : '-' ∈ (first :: run) ++ ending)).resolve_left solid
        rcases isEnding with rfl | rfl
        · contradiction
        · exact absurd inEnding (by decide)
    | cons part parts =>
        have split : ['c', 's', 'f'] ++ '-' :: rest =
            (first :: run) ++ '-' :: (part ++ (dashed parts ++ ending)) := by
          rw [idStart] at start
          simpa [dashed] using start
        obtain ⟨name, _⟩ := cut_at_unique (by decide) solid split
        have isId : isRuleId (['c', 's', 'f'] ++ dashed (part :: parts)) = true := by
          rw [isRuleId_iff]
          exact ⟨_, by simp, areParts, rfl⟩
        refine ⟨_, ending, isId, isEnding, ?_⟩
        rw [name, List.append_assoc, List.cons_append]

/-! ## Keys of settings -/

open Config in
/-- An entry is read if its key stands for an id and its value for a setting. -/
theorem readTokenEntries_cons_eq_ok {settings result : Keyed TokenSetting} {key : String}
    {value : Value} {rest : List (String × Value)} :
    readTokenEntries settings ((key, value) :: rest) = .ok result ↔
      isRuleId (lower (trim key.toList)) = true ∧
        ∃ setting, readTokenSetting ("tool.csf.token-rules." ++ key) value = .ok setting ∧
          readTokenEntries (settings.put (String.ofList (lower (trim key.toList))) setting) rest =
            .ok result := by
  rw [readTokenEntries]
  split
  case isTrue isId => simp [isId, bind_eq_ok]
  case isFalse other => simp [other, not_refuse_eq_ok]

/-- Settings take a key, for an id. -/
def TakesKey (key id : String) : Prop :=
  ∃ value setting, Config.readTokenRules (some (.table [(key, value)])) = .ok [(id, setting)]

/-- Some settings that are read have this id. -/
def Configurable (id : String) : Prop :=
  ∃ entries settings, Config.readTokenRules (some (.table entries)) = .ok settings ∧
    id ∈ settings.names

theorem takesKey_iff {key id : String} :
    TakesKey key id ↔ String.ofList (lower (trim key.toList)) = id ∧ isRuleId id.toList = true := by
  constructor
  · rintro ⟨value, setting, read⟩
    obtain ⟨isId, other, _, result⟩ := readTokenEntries_cons_eq_ok.mp read
    obtain ⟨rfl, rfl⟩ : String.ofList (lower (trim key.toList)) = id ∧ other = setting := by
      simpa [Config.readTokenEntries, Keyed.put] using result
    exact ⟨rfl, by simpa using isId⟩
  · rintro ⟨rfl, isId⟩
    have severity : Config.readTokenSetting ("tool.csf.token-rules." ++ key) (.text "warn") =
        .ok { severity := .warn } := rfl
    exact ⟨.text "warn", _, readTokenEntries_cons_eq_ok.mpr ⟨by simpa using isId, _, severity, rfl⟩⟩

/-- The ids of settings are those of the keys, which were all taken. -/
theorem mem_names_readTokenEntries {settings result : Keyed TokenSetting}
    {entries : List (String × Value)}
    (read : Config.readTokenEntries settings entries = .ok result) {id : String} :
    id ∈ result.names ↔ id ∈ settings.names ∨ ∃ entry ∈ entries, TakesKey entry.1 id := by
  induction entries generalizing settings with
  | nil =>
      obtain rfl : settings = result := by simpa [Config.readTokenEntries] using read
      simp
  | cons entry rest hyp =>
      rw [readTokenEntries_cons_eq_ok] at read
      obtain ⟨isId, setting, _, later⟩ := read
      have here : TakesKey entry.1 id ↔ String.ofList (lower (trim entry.1.toList)) = id := by
        rw [takesKey_iff, and_iff_left_iff_imp]
        rintro rfl
        simpa using isId
      rw [hyp later, ← Keyed.has_iff, Keyed.has, Keyed.get?_put, List.exists_mem_cons_iff, here,
        ← or_assoc, ← Keyed.has_iff settings]
      refine or_congr_left ?_
      split
      case isTrue same => simp [same]
      case isFalse other => simp [other, Keyed.has]

/-- No id has two settings. -/
theorem nodup_readTokenEntries {settings result : Keyed TokenSetting}
    {entries : List (String × Value)} (once : settings.names.Nodup)
    (read : Config.readTokenEntries settings entries = .ok result) : result.names.Nodup := by
  induction entries generalizing settings with
  | nil =>
      obtain rfl : settings = result := by simpa [Config.readTokenEntries] using read
      exact once
  | cons entry rest hyp =>
      rw [readTokenEntries_cons_eq_ok] at read
      obtain ⟨_, setting, _, later⟩ := read
      exact hyp (Keyed.nodup_put once _ setting) later

/-- No id has two settings in a configuration that was read. -/
theorem nodup_tokenRules {table : Keyed Value} {source : Option Path} {config : Config}
    (read : Config.ofTable table source = .ok config) : config.tokenRules.names.Nodup := by
  obtain ⟨_, _, read⟩ := bind_eq_ok.mp read
  obtain ⟨_, _, read⟩ := bind_eq_ok.mp read
  obtain ⟨tokenRules, readRules, read⟩ := bind_eq_ok.mp read
  obtain ⟨_, _, read⟩ := bind_eq_ok.mp read
  obtain ⟨_, _, read⟩ := bind_eq_ok.mp read
  obtain rfl := Except.ok.inj read
  unfold Config.readTokenRules at readRules
  split at readRules
  · exact Except.ok.inj readRules ▸ List.nodup_nil
  · exact Except.ok.inj readRules ▸ List.nodup_nil
  · exact nodup_readTokenEntries (by simp [Keyed.names]) readRules
  · exact absurd readRules Config.not_refuse_eq_ok

/-! ## Both checks -/

theorem code_of_isIdChar {c : Char} (isChar : isIdChar c = true) :
    (0x30 ≤ c.toNat ∧ c.toNat ≤ 0x39) ∨ (0x61 ≤ c.toNat ∧ c.toNat ≤ 0x7A) := by
  rw [isIdChar, Bool.or_eq_true, Char.isDigit, Bool.and_eq_true, Bool.and_eq_true] at isChar
  simpa [Char.le_def, UInt32.le_iff_toNat_le] using isChar

theorem isBlank_of_isIdChar {c : Char} (isChar : isIdChar c = true) : isBlank c = false := by
  have code := code_of_isIdChar isChar
  simp only [isBlank, Bool.or_eq_false_iff, Bool.and_eq_false_iff, decide_eq_false_iff_not,
    beq_eq_false_iff_ne]
  omega

theorem lowerChars_of_isIdChar {c : Char} (isChar : isIdChar c = true) :
    c ≠ 'Σ' ∧ lowerChars c = [c] := by
  have code := code_of_isIdChar isChar
  constructor
  · rintro rfl
    exact absurd isChar (by decide)
  · have small : ¬ (0x41 ≤ c.toNat && c.toNat ≤ 0x5A) = true := by
      rw [Bool.and_eq_true, decide_eq_true_eq, decide_eq_true_eq]
      omega
    have same : lowerCode c.toNat = c.toNat := by
      rw [lowerCode, if_pos (by omega), if_neg small]
    have plain : ¬ (c.toNat == 0x130) = true := by
      rw [beq_iff_eq]
      omega
    rw [lowerChars, if_neg plain, same, Char.ofNat_toNat]

/-- A key that is taken in some settings is taken alone. -/
theorem configurable_iff_exists_key {id : String} : Configurable id ↔ ∃ key, TakesKey key id := by
  constructor
  · rintro ⟨entries, settings, read, isId⟩
    rcases (mem_names_readTokenEntries read).mp isId with absent | ⟨entry, _, taken⟩
    · exact absurd absent (by simp [Keyed.names])
    · exact ⟨entry.1, taken⟩
  · rintro ⟨key, value, setting, read⟩
    exact ⟨_, _, read, by simp [Keyed.names]⟩

theorem configurable_iff {id : String} : Configurable id ↔ isRuleId id.toList = true := by
  rw [configurable_iff_exists_key]
  constructor
  · rintro ⟨key, taken⟩
    exact (takesKey_iff.mp taken).2
  · intro isId
    have solid := holds_of_isRuleId (isBlank · = false) (by decide)
      (fun _ => isBlank_of_isIdChar) isId
    have small := holds_of_isRuleId (fun c => c ≠ 'Σ' ∧ lowerChars c = [c]) (by decide)
      (fun _ => lowerChars_of_isIdChar) isId
    have same : String.ofList (lower (trim id.toList)) = id := by
      rw [lower_trim_eq_self solid small, String.ofList_toList]
    exact ⟨id, takesKey_iff.mpr ⟨same, isId⟩⟩

/-- What ends a text that can be registered is a line feed or nothing, so the text without it is
an id. -/
theorem isRegistrable_iff_configurable {id : String} :
    isRegistrable id.toList = true ↔
      Configurable id ∨ ∃ stem, Configurable stem ∧ id = stem ++ "\n" := by
  simp only [configurable_iff, isRegistrable_iff]
  constructor
  · rintro ⟨stem, _, isId, rfl | rfl, split⟩
    · rw [List.append_nil] at split
      exact .inl (split ▸ isId)
    · refine .inr ⟨String.ofList stem, by simpa using isId, String.toList_inj.mp ?_⟩
      simpa using split
  · rintro (isId | ⟨stem, isId, rfl⟩)
    · exact ⟨id.toList, [], isId, .inl rfl, by simp⟩
    · exact ⟨stem.toList, ['\n'], isId, .inr rfl, by simp⟩

theorem register_eq_ok_iff {registry : Registry} {rule : TokenRule} :
    (∃ next, registry.register rule = .ok next) ↔ isRegistrable rule.id.toList = true := by
  rw [Registry.register]
  split <;> simp_all

/-- A rule is registered if its id begins with `csf-` and has the form of the registry; a key of
the settings is taken for a rule if, without blanks around it and in lower case, it has the form of
settings. The ids that can be registered are those that can have settings, also with one line feed
at the end; the ids that can have settings are those that can be registered and do not end with a
line feed. -/
theorem register_iff_configurable (registry : Registry) (rule : TokenRule) :
    ((∃ next, registry.register rule = .ok next) ↔
        idStart.toList <+: rule.id.toList ∧ registryForm.matchesIn rule.id.toList = true) ∧
      (∀ key, TakesKey key rule.id ↔
        String.ofList (lower (trim key.toList)) = rule.id ∧
          settingForm.matchesIn rule.id.toList = true) ∧
      (Configurable rule.id ↔ ∃ key, TakesKey key rule.id) ∧
      ((∃ next, registry.register rule = .ok next) ↔
        Configurable rule.id ∨ ∃ stem, Configurable stem ∧ rule.id = stem ++ "\n") ∧
      (Configurable rule.id ↔
        (∃ next, registry.register rule = .ok next) ∧ rule.id.toList.getLast? ≠ some '\n') := by
  have noFeed : ∀ key : String, String.ofList (lower (trim key.toList)) = rule.id →
      rule.id.toList.getLast? ≠ some '\n' := by
    intro key written
    rw [← written, String.toList_ofList]
    exact getLast?_lower_trim _
  refine ⟨?_, fun key => ?_, configurable_iff_exists_key, ?_, ?_⟩
  · rw [register_eq_ok_iff, isRegistrable_iff_registryForm]
  · rw [takesKey_iff, settingForm_matchesIn_iff, and_congr_right_iff]
    intro written
    simp [isRegistrable, noFeed key written]
  · rw [register_eq_ok_iff, isRegistrable_iff_configurable]
  · rw [register_eq_ok_iff, isRegistrable_iff_configurable]
    constructor
    · intro configurable
      obtain ⟨key, taken⟩ := configurable_iff_exists_key.mp configurable
      exact ⟨.inl configurable, noFeed key (takesKey_iff.mp taken).1⟩
    · rintro ⟨configurable | ⟨stem, _, split⟩, last⟩
      · exact configurable
      · rw [split] at last
        simp at last

/-- A rule whose id ends with a line feed can be registered, and no key is taken for it. -/
theorem register_feed_not_configurable :
    (∃ next, Registry.register {} ⟨"csf-a\n", "d", fun _ => .ok []⟩ = .ok next) ∧
      ¬ Configurable "csf-a\n" := by
  refine ⟨register_eq_ok_iff.mpr (by decide), ?_⟩
  rw [configurable_iff]
  decide

end LineRules.Token
