import LineRules.Proofs.Builtin.Settling
import LineRules.Proofs.Format.Lines

/-!
# Formatting a formatted file

If the rule-sets of a language settle every line in one run, then formatting settles
every file in one run: what comes out is formatted to itself. The lines may be cut
differently the second time, since a line that has become empty can lose its ending to
the line before it; only the contents of lines matter for that. What the second run
reports is compared with the first one where lines stay as they are
(`format_settled`).
-/

namespace LineRules

/-- Whether an id is that of a rule that replaces text. -/
def Store.replaces (store : Store) (ruleId : String) : Bool :=
  match store.root.entryAt? ruleId with
  | some (.rule rule) => rule.replacer.isSome
  | _ => false

end LineRules

namespace LineRules.Format

open LineRules.Text LineRules.Builtin

variable {table : LineTable} {fixes reports : Steps} {executable : Bool}
  {customIgnore : Option Pattern} {number : Nat} {lines : List Line}

/-- Lines under the rule-sets of one language. -/
def plannedAlike (table : LineTable) (lines : List Line) : List Planned :=
  lines.map fun line => (line, [whitespaceTable, table])

/-- What becomes of a line with its ending. -/
def settled (table : LineTable) (fixes : Steps) (customIgnore : Option Pattern) (line : Line) :
    Line :=
  ⟨settledLine table fixes customIgnore line.content, line.ending⟩

theorem runLines_fst (settles : SettlesLine table fixes reports)
    (oneLine : ∀ line ∈ lines, OneLine line.content) :
    (runLines executable customIgnore number (plannedAlike table lines)).1 =
      lines.map (settled table fixes customIgnore) := by
  refine runLines_map_fst (fun line isLine _ => ?_) number
  rw [runPlanned, runAll_fst settles.inTurn (oneLine line isLine)]
  rfl

/-- The messages of the second run are those of the first one that had no remedy. -/
theorem runLines_snd (settles : SettlesLine table fixes reports) (cut : IsCut lines)
    {executableLater : Bool} (same : reports ≠ [] → executableLater = executable)
    {keeps : LogEntry → Bool} (keepsReports : KeepsReports keeps table fixes reports) :
    (runLines executableLater none number
        (plannedAlike table ((lines.map (settled table fixes none)).filter (· ≠ ⟨[], []⟩)))).2 =
      (runLines executable none number (plannedAlike table lines)).2.filter keeps := by
  have line : ∀ {number : Nat} {content : List Char}, OneLine content →
      (LineTable.runAll ⟨number, executableLater, none⟩ [whitespaceTable, table]
          (settledLine table fixes none content)).2 =
        (LineTable.runAll ⟨number, executable, none⟩ [whitespaceTable, table] content).2.filter
          keeps := by
    intro number content oneLine
    refine runAll_snd settles oneLine ?_ same ?_ ?_ keepsReports
    · rfl
    · rfl
    · rfl
  induction cut generalizing number with
  | nil => rfl
  | @last content oneLine =>
      have here := @line number content oneLine
      simp only [plannedAlike, runLines, runPlanned, List.map_cons, List.map_nil, List.append_nil,
        settled, ← here]
      by_cases empty : settledLine table fixes none content = []
      · rw [empty, runAll_empty settles]
        rfl
      · simp [empty, runLines, runPlanned]
  | @cons content ending lines oneLine isEnding _ hyp =>
      have here := @line number content oneLine
      have nonempty : ending ≠ [] := by
        rintro rfl
        simp [lineEndings] at isEnding
      have rest := @hyp (number + 1)
      simp only [plannedAlike, List.map_cons, runLines, runPlanned, List.filter_append, ← here]
        at rest ⊢
      rw [← rest, List.filter_cons_of_pos (by simp [settled, nonempty])]
      rfl

/-- A condition on ids of rules is one on messages. -/
theorem keepsReports_of_ruleIds (keeps : String → Bool) (path : Path)
    (trailing : ∀ step ∈ whitespaceFixes, keeps ("common" ++ "." ++ step.1) = false)
    (indentation : ∀ step ∈ whitespaceReports, keeps ("common" ++ "." ++ step.1) = true)
    (change : ∀ step ∈ fixes, keeps (table.name ++ "." ++ step.1) = false)
    (report : ∀ step ∈ reports, keeps (table.name ++ "." ++ step.1) = true) :
    KeepsReports (fun entry => keeps (violationOf path entry).ruleId) table fixes reports := by
  have tells : ∀ {name : String} {steps : Steps} {verdict : Bool},
      (∀ step ∈ steps, keeps (name ++ "." ++ step.1) = verdict) →
      Tells (fun entry => keeps (violationOf path entry).ruleId) name steps verdict := by
    rintro name steps verdict each entry named ⟨step, isStep, isRule⟩
    simpa [violationOf, named, isRule] using each step isStep
  exact ⟨tells trailing, tells indentation, tells change, tells report⟩

/-! ## The file as a whole -/

private theorem isExecutable_append {content rest : List Char}
    (apart : ∀ c ∈ rest.head?, c ≠ '#' ∧ c ≠ '!') :
    isExecutable (content ++ rest) = isExecutable content := by
  rw [Bool.eq_iff_iff, isExecutable_iff, isExecutable_iff]
  match content with
  | [] =>
      cases rest with
      | nil => simp
      | cons c rest => simp [(apart c rfl).1]
  | [c] =>
      cases rest with
      | nil => simp
      | cons d rest => simp [(apart d rfl).2]
  | c :: d :: content => simp

/-- Whether the file is an executable script shows in its first line. -/
theorem isExecutable_flatMap_chars (cut : IsCut lines) :
    isExecutable (lines.flatMap Line.chars) =
      (lines.head?.any fun line => isExecutable line.content) := by
  cases cut with
  | nil => rfl
  | last => simp [Line.chars]
  | cons _ isEnding =>
      simp only [List.flatMap_cons, Line.chars, List.head?_cons, Option.any_some, List.append_assoc]
      refine isExecutable_append ?_
      simp only [lineEndings, List.mem_cons, List.not_mem_nil, or_false] at isEnding
      rcases isEnding with rfl | rfl | rfl
      · rintro c ⟨⟩
        decide
      · rintro c ⟨⟩
        decide
      · rintro c ⟨⟩
        decide

/-- What formatting a file under the rule-sets of one language gives, up to what the token
rules add. -/
theorem format_alike_lint {formatter : Formatter}
    (planned : ∀ contents, Format.plan formatter.language contents =
      .ok (contents.map fun _ => ["common", table.name]))
    (provides : formatter.store.Provides whitespaceTable ∧ formatter.store.Provides table)
    (path : Path) (text : String) :
    let out := runLines (isExecutable text.toList) formatter.customIgnore 1
      (plannedAlike table (linesOf text.toList))
    let updated := String.ofList (out.1.flatMap Line.chars)
    (formatter.format path text).outcome = (formatter.lint path updated).outcome.map
      fun linted => ⟨text, updated, out.2.map (violationOf path) ++ linted⟩ := by
  refine Formatter.format_outcome_lint path ?_ ?_ ?_
  · simp [plannedAlike, List.map_map, Function.comp_def]
  · rw [planned]
    simp [plannedAlike, List.map_map, Function.comp_def, whitespaceTable]
  · intro other isOther here isTable
    obtain ⟨line, _, rfl⟩ := List.mem_map.mp isOther
    rcases List.mem_pair.mp isTable with rfl | rfl
    · exact provides.1
    · exact provides.2

/-- What formatting a file under the rule-sets of one language gives without token rules. -/
theorem format_alike {formatter : Formatter} {path : Path}
    (noTokens : ∀ text, (formatter.lint path text).outcome = .ok [])
    (planned : ∀ contents, Format.plan formatter.language contents =
      .ok (contents.map fun _ => ["common", table.name]))
    (provides : formatter.store.Provides whitespaceTable ∧ formatter.store.Provides table)
    (text : String) :
    let out := runLines (isExecutable text.toList) formatter.customIgnore 1
      (plannedAlike table (linesOf text.toList))
    (formatter.format path text).outcome =
      .ok ⟨text, String.ofList (out.1.flatMap Line.chars), out.2.map (violationOf path)⟩ := by
  intro out
  rw [format_alike_lint planned provides path text, noTokens]
  simp [Except.map, out]

section Settled

variable {text : List Char}

theorem isCut_settled (settles : SettlesLine table fixes reports) (cut : IsCut lines) :
    IsCut (lines.map (settled table fixes customIgnore)) :=
  cut.map (fun _ => rfl) fun _ isLine => oneLine_settledLine settles.oneLine (cut.oneLine isLine)

/-- However the changed lines are cut again, every line is settled by then: no content is
new. -/
theorem map_settled_linesOf (settles : SettlesLine table fixes reports) (cut : IsCut lines) :
    let again := linesOf ((lines.map (settled table fixes customIgnore)).flatMap Line.chars)
    again.map (settled table fixes customIgnore) = again := by
  intro again
  rw [List.map_congr_left, List.map_id]
  intro line isLine
  obtain ⟨other, isOther, same⟩ := (isCut_settled settles cut).exists_of_mem_linesOf isLine
  obtain ⟨given, isGiven, rfl⟩ := List.mem_map.mp isOther
  have content : settledLine table fixes customIgnore line.content = line.content := by
    rw [same]
    exact settledLine_settledLine settles (cut.oneLine isGiven)
  rw [settled, content]
  rfl

theorem isExecutable_settled (settles : SettlesLine table fixes reports) (reporting : reports ≠ [])
    (cut : IsCut lines) :
    isExecutable ((lines.map (settled table fixes customIgnore)).flatMap Line.chars) =
      isExecutable (lines.flatMap Line.chars) := by
  rw [isExecutable_flatMap_chars (isCut_settled settles cut), isExecutable_flatMap_chars cut]
  cases lines with
  | nil => rfl
  | cons line others =>
      have here : OneLine line.content := cut.oneLine (by simp)
      simp [settled, isExecutable_settledLine settles reporting here]

end Settled

/-- Formatting reaches its fixed point in one run. A second run reports what the first one
reported of rules that replace nothing, where every carriage return belongs to a line
feed and no line is left alone on request. -/
theorem format_settled {formatter : Formatter} {path : Path}
    (noTokens : ∀ text, (formatter.lint path text).outcome = .ok [])
    (planned : ∀ contents, Format.plan formatter.language contents =
      .ok (contents.map fun _ => ["common", table.name]))
    (provides : formatter.store.Provides whitespaceTable ∧ formatter.store.Provides table)
    (settles : SettlesLine table fixes reports) (text : String) :
    ∃ first second : Formatted, (formatter.format path text).outcome = .ok first ∧
      (formatter.format path first.updated).outcome = .ok second ∧
      second.updated = first.updated ∧
      (formatter.customIgnore = none → ReturnsPaired text.toList → ∀ keeps : String → Bool,
        KeepsReports (fun entry => keeps (violationOf path entry).ruleId) table fixes reports →
        second.violations = first.violations.filter fun violation => keeps violation.ruleId) := by
  have cut := isCut_linesOf text.toList
  let fixed := (linesOf text.toList).map (settled table fixes formatter.customIgnore)
  have cutFixed : IsCut fixed := isCut_settled settles cut
  have first := format_alike noTokens planned provides text
  simp only [runLines_fst settles fun _ => cut.oneLine] at first
  have second := format_alike noTokens planned provides
    (String.ofList (fixed.flatMap Line.chars))
  have cutAgain := isCut_linesOf (fixed.flatMap Line.chars)
  simp only [String.toList_ofList] at second
  rw [runLines_fst settles fun _ => cutAgain.oneLine, map_settled_linesOf settles cut,
    flatMap_chars_linesOf] at second
  refine ⟨_, _, first, second, rfl, ?_⟩
  intro noCustom paired keeps keepsReports
  have asCut : linesOf (fixed.flatMap Line.chars) = fixed.filter (· ≠ ⟨[], []⟩) := by
    refine cutFixed.linesOf_flatMap_chars ?_
    intro line isLine
    obtain ⟨given, isGiven, rfl⟩ := List.mem_map.mp isLine
    exact paired.ending_ne given isGiven
  have sameScript : reports ≠ [] → isExecutable (fixed.flatMap Line.chars) =
      isExecutable text.toList := by
    intro reporting
    rw [isExecutable_settled settles reporting cut, flatMap_chars_linesOf]
  have reported := @runLines_snd _ _ _ _ 1 _ settles cut _ sameScript _ keepsReports
  simp only [asCut, List.filter_map]
  simp only [fixed, noCustom] at reported ⊢
  rw [reported]
  rfl

end LineRules.Format
