import LineRules.Proofs.Builtin.Settling

/-!
# Changes that show in messages

A rule-set tells its changes if no rule changes a line without a message and no rule
undoes what another one has done (`TellsChanges`). Then a line comes out as it was exactly
if nothing was reported of it that has a remedy (`runAll_same_iff`). With that goes which
lines come out empty (`settledLine_eq_nil_iff`).
-/

namespace LineRules

/-- Steps that act on no line without a message leave a line alone if they have none. -/
theorem Steps.run_fst_of_silent {place : LinePlace} {name : String} {steps : Steps}
    {text : List Char}
    (worded : ∀ step ∈ steps, ∀ number text, step.2.fires text = true →
      (step.2.message number text).isTruthy = true)
    (silent : (steps.run place name text).2 = []) : (steps.run place name text).1 = text := by
  induction steps with
  | nil => rfl
  | cons step steps hyp =>
      rw [run] at silent ⊢
      split
      case isTrue acts =>
        have fires : step.2.fires text = true := (Bool.and_eq_true_iff.mp acts).2
        have truthy := worded step List.mem_cons_self place.number text fires
        simp [acts, LineStep.entries, truthy] at silent
      case isFalse quiet =>
        rw [if_neg quiet] at silent
        exact hyp (fun other isOther => worded other (List.mem_cons_of_mem _ isOther)) silent

namespace Builtin

open LineRules.Text LineRules.Pattern

/-! ## Messages that are never empty -/

/-- A rule whose messages are made from a template that begins with a word. -/
def NamesLine (step : LineStep) : Prop :=
  ∃ template, (messagePieces template.toList).head? = some (.literal ['L']) ∧
    ∀ number text, step.message number text = lineMessage template number

theorem NamesLine.isTruthy_message {step : LineStep} (names : NamesLine step) (number : Int)
    (text : List Char) : (step.message number text).isTruthy = true := by
  obtain ⟨template, first, isMessage⟩ := names
  obtain ⟨pieces, split⟩ := List.head?_eq_some_iff.mp first
  rw [isMessage, lineMessage, split]
  simp [Value.isTruthy, MessagePiece.numbered]

/-! ## One rule-set -/

/-- A rule-set whose changes show in its messages. -/
structure TellsChanges (table : LineTable) (fixes reports : Steps) : Prop
    extends InTurn table fixes reports where
  /-- A rule has a message for every line that it changes. -/
  worded : ∀ step ∈ fixes, ∀ number text, step.2.fires text = true →
    (step.2.message number text).isTruthy = true
  /-- No rule undoes what another one has done. -/
  unchanged {text : List Char} : OneLine text → Steps.fix fixes text = text →
    ∀ step ∈ fixes, step.2.fires text = false

section OneTable

variable {table : LineTable} {fixes reports : Steps} {place : LinePlace} {text : List Char}
  {keeps : LogEntry → Bool}

theorem TellsChanges.run_same_iff (tells : TellsChanges table fixes reports)
    (oneLine : OneLine text) (fixesTell : Tells keeps table.name fixes false)
    (reportsTell : Tells keeps table.name reports true) :
    (table.run place text).1 = text ↔ ∀ entry ∈ (table.run place text).2, keeps entry = true := by
  cases works : table.admits place.customIgnore text with
  | false => simp [LineTable.run, works]
  | true =>
      rw [tells.run_eq works, List.forall_mem_append]
      constructor
      · intro same
        rw [Steps.run_quiet (tells.unchanged oneLine same)]
        refine ⟨by simp, fun entry isEntry => ?_⟩
        obtain ⟨named, isRule⟩ := Steps.mem_run isEntry
        exact reportsTell entry named isRule
      · rintro ⟨kept, _⟩
        have silent : (fixes.run place table.name text).2 = [] := by
          refine List.eq_nil_iff_forall_not_mem.mpr fun entry isEntry => ?_
          obtain ⟨named, isRule⟩ := Steps.mem_run isEntry
          have dropped := fixesTell entry named isRule
          rw [kept entry isEntry] at dropped
          contradiction
        rw [← tells.fix_run_fst]
        exact Steps.run_fst_of_silent tells.worded silent

theorem whitespaceTable_tells :
    TellsChanges whitespaceTable whitespaceFixes whitespaceReports where
  toInTurn := whitespaceTable_settles.inTurn
  worded step isStep number text _ := by
    obtain rfl := List.mem_singleton.mp isStep
    exact NamesLine.isTruthy_message ⟨_, by decide, fun _ _ => rfl⟩ number text
  unchanged {text} oneLine same := by
    rw [whitespaceFixes_fix oneLine] at same
    have trimmed := @getLast?_trimEnd text
    rw [same] at trimmed
    exact whitespaceFixes_quiet oneLine trimmed

end OneTable

/-! ## A line under both rule-sets -/

/-- A rule-set that tells its changes, never brings in blanks at the end of a line nor line
breaks, and leaves something of every line. -/
structure TellsLine (table : LineTable) (fixes reports : Steps) : Prop
    extends TellsChanges table fixes reports where
  oneLine {text : List Char} : OneLine text → OneLine (Steps.fix fixes text)
  untrimmed {text : List Char} : OneLine text → Steps.fix fixes (trimEnd text) = text →
    trimEnd text = text
  empty {text : List Char} : OneLine text → (Steps.fix fixes text = [] ↔ text = [])

/-- What settles lines in one run tells its changes, if it has messages and leaves
something of every line. -/
theorem SettlesLine.tells {table : LineTable} {fixes reports : Steps}
    (settles : SettlesLine table fixes reports) (named : ∀ step ∈ fixes, NamesLine step.2)
    (nonempty : ∀ {text : List Char}, OneLine text → Steps.fix fixes text = [] → text = []) :
    TellsLine table fixes reports where
  toInTurn := settles.inTurn
  worded step isStep number text _ := (named step isStep).isTruthy_message number text
  unchanged {text} oneLine same := by
    have quiet := settles.quiet oneLine
    rwa [same] at quiet
  oneLine := settles.oneLine
  untrimmed {text} oneLine same := by
    have trimmed := settles.trimmed (oneLine_trimEnd oneLine) getLast?_trimEnd
    rw [same] at trimmed
    exact trimEnd_eq_self trimmed
  empty {text} oneLine := by
    refine ⟨nonempty oneLine, ?_⟩
    rintro rfl
    exact settles.inTurn.fix_of_quiet fun step isStep =>
      settles.empty step (List.mem_append_left _ isStep)

/-- The same rules under another name tell the same. -/
theorem TellsLine.rename {table : LineTable} {fixes reports : Steps}
    (tells : TellsLine table fixes reports) (name : String) :
    TellsLine { table with name := name } fixes reports :=
  ⟨⟨⟨tells.split, tells.reporting, tells.still, tells.always⟩, tells.worded, tells.unchanged⟩,
    tells.oneLine, tells.untrimmed, tells.empty⟩

/-- Whether nothing is left of a line: it is empty, or it has only spaces and tabs and is
not left alone on request. -/
def isEmptied (customIgnore : Option Pattern) (text : List Char) : Bool :=
  text.all isGap && (text.isEmpty || !isClosed customIgnore text)

section TwoTables

variable {table : LineTable} {fixes reports : Steps} {place : LinePlace}
  {customIgnore : Option Pattern} {text : List Char} {keeps : LogEntry → Bool}

/-- A line comes out of both rule-sets as it was exactly if nothing is reported of it that
has a remedy. -/
theorem runAll_same_iff (tells : TellsLine table fixes reports) (oneLine : OneLine text)
    (keepsReports : KeepsReports keeps table fixes reports) :
    settledLine table fixes place.customIgnore text = text ↔
      ∀ entry ∈ (LineTable.runAll place [whitespaceTable, table] text).2, keeps entry = true := by
  have first := @TellsChanges.run_same_iff _ _ _ place _ _ whitespaceTable_tells oneLine
    keepsReports.trailing keepsReports.indentation
  have firstLine : OneLine (whitespaceTable.run place text).1 := by
    cases closed : isClosed place.customIgnore text with
    | true => rwa [run_of_isClosed closed]
    | false =>
        rw [whitespaceTable_run oneLine closed]
        exact oneLine_trimEnd oneLine
  have second := @TellsChanges.run_same_iff _ _ _ place _ _ tells.toTellsChanges firstLine
    keepsReports.fixes keepsReports.reports
  have apart : (LineTable.runAll place [whitespaceTable, table] text).1 = text →
      (whitespaceTable.run place text).1 = text := by
    intro same
    cases closed : isClosed place.customIgnore text with
    | true => rw [run_of_isClosed closed]
    | false =>
        rw [runAll_fst tells.toInTurn oneLine, settledLine, closed] at same
        rw [whitespaceTable_run oneLine closed]
        simp only [Bool.false_eq_true, if_false] at same ⊢
        split at same
        · exact tells.untrimmed oneLine same
        · exact same
  rw [← runAll_fst tells.toInTurn oneLine, runAll_two, List.forall_mem_append, ← first, ← second]
  rw [runAll_two] at apart
  constructor
  · intro same
    exact ⟨apart same, same.trans (apart same).symm⟩
  · rintro ⟨same, sameAgain⟩
    exact sameAgain.trans same

/-- Nothing is left of just the lines that are empty or blank. -/
theorem settledLine_eq_nil_iff (tells : TellsLine table fixes reports) (oneLine : OneLine text) :
    settledLine table fixes customIgnore text = [] ↔ isEmptied customIgnore text = true := by
  rw [settledLine, isEmptied]
  cases closed : isClosed customIgnore text with
  | true =>
      cases text <;> simp
  | false =>
      have blank : trimEnd text = [] ↔ text.all isGap = true := by
        rw [trimEnd_eq_nil_iff, List.all_eq_true]
      simp only [Bool.false_eq_true, if_false, Bool.not_false, Bool.or_true, Bool.and_true, ← blank]
      split
      · exact tells.empty (oneLine_trimEnd oneLine)
      · rfl

end TwoTables

end Builtin

end LineRules
