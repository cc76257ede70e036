import LineRules.Proofs.Format.FixedPoint
import LineRules.Proofs.StyleSheet.Hex
import LineRules.Proofs.StyleSheet.Lengths

/-!
# Style sheets after formatting

The rules for style sheets settle every line in one run (`styleTable_settlesLine`): each
sets right all that it finds and keeps what the rules before it have set right. The main
statement is `format_style_settled`.
-/

namespace LineRules.Builtin

open LineRules.Text LineRules.Pattern LineRules.Format

variable {before after out text : List Char}

/-! ## How lines begin and end -/

/-- Swaps that keep the blanks at the start of a line, the end of the line, and that it is
one line. -/
structure LineEdit (edit : Swap) : Prop extends ValueEdit edit where
  solid {before piece after new : List Char} : edit before piece after new →
    ∀ c ∈ new.head?, isBlank c = false
  oneLine {before piece after new : List Char} : edit before piece after new → OneLine new
  trimmed {before piece new : List Char} : edit before piece [] new → Trimmed new

namespace LineEdit

variable {edit : Swap}

/-- Swaps that write no blanks. -/
theorem of_solid (isEdit : ValueEdit edit) (solid : ∀ {before piece after new : List Char},
    edit before piece after new → ∀ c ∈ new, isBlank c = false) : LineEdit edit where
  toValueEdit := isEdit
  solid swapped c isHead := solid swapped c (List.mem_of_mem_head? isHead)
  oneLine swapped := by
    constructor
    · exact fun isMember => absurd (solid swapped _ isMember) (by decide)
    · exact fun isMember => absurd (solid swapped _ isMember) (by decide)
  trimmed swapped c isLast := by
    have noBlank := solid swapped c (List.mem_of_getLast? isLast)
    cases gap : isGap c with
    | false => rfl
    | true =>
        rw [isBlank_of_isGap gap] at noBlank
        contradiction

theorem takeWhile_isBlank_of_edited (isEdit : LineEdit edit) (edited : Edited edit before after out) :
    out.takeWhile isBlank = after.takeWhile isBlank := by
  induction edited with
  | done => rfl
  | keep _ _ hyp => rw [List.takeWhile_cons, List.takeWhile_cons, hyp]
  | swap swapped _ _ =>
      obtain ⟨c, rest, others, rfl, rfl, _⟩ := isEdit.first swapped
      simp [isEdit.solid swapped c rfl]

theorem oneLine_of_edited (isEdit : LineEdit edit) (edited : Edited edit before after out)
    (oneLine : OneLine after) : OneLine out := by
  induction edited with
  | done => exact oneLine
  | keep _ _ hyp =>
      simp only [OneLine, List.mem_cons, not_or] at oneLine ⊢
      obtain ⟨noFeed, noReturn⟩ := hyp ⟨oneLine.1.2, oneLine.2.2⟩
      exact ⟨⟨oneLine.1.1, noFeed⟩, oneLine.2.1, noReturn⟩
  | swap swapped _ hyp =>
      obtain ⟨newFeed, newReturn⟩ := isEdit.oneLine swapped
      simp only [OneLine, List.mem_append, not_or] at oneLine ⊢
      obtain ⟨noFeed, noReturn⟩ := hyp ⟨oneLine.1.2, oneLine.2.2⟩
      exact ⟨⟨newFeed, noFeed⟩, newReturn, noReturn⟩

theorem trimmed_of_edited (isEdit : LineEdit edit) (edited : Edited edit before after out)
    (trimmed : Trimmed after) : Trimmed out := by
  -- A text and its edited form are empty at the same time.
  have empty : ∀ {before after out : List Char}, Edited edit before after out → out = [] →
      after = [] := by
    rintro before after _ edited rfl
    exact List.head?_eq_none_iff.mp (isEdit.head?_of_edited edited).symm
  induction edited with
  | done => exact trimmed
  | @keep before after out c _ rest hyp =>
      intro d isLast
      rw [List.getLast?_cons] at isLast
      cases ends : out.getLast? with
      | none =>
          have none : after.getLast? = Option.none := by
            rw [empty rest (List.getLast?_eq_none_iff.mp ends)]
            rfl
          exact trimmed d (by rwa [List.getLast?_cons, none, ← ends])
      | some e =>
          obtain rfl : e = d := by simpa [ends] using isLast
          refine hyp (fun f isEnd => trimmed f ?_) e ends
          rw [List.getLast?_cons, Option.mem_def.mp isEnd]
          rfl
  | @swap before piece after new out swapped rest hyp =>
      intro d isLast
      rw [List.getLast?_append] at isLast
      cases ends : out.getLast? with
      | none =>
          obtain rfl := empty rest (List.getLast?_eq_none_iff.mp ends)
          exact isEdit.trimmed swapped d (by simpa [ends] using isLast)
      | some e =>
          obtain rfl : e = d := by simpa [ends] using isLast
          refine hyp (fun f isEnd => trimmed f ?_) e ends
          rw [List.getLast?_append, Option.mem_def.mp isEnd]
          rfl

end LineEdit

theorem HexRule.lineEdit (rule : HexRule) : LineEdit rule.swap := by
  refine .of_solid rule.valueEdit ?_
  rintro _ _ _ _ ⟨word, _, rfl, shape, _⟩ c isMember
  rcases List.mem_cons.mp isMember with rfl | inWord
  · decide
  · exact isBlank_of_isWord (isWord_of_isHexDigit ((rule.write_digits shape).2 c inWord))

theorem colonSwap_lineEdit : LineEdit colonSwap where
  toValueEdit := colonSwap_valueEdit
  solid := colonSwap_colonEdit.solid
  oneLine := by
    rintro _ _ _ _ ⟨_, rfl, _⟩
    exact ⟨by decide, by decide⟩
  trimmed := by
    rintro _ _ _ ⟨_, _, _, _, closes⟩
    exact closes.elim

theorem zeroSwap_lineEdit : LineEdit zeroSwap :=
  .of_solid zeroSwap_valueEdit fun swapped c inNew =>
    isBlank_of_isWord (zeroSwap_isWord swapped c (.inr inNew))

/-! ## Rules as steps -/

/-- The step of a rule for the values of declarations. -/
def valueStep (pattern : Pattern) (replacement : Match → List Char) (template : String) :
    LineStep where
  fires text := (declaration.findAll text).any fun found => pattern.matchesIn (found.group 2)
  change := mapDeclarationValues (pattern.replaceBy replacement)
  message number _ := lineMessage template number

/-- The step of the rule for lengths of zero. -/
def zeroStep (template : String) : LineStep where
  fires text := (zeroUnit.findAll text).any fun found =>
    !insideMathCall found.start.before.reverse
  change := zeroUnit.replaceBy zeroWritten
  message number _ := lineMessage template number

/-- The rule for the space after a colon. -/
def colonRule : Rule where
  regex := some tightColon
  message := .template "Line \x7b0\x7d: Missing space after property colon"
  replacer := some (.template "\\1: ")

theorem valueStep_does {pattern : Pattern} {replacement : Match → List Char} {template : String}
    {write : ReplaceCallback}
    (numbered : (messagePieces template.toList).all MessagePiece.isNumbered = true)
    (writes : ∀ text evidence context,
      write (.text (String.ofList text)) evidence (some pattern) context =
        .ok (.text (String.ofList (mapDeclarationValues (pattern.replaceBy replacement) text)))) :
    Rule.Does {
      regex := some pattern
      test := .callback testDeclarationValues
      message := .template template
      replacer := some (.callback write) } (valueStep pattern replacement template) := by
  refine Rule.does_of rfl ?_ ?_
  · intro context text shows
    have message : ∀ evidence, Rule.messageFor {
        regex := some pattern
        test := .callback testDeclarationValues
        message := .template template
        replacer := some (.callback write) } context.lineNumber context.item evidence context =
          .ok ((valueStep pattern replacement template).message context.lineNumber text) :=
      fun evidence => Rule.messageFor_template rfl numbered _ _ _ _
    have isFirst : ((declaration.findAll text).findSome? fun found =>
        pattern.search? (found.group 2)).isSome =
          (valueStep pattern replacement template).fires text := by
      rw [List.isSome_findSome?]
      rfl
    cases search : (declaration.findAll text).findSome? fun found =>
        pattern.search? (found.group 2) with
    | none =>
        refine ⟨.value .null, ?_, ?_, fun _ => message _⟩
        · simp [Rule.runTest, testDeclarationValues, requireOwn, shows.item, asText_ofList, search,
            bind, Except.bind, pure, Except.pure]
        · rw [← isFirst, search]
          rfl
    | some found =>
        refine ⟨.found found, ?_, ?_, fun _ => message _⟩
        · simp [Rule.runTest, testDeclarationValues, requireOwn, shows.item, asText_ofList, search,
            bind, Except.bind, pure, Except.pure]
        · rw [← isFirst, search]
          rfl
  · intro run text evidence shows
    refine Rule.runReplacer_some rfl shows ?_
    rw [Rule.replaced, shows.fullItem]
    exact writes text evidence run.context

theorem zeroStep_does {template : String}
    (numbered : (messagePieces template.toList).all MessagePiece.isNumbered = true) :
    Rule.Does {
      regex := some zeroUnit
      test := .callback testZeroUnits
      message := .template template
      replacer := some (.callback dropZeroUnits) } (zeroStep template) := by
  refine Rule.does_of rfl ?_ ?_
  · intro context text shows
    have message : ∀ evidence, Rule.messageFor {
        regex := some zeroUnit
        test := .callback testZeroUnits
        message := .template template
        replacer := some (.callback dropZeroUnits) } context.lineNumber context.item evidence
          context = .ok ((zeroStep template).message context.lineNumber text) :=
      fun evidence => Rule.messageFor_template rfl numbered _ _ _ _
    have isFirst : ((zeroUnit.findAll text).find? fun found =>
        !insideMathCall found.start.before.reverse).isSome = (zeroStep template).fires text := by
      rw [List.isSome_find?]
      rfl
    cases search : (zeroUnit.findAll text).find? fun found =>
        !insideMathCall found.start.before.reverse with
    | none =>
        refine ⟨.value .null, ?_, ?_, fun _ => message _⟩
        · simp [Rule.runTest, testZeroUnits, requireOwn, shows.item, asText_ofList, search,
            bind, Except.bind, pure, Except.pure]
        · rw [← isFirst, search]
          rfl
    | some found =>
        refine ⟨.found found, ?_, ?_, fun _ => message _⟩
        · simp [Rule.runTest, testZeroUnits, requireOwn, shows.item, asText_ofList, search,
            bind, Except.bind, pure, Except.pure]
        · rw [← isFirst, search]
          rfl
  · intro run text evidence shows
    refine Rule.runReplacer_some rfl shows ?_
    rw [Rule.replaced, shows.fullItem]
    simp only [dropZeroUnits, requireOwn, asText_ofList, bind, Except.bind, pure, Except.pure]
    rfl

theorem valueStep_still {pattern : Pattern} {replacement : Match → List Char} {template : String} :
    (valueStep pattern replacement template).Still := by
  intro text quiet
  refine replaceBy_eq_self declaration_advances ?_
  intro found isFound
  have absent : pattern.matchesIn (found.group 2) = false := by
    simpa using List.any_eq_false.mp quiet found isFound
  rw [replaceBy_of_not_matchesIn absent]
  obtain ⟨skipped, _, _, isMatch⟩ := Matcher.exists_of_mem_findAll declaration_advances isFound
  obtain ⟨head, value, rest, rfl, _, _, _, _, _, start, finish, first, second⟩ :=
    declaration_match isMatch
  rw [← List.append_assoc] at start
  rw [first, second, Match.text_of_cut start finish]

theorem zeroStep_still {template : String} : (zeroStep template).Still := by
  intro text quiet
  refine replaceBy_eq_self zeroUnit_advances ?_
  intro found isFound
  have inside : insideMathCall found.start.before.reverse = true := by
    simpa using List.any_eq_false.mp quiet found isFound
  exact if_pos inside

/-! ## All rules in turn -/

/-- A rule for style sheets: the step on a line and what it swaps there. -/
structure StyleFix where
  step : LineStep
  swap : Swap
  lineEdit : LineEdit swap
  edited {text : List Char} : OneLine text → Edited swap [] text (step.change text)
  settles {text out : List Char} : Edited swap [] text out → Free swap.Applies [] out
  quiet {text : List Char} : Free swap.Applies [] text → step.fires text = false
  still : step.Still

namespace StyleFix

/-- The rule that writes hex colours in values anew. -/
def ofHexRule {rule : HexRule} {pattern : Pattern} {replacement : Match → List Char}
    (setBy : rule.SetBy pattern replacement)
    (settles : ∀ {text out : List Char}, Edited rule.swap [] text out →
      Free rule.swap.Applies [] out) (template : String) : StyleFix where
  step := valueStep pattern replacement template
  swap := rule.swap
  lineEdit := rule.lineEdit
  edited oneLine := HexRule.SetBy.edited_mapDeclarationValues setBy oneLine.1
  settles := settles
  quiet free := by
    refine List.any_eq_false.mpr fun found isFound => ?_
    simp [Pattern.matchesIn, HexRule.SetBy.search?_eq_none setBy free isFound]
  still := valueStep_still

/-- Hex colours in upper case. -/
def upper : StyleFix :=
  ofHexRule upperRule_setBy upperRule_settles "Line \x7b0\x7d: Hex codes should be all uppercase"

/-- Hex colours of three digits. -/
def short : StyleFix :=
  ofHexRule shortRule_setBy shortRule_settles "Line \x7b0\x7d: Hex code can be shortened"

/-- The space after the colon of a property. -/
def colon : StyleFix where
  step := colonRule.patternStep
  swap := colonSwap
  lineEdit := colonSwap_lineEdit
  edited _ := edited_tightColon _
  settles := colonSwap_settles
  quiet free := tightColon_matchesIn free
  still := Rule.still_patternStep _

/-- Lengths of zero. -/
def zero : StyleFix where
  step := zeroStep "Line \x7b0\x7d: Zero values do not need units"
  swap := zeroSwap
  lineEdit := zeroSwap_lineEdit
  edited _ := edited_zeroUnit _
  settles := zeroSwap_settles
  quiet free := List.any_eq_false.mpr fun _ isFound => by simp [insideMathCall_of_free free isFound]
  still := zeroStep_still

/-- Whether what one rule has set right stays so under another one. -/
def Outlasts (fixed edit : StyleFix) : Prop :=
  ∀ {text out : List Char}, Edited edit.swap [] text out → Free fixed.swap.Applies [] text →
    Free fixed.swap.Applies [] out

end StyleFix

/-- The rules for style sheets in their order. -/
def styleFixes : List StyleFix := [.upper, .short, .colon, .zero]

/-- What a rule has set right stays so under all rules after it. -/
theorem styleFixes_pairwise : styleFixes.Pairwise StyleFix.Outlasts := by
  simp only [styleFixes, List.pairwise_cons, List.mem_cons, List.not_mem_nil, or_false,
    forall_eq_or_imp, forall_eq, false_imp_iff, implies_true, List.Pairwise.nil, and_true]
  refine ⟨⟨?_, ?_, ?_⟩, ⟨?_, ?_⟩, ?_⟩
  · exact upperRule_outlasts_shortRule
  · exact HexRule.outlasts colonSwap_valueEdit colonSwap_quiet
  · exact HexRule.outlasts zeroSwap_valueEdit zeroSwap_quiet
  · exact HexRule.outlasts colonSwap_valueEdit colonSwap_quiet
  · exact HexRule.outlasts zeroSwap_valueEdit zeroSwap_quiet
  · exact colon_outlasts zeroSwap_colonEdit

/-- The rules for style sheets as steps. -/
def styleSteps : Steps :=
  ["hex_uppercase", "hex_shorthand", "property_colon_spacing", "zero_units"].zip
    (styleFixes.map StyleFix.step)

/-- The rule-set of style sheets. -/
def styleTable : LineTable where
  name := "css"
  ignore := some styleComment
  steps := styleSteps

theorem styleTable_provided : store.Provides styleTable := by
  refine ⟨styleRules, rfl, ?_, rfl⟩
  refine .other (by simp) ?_
  refine .rule (by decide) (valueStep_does (by decide) ?_)
    (.rule (by decide) (valueStep_does (by decide) ?_)
    (.rule (by decide) (@Rule.FromPattern.does colonRule tightColon ?_)
    (.rule (by decide) (zeroStep_does (by decide)) .nil)))
  · intro text evidence context
    simp only [writeHexUpper, requireOwn, asText_ofList, bind, Except.bind, pure, Except.pure]
  · intro text evidence context
    simp only [writeHexShort, requireOwn, asText_ofList, bind, Except.bind, pure, Except.pure]
  · exact ⟨rfl, rfl, rfl, ⟨_, rfl, by decide⟩, .inr ⟨_, _, rfl, rfl⟩, rfl⟩

/-! ## Every line -/

theorem mem_styleSteps {step : String × LineStep} (isStep : step ∈ styleSteps) :
    ∃ fix ∈ styleFixes, fix.step = step.2 :=
  List.mem_map.mp (List.of_mem_zip isStep).2

theorem fix_styleSteps (text : List Char) : Steps.fix styleSteps text =
    styleFixes.foldl (fun text fix => fix.step.change text) text := by
  rw [Steps.fix_eq]
  rfl

/-- The rules one after another, each as the edit that it is. -/
theorem exists_edited_styleSteps (oneLine : OneLine text) :
    ∃ upper short colon, Edited upperRule.swap [] text upper ∧
      Edited shortRule.swap [] upper short ∧ Edited colonSwap [] short colon ∧
      Edited zeroSwap [] colon (Steps.fix styleSteps text) := by
  have upper := StyleFix.upper.edited oneLine
  have oneLine := StyleFix.upper.lineEdit.oneLine_of_edited upper oneLine
  have short := StyleFix.short.edited oneLine
  have oneLine := StyleFix.short.lineEdit.oneLine_of_edited short oneLine
  have colon := StyleFix.colon.edited oneLine
  have oneLine := StyleFix.colon.lineEdit.oneLine_of_edited colon oneLine
  rw [fix_styleSteps]
  exact ⟨_, _, _, upper, short, colon, StyleFix.zero.edited oneLine⟩

/-- What an edit of a line keeps is kept by all rules. -/
theorem styleSteps_induction {kept : List Char → Prop} (oneLine : OneLine text) (start : kept text)
    (edit : ∀ {edit text out}, LineEdit edit → Edited edit [] text out → kept text → kept out) :
    kept (Steps.fix styleSteps text) := by
  have both : OneLine (Steps.fix styleSteps text) ∧ kept (Steps.fix styleSteps text) := by
    rw [fix_styleSteps]
    refine List.foldlRecOn (motive := fun text => OneLine text ∧ kept text) styleFixes _
      ⟨oneLine, start⟩ ?_
    rintro text ⟨oneLine, done⟩ fix _
    have edited := fix.edited oneLine
    exact ⟨fix.lineEdit.oneLine_of_edited edited oneLine, edit fix.lineEdit edited done⟩
  exact both.2

theorem styleSteps_quiet (oneLine : OneLine text) :
    ∀ step ∈ styleSteps, step.2.fires (Steps.fix styleSteps text) = false := by
  have settled : ∀ fix ∈ styleFixes, Free fix.swap.Applies [] (Steps.fix styleSteps text) := by
    rw [fix_styleSteps]
    refine @settled_foldl _ OneLine (fun fix => fix.step.change)
      (fun fix => Free fix.swap.Applies []) styleFixes ?_ ?_ ?_ text oneLine
    · exact fun fix _ text oneLine => fix.lineEdit.oneLine_of_edited (fix.edited oneLine) oneLine
    · exact fun fix _ text oneLine => fix.settles (fix.edited oneLine)
    · refine styleFixes_pairwise.imp ?_
      intro fixed edit outlasts text oneLine free
      exact outlasts (edit.edited oneLine) free
  intro step isStep
  obtain ⟨fix, isFix, same⟩ := mem_styleSteps isStep
  rw [← same]
  exact fix.quiet (settled fix isFix)

/-- The rules for style sheets settle every line in one run. -/
theorem styleTable_settlesLine : SettlesLine styleTable styleSteps [] where
  split := (List.append_nil _).symm
  reporting := by simp
  still step isStep := by
    obtain ⟨fix, _, same⟩ := mem_styleSteps isStep
    rw [← same]
    exact fix.still
  always := by
    decide
  quiet := styleSteps_quiet
  oneLine oneLine := styleSteps_induction oneLine oneLine LineEdit.oneLine_of_edited
  empty := by
    decide
  trimmed oneLine trimmed := styleSteps_induction oneLine trimmed LineEdit.trimmed_of_edited
  lead {text} oneLine := by
    refine @styleSteps_induction _ (fun out => out.takeWhile isBlank = text.takeWhile isBlank)
      oneLine rfl ?_
    exact fun isEdit edited same => (isEdit.takeWhile_isBlank_of_edited edited).trans same
  ignored reporting := absurd rfl reporting
  executable reporting := absurd rfl reporting

/-- A line of a style sheet is worked on: it is left alone neither on request nor as a
comment. -/
def WorkedOn (customIgnore : Option Pattern) (text : List Char) : Prop :=
  isClosed customIgnore text = false ∧ styleTable.admits customIgnore (trimEnd text) = true

theorem settledLine_of_workedOn {customIgnore : Option Pattern} (worked : WorkedOn customIgnore text) :
    settledLine styleTable styleSteps customIgnore text = Steps.fix styleSteps (trimEnd text) := by
  simp [settledLine, worked.1, worked.2]

theorem settledLine_of_not_workedOn {customIgnore : Option Pattern}
    (idle : ¬ WorkedOn customIgnore text) :
    settledLine styleTable styleSteps customIgnore text = text ∨
      settledLine styleTable styleSteps customIgnore text = trimEnd text := by
  rw [settledLine]
  split
  · exact .inl rfl
  case isFalse notClosed =>
    split
    case isTrue admitted => exact absurd ⟨by simpa using notClosed, admitted⟩ idle
    case isFalse => exact .inr rfl

/-- Formatting a style sheet reaches its fixed point in one run, and a second run reports
the mixed indentation that the first one reported, and nothing else. -/
theorem format_style_settled (customIgnore : Option Pattern) (linter : Option Linter) (path : Path)
    (text : String) :
    let formatter : Formatter :=
      { language := .css, store := store, customIgnore := customIgnore, linter := linter }
    ∃ first second : Formatted, (formatter.format path text).outcome = .ok first ∧
      (formatter.format path first.updated).outcome = .ok second ∧
      second.updated = first.updated ∧
      (customIgnore = none → ReturnsPaired text.toList →
        second.violations = first.violations.filter fun violation =>
          violation.ruleId = "common.mixed_indentation") := by
  intro formatter
  obtain ⟨first, second, isFirst, isSecond, same, reported⟩ :=
    @format_settled _ _ _ formatter path (fun _ => rfl) (fun _ => rfl)
      ⟨whitespaceTable_provided, styleTable_provided⟩ styleTable_settlesLine text
  refine ⟨first, second, isFirst, isSecond, same, fun noCustom paired => ?_⟩
  refine reported noCustom paired (fun ruleId => ruleId = "common.mixed_indentation") ?_
  exact keepsReports_of_ruleIds (fun ruleId => ruleId = "common.mixed_indentation") path
    (by decide) (by decide) (by decide) (by simp)

end LineRules.Builtin
