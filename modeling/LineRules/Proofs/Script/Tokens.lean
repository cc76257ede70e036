import LineRules.Proofs.Script.Lines
import LineRules.Proofs.Text.Tokens

/-!
# Scripts keep their tokens

All that the rules for scripts change is blanks at the end of lines and in gaps, so a
formatted script has the same tokens as the given one: `format_script_keeps_tokens`.
-/

namespace LineRules.Builtin

open LineRules.Text LineRules.Format

variable {text : List Char}

theorem sameTokens_trimEnd (text : List Char) : SameTokens text (trimEnd text) := by
  obtain ⟨gaps, split, allGaps⟩ := @exists_gaps_trimEnd text
  have same := @SameTokens.append_blanks (trimEnd text) gaps
    fun c inGaps => isBlank_of_isGap (allGaps c inGaps)
  rwa [← split] at same

theorem sameTokens_fix (text : List Char) : SameTokens text (Steps.fix scriptFixSteps text) :=
  scriptFixSteps_induction (SameTokens.refl text) fun _ _ _ _ edited same =>
    same.trans (Gap.sameTokens_of_edited edited)

/-- A line of a script keeps its tokens. -/
theorem sameTokens_settledLine (customIgnore : Option Pattern) (text : List Char) :
    SameTokens text (settledLine scriptTable scriptFixSteps customIgnore text) := by
  rw [settledLine]
  split
  · exact .refl text
  · split
    · exact (sameTokens_trimEnd text).trans (sameTokens_fix _)
    · exact sameTokens_trimEnd text

/-- Formatting a script changes nothing but blanks, and neither joins nor parts words. It
always gets to a text; after that the token rules add what they find in it. -/
theorem format_script_keeps_tokens (customIgnore : Option Pattern) (linter : Option Linter)
    (path : Path) (text : String) :
    let formatter : Formatter := { language := .javaScript, store, customIgnore, linter }
    ∃ (updated : String) (found : List Violation),
      ((formatter.format path text).outcome = (formatter.lint path updated).outcome.map
        fun linted => ⟨text, updated, found ++ linted⟩) ∧
      (linter = none → (formatter.lint path updated).outcome = .ok []) ∧
      inked updated.toList = inked text.toList ∧
      wordRuns updated.toList = wordRuns text.toList := by
  intro formatter
  have cut := isCut_linesOf text.toList
  have formatted := @format_alike_lint _ formatter (fun _ => rfl)
    ⟨whitespaceTable_provided, scriptTable_provided⟩ path text
  simp only [runLines_fst scriptTable_settlesLine fun _ => cut.oneLine] at formatted
  have same := @IsCut.sameTokens _ cut (settled scriptTable scriptFixSteps customIgnore)
    (fun _ => rfl) fun line _ => sameTokens_settledLine customIgnore line.content
  rw [flatMap_chars_linesOf] at same
  refine ⟨_, _, formatted, ?_, ?_, ?_⟩
  · rintro rfl
    rfl
  · simpa using same.inked
  · simpa using same.wordRuns

end LineRules.Builtin
