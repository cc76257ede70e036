import Mathlib.Data.List.Basic
import LineRules.Text.Blank
import LineRules.Text.Case

/-!
# Trimmed texts in lower case

A text that is trimmed ends with no blank, and putting it into lower case makes no line feed of
anything else, so a line feed never ends the result (`getLast?_lower_trim`). A text without blanks
and without capitals stays as it is (`lower_trim_eq_self`).
-/

namespace LineRules.Text

variable {text : List Char} {c : Char}

/-! ## Trimming -/

theorem trimStart_eq_self (solid : ∀ c ∈ text, isBlank c = false) : trimStart text = text := by
  cases text with
  | nil => rfl
  | cons c rest =>
      have here : ¬ isBlank c = true := by simp [solid c (by simp)]
      rw [trimStart, List.dropWhile_cons_of_neg here]

theorem trim_eq_self (solid : ∀ c ∈ text, isBlank c = false) : trim text = text := by
  have turned : trimStart text.reverse = text.reverse :=
    trimStart_eq_self fun c isMember => solid c (List.mem_reverse.mp isMember)
  rw [trim, trimStart_eq_self solid, trimEnd]
  exact (congrArg List.reverse turned).trans (List.reverse_reverse text)

theorem isBlank_of_getLast?_trim (last : (trim text).getLast? = some c) : isBlank c = false := by
  rw [trim, trimEnd, List.getLast?_reverse] at last
  have stops := List.head?_dropWhile_not isBlank (trimStart text).reverse
  rw [last] at stops
  simpa using stops

/-! ## Lower case -/

private theorem lowerRuns_above : (lowerRuns.all fun run => 0x0A < run.image) = true := by
  decide +kernel

/-- Only a line feed has the lower-case form of one. -/
theorem lowerCode_eq_feed {code : Nat} (feed : lowerCode code = 0x0A) : code = 0x0A := by
  rw [lowerCode] at feed
  split at feed
  case isTrue => split at feed <;> simp_all
  case isFalse =>
    cases search : lowerRuns.findSome? (·.shift? code) with
    | none => simpa [search] using feed
    | some image =>
        obtain rfl : image = 0x0A := by simpa [search] using feed
        obtain ⟨run, isRun, isImage⟩ := List.exists_of_findSome?_eq_some search
        have above : 0x0A < run.image := by
          simpa using List.all_eq_true.mp lowerRuns_above run isRun
        rw [CaseRun.shift?] at isImage
        split at isImage
        · have same := Option.some.inj isImage
          omega
        · contradiction

/-- A code point that is not valid gives the null character. -/
private theorem code_of_ofNat {code : Nat} (isChar : Char.ofNat code = c) (proper : c ≠ '\x00') :
    code = c.toNat := by
  by_cases valid : code.isValidChar
  · have same : Char.ofNat code = Char.ofNatAux code valid := dif_pos valid
    exact congrArg Char.toNat (same.symm.trans isChar)
  · have null : Char.ofNat code = '\x00' := dif_neg valid
    exact absurd (isChar.symm.trans null) proper

theorem eq_feed_of_mem_lowerChars (isMember : '\n' ∈ lowerChars c) : c = '\n' := by
  rw [lowerChars] at isMember
  split at isMember
  · exact absurd isMember (by decide)
  · have same := code_of_ofNat (List.mem_singleton.mp isMember).symm (by decide)
    exact Char.toNat_inj.mp (lowerCode_eq_feed same)

theorem lowerSigma_ne_feed (before after : List Char) : lowerSigma before after ≠ '\n' := by
  rw [lowerSigma]
  split <;> decide

theorem lowerFrom_ne_nil {before : List Char} (nonempty : text ≠ []) :
    lowerFrom before text ≠ [] := by
  obtain ⟨c, rest, rfl⟩ := List.exists_cons_of_ne_nil nonempty
  rw [lowerFrom, lowerChars]
  split
  · simp
  · split <;> simp

/-- A text in lower case ends with a line feed only if the text does. -/
theorem getLast?_of_getLast?_lowerFrom {before : List Char}
    (last : (lowerFrom before text).getLast? = some '\n') : text.getLast? = some '\n' := by
  induction text generalizing before with
  | nil => simp [lowerFrom] at last
  | cons c rest hyp =>
      rw [lowerFrom] at last
      by_cases isLast : rest = []
      · subst isLast
        rw [lowerFrom, List.append_nil] at last
        have isMember := List.mem_of_getLast? last
        split at isMember
        · exact absurd (List.mem_singleton.mp isMember).symm (lowerSigma_ne_feed _ _)
        · rw [eq_feed_of_mem_lowerChars isMember]
          rfl
      · rw [List.getLast?_append_of_ne_nil _ (lowerFrom_ne_nil isLast)] at last
        rw [List.getLast?_cons_of_ne_nil isLast]
        exact hyp last

theorem lowerFrom_eq_self {before : List Char}
    (small : ∀ c ∈ text, c ≠ 'Σ' ∧ lowerChars c = [c]) : lowerFrom before text = text := by
  induction text generalizing before with
  | nil => rfl
  | cons c rest hyp =>
      obtain ⟨⟨other, same⟩, others⟩ := List.forall_mem_cons.mp small
      rw [lowerFrom, if_neg other, same, hyp others]
      rfl

/-! ## Both -/

/-- No line feed ends a text that was trimmed and put into lower case. -/
theorem getLast?_lower_trim (text : List Char) : (lower (trim text)).getLast? ≠ some '\n' := by
  intro last
  have feed := isBlank_of_getLast?_trim (getLast?_of_getLast?_lowerFrom last)
  exact absurd feed (by decide)

theorem lower_trim_eq_self (solid : ∀ c ∈ text, isBlank c = false)
    (small : ∀ c ∈ text, c ≠ 'Σ' ∧ lowerChars c = [c]) : lower (trim text) = text := by
  rw [trim_eq_self solid, lower, lowerFrom_eq_self small]

end LineRules.Text
