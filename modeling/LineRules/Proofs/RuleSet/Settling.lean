import LineRules.Proofs.RuleSet.Tables

/-!
# Rule-sets on their own results

The rules of a rule-set that change lines come first and the ones that only report come
last. If the first leave nothing to change behind, then a second run changes nothing, and
it reports what the first one reported last.
-/

namespace LineRules

open LineRules.Pattern

namespace LineStep

/-- A rule leaves lines alone on which its test does not succeed. -/
def Still (step : LineStep) : Prop :=
  ∀ text, step.fires text = false → step.change text = text

/-- A rule that changes no line. -/
def Reports (step : LineStep) : Prop :=
  ∀ text, step.change text = text

theorem Reports.still {step : LineStep} (reports : step.Reports) : step.Still :=
  fun text _ => reports text

end LineStep

theorem Rule.still_patternStep (rule : Rule) : rule.patternStep.Still := by
  intro text quiet
  cases regex : rule.regex with
  | none => simp [patternStep, regex]
  | some pattern =>
      have absent : pattern.matchesIn text = false := by simpa [patternStep, regex] using quiet
      simp only [patternStep, regex]
      cases rule.replacer with
      | none => rfl
      | some replacer =>
          cases replacer with
          | template => exact Pattern.replaceBy_of_not_matchesIn absent
          | callback => rfl

namespace Steps

variable {place : LinePlace} {name : String} {steps fixes reports : Steps} {text : List Char}

theorem run_append (first second : Steps) :
    (first ++ second).run place name text =
      ((second.run place name (first.run place name text).1).1,
        (first.run place name text).2 ++ (second.run place name (first.run place name text).1).2) := by
  induction first generalizing text with
  | nil => rfl
  | cons step first hyp =>
      rw [List.cons_append, run, run]
      split
      · simp [hyp]
      · exact hyp

/-- Rules whose tests do not succeed neither change nor report a line. -/
theorem run_quiet (quiet : ∀ step ∈ steps, step.2.fires text = false) :
    steps.run place name text = (text, []) := by
  induction steps with
  | nil => rfl
  | cons step steps hyp =>
      have first : step.2.acts place text = false := by
        simp [LineStep.acts, quiet step (by simp)]
      rw [run, first]
      exact hyp fun other isOther => quiet other (by simp [isOther])

theorem run_reports (reports : ∀ step ∈ steps, step.2.Reports) :
    (steps.run place name text).1 = text := by
  induction steps with
  | nil => rfl
  | cons step steps hyp =>
      have rest := hyp fun other isOther => reports other (by simp [isOther])
      rw [run]
      split
      · have same : step.2.change text = text := reports step (by simp) text
        rw [same]
        exact rest
      · exact rest

/-- What becomes of a line does not depend on anything else. -/
theorem run_fst (still : ∀ step ∈ steps, step.2.Still)
    (skipped : ∀ step ∈ steps, step.2.ignoreInScripts = true → step.2.Reports) :
    (steps.run place name text).1 = steps.foldl (fun text step => step.2.change text) text := by
  induction steps generalizing text with
  | nil => rfl
  | cons step steps hyp =>
      have rest := fun text => @hyp text (fun other isOther => still other (by simp [isOther]))
        (fun other isOther => skipped other (by simp [isOther]))
      rw [run, List.foldl_cons]
      cases acts : step.2.acts place text with
      | true => exact rest _
      | false =>
          have same : step.2.change text = text := by
            rw [LineStep.acts, Bool.and_eq_false_iff] at acts
            rcases acts with skip | quiet
            · have inScripts : step.2.ignoreInScripts = true := by
                cases ignored : step.2.ignoreInScripts with
                | true => rfl
                | false => simp [ignored] at skip
              exact skipped step (by simp) inScripts text
            · exact still step (by simp) text quiet
          rw [same]
          exact rest _

/-- Rules that report two lines alike give the same messages for both. -/
theorem run_congr {later : LinePlace} {out : List Char} (number : later.number = place.number)
    (executable : ∀ step ∈ steps, step.2.ignoreInScripts = true →
      later.executable = place.executable)
    (reports : ∀ step ∈ steps, step.2.Reports)
    (fires : ∀ step ∈ steps, step.2.fires out = step.2.fires text)
    (messages : ∀ step ∈ steps, ∀ number, step.2.message number out = step.2.message number text) :
    (steps.run later name out).2 = (steps.run place name text).2 := by
  induction steps with
  | nil => rfl
  | cons step steps hyp =>
      have rest := hyp (fun other isOther => executable other (by simp [isOther]))
        (fun other isOther => reports other (by simp [isOther]))
        (fun other isOther => fires other (by simp [isOther]))
        (fun other isOther => messages other (by simp [isOther]))
      have report : step.2.Reports := reports step (by simp)
      have acts : step.2.acts later out = step.2.acts place text := by
        rw [LineStep.acts, LineStep.acts, fires step (by simp)]
        cases skipped : step.2.ignoreInScripts with
        | true => rw [executable step (by simp) skipped]
        | false => rfl
      have entries : step.2.entries later name step.1 out = step.2.entries place name step.1 text := by
        simp [LineStep.entries, messages step (by simp), number]
      rw [run, run, acts]
      split
      · simp only [report text, report out, entries, rest]
      · exact rest

/-- Messages carry the name of the rule-set and of one of the rules. -/
theorem mem_run {entry : LogEntry} (isEntry : entry ∈ (steps.run place name text).2) :
    entry.ruleSetName = some name ∧ ∃ step ∈ steps, entry.ruleName = some step.1 := by
  induction steps generalizing text with
  | nil => simp [run] at isEntry
  | cons step steps hyp =>
      rw [run] at isEntry
      split at isEntry
      · rcases List.mem_append.mp isEntry with here | later
        · rw [LineStep.entries] at here
          split at here
          · obtain rfl := List.mem_singleton.mp here
            exact ⟨rfl, step, by simp, rfl⟩
          · simp at here
        · obtain ⟨named, other, isOther, same⟩ := hyp later
          exact ⟨named, other, by simp [isOther], same⟩
      · obtain ⟨named, other, isOther, same⟩ := hyp isEntry
        exact ⟨named, other, by simp [isOther], same⟩

end Steps

/-- Changes made one after another, of which each sets something right that the ones
after it keep, set everything right. -/
theorem settled_foldl {ι : Type} {inText : List Char → Prop} {change : ι → List Char → List Char}
    {settled : ι → List Char → Prop} {steps : List ι}
    (stays : ∀ step ∈ steps, ∀ text, inText text → inText (change step text))
    (settles : ∀ step ∈ steps, ∀ text, inText text → settled step (change step text))
    (keeps : steps.Pairwise fun fixed edit =>
      ∀ text, inText text → settled fixed text → settled fixed (change edit text))
    (text : List Char) (here : inText text) :
    ∀ step ∈ steps, settled step (steps.foldl (fun text step => change step text) text) := by
  have kept : ∀ {fixed : ι} {steps : List ι},
      (∀ edit ∈ steps, ∀ text, inText text → inText (change edit text)) →
      (∀ edit ∈ steps, ∀ text, inText text → settled fixed text → settled fixed (change edit text)) →
      ∀ text, inText text → settled fixed text →
      settled fixed (steps.foldl (fun text step => change step text) text) := by
    intro fixed steps stays keeps
    induction steps with
    | nil => exact fun _ _ done => done
    | cons edit steps hyp =>
        intro text here done
        exact hyp (fun other isOther => stays other (by simp [isOther]))
          (fun other isOther => keeps other (by simp [isOther])) _ (stays edit (by simp) text here)
          (keeps edit (by simp) text here done)
  induction keeps generalizing text with
  | nil => simp
  | @cons first steps keepsFirst _ hyp =>
      have staysLater : ∀ step ∈ steps, ∀ text, inText text → inText (change step text) :=
        fun other isOther => stays other (by simp [isOther])
      have later := stays first (by simp) text here
      intro step isStep
      rw [List.foldl_cons]
      rcases List.mem_cons.mp isStep with rfl | isLater
      · exact kept staysLater keepsFirst _ later (settles step (by simp) text here)
      · exact hyp staysLater (fun other isOther => settles other (by simp [isOther])) _ later step
          isLater

end LineRules
