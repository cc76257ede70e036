import LineRules.Proofs.Format.Lines
import LineRules.Proofs.RuleSet.Stops

/-!
# What formatting stops with

Formatting a file without token rules ends in a result, or it stops with a fault that one of
the entries of the store stops with, or with a page that opens a block under an unknown name
(`Formatter.format_stops`).
-/

namespace LineRules.Format

open LineRules.Text

theorem outcome_bind_eq_error {α β : Type} {first : Noted α} {next : α → Noted β} {fault : Fault}
    (stopped : (first >>= next).outcome = .error fault) :
    first.outcome = .error fault ∨
      ∃ result, first.outcome = .ok result ∧ (next result).outcome = .error fault := by
  cases done : first.outcome with
  | error other =>
      rw [outcome_bind_error done] at stopped
      cases stopped
      exact .inl rfl
  | ok result =>
      rw [outcome_bind done] at stopped
      exact .inr ⟨result, rfl, stopped⟩

/-! ## Pages -/

/-- The plan of a page stops at a line that opens a block under an unknown name. -/
theorem exists_of_planPage_eq_error {block : Option Block} {lines : List (List Char)}
    {fault : Fault} (stopped : planPage block lines = .error fault) :
    ∃ line ∈ lines, blockOpened line = .error fault := by
  induction lines generalizing block with
  | nil => contradiction
  | cons line lines hyp =>
      have fromRest : ∀ {next : Option Block} {refs : List String},
          (do let plan ← planPage next lines; return refs :: plan) = .error fault →
          ∃ other ∈ line :: lines, blockOpened other = .error fault := by
        intro next refs stopped
        obtain stopped | ⟨_, _, stopped⟩ := bind_eq_error.mp stopped
        · obtain ⟨other, isLater, unknown⟩ := hyp stopped
          exact ⟨other, List.mem_cons_of_mem _ isLater, unknown⟩
        · contradiction
      cases block with
      | some block =>
          rw [planPage] at stopped
          split at stopped
          · exact fromRest stopped
          · exact fromRest stopped
      | none =>
          rw [planPage] at stopped
          obtain unknown | ⟨opened, _, stopped⟩ := bind_eq_error.mp stopped
          · exact ⟨line, List.mem_cons_self, unknown⟩
          cases opened with
          | none => exact fromRest stopped
          | some opened => exact fromRest stopped

theorem exists_of_plan_eq_error {language : Language} {lines : List (List Char)} {fault : Fault}
    (stopped : plan language lines = .error fault) :
    language = .html ∧ ∃ line ∈ lines, blockOpened line = .error fault := by
  cases language with
  | html => exact ⟨rfl, exists_of_planPage_eq_error stopped⟩
  | javaScript | css => contradiction

namespace Formatter

variable {formatter : Formatter} {faults : List Fault} {fault : Fault}

theorem formatLine_stops (stops : formatter.store.root.StopsIn [] faults) {path : Path}
    {shebang : Bool} {number : Nat} {line : List Char} {refs : List String}
    (stopped : (formatter.formatLine path shebang number line refs).outcome = .error fault) :
    fault ∈ faults := by
  have shows : (Run.mk (Context.ofLine (String.ofList line) number shebang
      formatter.customIgnore) [] []).context.Shows line := ⟨rfl, rfl⟩
  have ends : (formatter.runLine shebang number line refs).EndsIn faults :=
    Store.applyAll_endsIn stops refs shows
  rw [formatLine] at stopped
  generalize formatter.runLine shebang number line refs = progress at ends stopped
  cases progress with
  | stopped other run =>
      cases stopped
      exact ends
  | going run =>
      obtain ⟨text, shows⟩ := ends
      simp [shows.fullItem, asText_ofList, Except.map] at stopped

theorem formatLines_stops (stops : formatter.store.root.StopsIn [] faults) {path : Path}
    {shebang : Bool} {number : Nat} {lines : List (Line × List String)}
    (stopped : (formatter.formatLines path shebang number lines).outcome = .error fault) :
    fault ∈ faults := by
  induction lines generalizing number with
  | nil => contradiction
  | cons planned lines hyp =>
      obtain ⟨line, refs⟩ := planned
      rw [formatLines] at stopped
      obtain stopped | ⟨_, _, stopped⟩ := outcome_bind_eq_error stopped
      · exact formatLine_stops stops stopped
      obtain stopped | ⟨_, _, stopped⟩ := outcome_bind_eq_error stopped
      · exact hyp stopped
      · contradiction

/-- Formatting without token rules stops with a fault of the store, or with a page that opens a
block under an unknown name. -/
theorem format_stops (stops : formatter.store.root.StopsIn [] faults)
    (noLinter : formatter.linter = none) {path : Path} {text : String}
    (stopped : (formatter.format path text).outcome = .error fault) :
    fault ∈ faults ∨ formatter.language = .html ∧
      ∃ line ∈ linesOf text.toList, blockOpened line.content = .error fault := by
  rw [format] at stopped
  obtain stopped | ⟨plan, _, stopped⟩ := outcome_bind_eq_error stopped
  · obtain ⟨isPage, content, isContent, unknown⟩ := exists_of_plan_eq_error stopped
    obtain ⟨line, isLine, rfl⟩ := List.mem_map.mp isContent
    exact .inr ⟨isPage, line, isLine, unknown⟩
  obtain stopped | ⟨_, _, stopped⟩ := outcome_bind_eq_error stopped
  · exact .inl (formatLines_stops stops stopped)
  obtain stopped | ⟨_, _, stopped⟩ := outcome_bind_eq_error stopped
  · rw [lint_of_no_linter path noLinter] at stopped
    contradiction
  · contradiction

end Formatter

end LineRules.Format
