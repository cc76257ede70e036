import LineRules.Proofs.Pattern.Reach

/-!
# Patterns in rounds

A pattern of several characters can be repeated as one of a single character can. If every round
reads a piece of one shape, then the rounds together read a text that is made of such pieces
(`reaches_star_iff`).
-/

namespace LineRules.Pattern.Node

open LineRules.Text

variable {before after : List Char} {opened closed : List (Nat × Cursor)} {reached : State}
  {body : Node} {shape : List Char → Prop}

/-- From every place the pattern reads pieces of a shape, which are not empty, and it captures
nothing. -/
structure Reads (body : Node) (shape : List Char → Prop) : Prop where
  reaches {before after : List Char} {opened closed : List (Nat × Cursor)}
    {condition : State → Prop} :
    body.Reaches ⟨.between before after, opened, closed⟩ condition ↔
      ∃ piece rest, after = piece ++ rest ∧ shape piece ∧
        condition ⟨.between (piece.reverse ++ before) rest, opened, closed⟩
  nonempty {piece : List Char} : shape piece → piece ≠ []

theorem Reads.mem_results_iff (reads : body.Reads shape) :
    reached ∈ body.results ⟨.between before after, opened, closed⟩ ↔
      ∃ piece rest, after = piece ++ rest ∧ shape piece ∧
        reached = ⟨.between (piece.reverse ++ before) rest, opened, closed⟩ := by
  have reaches : body.Reaches ⟨.between before after, opened, closed⟩ (reached = ·) ↔ _ :=
    reads.reaches
  simpa only [Reaches, exists_eq_right'] using reaches

theorem Reads.mem_manyResults_iff (reads : body.Reads shape) {count : Nat} :
    reached ∈ manyResults body.results count ⟨.between before after, opened, closed⟩ ↔
      ∃ (pieces : List (List Char)) (rest : List Char), after = pieces.flatten ++ rest ∧
        pieces.length ≤ count ∧ (∀ piece ∈ pieces, shape piece) ∧
        reached = ⟨.between (pieces.flatten.reverse ++ before) rest, opened, closed⟩ := by
  induction count generalizing before after with
  | zero =>
      simp only [manyResults, List.mem_singleton, Nat.le_zero_eq, List.length_eq_zero_iff]
      constructor
      · rintro rfl
        exact ⟨[], after, rfl, rfl, by simp, rfl⟩
      · rintro ⟨_, rest, rfl, rfl, _, rfl⟩
        rfl
  | succ count hyp =>
      simp only [manyResults, List.mem_append, List.mem_flatMap, List.mem_singleton,
        reads.mem_results_iff]
      constructor
      · rintro (⟨_, ⟨piece, rest, rfl, shaped, rfl⟩, inRest⟩ | rfl)
        · have moved : ¬ rest.length = (piece ++ rest).length := by
            simpa using reads.nonempty shaped
          rw [Cursor.between_left, Cursor.between_left, if_neg moved] at inRest
          obtain ⟨pieces, last, rfl, few, allShaped, rfl⟩ := hyp.mp inRest
          exact ⟨piece :: pieces, last, by simp, by simpa using few,
            List.forall_mem_cons.mpr ⟨shaped, allShaped⟩, by simp⟩
        · exact ⟨[], after, rfl, by simp, by simp, rfl⟩
      · rintro ⟨pieces, last, rfl, few, allShaped, rfl⟩
        cases pieces with
        | nil => exact .inr rfl
        | cons piece pieces =>
            obtain ⟨shaped, others⟩ := List.forall_mem_cons.mp allShaped
            have moved : ¬ (pieces.flatten ++ last).length =
                ((piece :: pieces).flatten ++ last).length := by
              simpa using reads.nonempty shaped
            refine .inl ⟨_, ⟨piece, pieces.flatten ++ last, by simp, shaped, rfl⟩, ?_⟩
            rw [Cursor.between_left, Cursor.between_left, if_neg moved]
            exact hyp.mpr ⟨pieces, last, rfl, by simpa using few, others, by simp⟩

/-- There are no more pieces than characters. -/
theorem Reads.length_le (reads : body.Reads shape) {pieces : List (List Char)}
    (allShaped : ∀ piece ∈ pieces, shape piece) : pieces.length ≤ pieces.flatten.length := by
  induction pieces with
  | nil => simp
  | cons piece pieces hyp =>
      obtain ⟨shaped, others⟩ := List.forall_mem_cons.mp allShaped
      have here : 0 < piece.length := List.length_pos_of_ne_nil (reads.nonempty shaped)
      have later := hyp others
      rw [List.flatten_cons, List.length_append, List.length_cons]
      omega

/-- Any number of rounds. -/
theorem reaches_star_iff (reads : body.Reads shape) {condition : State → Prop} :
    (star body).Reaches ⟨.between before after, opened, closed⟩ condition ↔
      ∃ (pieces : List (List Char)) (rest : List Char), after = pieces.flatten ++ rest ∧
        (∀ piece ∈ pieces, shape piece) ∧
        condition ⟨.between (pieces.flatten.reverse ++ before) rest, opened, closed⟩ := by
  simp only [Reaches, star, results, iterateResults, timesResults, List.flatMap_cons,
    List.flatMap_nil, List.append_nil, reads.mem_manyResults_iff, roundLimit, Option.map_none,
    Cursor.between_left]
  constructor
  · rintro ⟨_, ⟨pieces, rest, split, _, allShaped, rfl⟩, met⟩
    exact ⟨pieces, rest, split, allShaped, met⟩
  · rintro ⟨pieces, rest, rfl, allShaped, met⟩
    have few := reads.length_le allShaped
    refine ⟨_, ⟨pieces, rest, rfl, ?_, allShaped, rfl⟩, met⟩
    rw [List.length_append]
    omega

end LineRules.Pattern.Node
