import LineRules.Proofs.Pattern.Reach

/-!
# What a pattern prefers

A pattern lists what it reaches in the order in which it tries it, and the first entry makes
the match. A repeated character tries long runs before short ones, so what is found first
goes farthest (`Farthest`), as long as nothing after the run moves on and nothing before it
leaves a choice. With that, a match can be told from the places that the pattern reaches,
also where it reaches several.
-/

namespace LineRules.Pattern.Node

variable {before after : List Char} {opened closed : List (Nat × Cursor)} {state : State}

/-- What is reached first leaves the least text. -/
def Farthest (node : Node) (state : State) : Prop :=
  ∀ first ∈ (node.results state).head?, ∀ other ∈ node.results state,
    first.cursor.left ≤ other.cursor.left

theorem results_sequence_cons (node : Node) (nodes : List Node) (state : State) :
    (sequence (node :: nodes)).results state =
      (node.results state).flatMap (sequence nodes).results := by
  cases nodes with
  | nil =>
      have nothing : (sequence []).results = fun state => [state] := rfl
      rw [nothing, List.flatMap_singleton']
      rfl
  | cons next nodes => rfl

/-- A condition on what follows stays where it is. -/
theorem cursor_of_mem_ahead {wanted : Bool} {body : Node} {reached : State}
    (isReached : reached ∈ (ahead wanted body).results state) : reached.cursor = state.cursor := by
  rw [results] at isReached
  split at isReached <;> split at isReached <;> simp_all [State.moveTo]

/-- A condition on what precedes stays where it is. -/
theorem cursor_of_mem_behind {wanted : Bool} {width : Nat} {body : Node} {reached : State}
    (isReached : reached ∈ (behind wanted width body).results state) :
    reached.cursor = state.cursor := by
  rw [results] at isReached
  split at isReached <;> split at isReached <;> simp_all [State.moveTo]

/-- What is reached first goes on from one of the states in between, and nothing goes on from
those before it. -/
theorem exists_of_head?_sequence {node : Node} {nodes : List Node} {first : State}
    (isFirst : first ∈ ((sequence (node :: nodes)).results state).head?) :
    ∃ skipped middle later, node.results state = skipped ++ middle :: later ∧
      (∀ other ∈ skipped, (sequence nodes).results other = []) ∧
      first ∈ ((sequence nodes).results middle).head? := by
  rw [results_sequence_cons, List.head?_flatMap, Option.mem_def,
    List.findSome?_eq_some_iff] at isFirst
  obtain ⟨skipped, middle, later, split, isHead, absent⟩ := isFirst
  refine ⟨skipped, middle, later, split, fun other isOther => ?_, isHead⟩
  exact List.head?_eq_none_iff.mp (absent other isOther)

/-- After something that leaves no choice, the rest of a pattern decides. -/
theorem farthest_sequence_of_unique {node : Node} {nodes : List Node}
    (unique : ∀ first ∈ node.results state, ∀ second ∈ node.results state, first = second)
    (rest : ∀ middle ∈ node.results state, (sequence nodes).Farthest middle) :
    (sequence (node :: nodes)).Farthest state := by
  intro first isFirst other isOther
  obtain ⟨skipped, middle, later, split, _, isHead⟩ := exists_of_head?_sequence isFirst
  obtain ⟨source, isSource, inRest⟩ := mem_sequence_cons_iff.mp isOther
  have isMiddle : middle ∈ node.results state := by simp [split]
  obtain rfl := unique source isSource middle isMiddle
  exact rest source isSource first isHead other inRest

/-- Before something that does not move on, the first part of a pattern decides. -/
theorem farthest_sequence_of_stays {node : Node} {nodes : List Node}
    (sorted : (node.results state).Pairwise fun a b => a.cursor.left ≤ b.cursor.left)
    (stays : ∀ middle ∈ node.results state, ∀ last ∈ (sequence nodes).results middle,
      last.cursor.left = middle.cursor.left) : (sequence (node :: nodes)).Farthest state := by
  intro first isFirst other isOther
  obtain ⟨skipped, middle, later, split, absent, isHead⟩ := exists_of_head?_sequence isFirst
  obtain ⟨source, isSource, inRest⟩ := mem_sequence_cons_iff.mp isOther
  rw [stays middle (by simp [split]) first (List.mem_of_mem_head? isHead),
    stays source isSource other inRest]
  rw [split] at isSource sorted
  rcases List.mem_append.mp isSource with isSkipped | isLater
  · simp [absent source isSkipped] at inRest
  · rcases List.mem_cons.mp isLater with rfl | isLater
    · exact Nat.le_refl _
    · exact List.rel_of_pairwise_cons (List.pairwise_append.mp sorted).2.1 isLater

/-- Repeating characters of a class tries longer runs first. -/
theorem pairwise_manyResults_char {cls : CharClass} {count : Nat} :
    (manyResults (char cls).results count ⟨.between before after, opened, closed⟩).Pairwise
      fun a b => a.cursor.left ≤ b.cursor.left := by
  induction count generalizing before after with
  | zero => simp [manyResults]
  | succ count hyp =>
      rw [manyResults]
      cases after with
      | nil => simp [results]
      | cons c after =>
          by_cases member : cls.contains c = true
          · have once : (char cls).results ⟨.between before (c :: after), opened, closed⟩ =
                [⟨.between (c :: before) after, opened, closed⟩] := by
              simp [results, member, State.moveTo]
            rw [once, List.flatMap_singleton, if_neg (by simp), List.pairwise_append]
            refine ⟨hyp, List.pairwise_singleton _ _, fun other isOther last isLast => ?_⟩
            obtain ⟨run, rest, rfl, _, _, rfl⟩ := mem_manyResults_char_iff.mp isOther
            obtain rfl := List.mem_singleton.mp isLast
            simp only [Cursor.between_left, List.length_cons, List.length_append]
            omega
          · simp [results, member]

theorem pairwise_star_char {cls : CharClass} :
    ((star (char cls)).results ⟨.between before after, opened, closed⟩).Pairwise
      fun a b => a.cursor.left ≤ b.cursor.left := by
  have many : (star (char cls)).results ⟨.between before after, opened, closed⟩ =
      manyResults (char cls).results (after.length + 1)
        ⟨.between before after, opened, closed⟩ := by
    simp [star, results, iterateResults, timesResults, roundLimit]
  rw [many]
  exact pairwise_manyResults_char

/-- A match of a pattern that goes farthest ends no earlier than any place that the pattern
reaches. -/
theorem finish_le_of_reaches {node : Node} {cursor : Cursor} {found : Match}
    {condition : State → Prop} (farthest : node.Farthest (.start cursor))
    (isMatch : node.matchAt false cursor = some found)
    (reaches : node.Reaches (.start cursor) condition) :
    ∃ reached, condition reached ∧ found.finish.left ≤ reached.cursor.left := by
  obtain ⟨reached, isReached, met⟩ := reaches
  rw [matchAt_eq, Option.map_eq_some_iff] at isMatch
  obtain ⟨first, isFirst, rfl⟩ := isMatch
  exact ⟨reached, met, farthest first isFirst reached isReached⟩

end LineRules.Pattern.Node
