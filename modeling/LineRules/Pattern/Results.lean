import LineRules.Pattern.Matching

/-!
# The ways to match

`Node.results` lists every state that a pattern can reach from a place, in order of
preference and without a continuation. The main statement is `run_eq_findSome?`:
running a pattern is searching this list for the first state that the continuation
accepts.
-/

namespace LineRules.Pattern

/-- The states reached by a pattern run a given number of times. -/
def timesResults (body : State → List State) : Nat → State → List State
  | 0, state => [state]
  | count + 1, state => (body state).flatMap (timesResults body count)

/-- The states reached by running a pattern as often as possible. -/
def manyResults (body : State → List State) : Nat → State → List State
  | 0, state => [state]
  | count + 1, state =>
    (body state).flatMap (fun reached =>
      if reached.cursor.left = state.cursor.left then [reached]
      else manyResults body count reached) ++ [state]

/-- The states reached by running a pattern as rarely as possible. -/
def fewResults (body : State → List State) : Nat → State → List State
  | 0, state => [state]
  | count + 1, state =>
    state :: (body state).flatMap (fun reached =>
      if reached.cursor.left = state.cursor.left then [reached]
      else fewResults body count reached)

/-- The states reached by `least` rounds and then more of them. -/
def iterateResults (further : (State → List State) → Nat → State → List State) (least : Nat)
    (most : Option Nat) (body : State → List State) (state : State) : List State :=
  (timesResults body least state).flatMap fun reached =>
    further body (roundLimit (most.map (· - least)) reached) reached

namespace Node

/-- The states that a pattern can reach, in order of preference. -/
def results : Node → State → List State
  | empty, state => [state]
  | char cls, state =>
    match state.cursor.next? with
    | some (c, later) => if cls.contains c then [state.moveTo later] else []
    | none => []
  | anchor place, state => if place.holds state.cursor then [state] else []
  | cat first second, state => (results first state).flatMap (results second)
  | alt first second, state => results first state ++ results second state
  | group index body, state =>
    (results body (state.openGroup index)).map (·.closeGroup index)
  | backref index mode, state =>
    match state.capture? index with
    | some text => ((state.cursor.skip? mode text).map state.moveTo).toList
    | none => []
  | conditional index present absent, state =>
    if (state.capture? index).isSome then results present state else results absent state
  | ahead wanted body, state =>
    match (results body state).head? with
    | some reached => if wanted then [reached.moveTo state.cursor] else []
    | none => if wanted then [] else [state]
  | behind wanted width body, state =>
    match (state.cursor.back? width).bind fun earlier =>
        (results body (state.moveTo earlier)).head? with
    | some reached => if wanted then [reached.moveTo state.cursor] else []
    | none => if wanted then [] else [state]
  | atomic body, state => (results body state).head?.toList
  | iterate .greedy least most body, state =>
    iterateResults manyResults least most (results body) state
  | iterate .lazy least most body, state =>
    iterateResults fewResults least most (results body) state
  | iterate .possessive least most body, state =>
    (iterateResults manyResults least most (fun s => (results body s).head?.toList)
      state).head?.toList

end Node

/-- A runner searches the list of states that a function gives. -/
def Runner.Searches (runner : Runner) (states : State → List State) : Prop :=
  ∀ k state, runner k state = (states state).findSome? k

namespace Runner.Searches

variable {runner : Runner} {states : State → List State}

theorem findSome?_some (found : List State) : found.findSome? some = found.head? := by
  cases found <;> rfl

theorem findSome?_flatMap_states (found : List State) (f : State → List State)
    (k : State → Option State) :
    (found.flatMap f).findSome? k = found.findSome? fun state => (f state).findSome? k := by
  induction found with
  | nil => rfl
  | cons state rest hyp =>
    rw [List.flatMap_cons, List.findSome?_append, hyp, List.findSome?_cons]
    cases (f state).findSome? k <;> rfl

theorem once (searches : runner.Searches states) :
    (Runner.once runner).Searches fun state => (states state).head?.toList := by
  intro k state
  simp only [Runner.once, searches some state, findSome?_some]
  cases (states state).head? with
  | none => rfl
  | some reached => simp

theorem times (searches : runner.Searches states) (count : Nat) :
    (Runner.times runner count).Searches (timesResults states count) := by
  induction count with
  | zero =>
    intro k state
    simp [Runner.times, timesResults]
  | succ count hyp =>
    intro k state
    simp only [Runner.times, timesResults, searches _ state, findSome?_flatMap_states]
    congr 1
    funext reached
    exact hyp k reached

theorem many (searches : runner.Searches states) (count : Nat) :
    (Runner.many runner count).Searches (manyResults states count) := by
  induction count with
  | zero =>
    intro k state
    simp [Runner.many, manyResults]
  | succ count hyp =>
    intro k state
    have round : (fun reached : State =>
        if reached.cursor.left = state.cursor.left then k reached
        else Runner.many runner count k reached)
        = fun reached => (if reached.cursor.left = state.cursor.left then [reached]
            else manyResults states count reached).findSome? k := by
      funext reached
      split
      · simp
      · exact hyp k reached
    rw [Runner.many, manyResults, searches, round, List.findSome?_append,
      findSome?_flatMap_states]
    cases (states state).findSome? _ <;> simp

theorem few (searches : runner.Searches states) (count : Nat) :
    (Runner.few runner count).Searches (fewResults states count) := by
  induction count with
  | zero =>
    intro k state
    simp [Runner.few, fewResults]
  | succ count hyp =>
    intro k state
    have round : (fun reached : State =>
        if reached.cursor.left = state.cursor.left then k reached
        else Runner.few runner count k reached)
        = fun reached => (if reached.cursor.left = state.cursor.left then [reached]
            else fewResults states count reached).findSome? k := by
      funext reached
      split
      · simp
      · exact hyp k reached
    rw [Runner.few, fewResults, searches, round, List.findSome?_cons,
      findSome?_flatMap_states]
    cases k state <;> rfl

theorem iterate (searches : runner.Searches states) {further : Runner → Nat → Runner}
    {furtherResults : (State → List State) → Nat → State → List State}
    (furtherSearches : ∀ count, (further runner count).Searches (furtherResults states count))
    (least : Nat) (most : Option Nat) :
    (Runner.iterate further least most runner).Searches
      (iterateResults furtherResults least most states) := by
  intro k state
  simp only [Runner.iterate, iterateResults, searches.times least _ state,
    findSome?_flatMap_states]
  congr 1
  funext reached
  exact furtherSearches _ k reached

end Runner.Searches

namespace Node

/-- Running a pattern is searching its results in order. -/
theorem run_eq_findSome? (node : Node) : Runner.Searches node.run node.results := by
  induction node with
  | empty =>
    intro k state
    simp [run, results]
  | char cls =>
    intro k state
    simp only [run, results]
    cases state.cursor.next? with
    | none => rfl
    | some step => cases member : cls.contains step.1 <;> simp [member]
  | anchor place =>
    intro k state
    simp only [run, results]
    cases place.holds state.cursor <;> simp
  | cat first second firstHyp secondHyp =>
    intro k state
    simp only [run, results, firstHyp _ state, Runner.Searches.findSome?_flatMap_states]
    congr 1
    funext reached
    exact secondHyp k reached
  | alt first second firstHyp secondHyp =>
    intro k state
    simp only [run, results, firstHyp k state, secondHyp k state, List.findSome?_append]
    cases (results first state).findSome? k <;> rfl
  | group index body hyp =>
    intro k state
    simp only [run, results, hyp _ (state.openGroup index), List.findSome?_map]
    rfl
  | backref index mode =>
    intro k state
    simp only [run, results]
    cases state.capture? index with
    | none => rfl
    | some text => cases skipped : state.cursor.skip? mode text <;> simp [skipped]
  | conditional index present absent presentHyp absentHyp =>
    intro k state
    simp only [run, results]
    split
    · exact presentHyp k state
    · exact absentHyp k state
  | ahead wanted body hyp =>
    intro k state
    simp only [run, results, hyp some state, Runner.Searches.findSome?_some]
    cases (results body state).head? <;> cases wanted <;> simp
  | behind wanted width body hyp =>
    intro k state
    simp only [run, results]
    cases state.cursor.back? width with
    | none => cases wanted <;> simp
    | some earlier =>
      simp only [hyp some, Runner.Searches.findSome?_some, Option.bind_some]
      cases (results body (state.moveTo earlier)).head? <;> cases wanted <;> simp
  | atomic body hyp =>
    intro k state
    exact hyp.once k state
  | iterate appetite least most body hyp =>
    intro k state
    cases appetite with
    | greedy => exact hyp.iterate hyp.many least most k state
    | lazy => exact hyp.iterate hyp.few least most k state
    | possessive =>
      exact (hyp.once.iterate hyp.once.many least most).once k state

end Node

end LineRules.Pattern
