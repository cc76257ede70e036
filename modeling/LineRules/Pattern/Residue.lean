import LineRules.Pattern.Matching

/-!
# Matching with what failed ways leave

A condition may stand inside the group that it asks for. The group is open there, so what
counts is where it was closed before: in an earlier round of a repetition, or on a way
through the pattern that has failed since. A way that fails takes back every group that
was opened on it, but it leaves a group closed that is still open where the next way
begins, provided that another group was opened inside of it. A repetition of more than
single characters takes everything back, and so does all that is tried inside of it.

`Node.runWithResidue` runs a pattern by these rules. It differs from `Node.run` only in
conditions on open groups, so no other pattern needs it.
-/

namespace LineRules.Pattern

/-- What running a pattern comes to. -/
inductive Outcome where
  /-- A state that the continuation accepted. -/
  | accepted (state : State)
  /-- No way to match, and the groups that the failed ways have left closed. -/
  | failed (closed : List Nat)

namespace Outcome

/-- The accepted state, if there is one. -/
def accepted? : Outcome → Option State
  | accepted state => some state
  | failed _ => none

/-- The outcome with more groups left closed if it is a failure. -/
def leaving (outcome : Outcome) (closed : List Nat) : Outcome :=
  match outcome with
  | accepted state => accepted state
  | failed more => failed (closed ++ more)

end Outcome

namespace State

/-- Whether a group was opened and another one after it. -/
def hasInner (state : State) (index : Nat) : Bool :=
  (state.opened.lookup index).isSome && state.opened.any (index < ·.1)

/-- The state in which the next way begins after ways that left groups closed. -/
def withResidue (state : State) (closed : List Nat) : State :=
  { state with
    closed := (closed.filter state.hasInner).map (·, state.cursor) ++ state.closed }

end State

/-- How a second way is tried after a first one failed. -/
inductive Retry where
  /-- What the first way left closed stays. -/
  | keeping
  /-- What the first way left is taken back, what the second one leaves stays. -/
  | undoing
  /-- What either way left is taken back. -/
  | clearing
deriving DecidableEq

/-- Tries a second way from a state if the first one failed. -/
def Retry.orElse (retry : Retry) (state : State) (first : Outcome)
    (second : State → Outcome) : Outcome :=
  match first with
  | .accepted reached => .accepted reached
  | .failed closed =>
    match retry with
    | .keeping => (second (state.withResidue closed)).leaving closed
    | .undoing => second state
    | .clearing =>
      match second state with
      | .accepted reached => .accepted reached
      | .failed _ => .failed []

/-- A way to run a pattern with a continuation, which accepts a state or fails. -/
abbrev ResidueRunner := (State → Outcome) → State → Outcome

namespace ResidueRunner

/-- Runs a pattern and keeps only its first way to match. -/
def once (body : ResidueRunner) : ResidueRunner := fun k state =>
  match body .accepted state with
  | .accepted reached => k reached
  | .failed closed => .failed closed

/-- Runs a pattern a given number of times. -/
def times (body : ResidueRunner) : Nat → ResidueRunner
  | 0, k, state => k state
  | count + 1, k, state => body (fun reached => times body count k reached) state

/-- Runs a pattern as often as possible, at most `count` times; a round that gets
nowhere is the last. -/
def many (retry : Retry) (body : ResidueRunner) : Nat → ResidueRunner
  | 0, k, state => k state
  | count + 1, k, state =>
    retry.orElse state
      (body (fun reached =>
        if reached.cursor.left = state.cursor.left then k reached
        else many retry body count k reached) state)
      k

/-- Runs a pattern as rarely as possible, at most `count` times; a round that gets
nowhere is the last. -/
def few (retry : Retry) (body : ResidueRunner) : Nat → ResidueRunner
  | 0, k, state => k state
  | count + 1, k, state =>
    retry.orElse state (k state)
      (body fun reached =>
        if reached.cursor.left = state.cursor.left then k reached
        else few retry body count k reached)

/-- Runs a pattern `least` times and then more times, up to `most` in all, in the order
that `further` says. -/
def iterate (further : ResidueRunner → Nat → ResidueRunner) (least : Nat)
    (most : Option Nat) (body : ResidueRunner) : ResidueRunner := fun k state =>
  times body least
    (fun reached => further body (roundLimit (most.map (· - least)) reached) k reached) state

end ResidueRunner

namespace Node

/-- Whether a pattern is a single character, with or without flags of its own. -/
def isSingle : Node → Bool
  | char _ => true
  | cat empty body => isSingle body
  | _ => false

/-- How alternatives inside or outside of a repetition are tried. -/
def choiceRetry (repeated : Bool) : Retry := if repeated then .clearing else .keeping

/-- How the rounds of a repetition are tried, inside or outside of another one. -/
def roundRetry (appetite : Appetite) (single repeated : Bool) : Retry :=
  if single then choiceRetry repeated
  else if appetite = .lazy && !repeated then .keeping
  else .undoing

/-- Runs a pattern at a place, inside of a repetition or not, with what failed ways
leave. -/
def runWithResidue (repeated : Bool) : Node → ResidueRunner
  | empty, k, state => k state
  | char cls, k, state =>
    match state.cursor.next? with
    | some (c, later) => if cls.contains c then k (state.moveTo later) else .failed []
    | none => .failed []
  | anchor place, k, state => if place.holds state.cursor then k state else .failed []
  | cat first second, k, state =>
    runWithResidue repeated first (fun reached => runWithResidue repeated second k reached)
      state
  | alt first second, k, state =>
    (choiceRetry repeated).orElse state (runWithResidue repeated first k state)
      (runWithResidue repeated second k)
  | group index body, k, state =>
    runWithResidue repeated body
      (fun reached => (k (reached.closeGroup index)).leaving [index]) (state.openGroup index)
  | backref index mode, k, state =>
    match (state.capture? index).bind fun text => state.cursor.skip? mode text with
    | some later => k (state.moveTo later)
    | none => .failed []
  | conditional index present absent, k, state =>
    if (state.capture? index).isSome then runWithResidue repeated present k state
    else runWithResidue repeated absent k state
  | ahead wanted body, k, state =>
    match (runWithResidue repeated body .accepted state).accepted? with
    | some reached => if wanted then k (reached.moveTo state.cursor) else .failed []
    | none => if wanted then .failed [] else k state
  | behind wanted width body, k, state =>
    match (state.cursor.back? width).bind fun earlier =>
        (runWithResidue repeated body .accepted (state.moveTo earlier)).accepted? with
    | some reached => if wanted then k (reached.moveTo state.cursor) else .failed []
    | none => if wanted then .failed [] else k state
  | atomic body, k, state => ResidueRunner.once (runWithResidue repeated body) k state
  | iterate appetite least most body, k, state =>
    let single := body.isSingle
    let rounds := runWithResidue (repeated || !single) body
    let retry := roundRetry appetite single repeated
    match appetite with
    | .greedy => ResidueRunner.iterate (.many retry) least most rounds k state
    | .lazy => ResidueRunner.iterate (.few retry) least most rounds k state
    | .possessive =>
      ResidueRunner.once
        (ResidueRunner.iterate (.many retry) least most (ResidueRunner.once rounds)) k state

/-- The match that starts at a place, with what failed ways leave; with `nonempty`, the
first one that is not empty. -/
def matchAtWithResidue (node : Node) : Matcher := fun nonempty cursor =>
  (node.runWithResidue false
    (fun reached =>
      if nonempty && reached.cursor.left = cursor.left then .failed [] else .accepted reached)
    (.start cursor)).accepted?.map (⟨cursor, ·⟩)

end Node

end LineRules.Pattern
