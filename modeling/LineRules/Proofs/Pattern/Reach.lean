import Mathlib.Data.List.Basic
import LineRules.Pattern.Build
import LineRules.Pattern.Results
import LineRules.Proofs.Text.Runs

/-!
# What patterns reach

`Node.results` is read here as a relation between the place before a match and the
place after it: one equivalence for each kind of node says which texts lie between the
two. A place is given by the characters before it, nearest first, and those after it.

`matchAt_eq_some_iff` turns the relation into the match that running a pattern finds, for
patterns that can match in one way only.
-/

namespace LineRules.Pattern

open LineRules.Text

namespace Cursor

variable {before after : List Char}

@[simp] theorem between_before : (between before after).before = before := rfl

@[simp] theorem between_after : (between before after).after = after := rfl

@[simp] theorem between_left : (between before after).left = after.length := rfl

/-- Two cuts of a text that end at one place have the same parts. -/
theorem cut_unique {cursor : Cursor} {piece other rest left right : List Char}
    (split : piece ++ after = other ++ rest) (finish : cursor = between left after)
    (otherFinish : cursor = between right rest) : piece = other ∧ after = rest := by
  obtain rfl : after = rest := congrArg Cursor.after (finish.symm.trans otherFinish)
  exact ⟨List.append_cancel_right split, rfl⟩

@[simp] theorem ofText_eq (text : List Char) : ofText text = between [] text := rfl

@[simp] theorem next?_nil : (between before []).next? = none := rfl

@[simp] theorem next?_cons (c : Char) :
    (between before (c :: after)).next? = some (c, between (c :: before) after) := rfl

@[simp] theorem back?_one_nil : (between [] after).back? 1 = none := rfl

@[simp] theorem back?_one_cons (c : Char) :
    (between (c :: before) after).back? 1 = some (between before (c :: after)) := rfl

/-- The text between two places, by what lies between them. -/
@[simp] theorem upTo_between (later piece : List Char) :
    (between before (piece ++ after)).upTo (between later after) = piece := by
  simp [upTo]

@[simp] theorem upTo_self (later : List Char) :
    (between before after).upTo (between later after) = [] := by
  simp [upTo]

/-- The text of one character between two places. -/
@[simp] theorem upTo_cons (later : List Char) (c : Char) :
    (between before (c :: after)).upTo (between later after) = [c] := by
  have piece : (between before ([c] ++ after)).upTo (between later after) = [c] :=
    upTo_between later [c]
  exact piece

end Cursor

/-- A match takes what stands between its ends. -/
theorem Match.text_of_cut {found : Match} {before later piece after : List Char}
    (start : found.start = .between before (piece ++ after))
    (finish : found.finish = .between later after) : found.text = piece := by
  rw [text, start, finish, Cursor.upTo_between]

@[simp] theorem State.start_cursor (cursor : Cursor) : (State.start cursor).cursor = cursor := rfl

/-- A group has captured the text between its two ends. -/
theorem State.capture?_of_lookup {state : State} {index : Nat} (piece : List Char)
    {before later rest : List Char}
    (opened : state.opened.lookup index = some (.between before (piece ++ rest)))
    (closed : state.closed.lookup index = some (.between later rest)) :
    state.capture? index = some piece := by
  rw [State.capture?, opened, closed]
  simp only [Cursor.between_left, Cursor.upTo_between, List.length_append]
  rw [if_pos (Nat.le_add_left _ _)]

namespace ClassItem

theorem contains_ofChar (own c : Char) : (ofChar own).contains c.toNat = decide (c = own) := by
  by_cases same : c = own
  · simp [ofChar, contains, same]
  · have different : c.toNat ≠ own.toNat := fun equal => same (Char.toNat_inj.mp equal)
    have other : own.toNat ≠ c.toNat := Ne.symm different
    simp [ofChar, contains, same, other]

theorem contains_chars (low high c : Char) :
    (chars low high).contains c.toNat = (low.toNat ≤ c.toNat && c.toNat ≤ high.toNat) := rfl

theorem contains_anyWord (c : Char) : anyWord.contains c.toNat = isWord c := by
  simp [anyWord, contains]

theorem contains_anyBlank (c : Char) : anyBlank.contains c.toNat = isBlank c := by
  simp [anyBlank, contains]

theorem contains_notBlank (c : Char) : (blank true false).contains c.toNat = !isBlank c := by
  simp [contains]

end ClassItem

namespace Node

variable {before after : List Char} {opened closed : List (Nat × Cursor)}
  {state reached : State}

/-! ## Classes -/

/-- The characters that a class takes in where case counts. -/
theorem contains_oneOf {items : List ClassItem} {c : Char} :
    (CharClass.mk false .exact items).contains c = items.any (·.contains c.toNat) := by
  simp [CharClass.contains_exact]

theorem contains_single {own c : Char} :
    (CharClass.mk false .exact [.ofChar own]).contains c = decide (c = own) := by
  simp [contains_oneOf, ClassItem.contains_ofChar]

theorem contains_noneOf {items : List ClassItem} {c : Char} :
    (CharClass.mk true .exact items).contains c = !items.any (·.contains c.toNat) := by
  simp [CharClass.contains_exact]

/-- A run of what is not a character. -/
theorem forall_contains_noneOf_iff {other : Char} {run : List Char} :
    (∀ c ∈ run, (CharClass.mk true .exact [.ofChar other]).contains c = true) ↔ other ∉ run := by
  simp only [contains_noneOf, List.any_cons, List.any_nil, Bool.or_false, ClassItem.contains_ofChar,
    Bool.not_eq_true', decide_eq_false_iff_not]
  exact ⟨fun others isMember => others _ isMember rfl,
    fun absent c isMember isOther => absent (isOther ▸ isMember)⟩

/-! ## Single nodes -/

theorem mem_char_iff {cls : CharClass} :
    reached ∈ (char cls).results ⟨.between before after, opened, closed⟩ ↔
      ∃ c rest, after = c :: rest ∧ cls.contains c = true ∧
        reached = ⟨.between (c :: before) rest, opened, closed⟩ := by
  cases after with
  | nil => simp [results]
  | cons c rest =>
      by_cases member : cls.contains c = true
      · simp [results, member, State.moveTo]
      · simp [results, member]

theorem mem_anchor_iff {place : Anchor} :
    reached ∈ (anchor place).results state ↔ place.holds state.cursor = true ∧ reached = state := by
  by_cases holds : place.holds state.cursor = true <;> simp [results, holds]

theorem mem_group_iff {index : Nat} {body : Node} :
    reached ∈ (group index body).results state ↔
      ∃ inner ∈ body.results (state.openGroup index), inner.closeGroup index = reached := by
  simp [results]

theorem mem_alt_iff {first second : Node} :
    reached ∈ (alt first second).results state ↔
      reached ∈ first.results state ∨ reached ∈ second.results state := by
  simp [results]

/-- A back reference reads the captured text once more. -/
theorem mem_backref_iff {index : Nat} {text : List Char}
    (captured : (State.mk (.between before after) opened closed).capture? index = some text) :
    reached ∈ (backref index .exact).results ⟨.between before after, opened, closed⟩ ↔
      ∃ rest, after = text ++ rest ∧
        reached = ⟨.between (text.reverse ++ before) rest, opened, closed⟩ := by
  have skips : ∀ (text before after : List Char) (later : Cursor),
      (Cursor.between before after).skip? .exact text = some later ↔
        ∃ rest, after = text ++ rest ∧ later = .between (text.reverse ++ before) rest := by
    intro text
    induction text with
    | nil => simp [Cursor.skip?, eq_comm]
    | cons d text hyp =>
        intro before after later
        cases after with
        | nil => simp [Cursor.skip?]
        | cons c after =>
            by_cases same : c = d
            · subst same
              simp [Cursor.skip?, CaseMode.sameText, hyp]
            · have different : c.toNat ≠ d.toNat := fun equal => same (Char.toNat_inj.mp equal)
              simp [Cursor.skip?, CaseMode.sameText, CaseMode.lower, same, different]
  simp only [results, captured, Option.mem_toList, Option.map_eq_some_iff, skips]
  constructor
  · rintro ⟨later, ⟨rest, split, rfl⟩, rfl⟩
    exact ⟨rest, split, rfl⟩
  · rintro ⟨rest, split, rfl⟩
    exact ⟨_, ⟨rest, split, rfl⟩, rfl⟩

/-- A condition on what follows leaves the place and, if it captures nothing, the
captures as they are. -/
theorem mem_ahead_iff {body : Node}
    (keeps : ∀ inner ∈ body.results state, inner.opened = state.opened ∧
      inner.closed = state.closed) :
    reached ∈ (ahead true body).results state ↔ body.results state ≠ [] ∧ reached = state := by
  cases found : body.results state with
  | nil => simp [results, found]
  | cons inner others =>
      obtain ⟨sameOpened, sameClosed⟩ := keeps inner (by simp [found])
      simp [results, found, State.moveTo, sameOpened, sameClosed]

/-- No character of the class stands before the place. -/
theorem mem_behind_iff {cls : CharClass} :
    reached ∈ (behind false 1 (char cls)).results ⟨.between before after, opened, closed⟩ ↔
      (∀ c ∈ before.head?, cls.contains c = false) ∧
        reached = ⟨.between before after, opened, closed⟩ := by
  cases before with
  | nil => simp [results]
  | cons c before =>
      by_cases member : cls.contains c = true
      · simp [results, State.moveTo, member]
      · simp [results, State.moveTo, member]

/-! ## Sequences and choices -/

@[simp] theorem results_sequence_nil : (sequence []).results state = [state] := rfl

theorem mem_sequence_cons_iff {node : Node} {rest : List Node} :
    reached ∈ (sequence (node :: rest)).results state ↔
      ∃ middle ∈ node.results state, reached ∈ (sequence rest).results middle := by
  cases rest with
  | nil => simp [sequence, results]
  | cons next rest => simp [sequence, results]

theorem mem_sequence_append_iff {first second : List Node} :
    reached ∈ (sequence (first ++ second)).results state ↔
      ∃ middle ∈ (sequence first).results state, reached ∈ (sequence second).results middle := by
  induction first generalizing state with
  | nil => simp
  | cons node first hyp =>
      simp only [List.cons_append, mem_sequence_cons_iff, hyp]
      constructor
      · rintro ⟨middle, inNode, last, inFirst, inSecond⟩
        exact ⟨last, ⟨middle, inNode, inFirst⟩, inSecond⟩
      · rintro ⟨last, ⟨middle, inNode, inFirst⟩, inSecond⟩
        exact ⟨middle, inNode, last, inFirst, inSecond⟩

theorem mem_choice_iff {nodes : List Node} (nonempty : nodes ≠ []) :
    reached ∈ (choice nodes).results state ↔ ∃ node ∈ nodes, reached ∈ node.results state := by
  induction nodes with
  | nil => exact absurd rfl nonempty
  | cons node rest hyp =>
      cases rest with
      | nil => simp [choice]
      | cons next rest =>
          rw [choice, mem_alt_iff, hyp (by simp)]
          · simp
          · simp

/-- A written-out text. -/
theorem mem_lits_iff {text : List Char} :
    reached ∈ (sequence (text.map fun c => lit c)).results
        ⟨.between before after, opened, closed⟩ ↔
      ∃ rest, after = text ++ rest ∧
        reached = ⟨.between (text.reverse ++ before) rest, opened, closed⟩ := by
  induction text generalizing before after with
  | nil =>
      simp only [List.map_nil, results_sequence_nil, List.mem_singleton, List.nil_append,
        List.reverse_nil]
      exact ⟨fun equal => ⟨after, rfl, equal⟩, fun ⟨_, same, equal⟩ => same ▸ equal⟩
  | cons d text hyp =>
      simp only [List.map_cons, mem_sequence_cons_iff, lit, oneOf, mem_char_iff, contains_oneOf,
        List.any_cons, List.any_nil, ClassItem.contains_ofChar, Bool.or_false,
        decide_eq_true_eq]
      constructor
      · rintro ⟨_, ⟨c, rest, rfl, rfl, rfl⟩, inRest⟩
        obtain ⟨last, rfl, rfl⟩ := hyp.mp inRest
        exact ⟨last, rfl, by simp⟩
      · rintro ⟨rest, rfl, rfl⟩
        exact ⟨_, ⟨d, text ++ rest, rfl, rfl, rfl⟩, hyp.mpr ⟨rest, rfl, by simp⟩⟩

/-! ## Repeated characters -/

section Repeated

variable {cls : CharClass}

theorem mem_timesResults_char_iff {count : Nat} :
    reached ∈ timesResults (char cls).results count ⟨.between before after, opened, closed⟩ ↔
      ∃ run rest, after = run ++ rest ∧ run.length = count ∧
        (∀ c ∈ run, cls.contains c = true) ∧
        reached = ⟨.between (run.reverse ++ before) rest, opened, closed⟩ := by
  induction count generalizing before after with
  | zero =>
      simp only [timesResults, List.mem_singleton, List.length_eq_zero_iff]
      constructor
      · rintro rfl
        exact ⟨[], after, rfl, rfl, by simp, rfl⟩
      · rintro ⟨_, rest, rfl, rfl, _, rfl⟩
        rfl
  | succ count hyp =>
      simp only [timesResults, List.mem_flatMap, mem_char_iff]
      constructor
      · rintro ⟨_, ⟨c, rest, rfl, member, rfl⟩, inRest⟩
        obtain ⟨run, last, rfl, rfl, members, rfl⟩ := hyp.mp inRest
        refine ⟨c :: run, last, rfl, rfl, ?_, by simp⟩
        simpa using ⟨member, members⟩
      · rintro ⟨run, last, rfl, length, members, rfl⟩
        obtain ⟨c, run, rfl⟩ := List.exists_cons_of_length_eq_add_one length
        refine ⟨_, ⟨c, run ++ last, rfl, members c (by simp), rfl⟩, hyp.mpr ?_⟩
        exact ⟨run, last, rfl, by simpa using length, fun d inRun => members d (by simp [inRun]),
          by simp⟩

/-- Running on from a place by characters of a class, in either order of preference. -/
private theorem mem_further_char_iff
    {further : (State → List State) → Nat → State → List State}
    (zero : ∀ body state, further body 0 state = [state])
    (succ : ∀ body count state reached, reached ∈ further body (count + 1) state ↔
      reached = state ∨ ∃ middle ∈ body state,
        if middle.cursor.left = state.cursor.left then reached = middle
        else reached ∈ further body count middle)
    {count : Nat} :
    reached ∈ further (char cls).results count ⟨.between before after, opened, closed⟩ ↔
      ∃ run rest, after = run ++ rest ∧ run.length ≤ count ∧
        (∀ c ∈ run, cls.contains c = true) ∧
        reached = ⟨.between (run.reverse ++ before) rest, opened, closed⟩ := by
  induction count generalizing before after with
  | zero =>
      simp only [zero, List.mem_singleton, Nat.le_zero_eq, List.length_eq_zero_iff]
      constructor
      · rintro rfl
        exact ⟨[], after, rfl, rfl, by simp, rfl⟩
      · rintro ⟨_, rest, rfl, rfl, _, rfl⟩
        rfl
  | succ count hyp =>
      simp only [succ, mem_char_iff]
      constructor
      · rintro (rfl | ⟨_, ⟨c, rest, rfl, member, rfl⟩, inRest⟩)
        · exact ⟨[], after, rfl, by simp, by simp, rfl⟩
        · rw [if_neg (by simp)] at inRest
          obtain ⟨run, last, rfl, length, members, rfl⟩ := hyp.mp inRest
          exact ⟨c :: run, last, rfl, by simpa using length, by simpa using ⟨member, members⟩,
            by simp⟩
      · rintro ⟨run, last, rfl, length, members, rfl⟩
        cases run with
        | nil => exact .inl rfl
        | cons c run =>
            refine .inr ⟨_, ⟨c, run ++ last, rfl, members c (by simp), rfl⟩, ?_⟩
            rw [if_neg (by simp)]
            exact hyp.mpr ⟨run, last, rfl, by simpa using length,
              fun d inRun => members d (by simp [inRun]), by simp⟩

theorem mem_manyResults_char_iff {count : Nat} :
    reached ∈ manyResults (char cls).results count ⟨.between before after, opened, closed⟩ ↔
      ∃ run rest, after = run ++ rest ∧ run.length ≤ count ∧
        (∀ c ∈ run, cls.contains c = true) ∧
        reached = ⟨.between (run.reverse ++ before) rest, opened, closed⟩ := by
  refine mem_further_char_iff (fun _ _ => rfl) ?_
  intro body count state reached
  simp only [manyResults, List.mem_append, List.mem_flatMap, List.mem_singleton]
  rw [or_comm]
  refine or_congr_right (exists_congr fun middle => and_congr_right fun _ => ?_)
  split <;> simp

theorem mem_fewResults_char_iff {count : Nat} :
    reached ∈ fewResults (char cls).results count ⟨.between before after, opened, closed⟩ ↔
      ∃ run rest, after = run ++ rest ∧ run.length ≤ count ∧
        (∀ c ∈ run, cls.contains c = true) ∧
        reached = ⟨.between (run.reverse ++ before) rest, opened, closed⟩ := by
  refine mem_further_char_iff (fun _ _ => rfl) ?_
  intro body count state reached
  simp only [fewResults, List.mem_cons, List.mem_flatMap]
  refine or_congr_right (exists_congr fun middle => and_congr_right fun _ => ?_)
  split <;> simp

/-- Characters of a class, as many as there are or as few as will do: at least `least`
of them and, if `most` is given, no more than that. -/
theorem mem_iterate_char_iff {appetite : Appetite} (shared : appetite ≠ .possessive)
    {least : Nat} {most : Option Nat} :
    reached ∈ (iterate appetite least most (char cls)).results
        ⟨.between before after, opened, closed⟩ ↔
      ∃ run rest, after = run ++ rest ∧ least ≤ run.length ∧
        (∀ limit ∈ most, run.length ≤ least + (limit - least)) ∧
        (∀ c ∈ run, cls.contains c = true) ∧
        reached = ⟨.between (run.reverse ++ before) rest, opened, closed⟩ := by
  -- Both orders of preference go on from the first `least` characters in the same way.
  have unfolded : reached ∈ (iterate appetite least most (char cls)).results
        ⟨.between before after, opened, closed⟩ ↔
      ∃ middle ∈ timesResults (char cls).results least ⟨.between before after, opened, closed⟩,
        reached ∈ manyResults (char cls).results
          (roundLimit (most.map (· - least)) middle) middle := by
    cases appetite with
    | greedy => exact List.mem_flatMap
    | possessive => exact absurd rfl shared
    | lazy =>
        refine List.mem_flatMap.trans ?_
        refine exists_congr fun middle => and_congr_right fun inTimes => ?_
        obtain ⟨run, rest, rfl, _, _, rfl⟩ := mem_timesResults_char_iff.mp inTimes
        rw [mem_fewResults_char_iff, mem_manyResults_char_iff]
  rw [unfolded]
  constructor
  · rintro ⟨_, inTimes, inMany⟩
    obtain ⟨first, rest, rfl, length, members, rfl⟩ := mem_timesResults_char_iff.mp inTimes
    obtain ⟨second, last, rfl, bound, others, rfl⟩ := mem_manyResults_char_iff.mp inMany
    refine ⟨first ++ second, last, by simp, by simp [length], ?_, ?_, by simp⟩
    · intro limit isMost
      rw [Option.mem_def] at isMost
      simp only [isMost, roundLimit, Option.map_some] at bound
      simp only [List.length_append]
      omega
    · intro c inRun
      rcases List.mem_append.mp inRun with inFirst | inSecond
      · exact members c inFirst
      · exact others c inSecond
  · rintro ⟨run, rest, rfl, enough, bound, members, rfl⟩
    refine ⟨⟨.between ((run.take least).reverse ++ before) (run.drop least ++ rest), opened,
      closed⟩, mem_timesResults_char_iff.mpr ?_, mem_manyResults_char_iff.mpr ?_⟩
    · refine ⟨run.take least, run.drop least ++ rest, ?_, List.length_take_of_le enough, ?_, rfl⟩
      · rw [← List.append_assoc, List.take_append_drop]
      · exact fun c inRun => members c (List.mem_of_mem_take inRun)
    · refine ⟨run.drop least, rest, rfl, ?_, ?_, ?_⟩
      · cases most with
        | none =>
            simp only [roundLimit, Option.map_none, Cursor.between_left, List.length_append]
            omega
        | some limit =>
            have few := bound limit rfl
            simp only [roundLimit, Option.map_some, Cursor.between_left, List.length_append,
              List.length_drop]
            omega
      · exact fun c inRun => members c (List.mem_of_mem_drop inRun)
      · rw [← List.append_assoc, ← List.reverse_append, List.take_append_drop]

/-- Any number of characters of a class. -/
theorem mem_star_char_iff :
    reached ∈ (star (char cls)).results ⟨.between before after, opened, closed⟩ ↔
      ∃ run rest, after = run ++ rest ∧ (∀ c ∈ run, cls.contains c = true) ∧
        reached = ⟨.between (run.reverse ++ before) rest, opened, closed⟩ := by
  rw [star, mem_iterate_char_iff (by decide)]
  simp

/-- At least one character of a class. -/
theorem mem_plus_char_iff :
    reached ∈ (plus (char cls)).results ⟨.between before after, opened, closed⟩ ↔
      ∃ run rest, after = run ++ rest ∧ run ≠ [] ∧ (∀ c ∈ run, cls.contains c = true) ∧
        reached = ⟨.between (run.reverse ++ before) rest, opened, closed⟩ := by
  rw [plus, mem_iterate_char_iff (by decide)]
  simp [Nat.one_le_iff_ne_zero, List.length_eq_zero_iff]

end Repeated

/-! ## Places -/

theorem holds_textStart :
    Anchor.holds .textStart (.between before after) = true ↔ before = [] := by
  simp [Anchor.holds]

theorem holds_lastLineEnd :
    Anchor.holds .lastLineEnd (.between before after) = true ↔ after = [] ∨ after = ['\n'] := by
  simp [Anchor.holds]

/-- Before a word, a place is a boundary if no word character precedes it. -/
theorem holds_boundary_before {word : List Char} (nonempty : word ≠ [])
    (isText : ∀ c ∈ word, isWord c = true) :
    Anchor.holds (.wordBoundary false) (.between before (word ++ after)) = true ↔
      NoWordNext before := by
  obtain ⟨c, word, rfl⟩ := List.exists_cons_of_ne_nil nonempty
  have isFirst : isWord c = true := isText c (by simp)
  cases before with
  | nil => simp [Anchor.holds, Cursor.inEmptyText, Cursor.atWordBoundary, NoWordNext, isFirst]
  | cons d before =>
      simp [Anchor.holds, Cursor.inEmptyText, Cursor.atWordBoundary, NoWordNext, isFirst]

/-- After a word, a place is a boundary if no word character follows it. -/
theorem holds_boundary_after {word : List Char} (nonempty : word ≠ [])
    (isText : ∀ c ∈ word, isWord c = true) :
    Anchor.holds (.wordBoundary false) (.between (word.reverse ++ before) after) = true ↔
      NoWordNext after := by
  obtain ⟨word, c, rfl⟩ := List.eq_nil_or_concat word |>.resolve_left nonempty
  have isLast : isWord c = true := isText c (by simp)
  cases after with
  | nil => simp [Anchor.holds, Cursor.inEmptyText, Cursor.atWordBoundary, NoWordNext, isLast]
  | cons d after =>
      cases next : isWord d <;>
        simp [Anchor.holds, Cursor.inEmptyText, Cursor.atWordBoundary, NoWordNext, isLast, next]

/-! ## Conditions on what is reached -/

/-- Some state that a pattern reaches meets a condition. -/
def Reaches (node : Node) (state : State) (condition : State → Prop) : Prop :=
  ∃ reached ∈ node.results state, condition reached

section Reaches

variable {condition : State → Prop} {cls : CharClass}

/-- A condition is met after a pattern that leads from one explicit state to others. -/
private theorem reaches_of_mem_iff {α : Type} {node : Node} {target : α → State}
    {guard : α → Prop}
    (member : ∀ reached, reached ∈ node.results state ↔ ∃ a, guard a ∧ reached = target a) :
    node.Reaches state condition ↔ ∃ a, guard a ∧ condition (target a) := by
  constructor
  · rintro ⟨reached, isReached, holds⟩
    obtain ⟨a, guarded, rfl⟩ := (member reached).mp isReached
    exact ⟨a, guarded, holds⟩
  · rintro ⟨a, guarded, holds⟩
    exact ⟨_, (member _).mpr ⟨a, guarded, rfl⟩, holds⟩

theorem reaches_empty_iff : empty.Reaches state condition ↔ condition state := by
  simp [Reaches, results]

theorem reaches_char_iff :
    (char cls).Reaches ⟨.between before after, opened, closed⟩ condition ↔
      ∃ c rest, after = c :: rest ∧ cls.contains c = true ∧
        condition ⟨.between (c :: before) rest, opened, closed⟩ := by
  simp only [Reaches, mem_char_iff]
  constructor
  · rintro ⟨_, ⟨c, rest, split, member, rfl⟩, holds⟩
    exact ⟨c, rest, split, member, holds⟩
  · rintro ⟨c, rest, split, member, holds⟩
    exact ⟨_, ⟨c, rest, split, member, rfl⟩, holds⟩

theorem reaches_anchor_iff {place : Anchor} :
    (anchor place).Reaches state condition ↔ place.holds state.cursor = true ∧ condition state := by
  simp only [Reaches, mem_anchor_iff]
  constructor
  · rintro ⟨_, ⟨holds, rfl⟩, met⟩
    exact ⟨holds, met⟩
  · rintro ⟨holds, met⟩
    exact ⟨_, ⟨holds, rfl⟩, met⟩

theorem reaches_group_iff {index : Nat} {body : Node} :
    (group index body).Reaches state condition ↔
      body.Reaches (state.openGroup index) fun inner => condition (inner.closeGroup index) := by
  simp only [Reaches, mem_group_iff]
  constructor
  · rintro ⟨_, ⟨inner, isInner, rfl⟩, met⟩
    exact ⟨inner, isInner, met⟩
  · rintro ⟨inner, isInner, met⟩
    exact ⟨_, ⟨inner, isInner, rfl⟩, met⟩

theorem reaches_choice_iff {nodes : List Node} (nonempty : nodes ≠ []) :
    (choice nodes).Reaches state condition ↔ ∃ node ∈ nodes, node.Reaches state condition := by
  simp only [Reaches, mem_choice_iff nonempty]
  constructor
  · rintro ⟨reached, ⟨node, isNode, isReached⟩, met⟩
    exact ⟨node, isNode, reached, isReached, met⟩
  · rintro ⟨node, isNode, reached, isReached, met⟩
    exact ⟨reached, ⟨node, isNode, isReached⟩, met⟩

theorem reaches_sequence_nil_iff : (sequence []).Reaches state condition ↔ condition state := by
  simp [Reaches]

theorem reaches_sequence_cons_iff {node : Node} {rest : List Node} :
    (sequence (node :: rest)).Reaches state condition ↔
      node.Reaches state fun middle => (sequence rest).Reaches middle condition := by
  simp only [Reaches, mem_sequence_cons_iff]
  constructor
  · rintro ⟨reached, ⟨middle, isMiddle, isReached⟩, met⟩
    exact ⟨middle, isMiddle, reached, isReached, met⟩
  · rintro ⟨middle, isMiddle, reached, isReached, met⟩
    exact ⟨reached, ⟨middle, isMiddle, isReached⟩, met⟩

theorem reaches_sequence_append_iff {first second : List Node} :
    (sequence (first ++ second)).Reaches state condition ↔
      (sequence first).Reaches state fun middle => (sequence second).Reaches middle condition := by
  simp only [Reaches, mem_sequence_append_iff]
  constructor
  · rintro ⟨reached, ⟨middle, isMiddle, isReached⟩, met⟩
    exact ⟨middle, isMiddle, reached, isReached, met⟩
  · rintro ⟨middle, isMiddle, reached, isReached, met⟩
    exact ⟨reached, ⟨middle, isMiddle, isReached⟩, met⟩

theorem reaches_lits_iff {text : List Char} :
    (sequence (text.map fun c => lit c)).Reaches ⟨.between before after, opened, closed⟩
        condition ↔
      ∃ rest, after = text ++ rest ∧
        condition ⟨.between (text.reverse ++ before) rest, opened, closed⟩ :=
  reaches_of_mem_iff fun _ => mem_lits_iff

theorem reaches_lit_iff {c : Char} :
    (lit c).Reaches ⟨.between before after, opened, closed⟩ condition ↔
      ∃ rest, after = c :: rest ∧ condition ⟨.between (c :: before) rest, opened, closed⟩ := by
  have single : lit c = sequence ([c].map fun c => lit c) := rfl
  rw [single, reaches_lits_iff]
  simp

/-- One of several written-out texts. -/
theorem reaches_words_iff {texts : List String} (nonempty : texts ≠ []) :
    (words texts).Reaches ⟨.between before after, opened, closed⟩ condition ↔
      ∃ text ∈ texts, ∃ rest, after = text.toList ++ rest ∧
        condition ⟨.between (text.toList.reverse ++ before) rest, opened, closed⟩ := by
  rw [words, reaches_choice_iff (by simpa using nonempty)]
  simp only [List.mem_map, exists_exists_and_eq_and, lits, reaches_lits_iff]

theorem reaches_star_char_iff :
    (star (char cls)).Reaches ⟨.between before after, opened, closed⟩ condition ↔
      ∃ run rest, after = run ++ rest ∧ (∀ c ∈ run, cls.contains c = true) ∧
        condition ⟨.between (run.reverse ++ before) rest, opened, closed⟩ := by
  simp only [Reaches, mem_star_char_iff]
  constructor
  · rintro ⟨_, ⟨run, rest, split, members, rfl⟩, met⟩
    exact ⟨run, rest, split, members, met⟩
  · rintro ⟨run, rest, split, members, met⟩
    exact ⟨_, ⟨run, rest, split, members, rfl⟩, met⟩

theorem reaches_plus_char_iff :
    (plus (char cls)).Reaches ⟨.between before after, opened, closed⟩ condition ↔
      ∃ run rest, after = run ++ rest ∧ run ≠ [] ∧ (∀ c ∈ run, cls.contains c = true) ∧
        condition ⟨.between (run.reverse ++ before) rest, opened, closed⟩ := by
  simp only [Reaches, mem_plus_char_iff]
  constructor
  · rintro ⟨_, ⟨run, rest, split, nonempty, members, rfl⟩, met⟩
    exact ⟨run, rest, split, nonempty, members, met⟩
  · rintro ⟨run, rest, split, nonempty, members, met⟩
    exact ⟨_, ⟨run, rest, split, nonempty, members, rfl⟩, met⟩

theorem reaches_iterate_char_iff {appetite : Appetite} (shared : appetite ≠ .possessive)
    {least : Nat} {most : Option Nat} :
    (iterate appetite least most (char cls)).Reaches ⟨.between before after, opened, closed⟩
        condition ↔
      ∃ run rest, after = run ++ rest ∧ least ≤ run.length ∧
        (∀ limit ∈ most, run.length ≤ least + (limit - least)) ∧
        (∀ c ∈ run, cls.contains c = true) ∧
        condition ⟨.between (run.reverse ++ before) rest, opened, closed⟩ := by
  simp only [Reaches, mem_iterate_char_iff shared]
  constructor
  · rintro ⟨_, ⟨run, rest, split, enough, bound, members, rfl⟩, met⟩
    exact ⟨run, rest, split, enough, bound, members, met⟩
  · rintro ⟨run, rest, split, enough, bound, members, met⟩
    exact ⟨_, ⟨run, rest, split, enough, bound, members, rfl⟩, met⟩

theorem reaches_backref_iff {index : Nat} {text : List Char}
    (captured : (State.mk (.between before after) opened closed).capture? index = some text) :
    (backref index .exact).Reaches ⟨.between before after, opened, closed⟩ condition ↔
      ∃ rest, after = text ++ rest ∧
        condition ⟨.between (text.reverse ++ before) rest, opened, closed⟩ :=
  reaches_of_mem_iff fun _ => mem_backref_iff captured

theorem reaches_behind_iff :
    (behind false 1 (char cls)).Reaches ⟨.between before after, opened, closed⟩ condition ↔
      (∀ c ∈ before.head?, cls.contains c = false) ∧
        condition ⟨.between before after, opened, closed⟩ := by
  simp only [Reaches, mem_behind_iff]
  constructor
  · rintro ⟨_, ⟨stop, rfl⟩, met⟩
    exact ⟨stop, met⟩
  · rintro ⟨stop, met⟩
    exact ⟨_, ⟨stop, rfl⟩, met⟩

/-- A look ahead at something that captures nothing. -/
theorem reaches_ahead_iff {body : Node}
    (keeps : ∀ {condition : State → Prop}, body.Reaches state condition →
      ∃ cursor, condition ⟨cursor, state.opened, state.closed⟩) :
    (ahead true body).Reaches state condition ↔
      body.Reaches state (fun _ => True) ∧ condition state := by
  have some : body.Reaches state (fun _ => True) ↔ body.results state ≠ [] := by
    simp [Reaches, List.eq_nil_iff_forall_not_mem]
  have keepsAll : ∀ inner ∈ body.results state, inner.opened = state.opened ∧
      inner.closed = state.closed := by
    intro inner isInner
    obtain ⟨cursor, rfl⟩ := keeps ⟨inner, isInner, rfl⟩
    exact ⟨rfl, rfl⟩
  rw [some]
  simp only [Reaches, mem_ahead_iff keepsAll]
  constructor
  · rintro ⟨_, ⟨nonempty, rfl⟩, met⟩
    exact ⟨nonempty, met⟩
  · rintro ⟨nonempty, met⟩
    exact ⟨_, ⟨nonempty, rfl⟩, met⟩

end Reaches

/-! ## The match that is found -/

/-- The match at a place is made from the first state that is reached. -/
theorem matchAt_eq (node : Node) (cursor : Cursor) :
    node.matchAt false cursor = (node.results (.start cursor)).head?.map (Match.mk cursor) := by
  have accept : (fun reached : State =>
      if (false && decide (reached.cursor.left = cursor.left)) = true then none
      else some reached) = some := by
    funext reached
    simp
  rw [matchAt, accept, run_eq_findSome? node some, Runner.Searches.findSome?_some]

theorem matchAt_eq_none_iff (node : Node) (cursor : Cursor) :
    node.matchAt false cursor = none ↔ node.results (.start cursor) = [] := by
  simp [matchAt_eq]

/-- A match starts at its place and ends where the pattern reaches. -/
theorem mem_of_matchAt_eq_some {node : Node} {cursor : Cursor} {found : Match}
    (isMatch : node.matchAt false cursor = some found) :
    found.start = cursor ∧ found.final ∈ node.results (.start cursor) := by
  rw [matchAt_eq, Option.map_eq_some_iff] at isMatch
  obtain ⟨reached, first, rfl⟩ := isMatch
  exact ⟨rfl, List.mem_of_head? first⟩

/-- The match at a place, as a condition that the pattern reaches. -/
theorem reaches_of_matchAt_eq_some {node : Node} {cursor : Cursor} {found : Match}
    (isMatch : node.matchAt false cursor = some found) :
    found.start = cursor ∧ node.Reaches (.start cursor) (· = found.final) := by
  obtain ⟨start, member⟩ := mem_of_matchAt_eq_some isMatch
  exact ⟨start, _, member, rfl⟩

/-- A pattern that reaches anything has a match. -/
theorem exists_matchAt_of_reaches {node : Node} {cursor : Cursor}
    (reaches : node.Reaches (.start cursor) fun _ => True) :
    ∃ found, node.matchAt false cursor = some found := by
  obtain ⟨reached, member, _⟩ := reaches
  rw [← Option.isSome_iff_exists, Option.isSome_iff_ne_none, ne_eq, matchAt_eq_none_iff]
  exact List.ne_nil_of_mem member

/-- If a pattern can match in one way only, that way makes the match. -/
theorem matchAt_eq_some_iff {node : Node} {cursor : Cursor}
    (unique : ∀ first ∈ node.results (.start cursor), ∀ second ∈ node.results (.start cursor),
      first = second) {found : Match} :
    node.matchAt false cursor = some found ↔
      found.start = cursor ∧ found.final ∈ node.results (.start cursor) := by
  constructor
  · exact mem_of_matchAt_eq_some
  · rintro ⟨rfl, member⟩
    rw [matchAt_eq]
    cases reached : node.results (.start found.start) with
    | nil => simp [reached] at member
    | cons first others =>
        have isFirst : first = found.final := unique first (by simp [reached]) _ member
        simp [isFirst]

end Node

end LineRules.Pattern
