import LineRules.Pattern.Basic
import LineRules.Proofs.Pattern.Reach

/-!
# Texts cut at their matches

Finding all matches of a pattern cuts a text into characters that are kept and matches.
`Segmented` is that cut as a relation, for matchers that never find an empty match, and
`exists_segmented` ties it to `Matcher.findAll` and `stitch`: replacing every match is
writing the segments one after another.

A matcher nests when a match that starts inside another one also ends in it.
`Segmented.clear_induction` then offers, at every character that is kept, the fact that
no match which starts earlier reaches beyond it.
-/

namespace LineRules.Pattern

/-- A piece of a text that was searched. -/
inductive Segment where
  | kept (c : Char)
  | matched (found : Match)

namespace Segment

/-- The match of a segment. -/
def match? : Segment → Option Match
  | kept _ => none
  | matched found => some found

/-- What is written for a segment. -/
def chars (replacement : Match → List Char) : Segment → List Char
  | kept c => [c]
  | matched found => replacement found

end Segment

namespace Matcher

/-- Every match starts at its place and takes at least one character. -/
def Advances (matcher : Matcher) : Prop :=
  ∀ before after found, matcher false (.between before after) = some found →
    found.start = .between before after ∧
      ∃ piece rest, piece ≠ [] ∧ after = piece ++ rest ∧
        found.finish = .between (piece.reverse ++ before) rest

/-- In texts of some kind, a match that starts inside another one ends in it. -/
def NestsIn (matcher : Matcher) (inText : List Char → Prop) : Prop :=
  ∀ before skipped rest outer inner, inText (skipped ++ rest) → skipped ≠ [] →
    matcher false (.between before (skipped ++ rest)) = some outer →
    outer.finish.left < rest.length →
    matcher false (.between (skipped.reverse ++ before) rest) = some inner →
    outer.finish.left ≤ inner.finish.left

/-- A match that starts inside another one ends in it. -/
abbrev Nests (matcher : Matcher) : Prop :=
  matcher.NestsIn fun _ => True

/-- No match that starts before a place reaches beyond it. -/
def Clear (matcher : Matcher) (before after : List Char) : Prop :=
  ∀ skipped earlier, before = skipped.reverse ++ earlier → skipped ≠ [] →
    ∀ found, matcher false (.between earlier (skipped ++ after)) = some found →
      after.length ≤ found.finish.left

variable {matcher : Matcher} {before after : List Char}

theorem clear_start : matcher.Clear [] after := by
  intro skipped earlier split nonempty
  simp_all

/-! ## Searching -/

theorem find?_of_some {cursor : Cursor} {found : Match}
    (here : matcher false cursor = some found) : matcher.find? false cursor = some found := by
  unfold find?
  cases cursor.left <;> simp [firstMatch, here]

theorem find?_nil (here : matcher false (.between before []) = none) :
    matcher.find? false (.between before []) = none := by
  simp [find?, firstMatch, here]

theorem find?_cons {c : Char} (here : matcher false (.between before (c :: after)) = none) :
    matcher.find? false (.between before (c :: after)) =
      matcher.find? false (.between (c :: before) after) := by
  simp [find?, firstMatch, here]

/-- A search finds a match at one of the places ahead. -/
theorem exists_of_find?_eq_some {found : Match}
    (search : matcher.find? false (.between before after) = some found) :
    ∃ skipped rest, after = skipped ++ rest ∧
      matcher false (.between (skipped.reverse ++ before) rest) = some found := by
  induction after generalizing before with
  | nil =>
      cases here : matcher false (.between before []) with
      | none => simp [find?_nil here] at search
      | some other =>
          rw [find?_of_some here] at search
          exact ⟨[], [], rfl, by simpa [here] using search⟩
  | cons c after hyp =>
      cases here : matcher false (.between before (c :: after)) with
      | none =>
          rw [find?_cons here] at search
          obtain ⟨skipped, rest, rfl, isMatch⟩ := hyp search
          exact ⟨c :: skipped, rest, rfl, by simpa using isMatch⟩
      | some other =>
          rw [find?_of_some here] at search
          exact ⟨[], c :: after, rfl, by simpa [here] using search⟩

/-- A match at one of the places ahead makes a search succeed. -/
theorem find?_isSome_of_match {skipped rest : List Char} {found : Match}
    (isMatch : matcher false (.between (skipped.reverse ++ before) rest) = some found) :
    (matcher.find? false (.between before (skipped ++ rest))).isSome = true := by
  induction skipped generalizing before with
  | nil =>
      have search : matcher.find? false (.between before rest) = some found := find?_of_some isMatch
      simp [search]
  | cons c skipped hyp =>
      cases here : matcher false (.between before (c :: (skipped ++ rest))) with
      | some other => simp [find?_of_some here]
      | none =>
          rw [List.cons_append, find?_cons here]
          exact hyp (by simpa using isMatch)

end Matcher

/-! ## Segments -/

/-- How finding all matches cuts the text after a place. -/
inductive Segmented (matcher : Matcher) : List Char → List Char → List Segment → Prop where
  | done {before : List Char} (none : matcher false (.between before []) = none) :
      Segmented matcher before [] []
  | keep {before after : List Char} {c : Char} {segments : List Segment}
      (none : matcher false (.between before (c :: after)) = none)
      (rest : Segmented matcher (c :: before) after segments) :
      Segmented matcher before (c :: after) (.kept c :: segments)
  | found {before piece after : List Char} {found : Match} {segments : List Segment}
      (isMatch : matcher false (.between before (piece ++ after)) = some found)
      (start : found.start = .between before (piece ++ after))
      (finish : found.finish = .between (piece.reverse ++ before) after)
      (rest : Segmented matcher (piece.reverse ++ before) after segments) :
      Segmented matcher before (piece ++ after) (.matched found :: segments)

namespace Matcher

variable {matcher : Matcher} {before after : List Char}

theorem start_le_of_find? (advances : matcher.Advances) {found : Match}
    (search : matcher.find? false (.between before after) = some found) :
    found.start.left ≤ after.length := by
  obtain ⟨skipped, rest, rfl, isMatch⟩ := exists_of_find?_eq_some search
  simp [(advances _ _ _ isMatch).1]

/-- Writing the text from one character earlier writes that character first. -/
private theorem stitch_cons {replacement : Match → List Char} {c : Char} {matches_ : List Match}
    (ahead : ∀ found ∈ matches_.head?, found.start.left ≤ after.length) :
    stitch replacement (.between before (c :: after)) matches_ =
      c :: stitch replacement (.between (c :: before) after) matches_ := by
  cases matches_ with
  | nil => rfl
  | cons found rest =>
      have bound : found.start.left ≤ after.length := ahead found (by simp)
      have count : after.length + 1 - found.start.left = after.length - found.start.left + 1 := by
        omega
      simp [stitch, Cursor.upTo, count]

private theorem exists_segmented_from (advances : matcher.Advances) (count : Nat)
    (enough : after.length < count) :
    ∃ segments, Segmented matcher before after segments ∧
      matcher.matchesFrom count false (.between before after) =
        segments.filterMap Segment.match? ∧
      ∀ replacement, stitch replacement (.between before after)
          (matcher.matchesFrom count false (.between before after)) =
        segments.flatMap (Segment.chars replacement) := by
  -- Every step leaves less text, but only a match uses up one of the `count` rounds.
  induction length : after.length using Nat.strongRecOn
    generalizing before after count with
  | _ size hyp =>
      subst length
      obtain ⟨count, rfl⟩ : ∃ less, count = less + 1 := ⟨count - 1, by omega⟩
      cases here : matcher false (.between before after) with
      | some found =>
          obtain ⟨start, piece, rest, nonempty, rfl, finish⟩ := advances _ _ _ here
          have shorter : rest.length < (piece ++ rest).length := by
            simpa using List.length_pos_iff.mpr nonempty
          have nonemptyMatch : found.isEmpty = false := by
            simp [Match.isEmpty, start, finish]
            omega
          obtain ⟨segments, segmented, all, written⟩ :=
            @hyp _ shorter (piece.reverse ++ before) rest count (by omega) rfl
          refine ⟨.matched found :: segments, .found here start finish segmented, ?_, ?_⟩
          · simp [matchesFrom, find?_of_some here, nonemptyMatch, finish, all, Segment.match?]
          · intro replacement
            have upTo : (Cursor.between before (piece ++ rest)).upTo
                (.between before (piece ++ rest)) = [] := Cursor.upTo_self _
            simp [matchesFrom, find?_of_some here, nonemptyMatch, finish, start, stitch, written,
              upTo, Segment.chars]
      | none =>
          cases after with
          | nil =>
              refine ⟨[], .done here, ?_, ?_⟩
              · simp [matchesFrom, find?_nil here]
              · simp [matchesFrom, find?_nil here, stitch]
          | cons c after =>
              have same : matcher.matchesFrom (count + 1) false (.between before (c :: after)) =
                  matcher.matchesFrom (count + 1) false (.between (c :: before) after) := by
                simp [matchesFrom, find?_cons here]
              obtain ⟨segments, segmented, all, written⟩ :=
                @hyp after.length (by simp) (c :: before) after (count + 1)
                  (by simp at enough; omega) rfl
              refine ⟨.kept c :: segments, .keep here segmented, ?_, ?_⟩
              · rw [same, all]
                rfl
              · intro replacement
                rw [same, stitch_cons, written]
                · rfl
                · intro found isFirst
                  rw [matchesFrom] at isFirst
                  cases search : matcher.find? false (.between (c :: before) after) with
                  | none => simp [search] at isFirst
                  | some first =>
                      obtain rfl : first = found := by simpa [search] using isFirst
                      exact start_le_of_find? advances search

/-- A text is cut by all matches found in it, and replacing them is writing the
segments. -/
theorem exists_segmented (advances : matcher.Advances) (text : List Char) :
    ∃ segments, Segmented matcher [] text segments ∧
      matcher.findAll text = segments.filterMap Segment.match? ∧
      ∀ replacement, stitch replacement (.between [] text) (matcher.findAll text) =
        segments.flatMap (Segment.chars replacement) :=
  exists_segmented_from advances _ (by omega)

end Matcher

namespace Segmented

variable {matcher : Matcher}

theorem exists_of_mem {before after : List Char} {segments : List Segment}
    (segmented : Segmented matcher before after segments) {found : Match}
    (isSegment : .matched found ∈ segments) :
    ∃ skipped rest, after = skipped ++ rest ∧
      matcher false (.between (skipped.reverse ++ before) rest) = some found := by
  induction segmented with
  | done => simp at isSegment
  | @keep before after c segments _ _ hyp =>
      obtain ⟨skipped, rest, rfl, isMatch⟩ := hyp (by simpa using isSegment)
      exact ⟨c :: skipped, rest, rfl, by simpa using isMatch⟩
  | @found before piece after other segments isMatch _ _ _ hyp =>
      rcases List.mem_cons.mp isSegment with same | isLater
      · obtain rfl := Segment.matched.inj same
        exact ⟨[], piece ++ after, rfl, isMatch⟩
      · obtain ⟨skipped, rest, rfl, isLaterMatch⟩ := hyp isLater
        exact ⟨piece ++ skipped, rest, by simp, by simpa using isLaterMatch⟩

/-- A kept character leaves the text after it clear. -/
private theorem clear_cons {before after : List Char} {c : Char}
    (none : matcher false (.between before (c :: after)) = none)
    (clear : matcher.Clear before (c :: after)) : matcher.Clear (c :: before) after := by
  intro skipped earlier split nonempty other isMatch
  obtain ⟨skipped, last, rfl⟩ := List.eq_nil_or_concat skipped |>.resolve_left nonempty
  simp only [List.concat_eq_append, List.reverse_append, List.reverse_cons, List.reverse_nil,
    List.nil_append, List.cons_append, List.cons.injEq] at split
  obtain ⟨rfl, rfl⟩ := split
  cases skipped with
  | nil =>
      have absent : matcher false (.between earlier (c :: after)) = some other := isMatch
      simp_all
  | cons d skipped =>
      have reach := clear (d :: skipped) earlier rfl (by simp) other (by simpa using isMatch)
      simp only [List.length_cons] at reach
      omega

/-- What starts at a match or inside of it does not reach beyond it. -/
private theorem length_le_of_inside {inText : List Char → Prop} (nests : matcher.NestsIn inText)
    {before piece skipped after : List Char} {outer inner : Match}
    (here : inText (piece ++ (skipped ++ after))) (nonempty : skipped ≠ [])
    (isMatch : matcher false (.between before (piece ++ (skipped ++ after))) = some outer)
    (whole : outer.finish.left = after.length)
    (isInner : matcher false (.between (piece.reverse ++ before) (skipped ++ after)) = some inner) :
    after.length ≤ inner.finish.left := by
  rw [← whole]
  cases piece with
  | nil =>
      have same : matcher false (.between before (skipped ++ after)) = some outer := by
        simpa using isMatch
      obtain rfl : outer = inner := Option.some.inj (same.symm.trans isInner)
      exact Nat.le_refl _
  | cons d piece =>
      refine nests before (d :: piece) (skipped ++ after) outer inner here (by simp) isMatch ?_ isInner
      have more : 0 < skipped.length := List.length_pos_iff.mpr nonempty
      simp only [whole, List.length_append]
      omega

/-- A match leaves the text after it clear. -/
private theorem clear_append {inText : List Char → Prop} (nests : matcher.NestsIn inText)
    {before piece after : List Char} {outer : Match} (here : inText (piece ++ after))
    (isMatch : matcher false (.between before (piece ++ after)) = some outer)
    (finish : outer.finish = .between (piece.reverse ++ before) after)
    (clear : matcher.Clear before (piece ++ after)) :
    matcher.Clear (piece.reverse ++ before) after := by
  intro skipped earlier split nonempty inner isInner
  have whole : outer.finish.left = after.length := by simp [finish]
  rcases List.append_eq_append_iff.mp split with ⟨more, turned, rfl⟩ | ⟨more, turned, rfl⟩
  · -- The other match starts before this one or with it.
    obtain ⟨other, rfl⟩ : ∃ other, skipped = other ++ piece :=
      ⟨more.reverse, by simpa using congrArg List.reverse turned⟩
    obtain rfl : other.reverse = more := by simpa using turned
    cases other with
    | nil =>
        have same : matcher false (.between earlier (piece ++ after)) = some inner := by
          simpa using isInner
        obtain rfl : outer = inner := Option.some.inj (isMatch.symm.trans same)
        simp [whole]
    | cons d other =>
        have reach := clear (d :: other) earlier (by simp) (by simp) inner
          (by simpa using isInner)
        simp only [List.length_append] at reach
        omega
  · -- The other match starts inside of this one.
    obtain ⟨other, rfl⟩ : ∃ other, piece = other ++ skipped :=
      ⟨more.reverse, by simpa using congrArg List.reverse turned⟩
    obtain rfl : other.reverse = more := by simpa using turned
    exact length_le_of_inside nests (by simpa using here) nonempty (by simpa using isMatch) whole
      isInner

/-- Induction over the segments of a text that knows, at every kept character, that no
match reaches beyond it from an earlier place. -/
theorem clear_induction {inText : List Char → Prop} (nests : matcher.NestsIn inText)
    (inRest : ∀ first {second}, inText (first ++ second) → inText second)
    {motive : List Char → List Char → List Segment → Prop}
    (done : ∀ before, motive before [] [])
    (keep : ∀ before c after segments, inText (c :: after) →
      matcher false (.between before (c :: after)) = none →
      matcher.Clear before (c :: after) → motive (c :: before) after segments →
      motive before (c :: after) (.kept c :: segments))
    (found : ∀ before piece after found segments, inText (piece ++ after) →
      matcher false (.between before (piece ++ after)) = some found →
      found.start = .between before (piece ++ after) →
      found.finish = .between (piece.reverse ++ before) after →
      motive (piece.reverse ++ before) after segments →
      motive before (piece ++ after) (.matched found :: segments))
    {before after : List Char} {segments : List Segment}
    (segmented : Segmented matcher before after segments) (clear : matcher.Clear before after)
    (here : inText after) : motive before after segments := by
  induction segmented with
  | done => exact done _
  | @keep before after c segments none _ hyp =>
      exact keep _ _ _ _ here none clear (hyp (clear_cons none clear) (inRest [c] here))
  | found isMatch start finish _ hyp =>
      exact found _ _ _ _ _ here isMatch start finish
        (hyp (clear_append nests here isMatch finish clear) (inRest _ here))

end Segmented

/-- Writing every match as it was gives the text back. -/
theorem Segmented.flatMap_chars_eq {matcher : Matcher} {replacement : Match → List Char}
    {before after : List Char} {segments : List Segment}
    (segmented : Segmented matcher before after segments)
    (same : ∀ found ∈ segments.filterMap Segment.match?, replacement found = found.text) :
    segments.flatMap (Segment.chars replacement) = after := by
  induction segmented with
  | done => rfl
  | keep _ _ hyp => exact congrArg (List.cons _) (hyp same)
  | @found before piece after found segments _ start finish _ hyp =>
      have here : replacement found = piece := by
        rw [same found (by simp [Segment.match?]), Match.text_of_cut start finish]
      have rest := hyp fun other isOther => same other (by simp_all [Segment.match?])
      rw [List.flatMap_cons, Segment.chars, here, rest]

/-- Writing no match longer than it was makes no text longer. -/
theorem Segmented.length_flatMap_chars_le {matcher : Matcher} {replacement : Match → List Char}
    {before after : List Char} {segments : List Segment}
    (segmented : Segmented matcher before after segments)
    (bounded : ∀ found ∈ segments.filterMap Segment.match?,
      (replacement found).length ≤ found.text.length) :
    (segments.flatMap (Segment.chars replacement)).length ≤ after.length := by
  induction segmented with
  | done => exact Nat.le_refl _
  | keep _ _ hyp => exact Nat.succ_le_succ (hyp bounded)
  | @found before piece after found segments _ start finish _ hyp =>
      obtain ⟨here, others⟩ := List.forall_mem_cons.mp bounded
      rw [Match.text_of_cut start finish] at here
      rw [List.flatMap_cons, Segment.chars, List.length_append, List.length_append]
      exact Nat.add_le_add here (hyp others)

/-- Leaving characters of matches out is leaving characters of the text out. -/
theorem Segmented.flatMap_chars_sublist {matcher : Matcher} {replacement : Match → List Char}
    {before after : List Char} {segments : List Segment}
    (segmented : Segmented matcher before after segments)
    (leaves : ∀ found ∈ segments.filterMap Segment.match?,
      (replacement found).Sublist found.text) :
    (segments.flatMap (Segment.chars replacement)).Sublist after := by
  induction segmented with
  | done => exact .slnil
  | keep _ _ hyp => exact (hyp leaves).cons_cons _
  | @found before piece after found segments _ start finish _ hyp =>
      obtain ⟨here, others⟩ := List.forall_mem_cons.mp leaves
      rw [Match.text_of_cut start finish] at here
      exact here.append (hyp others)

/-- What is written comes from the text, but for some characters that matches may add. -/
theorem Segmented.flatMap_chars_subset {matcher : Matcher} {replacement : Match → List Char}
    {extra before after : List Char} {segments : List Segment}
    (segmented : Segmented matcher before after segments)
    (adds : ∀ found ∈ segments.filterMap Segment.match?,
      replacement found ⊆ extra ++ found.text) :
    segments.flatMap (Segment.chars replacement) ⊆ extra ++ after := by
  induction segmented with
  | done => simp
  | @keep before after c segments _ _ hyp =>
      have rest := hyp adds
      rw [List.flatMap_cons, Segment.chars, List.singleton_append]
      refine List.cons_subset.mpr ⟨by simp, fun d isMember => ?_⟩
      rcases List.mem_append.mp (rest isMember) with inExtra | inText
      · exact List.mem_append_left _ inExtra
      · exact List.mem_append_right _ (List.mem_cons_of_mem _ inText)
  | @found before piece after found segments _ start finish _ hyp =>
      obtain ⟨here, others⟩ := List.forall_mem_cons.mp adds
      have rest := hyp others
      rw [Match.text_of_cut start finish] at here
      rw [List.flatMap_cons, Segment.chars, List.append_subset]
      constructor
      · intro c isMember
        rcases List.mem_append.mp (here isMember) with inExtra | inPiece
        · exact List.mem_append_left _ inExtra
        · exact List.mem_append_right _ (List.mem_append_left _ inPiece)
      · intro c isMember
        rcases List.mem_append.mp (rest isMember) with inExtra | inText
        · exact List.mem_append_left _ inExtra
        · exact List.mem_append_right _ (List.mem_append_right _ inText)

/-- A text comes back only from matches that are written as they were, if none is written
longer. -/
theorem Segmented.eq_text_of_flatMap_chars_eq {matcher : Matcher}
    {replacement : Match → List Char} {before after : List Char} {segments : List Segment}
    (segmented : Segmented matcher before after segments)
    (bounded : ∀ found ∈ segments.filterMap Segment.match?,
      (replacement found).length ≤ found.text.length)
    (same : segments.flatMap (Segment.chars replacement) = after) :
    ∀ found ∈ segments.filterMap Segment.match?, replacement found = found.text := by
  induction segmented with
  | done => simp
  | keep _ _ hyp => exact hyp bounded (List.cons.inj same).2
  | @found before piece after found segments _ start finish rest hyp =>
      have text : found.text = piece := Match.text_of_cut start finish
      obtain ⟨here, others⟩ := List.forall_mem_cons.mp bounded
      have shorter := rest.length_flatMap_chars_le others
      rw [text] at here
      rw [List.flatMap_cons, Segment.chars] at same
      have lengths := congrArg List.length same
      simp only [List.length_append] at lengths
      obtain ⟨written, later⟩ := List.append_inj same (by omega)
      exact List.forall_mem_cons.mpr ⟨written.trans text.symm, hyp others later⟩

/-- If no match is written as nothing, nothing is written only for the empty text. -/
theorem Segmented.eq_nil_of_flatMap_chars_eq_nil {matcher : Matcher}
    {replacement : Match → List Char} {before after : List Char} {segments : List Segment}
    (segmented : Segmented matcher before after segments)
    (writes : ∀ found ∈ segments.filterMap Segment.match?, replacement found ≠ [])
    (nothing : segments.flatMap (Segment.chars replacement) = []) : after = [] := by
  cases segmented with
  | done => rfl
  | keep => simp [Segment.chars] at nothing
  | @found _ _ _ found segments =>
      rw [List.flatMap_cons, List.append_eq_nil_iff] at nothing
      exact absurd nothing.1 (writes found (by simp [Segment.match?]))

/-- Every match that is found lies at one of the places of the text. -/
theorem Matcher.exists_of_mem_findAll {matcher : Matcher} (advances : matcher.Advances)
    {text : List Char} {found : Match} (isFound : found ∈ matcher.findAll text) :
    ∃ skipped rest, text = skipped ++ rest ∧
      matcher false (.between skipped.reverse rest) = some found := by
  obtain ⟨segments, segmented, all, _⟩ := Matcher.exists_segmented advances text
  rw [all] at isFound
  obtain ⟨segment, isSegment, isMatch⟩ := List.mem_filterMap.mp isFound
  cases segment with
  | kept => simp [Segment.match?] at isMatch
  | matched other =>
      obtain rfl : other = found := by simpa [Segment.match?] using isMatch
      simpa using segmented.exists_of_mem isSegment

end LineRules.Pattern

namespace LineRules.Pattern

/-- What a template writes for a match. -/
def written (pattern : Pattern) (template : String) (found : Match) : List Char :=
  match pattern.template template with
  | .ok pieces => pieces.flatMap (Piece.expand found)
  | .error _ => []

theorem written_of_template {pattern : Pattern} {template : String} (pieces : List Piece)
    (read : pattern.template template = .ok pieces) (found : Match) :
    pattern.written template found = pieces.flatMap (Piece.expand found) := by
  simp [written, read]

theorem findAll_eq_nil_iff {pattern : Pattern} {text : List Char} :
    pattern.findAll text = [] ↔ pattern.matchesIn text = false := by
  rw [findAll, Matcher.findAll, Matcher.matchesFrom, matchesIn, search?]
  cases pattern.matcher.find? false (.ofText text) with
  | none => simp
  | some found => simp

/-- Replacing all matches of a pattern in a text is writing the segments of the text. -/
theorem exists_segmented {pattern : Pattern} (advances : pattern.matcher.Advances)
    (text : List Char) :
    ∃ segments, Segmented pattern.matcher [] text segments ∧
      pattern.findAll text = segments.filterMap Segment.match? ∧
      ∀ replacement, pattern.replaceBy replacement text =
        segments.flatMap (Segment.chars replacement) :=
  Matcher.exists_segmented advances text

theorem replaceBy_eq_self {pattern : Pattern} (advances : pattern.matcher.Advances)
    {replacement : Match → List Char} {text : List Char}
    (same : ∀ found ∈ pattern.findAll text, replacement found = found.text) :
    pattern.replaceBy replacement text = text := by
  obtain ⟨segments, segmented, all, written⟩ := exists_segmented advances text
  rw [all] at same
  rw [written]
  exact segmented.flatMap_chars_eq same

/-- Writing no match longer than it was makes no text longer. -/
theorem length_replaceBy_le {pattern : Pattern} (advances : pattern.matcher.Advances)
    {replacement : Match → List Char} {text : List Char}
    (bounded : ∀ found ∈ pattern.findAll text, (replacement found).length ≤ found.text.length) :
    (pattern.replaceBy replacement text).length ≤ text.length := by
  obtain ⟨segments, segmented, all, written⟩ := exists_segmented advances text
  rw [all] at bounded
  rw [written]
  exact segmented.length_flatMap_chars_le bounded

/-- Leaving characters of matches out is leaving characters of the text out. -/
theorem replaceBy_sublist {pattern : Pattern} (advances : pattern.matcher.Advances)
    {replacement : Match → List Char} {text : List Char}
    (leaves : ∀ found ∈ pattern.findAll text, (replacement found).Sublist found.text) :
    (pattern.replaceBy replacement text).Sublist text := by
  obtain ⟨segments, segmented, all, written⟩ := exists_segmented advances text
  rw [all] at leaves
  rw [written]
  exact segmented.flatMap_chars_sublist leaves

/-- If no match is written longer than it was, a text is kept exactly if all its matches
are written as they were. -/
theorem replaceBy_eq_self_iff {pattern : Pattern} (advances : pattern.matcher.Advances)
    {replacement : Match → List Char} {text : List Char}
    (bounded : ∀ found ∈ pattern.findAll text, (replacement found).length ≤ found.text.length) :
    pattern.replaceBy replacement text = text ↔
      ∀ found ∈ pattern.findAll text, replacement found = found.text := by
  refine ⟨fun same => ?_, replaceBy_eq_self advances⟩
  obtain ⟨segments, segmented, all, written⟩ := exists_segmented advances text
  rw [all] at bounded ⊢
  rw [written] at same
  exact segmented.eq_text_of_flatMap_chars_eq bounded same

/-- What replacing matches gives comes from the text, but for some characters that the
replacements may add. -/
theorem replaceBy_subset {pattern : Pattern} (advances : pattern.matcher.Advances)
    {replacement : Match → List Char} {extra text : List Char}
    (adds : ∀ found ∈ pattern.findAll text, replacement found ⊆ extra ++ found.text) :
    pattern.replaceBy replacement text ⊆ extra ++ text := by
  obtain ⟨segments, segmented, all, written⟩ := exists_segmented advances text
  rw [all] at adds
  rw [written]
  exact segmented.flatMap_chars_subset adds

/-- If no match is written as nothing, only the empty text becomes empty. -/
theorem replaceBy_eq_nil {pattern : Pattern} (advances : pattern.matcher.Advances)
    {replacement : Match → List Char} {text : List Char}
    (writes : ∀ found ∈ pattern.findAll text, replacement found ≠ [])
    (nothing : pattern.replaceBy replacement text = []) : text = [] := by
  obtain ⟨segments, segmented, all, written⟩ := exists_segmented advances text
  rw [all] at writes
  rw [written] at nothing
  exact segmented.eq_nil_of_flatMap_chars_eq_nil writes nothing

/-- A pattern that asks for the start of the text matches there or nowhere. -/
theorem matchesIn_iff_of_textStart {pattern : Pattern} {nodes : List Node} {text : List Char}
    (plain : pattern.asksOpen = false)
    (tree : pattern.node = .sequence (Node.textStart :: nodes)) :
    pattern.matchesIn text = true ↔
      (Node.sequence nodes).Reaches (.start (.between [] text)) fun _ => True := by
  have begins : ∀ {before after : List Char} {condition : State → Prop},
      pattern.node.Reaches (.start (.between before after)) condition ↔
        before = [] ∧ (Node.sequence nodes).Reaches (.start (.between before after)) condition := by
    intro before after condition
    rw [tree, Node.reaches_sequence_cons_iff, Node.textStart, Node.reaches_anchor_iff]
    exact and_congr_left fun _ => Node.holds_textStart
  have runs : pattern.matcher = pattern.node.matchAt := by
    rw [matcher, plain]
    rfl
  rw [matchesIn, search?, runs, Cursor.ofText_eq, Option.isSome_iff_exists]
  constructor
  · rintro ⟨found, search⟩
    obtain ⟨skipped, rest, rfl, isMatch⟩ := Matcher.exists_of_find?_eq_some search
    obtain ⟨_, reached⟩ := Node.reaches_of_matchAt_eq_some isMatch
    obtain ⟨start, final, isFinal, _⟩ := begins.mp reached
    obtain rfl : skipped = [] := by simpa using start
    exact ⟨final, isFinal, trivial⟩
  · intro reaches
    obtain ⟨found, isMatch⟩ := Node.exists_matchAt_of_reaches (begins.mpr ⟨rfl, reaches⟩)
    exact ⟨found, Matcher.find?_of_some isMatch⟩

/-- A pattern that matches nowhere replaces nothing. -/
theorem replaceBy_of_not_matchesIn {pattern : Pattern} {replacement : Match → List Char}
    {text : List Char} (absent : pattern.matchesIn text = false) :
    pattern.replaceBy replacement text = text := by
  rw [replaceBy, findAll_eq_nil_iff.mpr absent]
  rfl

end LineRules.Pattern
