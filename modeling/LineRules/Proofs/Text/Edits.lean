import LineRules.Proofs.Pattern.Segments

/-!
# Edits of a text

A replacement rule is described by what it swaps at a place, given the text on both
sides of it as it was. `Edited` relates a text to what comes out when everything that
can be swapped is swapped, from left to right.

`Segmented.edited` obtains such a description from the matches of a pattern.
`Edited.free` carries the absence of a shape from a text to its edited form: it asks for
a relation between the texts before a place, kept by every step, under which the shape
at an edited place is one at the place it came from.
-/

namespace LineRules.Text

open LineRules.Pattern

/-- What may be swapped: the text before the place, nearest character first, the piece
there, the text after it, and what is written instead of the piece. -/
abbrev Swap := List Char → List Char → List Char → List Char → Prop

/-- Whether something can be swapped at a place. -/
def Swap.Applies (swap : Swap) (before after : List Char) : Prop :=
  ∃ piece rest new, after = piece ++ rest ∧ swap before piece rest new

theorem Swap.Applies.mono {swap other : Swap} {before after : List Char}
    (implies : ∀ {before piece after new}, swap before piece after new →
      other before piece after new)
    (applies : swap.Applies before after) : other.Applies before after := by
  obtain ⟨piece, rest, new, split, swapped⟩ := applies
  exact ⟨piece, rest, new, split, implies swapped⟩

/-- What comes out of the text after a place when everything in it that can be swapped
is swapped. The text before a place is taken as it was. -/
inductive Edited (swap : Swap) : List Char → List Char → List Char → Prop where
  | done {before : List Char} : Edited swap before [] []
  | keep {before after out : List Char} {c : Char}
      (fixed : ¬ swap.Applies before (c :: after))
      (rest : Edited swap (c :: before) after out) :
      Edited swap before (c :: after) (c :: out)
  | swap {before piece after new out : List Char}
      (swapped : swap before piece after new)
      (rest : Edited swap (piece.reverse ++ before) after out) :
      Edited swap before (piece ++ after) (new ++ out)

/-- No place ahead has the shape. -/
def Free (shape : List Char → List Char → Prop) : List Char → List Char → Prop
  | _, [] => True
  | before, c :: after => ¬ shape before (c :: after) ∧ Free shape (c :: before) after

namespace Free

variable {shape : List Char → List Char → Prop}

theorem append_iff {before first second : List Char} :
    Free shape before (first ++ second) ↔
      (∀ done rest, first = done ++ rest → rest ≠ [] →
        ¬ shape (done.reverse ++ before) (rest ++ second)) ∧
      Free shape (first.reverse ++ before) second := by
  induction first generalizing before with
  | nil =>
      simp only [List.nil_append, List.reverse_nil, iff_and_self]
      rintro _ done rest split nonempty
      exact absurd (List.append_eq_nil_iff.mp split.symm).2 nonempty
  | cons c first hyp =>
      simp only [List.cons_append, Free, hyp, List.reverse_cons, List.append_assoc,
        List.nil_append]
      constructor
      · rintro ⟨here, ahead, rest⟩
        refine ⟨?_, rest⟩
        intro done last split nonempty
        cases done with
        | nil =>
            obtain rfl : c :: first = last := split
            exact here
        | cons d done =>
            obtain ⟨rfl, rfl⟩ : c = d ∧ first = done ++ last := by simpa using split
            simpa using ahead done last rfl nonempty
      · rintro ⟨ahead, rest⟩
        refine ⟨by simpa using ahead [] (c :: first) rfl (by simp), ?_, rest⟩
        intro done last split nonempty
        simpa using ahead (c :: done) last (by simp [split]) nonempty

/-- A text is free of a shape when the shape is at none of its places. -/
theorem of_forall {before after : List Char}
    (absent : ∀ done rest, after = done ++ rest → rest ≠ [] →
      ¬ shape (done.reverse ++ before) rest) : Free shape before after := by
  induction after generalizing before with
  | nil => trivial
  | cons c after hyp =>
      refine ⟨by simpa using absent [] (c :: after) rfl (by simp), hyp ?_⟩
      intro done rest split nonempty
      simpa using absent (c :: done) rest (by simp [split]) nonempty

theorem mono {other : List Char → List Char → Prop} {before after : List Char}
    (implies : ∀ before after, other before after → shape before after)
    (free : Free shape before after) : Free other before after := by
  induction after generalizing before with
  | nil => trivial
  | cons c after hyp => exact ⟨fun isOther => free.1 (implies _ _ isOther), hyp free.2⟩

theorem not_shape {before done rest : List Char} (free : Free shape before (done ++ rest))
    (nonempty : rest ≠ []) : ¬ shape (done.reverse ++ before) rest := by
  have ahead := (append_iff.mp free).2
  cases rest with
  | nil => exact absurd rfl nonempty
  | cons c rest => exact ahead.1

end Free

namespace Edited

variable {swap : Swap} {before after out : List Char}

/-- A text at none of whose places something can be swapped is kept. -/
theorem keep_append {kept : List Char}
    (fixed : ∀ done rest, kept = done ++ rest → rest ≠ [] →
      ¬ swap.Applies (done.reverse ++ before) (rest ++ after))
    (edited : Edited swap (kept.reverse ++ before) after out) :
    Edited swap before (kept ++ after) (kept ++ out) := by
  induction kept generalizing before with
  | nil => exact edited
  | cons c kept hyp =>
      refine .keep (by simpa using fixed [] (c :: kept) rfl (by simp)) (hyp ?_ ?_)
      · intro done rest split nonempty
        simpa using fixed (c :: done) rest (by simp [split]) nonempty
      · simpa using edited

theorem exists_of_not_applies {c : Char} (edited : Edited swap before (c :: after) out)
    (fixed : ¬ swap.Applies before (c :: after)) :
    ∃ rest, out = c :: rest ∧ Edited swap (c :: before) after rest := by
  generalize split : c :: after = text at edited
  cases edited with
  | done => contradiction
  | keep _ rest =>
      obtain ⟨rfl, rfl⟩ := List.cons.inj split
      exact ⟨_, rfl, rest⟩
  | swap swapped _ => exact absurd ⟨_, _, _, split, swapped⟩ fixed

theorem keep_iff {c : Char} (fixed : ¬ swap.Applies before (c :: after)) :
    Edited swap before (c :: after) (c :: out) ↔ Edited swap (c :: before) after out := by
  constructor
  · intro edited
    obtain ⟨rest, split, later⟩ := exists_of_not_applies edited fixed
    obtain rfl := (List.cons.inj split).2
    exact later
  · exact .keep fixed

theorem exists_of_applies {c : Char} (edited : Edited swap before (c :: after) out)
    (applies : swap.Applies before (c :: after)) :
    ∃ piece rest new last, c :: after = piece ++ rest ∧ out = new ++ last ∧
      swap before piece rest new ∧ Edited swap (piece.reverse ++ before) rest last := by
  generalize split : c :: after = text at edited applies
  cases edited with
  | done => contradiction
  | keep fixed _ => exact absurd applies fixed
  | swap swapped rest => exact ⟨_, _, _, _, rfl, rfl, swapped, rest⟩

/-- What comes out of a text at whose first places nothing can be swapped begins as the text
does. -/
theorem exists_of_fixed {kept : List Char} (fixed : ∀ done rest, kept = done ++ rest → rest ≠ [] →
      ¬ swap.Applies (done.reverse ++ before) (rest ++ after))
    (edited : Edited swap before (kept ++ after) out) :
    ∃ rest, out = kept ++ rest ∧ Edited swap (kept.reverse ++ before) after rest := by
  induction kept generalizing before out with
  | nil => exact ⟨out, rfl, edited⟩
  | cons c kept hyp =>
      obtain ⟨rest, rfl, later⟩ := exists_of_not_applies edited
        (by simpa using fixed [] (c :: kept) rfl (by simp))
      have ahead : ∀ done rest, kept = done ++ rest → rest ≠ [] →
          ¬ swap.Applies (done.reverse ++ (c :: before)) (rest ++ after) := by
        intro done rest split nonempty
        simpa using fixed (c :: done) rest (by simp [split]) nonempty
      obtain ⟨last, rfl, ending⟩ := hyp ahead later
      exact ⟨last, rfl, by simpa using ending⟩

/-- The rest of a run of characters is kept, where what is swapped begins alike and does not
begin inside of a run. -/
theorem takeWhile_eq {inRun : Char → Bool} {joins : Char → Prop}
    (joined : ∀ c, inRun c = true → joins c)
    (first : ∀ {before piece after new}, swap before piece after new →
      ∃ c rest others, piece = c :: rest ∧ new = c :: others ∧
        (inRun c = true → ∀ d ∈ before.head?, ¬ joins d))
    (edited : Edited swap before after out) (start : ∃ d ∈ before.head?, joins d) :
    out.takeWhile inRun = after.takeWhile inRun := by
  induction edited with
  | done => rfl
  | @keep before after out c _ _ hyp =>
      cases member : inRun c with
      | false => simp [member]
      | true =>
          have rest := hyp ⟨c, rfl, joined c member⟩
          simp [member, rest]
  | swap swapped _ _ =>
      obtain ⟨c, rest, others, rfl, rfl, apart⟩ := first swapped
      cases member : inRun c with
      | false => simp [member]
      | true =>
          obtain ⟨d, isHead, joins⟩ := start
          exact absurd joins (apart member d isHead)

/-- What relates the texts before a place at every step relates the texts as a whole. -/
theorem related {related : List Char → List Char → Prop}
    (keep : ∀ {before written c}, related before written → related (c :: before) (c :: written))
    (swapped : ∀ {before written piece after new}, related before written →
      swap before piece after new → related (piece.reverse ++ before) (new.reverse ++ written))
    (edited : Edited swap before after out) {written : List Char}
    (start : related before written) :
    related (after.reverse ++ before) (out.reverse ++ written) := by
  induction edited generalizing written with
  | done => exact start
  | keep _ _ hyp => simpa using hyp (keep start)
  | swap isSwap _ hyp => simpa using hyp (swapped start isSwap)

/-- The absence of a shape is carried over from a text to its edited form. `related`
relates the text before a place to what has been written for it. -/
theorem free {shape : List Char → List Char → Prop}
    {related : List Char → List Char → Prop}
    (keepRelated : ∀ {before written c}, related before written →
      related (c :: before) (c :: written))
    (swapRelated : ∀ {before written piece after new}, related before written →
      swap before piece after new → related (piece.reverse ++ before) (new.reverse ++ written))
    (keepShape : ∀ {before written c after out}, related before written →
      ¬ swap.Applies before (c :: after) → Edited swap (c :: before) after out →
      shape written (c :: out) → swap.Applies before (c :: after) ∨ shape before (c :: after))
    (swapShape : ∀ {before written piece after new out}, related before written →
      swap before piece after new → Edited swap (piece.reverse ++ before) after out →
      ∀ done rest, new = done ++ rest → rest ≠ [] →
        ¬ shape (done.reverse ++ written) (rest ++ out))
    (edited : Edited swap before after out) {written : List Char}
    (start : related before written)
    (absent : Free (fun before after => ¬ swap.Applies before after ∧ shape before after)
      before after) :
    Free shape written out := by
  induction edited generalizing written with
  | done => trivial
  | @keep before after out c fixed rest hyp =>
      refine ⟨?_, hyp (keepRelated start) absent.2⟩
      intro shaped
      rcases keepShape start fixed rest shaped with applies | same
      · exact fixed applies
      · exact absent.1 ⟨fixed, same⟩
  | @swap before piece after new out swapped rest hyp =>
      refine Free.append_iff.mpr ⟨swapShape start swapped rest, ?_⟩
      exact hyp (swapRelated start swapped) (Free.append_iff.mp absent).2

end Edited

end LineRules.Text

namespace LineRules.Pattern

open LineRules.Text

variable {matcher : Matcher}

/-- What a replacement does, from what its pattern matches: a match is written as its
piece edited, and whatever can be swapped lies in a match. -/
theorem Segmented.edited {inText : List Char → Prop} (nests : matcher.NestsIn inText)
    (inRest : ∀ first {second}, inText (first ++ second) → inText second) {replacement : Match → List Char}
    {swap : Swap}
    (matched : ∀ {before piece after found}, inText (piece ++ after) →
      matcher false (.between before (piece ++ after)) = some found →
      found.start = .between before (piece ++ after) →
      found.finish = .between (piece.reverse ++ before) after →
      ∀ {out}, Edited swap (piece.reverse ++ before) after out →
        Edited swap before (piece ++ after) (replacement found ++ out))
    (complete : ∀ {before piece after new}, inText (piece ++ after) → swap before piece after new →
      ∃ skipped earlier found, before = skipped.reverse ++ earlier ∧
        matcher false (.between earlier (skipped ++ (piece ++ after))) = some found ∧
        found.finish.left < (piece ++ after).length)
    {before after : List Char} {segments : List Segment}
    (segmented : Segmented matcher before after segments) (clear : matcher.Clear before after)
    (here : inText after) : Edited swap before after (segments.flatMap (Segment.chars replacement)) := by
  refine segmented.clear_induction nests inRest
    (motive := fun before after segments =>
      Edited swap before after (segments.flatMap (Segment.chars replacement)))
    (fun _ => .done) ?_ ?_ clear here
  · intro before c after segments inText none clear edited
    refine .keep ?_ edited
    rintro ⟨piece, rest, new, split, swapped⟩
    obtain ⟨skipped, earlier, found, rfl, isMatch, beyond⟩ := complete (by rwa [← split]) swapped
    rw [← split] at isMatch beyond
    cases skipped with
    | nil => exact absurd (none.symm.trans isMatch) (by simp)
    | cons d skipped =>
        have reach := clear (d :: skipped) earlier rfl (by simp) found isMatch
        omega
  · intro before piece after found segments inText isMatch start finish edited
    exact matched inText isMatch start finish edited

/-- What a replacement does, where something can be swapped just where its pattern matches. -/
theorem Segmented.edited_of_match {replacement : Match → List Char} {swap : Swap}
    (sound : ∀ {before piece after found},
      matcher false (.between before (piece ++ after)) = some found →
      found.finish = .between (piece.reverse ++ before) after →
        swap before piece after (replacement found))
    (complete : ∀ {before after}, swap.Applies before after →
      ∃ found, matcher false (.between before after) = some found)
    {before after : List Char} {segments : List Segment}
    (segmented : Segmented matcher before after segments) :
    Edited swap before after (segments.flatMap (Segment.chars replacement)) := by
  induction segmented with
  | done => exact .done
  | keep none _ hyp =>
      refine .keep (fun applies => ?_) hyp
      obtain ⟨found, isMatch⟩ := complete applies
      rw [none] at isMatch
      contradiction
  | found isMatch _ finish _ hyp => exact .swap (sound isMatch finish) hyp

end LineRules.Pattern
