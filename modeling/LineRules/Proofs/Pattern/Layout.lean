import LineRules.Proofs.Pattern.Segments

/-!
# Layouts of a text

The matches of a pattern lay a text out: characters stand between them, and each match is
a field, a value with some text on both sides. A replacement that writes other values into
the fields changes the layout and nothing else (`replaceBy_remade`). Whether the new text
is laid out that way by the pattern itself is another question: a new value could hide a
match, or make one with the text around it.

`Stable` asks this of one step at a time, and `layout_replaceBy` answers it for whole texts:
the matches of the new text are those of the old one with the new values in them.
-/

namespace LineRules.Pattern

/-- A value and the text on its two sides. -/
structure Field where
  opening : List Char
  value : List Char
  closing : List Char

namespace Field

def chars (field : Field) : List Char :=
  field.opening ++ field.value ++ field.closing

/-- The field with another value. -/
def mapValue (change : List Char → List Char) (field : Field) : Field :=
  { field with value := change field.value }

end Field

/-- A character between the fields of a text, or a field. -/
inductive Part where
  | kept (c : Char)
  | field (inner : Field)

namespace Part

def chars : Part → List Char
  | kept c => [c]
  | field inner => inner.chars

/-- The part with another value, if it has one. -/
def mapValue (change : List Char → List Char) : Part → Part
  | kept c => kept c
  | field inner => field (inner.mapValue change)

theorem map_mapValue_map_mapValue (first second : List Char → List Char) (parts : List Part) :
    (parts.map (mapValue first)).map (mapValue second) =
      parts.map (mapValue (second ∘ first)) := by
  rw [List.map_map]
  refine List.map_congr_left fun part _ => ?_
  cases part <;> rfl

/-- Parts stay as they are when their values do. -/
theorem map_mapValue_eq_self {change : List Char → List Char} {parts : List Part}
    (same : ∀ inner, field inner ∈ parts → change inner.value = inner.value) :
    parts.map (mapValue change) = parts := by
  conv_rhs => rw [← List.map_id parts]
  refine List.map_congr_left fun part isPart => ?_
  cases part with
  | kept => rfl
  | field inner => rw [mapValue, Field.mapValue, same inner isPart, id]

end Part

/-- The text from a place on, laid out by the given matches. -/
def layFrom (fieldOf : Match → Field) (cursor : Cursor) : List Match → List Part
  | [] => cursor.after.map .kept
  | found :: rest =>
    (cursor.upTo found.start).map .kept ++ .field (fieldOf found) ::
      layFrom fieldOf found.finish rest

/-- What is written for a match whose value changes. -/
def remade (fieldOf : Match → Field) (change : List Char → List Char) (found : Match) :
    List Char :=
  ((fieldOf found).mapValue change).chars

section Layout

variable {fieldOf : Match → Field} {change : List Char → List Char}

private theorem flatMap_map_kept (text : List Char) :
    ((text.map Part.kept).map (Part.mapValue change)).flatMap Part.chars = text := by
  induction text with
  | nil => rfl
  | cons c text hyp => exact congrArg (List.cons c) hyp

/-- Writing new values into the fields of a layout replaces the matches. -/
theorem flatMap_layFrom (cursor : Cursor) (matches_ : List Match) :
    ((layFrom fieldOf cursor matches_).map (Part.mapValue change)).flatMap Part.chars =
      stitch (remade fieldOf change) cursor matches_ := by
  induction matches_ generalizing cursor with
  | nil => exact flatMap_map_kept _
  | cons found rest hyp =>
      rw [layFrom, List.map_append, List.flatMap_append, flatMap_map_kept, List.map_cons,
        List.flatMap_cons, hyp, stitch]
      rfl

/-- Laying the text out from one character earlier keeps that character first. -/
theorem layFrom_cons {before after : List Char} {c : Char} {matches_ : List Match}
    (ahead : ∀ found ∈ matches_.head?, found.start.left ≤ after.length) :
    layFrom fieldOf (.between before (c :: after)) matches_ =
      .kept c :: layFrom fieldOf (.between (c :: before) after) matches_ := by
  cases matches_ with
  | nil => rfl
  | cons found rest =>
      have bound : found.start.left ≤ after.length := ahead found (by simp)
      have count : after.length + 1 - found.start.left = after.length - found.start.left + 1 := by
        omega
      simp [layFrom, Cursor.upTo, count]

theorem mem_layFrom_iff {cursor : Cursor} {matches_ : List Match} {inner : Field} :
    .field inner ∈ layFrom fieldOf cursor matches_ ↔ ∃ found ∈ matches_, fieldOf found = inner := by
  induction matches_ generalizing cursor with
  | nil => simp [layFrom]
  | cons found rest hyp =>
      simp only [layFrom, List.mem_append, List.mem_map, reduceCtorEq, and_false, exists_false,
        false_or, List.mem_cons, Part.field.injEq, hyp, exists_eq_or_imp]
      exact or_congr_left eq_comm

end Layout

/-- The part of a text that a segment is. -/
def Segment.part (fieldOf : Match → Field) : Segment → Part
  | kept c => .kept c
  | matched found => .field (fieldOf found)

/-- What is written for segments whose values change. -/
def Segment.remadeAll (fieldOf : Match → Field) (change : List Char → List Char)
    (segments : List Segment) : List Char :=
  segments.flatMap (Segment.chars (remade fieldOf change))

/-- Writing new values into the fields neither hides a match nor makes one. `related` relates
the text before a place to what has been written for it, in view of the text after it. -/
structure Stable (matcher : Matcher) (fieldOf : Match → Field) (change : List Char → List Char)
    (related : List Char → List Char → List Char → Prop) : Prop where
  start : ∀ text, related [] [] text
  done : ∀ {before written}, related before written [] →
    matcher false (.between before []) = none → matcher false (.between written []) = none
  kept : ∀ {before written c after segments}, related before written (c :: after) →
    matcher false (.between before (c :: after)) = none →
    Segmented matcher (c :: before) after segments →
    matcher false (.between written (c :: Segment.remadeAll fieldOf change segments)) = none
  keptRelated : ∀ {before written c after}, related before written (c :: after) →
    related (c :: before) (c :: written) after
  found : ∀ {before written piece after found segments}, related before written (piece ++ after) →
    matcher false (.between before (piece ++ after)) = some found →
    found.finish = .between (piece.reverse ++ before) after →
    Segmented matcher (piece.reverse ++ before) after segments →
    ∃ other, matcher false (.between written
          (remade fieldOf change found ++ Segment.remadeAll fieldOf change segments)) =
        some other ∧
      other.finish = .between ((remade fieldOf change found).reverse ++ written)
        (Segment.remadeAll fieldOf change segments) ∧
      fieldOf other = (fieldOf found).mapValue change
  foundRelated : ∀ {before written piece after found}, related before written (piece ++ after) →
    matcher false (.between before (piece ++ after)) = some found →
    found.finish = .between (piece.reverse ++ before) after →
    related (piece.reverse ++ before) ((remade fieldOf change found).reverse ++ written) after

namespace Segmented

variable {matcher : Matcher} {fieldOf : Match → Field} {change : List Char → List Char}
  {before after : List Char} {segments : List Segment}

/-- A text is cut at its matches in one way only. -/
theorem unique {others : List Segment} (segmented : Segmented matcher before after segments)
    (other : Segmented matcher before after others) : segments = others := by
  induction segmented generalizing others with
  | done absent =>
      generalize split : ([] : List Char) = text at other
      cases other with
      | done => rfl
      | keep => contradiction
      | found isMatch =>
          rw [← split, absent] at isMatch
          contradiction
  | @keep before after c segments absent _ hyp =>
      generalize split : c :: after = text at other
      cases other with
      | done => contradiction
      | keep _ rest =>
          obtain ⟨rfl, rfl⟩ := List.cons.inj split
          rw [hyp rest]
      | found isMatch =>
          rw [← split, absent] at isMatch
          contradiction
  | @found before piece after found segments isMatch _ finish _ hyp =>
      generalize split : piece ++ after = text at other
      cases other with
      | done absent =>
          rw [split, absent] at isMatch
          contradiction
      | keep absent =>
          rw [split, absent] at isMatch
          contradiction
      | found isOther _ otherFinish rest =>
          rw [split, isOther] at isMatch
          obtain rfl := Option.some.inj isMatch
          obtain ⟨rfl, rfl⟩ := Cursor.cut_unique split finish otherFinish
          rw [hyp rest]

theorem start_left_le (segmented : Segmented matcher before after segments) :
    ∀ found ∈ segments.filterMap Segment.match?, found.start.left ≤ after.length := by
  induction segmented with
  | done => simp
  | keep _ _ hyp => exact fun found isFound => Nat.le_succ_of_le (hyp found isFound)
  | @found before piece after found segments _ start _ _ hyp =>
      refine List.forall_mem_cons.mpr ⟨Nat.le_of_eq (congrArg Cursor.left start), ?_⟩
      exact fun other isOther => Nat.le_trans (hyp other isOther) (by simp)

/-- The layout by all matches has a part for every segment. -/
theorem layFrom_eq (segmented : Segmented matcher before after segments) :
    layFrom fieldOf (.between before after) (segments.filterMap Segment.match?) =
      segments.map (Segment.part fieldOf) := by
  induction segmented with
  | done => rfl
  | @keep before after c segments _ rest hyp =>
      rw [List.map_cons, ← hyp]
      exact layFrom_cons fun found isFirst =>
        rest.start_left_le found (List.mem_of_mem_head? isFirst)
  | @found before piece after found segments _ start finish _ hyp =>
      rw [List.map_cons, ← hyp]
      simp [Segment.match?, layFrom, Segment.part, start, finish]

/-- Writing new values cuts the text at the same matches. -/
theorem exists_remade {related : List Char → List Char → List Char → Prop}
    (stable : Stable matcher fieldOf change related)
    (advances : matcher.Advances)
    (segmented : Segmented matcher before after segments) {written : List Char}
    (start : related before written after) :
    ∃ others, Segmented matcher written (Segment.remadeAll fieldOf change segments) others ∧
      others.map (Segment.part fieldOf) =
        (segments.map (Segment.part fieldOf)).map (Part.mapValue change) := by
  induction segmented generalizing written with
  | done absent => exact ⟨[], .done (stable.done start absent), rfl⟩
  | @keep before after c segments absent rest hyp =>
      obtain ⟨others, isCut, same⟩ := hyp (stable.keptRelated start)
      refine ⟨.kept c :: others, .keep (stable.kept start absent rest) isCut, ?_⟩
      rw [List.map_cons, same]
      rfl
  | @found before piece after outer segments isMatch _ finish rest hyp =>
      obtain ⟨other, isOther, otherFinish, sameField⟩ := stable.found start isMatch finish rest
      obtain ⟨others, isCut, same⟩ := hyp (stable.foundRelated start isMatch finish)
      refine ⟨.matched other :: others,
        .found isOther (advances _ _ _ isOther).1 otherFinish isCut, ?_⟩
      rw [List.map_cons, same, Segment.part, sameField]
      rfl

end Segmented

/-! ## All matches of a pattern -/

/-- A text laid out by all matches of a pattern. -/
def layout (pattern : Pattern) (fieldOf : Match → Field) (text : List Char) : List Part :=
  layFrom fieldOf (.ofText text) (pattern.findAll text)

variable {pattern : Pattern} {fieldOf : Match → Field} {change : List Char → List Char}
  {text : List Char}

/-- Replacing values is writing the layout with its new values. -/
theorem replaceBy_remade :
    pattern.replaceBy (remade fieldOf change) text =
      ((pattern.layout fieldOf text).map (Part.mapValue change)).flatMap Part.chars :=
  (flatMap_layFrom _ _).symm

/-- A text is made of the parts that it is laid out in, where the fields show all of a match. -/
theorem flatMap_layout (advances : pattern.matcher.Advances)
    (whole : ∀ found ∈ pattern.findAll text, (fieldOf found).chars = found.text) :
    (pattern.layout fieldOf text).flatMap Part.chars = text := by
  have same : (pattern.layout fieldOf text).map (Part.mapValue id) = pattern.layout fieldOf text :=
    Part.map_mapValue_eq_self fun _ _ => rfl
  rw [← same, ← replaceBy_remade]
  exact replaceBy_eq_self advances whole

/-- The fields of a text are its matches. -/
theorem mem_layout_iff {inner : Field} :
    .field inner ∈ pattern.layout fieldOf text ↔
      ∃ found ∈ pattern.findAll text, fieldOf found = inner :=
  mem_layFrom_iff

/-- The new text has the matches of the old one, with the new values in them. -/
theorem layout_replaceBy (advances : pattern.matcher.Advances)
    {related : List Char → List Char → List Char → Prop}
    (stable : Stable pattern.matcher fieldOf change related) :
    pattern.layout fieldOf (pattern.replaceBy (remade fieldOf change) text) =
      (pattern.layout fieldOf text).map (Part.mapValue change) := by
  have laid : ∀ {text segments}, Segmented pattern.matcher [] text segments →
      pattern.layout fieldOf text = segments.map (Segment.part fieldOf) := by
    intro text segments segmented
    obtain ⟨others, isCut, all, _⟩ := exists_segmented advances text
    obtain rfl := segmented.unique isCut
    rw [layout, all, Cursor.ofText_eq, segmented.layFrom_eq]
  obtain ⟨segments, segmented, _, written⟩ := exists_segmented advances text
  obtain ⟨others, isCut, same⟩ := segmented.exists_remade stable advances (stable.start text)
  rw [written, laid segmented, ← same]
  exact laid isCut

end LineRules.Pattern
