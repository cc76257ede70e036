import LineRules.Proofs.StyleSheet.Colours

/-!
# The space after the colon of a property

A line that begins with a property gets a space after its colon if it ends with a
semicolon and has no brace before that. `colon_outlasts` says which edits bring up no
colon without its space.
-/

namespace LineRules.Builtin

open LineRules.Text LineRules.Pattern LineRules.Pattern.Node

variable {before written after out : List Char} {condition : State → Prop}

/-! ## Lines with one declaration -/

/-- The characters of property names in lower case. -/
def isLowerPropertyChar (c : Char) : Bool :=
  [ClassItem.chars 'a' 'z', .ofChar '-'].any (·.contains c.toNat)

theorem toNat_lt_of_isLowerPropertyChar {c : Char} (isName : isLowerPropertyChar c = true) :
    c.toNat < 0x80 := by
  simp only [isLowerPropertyChar, List.any_cons, List.any_nil, ClassItem.contains_chars,
    ClassItem.contains_ofChar, Bool.or_false, Bool.or_eq_true, Bool.and_eq_true,
    decide_eq_true_eq] at isName
  have bounds : 'z'.toNat = 122 ∧ '-'.toNat = 45 := by decide
  rcases isName with inRange | rfl
  · omega
  · omega

theorem holds_of_isLowerPropertyChar (holds : Char → Bool)
    (check : ((List.range 0x80).all fun code =>
      !isLowerPropertyChar (Char.ofNat code) || holds (Char.ofNat code)) = true) {c : Char}
    (isName : isLowerPropertyChar c = true) : holds c = true := by
  have checked := holds_of_ascii (fun c => !isLowerPropertyChar c || holds c) check
    (toNat_lt_of_isLowerPropertyChar isName)
  rw [isName] at checked
  simpa using checked

/-- A line that begins with the name of a property and has nothing else yet. -/
def LineHead : List Char → Prop
  | [] => False
  | c :: before =>
    isLowerPropertyChar c = true ∧ (LineHead before ∨ ∀ d ∈ before, isBlank d = true)

/-- A line goes on to a semicolon with nothing but blanks after it, and has no brace before
it. -/
def ClosesLine : List Char → Prop
  | [] => False
  | c :: after =>
    (c = ';' ∧ ∀ d ∈ after, isBlank d = true) ∨ ((c ≠ ';' ∧ c ≠ '\x7b') ∧ ClosesLine after)

theorem lineHead_iff : LineHead before ↔
    ∃ blanks name : List Char, before = name.reverse ++ blanks.reverse ∧ name ≠ [] ∧
      (∀ c ∈ name, isLowerPropertyChar c = true) ∧ ∀ c ∈ blanks, isBlank c = true := by
  induction before with
  | nil => simp [LineHead]
  | cons c before hyp =>
      rw [LineHead, hyp]
      constructor
      · rintro ⟨isName, ⟨blanks, name, rfl, nonempty, all, allBlank⟩ | allBlank⟩
        · refine ⟨blanks, name ++ [c], by simp, by simp, ?_, allBlank⟩
          intro d isMember
          rcases List.mem_append.mp isMember with inName | isLast
          · exact all d inName
          · rwa [List.mem_singleton.mp isLast]
        · exact ⟨before.reverse, [c], by simp, by simp, by simpa using isName,
            fun d inBefore => allBlank d (List.mem_reverse.mp inBefore)⟩
      · rintro ⟨blanks, name, split, nonempty, all, allBlank⟩
        obtain ⟨name, d, rfl⟩ := List.eq_nil_or_concat' name |>.resolve_left nonempty
        obtain ⟨rfl, rfl⟩ : c = d ∧ before = name.reverse ++ blanks.reverse := by
          simpa using split
        refine ⟨all c (by simp), ?_⟩
        rcases List.eq_nil_or_concat' name with rfl | ⟨_, _, _⟩
        · exact .inr (by simpa using allBlank)
        · exact .inl ⟨blanks, name, rfl, by simp_all,
            fun d inName => all d (List.mem_append_left _ inName), allBlank⟩

theorem closesLine_iff : ClosesLine after ↔
    ∃ body blanks, after = body ++ ';' :: blanks ∧ (∀ c ∈ body, c ≠ ';' ∧ c ≠ '\x7b') ∧
      ∀ c ∈ blanks, isBlank c = true := by
  induction after with
  | nil => simp [ClosesLine]
  | cons c after hyp =>
      rw [ClosesLine, hyp]
      constructor
      · rintro (⟨rfl, allBlank⟩ | ⟨inBody, body, blanks, rfl, all, allBlank⟩)
        · exact ⟨[], after, rfl, by simp, allBlank⟩
        · exact ⟨c :: body, blanks, rfl, by simpa using ⟨inBody, all⟩, allBlank⟩
      · rintro ⟨body, blanks, split, all, allBlank⟩
        cases body with
        | nil =>
            obtain ⟨rfl, rfl⟩ : c = ';' ∧ after = blanks := by simpa using split
            exact .inl ⟨rfl, allBlank⟩
        | cons d body =>
            obtain ⟨rfl, rfl⟩ : c = d ∧ after = body ++ ';' :: blanks := by simpa using split
            exact .inr ⟨all c (by simp), body, blanks, rfl,
              fun d inBody => all d (by simp [inBody]), allBlank⟩

/-- The head of a line is the name of a property. -/
theorem LineHead.inProperty (isHead : LineHead before) : InProperty before := by
  obtain ⟨blanks, name, rfl, nonempty, isName, allBlank⟩ := lineHead_iff.mp isHead
  refine inProperty_iff.mpr ⟨name, blanks.reverse, rfl, nonempty, ?_, ?_⟩
  · exact fun c inName =>
      holds_of_isLowerPropertyChar isPropertyChar (by decide) (isName c inName)
  · intro c isHead
    have blank : isBlank c = true := allBlank c (by simpa using List.mem_of_mem_head? isHead)
    rw [isJoint, isWord_of_isBlank blank, Bool.false_or, decide_eq_false_iff_not]
    intro isMember
    simp only [List.mem_cons, List.not_mem_nil, or_false] at isMember
    rcases isMember with rfl | rfl | rfl | rfl
    · exact absurd blank (by decide)
    · exact absurd blank (by decide)
    · exact absurd blank (by decide)
    · exact absurd blank (by decide)

/-! ## The rule -/

/-- Writing a space after the colon of a property. -/
def colonSwap : Swap := fun before piece after new =>
  piece = [':'] ∧ new = [':', ' '] ∧ LineHead before ∧
    (∃ c rest, after = c :: rest ∧ isBlank c = false ∧ c ≠ ':') ∧ ClosesLine after

theorem colonSwap_applies_iff : colonSwap.Applies before after ↔
    ∃ c rest, after = ':' :: c :: rest ∧ LineHead before ∧ isBlank c = false ∧ c ≠ ':' ∧
      ClosesLine (c :: rest) := by
  constructor
  · rintro ⟨_, _, _, rfl, rfl, rfl, isHead, ⟨c, rest, rfl, solid, other⟩, closes⟩
    exact ⟨c, rest, rfl, isHead, solid, other, closes⟩
  · rintro ⟨c, rest, rfl, isHead, solid, other, closes⟩
    exact ⟨[':'], c :: rest, _, rfl, rfl, rfl, isHead, ⟨c, rest, rfl, solid, other⟩, closes⟩

theorem colonSwap_valueEdit : ValueEdit colonSwap where
  plain := by
    rintro _ _ _ _ ⟨rfl, rfl, _⟩ c isMember
    simp only [List.mem_cons, List.not_mem_nil, or_false] at isMember
    rcases isMember with rfl | rfl | rfl
    · decide
    · decide
    · decide
  first := by
    rintro _ _ _ _ ⟨rfl, rfl, _⟩
    refine ⟨':', [], [' '], rfl, rfl, fun word => ?_⟩
    exact absurd word (by decide)
  place := by
    rintro before written _ _ _ _ ⟨rfl, rfl, isHead, _⟩
    refine .of_inValue (.inl ⟨rfl, ?_⟩) (by simp)
    exact afterProperty_iff.mpr ⟨[], before, rfl, by simp, isHead.inProperty⟩

theorem colonSwap_quiet {piece new : List Char} (swapped : colonSwap before piece after new) :
    '#' ∉ new := by
  rw [swapped.2.1]
  decide

/-- What has been written for a text is the head of a line, or blank, only if the text
is. -/
structure SameStart (before written : List Char) : Prop where
  head : LineHead written → LineHead before
  blank : (∀ c ∈ written, isBlank c = true) → ∀ c ∈ before, isBlank c = true

namespace SameStart

theorem refl : SameStart before before :=
  ⟨id, id⟩

theorem keep (same : SameStart before written) (c : Char) :
    SameStart (c :: before) (c :: written) := by
  constructor
  · rintro ⟨isName, isHead⟩
    exact ⟨isName, isHead.imp same.head same.blank⟩
  · intro allBlank
    rw [List.forall_mem_cons] at allBlank ⊢
    exact ⟨allBlank.1, same.blank allBlank.2⟩

end SameStart

/-- Swaps that begin with a character that is no blank and write nothing that is a head of a
line or lacks a space after a colon. -/
structure ColonEdit (edit : Swap) : Prop extends ValueEdit edit where
  solid {before piece after new : List Char} : edit before piece after new →
    ∀ c ∈ new.head?, isBlank c = false
  last {before piece after new : List Char} : edit before piece after new →
    ∀ c ∈ new.getLast?, isLowerPropertyChar c = false
  spaced {before piece after new : List Char} : edit before piece after new →
    ∀ done rest, new = done ++ ':' :: rest → ∃ c more, rest = c :: more ∧ isBlank c = true

namespace ColonEdit

variable {edit : Swap}

theorem allBlank_of_edited (isEdit : ColonEdit edit) (edited : Edited edit before after out)
    (allBlank : ∀ c ∈ out, isBlank c = true) : ∀ c ∈ after, isBlank c = true := by
  induction edited with
  | done => simp
  | keep _ _ hyp =>
      rw [List.forall_mem_cons] at allBlank ⊢
      exact ⟨allBlank.1, hyp allBlank.2⟩
  | swap swapped _ _ =>
      obtain ⟨c, rest, others, rfl, rfl, _⟩ := isEdit.first swapped
      have solid := isEdit.solid swapped c rfl
      rw [allBlank c (by simp)] at solid
      contradiction

theorem closesLine_of_edited (isEdit : ColonEdit edit) (edited : Edited edit before after out)
    (closes : ClosesLine out) : ClosesLine after := by
  have plain : ∀ {c : Char}, isValueChar c = true → c ≠ ';' ∧ c ≠ '\x7b' := by
    intro c isValue
    constructor
    · rintro rfl
      exact absurd isValue (by decide)
    · rintro rfl
      exact absurd isValue (by decide)
  have skip : ∀ {piece after : List Char}, (∀ c ∈ piece, c ≠ ';' ∧ c ≠ '\x7b') →
      (ClosesLine (piece ++ after) ↔ ClosesLine after) := by
    intro piece after
    induction piece with
    | nil => simp
    | cons c piece hyp =>
        intro others
        rw [List.cons_append, ClosesLine, hyp fun d inPiece => others d (by simp [inPiece])]
        simp [others c (by simp)]
  induction edited with
  | done => exact closes
  | keep _ rest hyp =>
      rw [ClosesLine] at closes ⊢
      exact closes.imp (And.imp_right (isEdit.allBlank_of_edited rest)) (And.imp_right hyp)
  | swap swapped _ hyp =>
      have isPlain := isEdit.plain swapped
      rw [skip fun c inNew => plain (isPlain c (.inr inNew)).1] at closes
      exact (skip fun c inPiece => plain (isPlain c (.inl inPiece)).1).mpr (hyp closes)

theorem free_of_edited (isEdit : ColonEdit edit) (edited : Edited edit [] after out)
    (free : Free (fun before after => ¬ edit.Applies before after ∧ colonSwap.Applies before after)
      [] after) : Free colonSwap.Applies [] out := by
  have swapSame : ∀ {before written piece after new : List Char}, SameStart before written →
      edit before piece after new → SameStart (piece.reverse ++ before) (new.reverse ++ written) := by
    intro before written piece after new _ swapped
    obtain ⟨c, rest, others, rfl, rfl, _⟩ := isEdit.first swapped
    constructor
    · obtain ⟨others, d, isLast⟩ : ∃ more d, c :: others = more ++ [d] :=
        (List.eq_nil_or_concat' (c :: others)).resolve_left (by simp)
      rw [isLast] at swapped ⊢
      rw [List.reverse_append, List.reverse_singleton, List.singleton_append, List.cons_append]
      rintro ⟨isName, _⟩
      rw [isEdit.last swapped d (by simp)] at isName
      contradiction
    · intro allBlank
      have solid := isEdit.solid swapped c rfl
      rw [allBlank c (by simp)] at solid
      contradiction
  refine edited.free (fun same => same.keep _) swapSame ?_ ?_ SameStart.refl free
  · intro before written c after out same _ rest found
    obtain ⟨d, more, split, isHead, solid, other, closes⟩ := colonSwap_applies_iff.mp found
    obtain ⟨rfl, rfl⟩ := List.cons.inj split
    have isFirst : after.head? = some d := (isEdit.head?_of_edited rest).symm
    obtain ⟨later, rfl⟩ := List.head?_eq_some_iff.mp isFirst
    exact .inr (colonSwap_applies_iff.mpr
      ⟨d, later, rfl, same.head isHead, solid, other, isEdit.closesLine_of_edited rest closes⟩)
  · intro before written piece after new out _ swapped _ done more split nonempty found
    obtain ⟨d, later, same, _, solid, _⟩ := colonSwap_applies_iff.mp found
    obtain ⟨c, more, rfl⟩ := List.exists_cons_of_ne_nil nonempty
    obtain ⟨rfl, tail⟩ := List.cons.inj same
    obtain ⟨e, more, rfl, blank⟩ := isEdit.spaced swapped done more split
    obtain ⟨rfl, _⟩ : e = d ∧ more ++ out = later := by simpa using tail
    rw [blank] at solid
    contradiction

end ColonEdit

theorem colonSwap_colonEdit : ColonEdit colonSwap where
  toValueEdit := colonSwap_valueEdit
  solid := by
    rintro _ _ _ _ ⟨_, rfl, _⟩ c ⟨⟩
    decide
  last := by
    rintro _ _ _ _ ⟨_, rfl, _⟩ c ⟨⟩
    decide
  spaced := by
    rintro _ _ _ _ ⟨_, rfl, _⟩ done rest split
    cases done with
    | nil =>
        obtain rfl : [' '] = rest := by simpa using split
        exact ⟨' ', [], rfl, by decide⟩
    | cons c done =>
        have isMember : ':' ∈ [' '] := by
          rw [(List.cons.inj split).2]
          simp
        exact absurd isMember (by decide)

theorem colonSwap_settles {text : List Char} (edited : Edited colonSwap [] text out) :
    Free colonSwap.Applies [] out :=
  colonSwap_colonEdit.free_of_edited edited (Free.of_forall fun _ _ _ _ found => found.1 found.2)

theorem colon_outlasts {edit : Swap} (isEdit : ColonEdit edit) {text : List Char}
    (edited : Edited edit [] text out) (free : Free colonSwap.Applies [] text) :
    Free colonSwap.Applies [] out :=
  isEdit.free_of_edited edited (Free.mono (fun _ _ found => found.2) free)

/-! ## What the pattern matches -/

/-- Where a property and its colon lead to, and what they capture. -/
def colonState (head rest : List Char) : State :=
  ⟨.between (':' :: head.reverse) rest, [(1, .between [] (head ++ ':' :: rest))],
    [(1, .between head.reverse (':' :: rest))]⟩

theorem capture?_one_colonState {head rest : List Char} :
    (colonState head rest).capture? 1 = some head :=
  State.capture?_of_lookup _ rfl rfl

private theorem solidAhead_reaches_iff {opened closed : List (Nat × Cursor)} :
    (ahead true (char ⟨true, .exact, [.anyBlank, .ofChar ':']⟩)).Reaches
        ⟨.between before after, opened, closed⟩ condition ↔
      (∃ c rest, after = c :: rest ∧ isBlank c = false ∧ c ≠ ':') ∧
        condition ⟨.between before after, opened, closed⟩ := by
  rw [reaches_ahead_iff, reaches_char_iff]
  · refine and_congr_left fun _ => ?_
    simp [contains_noneOf, ClassItem.contains_anyBlank, ClassItem.contains_ofChar]
  · intro condition reaches
    obtain ⟨_, _, _, _, met⟩ := reaches_char_iff.mp reaches
    exact ⟨_, met⟩

private theorem closesAhead_reaches_iff {opened closed : List (Nat × Cursor)} :
    (ahead true (sequence [star (char ⟨true, .exact, [.ofChar ';', .ofChar '\x7b']⟩), lit ';',
        star (char ⟨false, .exact, [.anyBlank]⟩), lineEnd])).Reaches
        ⟨.between before after, opened, closed⟩ condition ↔
      ClosesLine after ∧ condition ⟨.between before after, opened, closed⟩ := by
  have inner : ∀ {condition : State → Prop},
      (sequence [star (char ⟨true, .exact, [.ofChar ';', .ofChar '\x7b']⟩), lit ';',
          star (char ⟨false, .exact, [.anyBlank]⟩), lineEnd]).Reaches
          ⟨.between before after, opened, closed⟩ condition ↔
        ∃ body blanks rest, after = body ++ ';' :: (blanks ++ rest) ∧
          (∀ c ∈ body, c ≠ ';' ∧ c ≠ '\x7b') ∧ (∀ c ∈ blanks, isBlank c = true) ∧
          (rest = [] ∨ rest = ['\n']) ∧
          condition ⟨.between (blanks.reverse ++ ';' :: (body.reverse ++ before)) rest, opened,
            closed⟩ := by
    intro condition
    simp only [reaches_sequence_cons_iff, reaches_sequence_nil_iff, reaches_star_char_iff,
      reaches_lit_iff, lineEnd, reaches_anchor_iff, holds_lastLineEnd, contains_noneOf,
      contains_oneOf, List.any_cons, List.any_nil, Bool.or_false, ClassItem.contains_ofChar,
      ClassItem.contains_anyBlank, Bool.not_eq_true', Bool.or_eq_false_iff,
      decide_eq_false_iff_not]
    constructor
    · rintro ⟨body, _, rfl, plain, _, rfl, blanks, rest, rfl, allBlank, atEnd, met⟩
      exact ⟨body, blanks, rest, rfl, plain, allBlank, atEnd, met⟩
    · rintro ⟨body, blanks, rest, rfl, plain, allBlank, atEnd, met⟩
      exact ⟨body, _, rfl, plain, _, rfl, blanks, rest, rfl, allBlank, atEnd, met⟩
  rw [reaches_ahead_iff, inner, closesLine_iff]
  · refine and_congr_left fun _ => ?_
    constructor
    · rintro ⟨body, blanks, rest, rfl, plain, allBlank, atEnd, _⟩
      refine ⟨body, blanks ++ rest, rfl, plain, ?_⟩
      rcases atEnd with rfl | rfl
      · simpa using allBlank
      · intro c isMember
        rcases List.mem_append.mp isMember with inBlanks | isFeed
        · exact allBlank c inBlanks
        · rw [List.mem_singleton.mp isFeed]
          decide
    · rintro ⟨body, blanks, rfl, plain, allBlank⟩
      exact ⟨body, blanks, [], by simp, plain, allBlank, .inl rfl, trivial⟩
  · intro condition reaches
    obtain ⟨_, _, _, _, _, _, _, met⟩ := inner.mp reaches
    exact ⟨_, met⟩

theorem tightColon_reaches_iff :
    tightColon.node.Reaches (.start (.between before after)) condition ↔
      before = [] ∧ ∃ head c rest, after = head ++ ':' :: c :: rest ∧ LineHead head.reverse ∧
        isBlank c = false ∧ c ≠ ':' ∧ ClosesLine (c :: rest) ∧
        condition (colonState head (c :: rest)) := by
  have tree : tightColon.node = sequence
      [textStart, group 1 (sequence [star (char ⟨false, .exact, [.anyBlank]⟩),
          plus (char ⟨false, .exact, [.chars 'a' 'z', .ofChar '-']⟩)]), lit ':',
        ahead true (char ⟨true, .exact, [.anyBlank, .ofChar ':']⟩),
        ahead true (sequence [star (char ⟨true, .exact, [.ofChar ';', .ofChar '\x7b']⟩), lit ';',
          star (char ⟨false, .exact, [.anyBlank]⟩), lineEnd])] := rfl
  have isName : ∀ c : Char, (CharClass.mk false .exact [.chars 'a' 'z', .ofChar '-']).contains c =
      isLowerPropertyChar c := fun _ => contains_oneOf
  have blank : ∀ c : Char, (CharClass.mk false .exact [.anyBlank]).contains c = isBlank c := by
    intro c
    rw [contains_oneOf, List.any_cons, List.any_nil, Bool.or_false, ClassItem.contains_anyBlank]
  rw [tree]
  simp only [State.start, reaches_sequence_cons_iff, reaches_sequence_nil_iff, textStart,
    reaches_anchor_iff, holds_textStart, reaches_group_iff, State.openGroup, State.closeGroup,
    reaches_star_char_iff, reaches_plus_char_iff, reaches_lit_iff, solidAhead_reaches_iff,
    closesAhead_reaches_iff, isName, blank]
  constructor
  · rintro ⟨rfl, blanks, _, rfl, allBlank, name, _, rfl, nonempty, all, _, rfl,
      ⟨c, rest, rfl, solid, other⟩, closes, met⟩
    refine ⟨rfl, blanks ++ name, c, rest, by simp, ?_, solid, other, closes, ?_⟩
    · exact lineHead_iff.mpr ⟨blanks, name, by simp, nonempty, all, allBlank⟩
    · simpa [colonState] using met
  · rintro ⟨rfl, head, c, rest, rfl, isHead, solid, other, closes, met⟩
    obtain ⟨blanks, name, split, nonempty, all, allBlank⟩ := lineHead_iff.mp isHead
    obtain rfl : head = blanks ++ name := by simpa using congrArg List.reverse split
    exact ⟨rfl, blanks, _, by simp, allBlank, name, _, rfl, nonempty, all, _, rfl,
      ⟨c, rest, rfl, solid, other⟩, closes, by simpa [colonState] using met⟩

theorem tightColon_match {found : Match}
    (isMatch : tightColon.matcher false (.between before after) = some found) :
    before = [] ∧ ∃ head rest, after = head ++ ':' :: rest ∧
      colonSwap head.reverse [':'] rest [':', ' '] ∧ found.start = .between before after ∧
      found.finish = .between ((head ++ [':']).reverse ++ before) rest ∧ found.group 1 = head := by
  obtain ⟨start, reaches⟩ := reaches_of_matchAt_eq_some isMatch
  obtain ⟨rfl, head, c, rest, rfl, isHead, solid, other, closes, final⟩ :=
    tightColon_reaches_iff.mp reaches
  refine ⟨rfl, head, c :: rest, rfl, ⟨rfl, rfl, isHead, ⟨c, rest, rfl, solid, other⟩, closes⟩,
    start, ?_, ?_⟩
  · rw [Match.finish, ← final]
    simp [colonState]
  · rw [Match.group, Match.group?, ← final]
    simp [capture?_one_colonState]

theorem tightColon_advances : tightColon.matcher.Advances := by
  intro before after found isMatch
  obtain ⟨_, head, rest, rfl, _, start, finish, _⟩ := tightColon_match isMatch
  exact ⟨start, head ++ [':'], rest, by simp, by simp, finish⟩

/-- The head of a line has no colon. -/
theorem LineHead.not_mem {head : List Char} (isHead : LineHead head.reverse) : ':' ∉ head := by
  obtain ⟨blanks, name, split, _, isName, allBlank⟩ := lineHead_iff.mp isHead
  obtain rfl : head = blanks ++ name := by simpa using congrArg List.reverse split
  intro isMember
  rcases List.mem_append.mp isMember with inBlanks | inName
  · exact absurd (allBlank _ inBlanks) (by decide)
  · exact absurd (isName _ inName) (by decide)

theorem edited_tightColon (text : List Char) :
    Edited colonSwap [] text (tightColon.replaceBy (tightColon.written "\\1: ") text) := by
  have written : ∀ found, tightColon.written "\\1: " found = found.group 1 ++ [':', ' '] := by
    intro found
    rw [Pattern.written_of_template [.group 1, .literal [':'], .literal [' ']] (by decide)]
    simp [Piece.expand]
  obtain ⟨segments, segmented, _, all⟩ := Pattern.exists_segmented tightColon_advances text
  rw [all]
  have nests : tightColon.matcher.Nests := by
    intro before skipped rest outer inner _ nonempty _ _ isInner
    exact absurd (List.append_eq_nil_iff.mp (tightColon_match isInner).1).1 (by simpa using nonempty)
  refine segmented.edited nests (fun _ _ _ => trivial) ?_ ?_ Matcher.clear_start trivial
  · intro before piece after found _ isMatch _ finish out edited
    obtain ⟨rfl, head, rest, split, swapped, _, ownFinish, first⟩ := tightColon_match isMatch
    obtain ⟨rfl, rfl⟩ : piece = head ++ [':'] ∧ after = rest :=
      Cursor.cut_unique (by simpa using split) finish ownFinish
    rw [written, first, List.append_assoc, List.append_assoc]
    refine Edited.keep_append ?_ (.swap (by simpa using swapped) (by simpa using edited))
    intro done more cut nonempty applies
    obtain ⟨c, more, rfl⟩ := List.exists_cons_of_ne_nil nonempty
    obtain ⟨_, _, same, _⟩ := colonSwap_applies_iff.mp applies
    obtain ⟨rfl, _⟩ := List.cons.inj same
    exact swapped.2.2.1.not_mem (by simp [cut])
  · rintro before _ after _ _ ⟨rfl, rfl, isHead, ⟨c, rest, rfl, solid, other⟩, closes⟩
    obtain ⟨found, isMatch⟩ := exists_matchAt_of_reaches (tightColon_reaches_iff.mpr
      ⟨rfl, before.reverse, c, rest, rfl, by simpa using isHead, solid, other, closes, trivial⟩)
    refine ⟨before.reverse, [], found, by simp, isMatch, ?_⟩
    obtain ⟨_, head, last, split, swapped, _, finish, _⟩ := tightColon_match isMatch
    rw [finish, Cursor.between_left]
    by_contra beyond
    have absent : ':' ∉ before.reverse := LineHead.not_mem (by simpa using isHead)
    refine absent (mem_of_suffix split ?_)
    simp only [List.length_append, List.length_cons, List.length_nil] at beyond ⊢
    omega

/-- Where no colon lacks its space, the pattern finds nothing. -/
theorem tightColon_matchesIn {text : List Char} (free : Free colonSwap.Applies [] text) :
    tightColon.matchesIn text = false := by
  rw [Pattern.matchesIn, Option.isSome_eq_false_iff, Option.isNone_iff_eq_none,
    Option.eq_none_iff_forall_not_mem]
  intro found search
  obtain ⟨skipped, _, rfl, isMatch⟩ := Matcher.exists_of_find?_eq_some search
  obtain ⟨start, head, rest, rfl, swapped, _⟩ := tightColon_match isMatch
  obtain rfl : skipped = [] := by simpa using start
  have absent : ¬ colonSwap.Applies (head.reverse ++ []) (':' :: rest) :=
    Free.not_shape (by simpa using free) (by simp)
  exact absent ⟨[':'], rest, _, rfl, by simpa using swapped⟩

end LineRules.Builtin
