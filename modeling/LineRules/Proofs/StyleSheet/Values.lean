import LineRules.Builtin.StyleSheet
import LineRules.Proofs.Pattern.Segments
import LineRules.Proofs.Text.Folding
import LineRules.Proofs.Text.Runs

/-!
# Values of declarations

Where a place of a line lies in the value of a declaration can be told from the text
before it (`InValue`) and the text after it (`ValueEnds`), and `declaration_reaches_iff`
says that this is what the pattern for declarations goes by.
-/

namespace LineRules.Builtin

open LineRules.Text LineRules.Pattern LineRules.Pattern.Node

variable {before after : List Char} {condition : State → Prop}

/-! ## Characters -/

/-- The characters of property names, in any case. -/
def isPropertyChar (c : Char) : Bool :=
  (CharClass.mk false .folded [.chars 'a' 'z', .ofChar '-']).contains c

/-- The characters right after which no property begins. -/
def isJoint (c : Char) : Bool :=
  isWord c || c ∈ ['#', '.', ':', '-']

/-- The characters of values. -/
def isValueChar (c : Char) : Bool :=
  c ∉ [';', '\x7b', '\x7d']

/-- The characters that close a declaration. -/
def isCloser (c : Char) : Bool :=
  c ∈ [';', '\x7d']

theorem contains_joint (c : Char) : (CharClass.mk false .folded
    [.anyWord, .ofChar '#', .ofChar '.', .ofChar ':', .ofChar '-']).contains c = isJoint c := by
  have others : (CharClass.mk false .folded
      [.ofChar '#', .ofChar '.', .ofChar ':', .ofChar '-']).contains c =
        decide (c ∈ ['#', '.', ':', '-']) :=
    CharClass.contains_marks ['#', '.', ':', '-'] (by decide) c
  have word : ClassItem.anyWord.admits .folded c.toNat = isWord c := ClassItem.contains_anyWord c
  have several : ∀ first second : ClassItem, ∀ items : List ClassItem,
      (CharClass.mk false .folded (first :: second :: items)).contains c =
        (first :: second :: items).any (·.admits .folded c.toNat) := by
    simp [CharClass.contains]
  rw [several] at others ⊢
  rw [List.any_cons, others, word, isJoint]

theorem contains_valueChar (c : Char) : (CharClass.mk true .folded
    [.ofChar ';', .ofChar '\x7b', .ofChar '\x7d']).contains c = isValueChar c := by
  have others : (CharClass.mk false .folded
      [.ofChar ';', .ofChar '\x7b', .ofChar '\x7d']).contains c =
        decide (c ∈ [';', '\x7b', '\x7d']) :=
    CharClass.contains_marks [';', '\x7b', '\x7d'] (by decide) c
  rw [CharClass.contains_noneOf_folded, others, isValueChar, decide_not]

theorem contains_closer (c : Char) : (CharClass.mk false .folded
    [.ofChar ';', .ofChar '\x7d']).contains c = isCloser c :=
  CharClass.contains_marks [';', '\x7d'] (by decide) c

theorem contains_blank (c : Char) :
    (CharClass.mk false .folded [.anyBlank]).contains c = isBlank c := by
  have own : (CharClass.mk false .folded [.anyBlank]).contains c =
      (ClassItem.anyBlank.contains c.toNat || false) := Bool.bne_false _
  rw [own, Bool.or_false, ClassItem.contains_anyBlank]

theorem contains_comma (c : Char) :
    (CharClass.mk false .folded [.ofChar ',']).contains c = decide (c ∈ [',']) :=
  CharClass.contains_marks [','] (by decide) c

theorem contains_colon (c : Char) :
    (CharClass.mk false .folded [.ofChar ':']).contains c = decide (c ∈ [':']) :=
  CharClass.contains_marks [':'] (by decide) c

/-- Characters of property names are word characters or hyphens. -/
theorem isWord_or_of_isPropertyChar {c : Char} (isProperty : isPropertyChar c = true) :
    isWord c = true ∨ c = '-' := by
  have both := CharClass.holds_of_folded (fun c => isWord c || c = '-') (by decide)
    (by decide +kernel) isProperty
  simpa using both

theorem isValueChar_of_isBlank {c : Char} (blank : isBlank c = true) : isValueChar c = true := by
  rw [isValueChar, decide_eq_true_eq]
  intro isMember
  simp only [List.mem_cons, List.not_mem_nil, or_false] at isMember
  rcases isMember with rfl | rfl | rfl
  · exact absurd blank (by decide)
  · exact absurd blank (by decide)
  · exact absurd blank (by decide)

theorem isValueChar_of_isWord {c : Char} (word : isWord c = true) : isValueChar c = true := by
  rw [isValueChar, decide_eq_true_eq]
  intro isMember
  simp only [List.mem_cons, List.not_mem_nil, or_false] at isMember
  rcases isMember with rfl | rfl | rfl
  · exact absurd word (by decide)
  · exact absurd word (by decide)
  · exact absurd word (by decide)

theorem isValueChar_of_isPropertyChar {c : Char} (isProperty : isPropertyChar c = true) :
    isValueChar c = true := by
  rcases isWord_or_of_isPropertyChar isProperty with word | rfl
  · exact isValueChar_of_isWord word
  · decide

theorem not_isCloser_of_isValueChar {c : Char} (isValue : isValueChar c = true) :
    isCloser c = false := by
  rw [isCloser, decide_eq_false_iff_not]
  intro isMember
  simp only [List.mem_cons, List.not_mem_nil, or_false] at isMember
  rcases isMember with rfl | rfl
  · exact absurd isValue (by decide)
  · exact absurd isValue (by decide)

/-! ## Places -/

/-- A property can begin after a text. -/
def Begins (before : List Char) : Prop :=
  ∀ c ∈ before.head?, isJoint c = false

/-- A text ends in the name of a property. -/
def InProperty : List Char → Prop
  | [] => False
  | c :: before => isPropertyChar c = true ∧ (InProperty before ∨ Begins before)

/-- A text ends in the name of a property or the blanks after it. -/
def AfterProperty : List Char → Prop
  | [] => False
  | c :: before => InProperty (c :: before) ∨ (isBlank c = true ∧ AfterProperty before)

/-- A text ends in what can be the value of a declaration. -/
def InValue : List Char → Prop
  | [] => False
  | c :: before => (c = ':' ∧ AfterProperty before) ∨ (isValueChar c = true ∧ InValue before)

/-- What can be the value of a declaration goes on after a character up to a closer or the
end, and no comma is its last character. -/
def ValueEnds (last : Char) : List Char → Prop
  | [] => last ≠ ','
  | c :: after => if isCloser c then last ≠ ',' else isValueChar c = true ∧ ValueEnds c after

theorem inProperty_iff : InProperty before ↔
    ∃ name earlier, before = name.reverse ++ earlier ∧ name ≠ [] ∧
      (∀ c ∈ name, isPropertyChar c = true) ∧ Begins earlier := by
  induction before with
  | nil => simp [InProperty]
  | cons c before hyp =>
      rw [InProperty, hyp]
      constructor
      · rintro ⟨isProperty, ⟨name, earlier, rfl, nonempty, all, begins⟩ | begins⟩
        · refine ⟨name ++ [c], earlier, by simp, by simp, ?_, begins⟩
          intro d isMember
          rcases List.mem_append.mp isMember with inName | isLast
          · exact all d inName
          · rwa [List.mem_singleton.mp isLast]
        · exact ⟨[c], before, rfl, by simp, by simpa using isProperty, begins⟩
      · rintro ⟨name, earlier, split, nonempty, all, begins⟩
        obtain ⟨name, d, rfl⟩ := List.eq_nil_or_concat' name |>.resolve_left nonempty
        obtain ⟨rfl, rfl⟩ : c = d ∧ before = name.reverse ++ earlier := by simpa using split
        refine ⟨all c (by simp), ?_⟩
        rcases List.eq_nil_or_concat' name with rfl | ⟨_, _, _⟩
        · exact .inr begins
        · exact .inl ⟨name, earlier, rfl, by simp_all,
            fun d inName => all d (List.mem_append_left _ inName), begins⟩

theorem afterProperty_iff : AfterProperty before ↔
    ∃ blanks named : List Char, before = blanks.reverse ++ named ∧ (∀ c ∈ blanks, isBlank c = true) ∧
      InProperty named := by
  induction before with
  | nil =>
      constructor
      · exact False.elim
      · rintro ⟨blanks, named, split, _, inProperty⟩
        obtain ⟨_, rfl⟩ := List.append_eq_nil_iff.mp split.symm
        exact inProperty
  | cons c before hyp =>
      rw [AfterProperty, hyp]
      constructor
      · rintro (inProperty | ⟨blank, blanks, named, rfl, all, inProperty⟩)
        · exact ⟨[], _, rfl, by simp, inProperty⟩
        · refine ⟨blanks ++ [c], named, by simp, ?_, inProperty⟩
          intro d isMember
          rcases List.mem_append.mp isMember with inBlanks | isLast
          · exact all d inBlanks
          · rwa [List.mem_singleton.mp isLast]
      · rintro ⟨blanks, named, split, all, inProperty⟩
        rcases List.eq_nil_or_concat' blanks with rfl | ⟨blanks, d, rfl⟩
        · obtain rfl : c :: before = named := by simpa using split
          exact .inl inProperty
        · obtain ⟨rfl, rfl⟩ : c = d ∧ before = blanks.reverse ++ named := by simpa using split
          exact .inr ⟨all c (by simp), blanks, named, rfl,
            fun d inBlanks => all d (List.mem_append_left _ inBlanks), inProperty⟩

theorem inValue_iff : InValue before ↔
    ∃ value named : List Char, before = value.reverse ++ ':' :: named ∧
      (∀ c ∈ value, isValueChar c = true) ∧ AfterProperty named := by
  induction before with
  | nil => simp [InValue]
  | cons c before hyp =>
      rw [InValue, hyp]
      constructor
      · rintro (⟨rfl, after⟩ | ⟨isValue, value, named, rfl, all, after⟩)
        · exact ⟨[], before, rfl, by simp, after⟩
        · refine ⟨value ++ [c], named, by simp, ?_, after⟩
          intro d isMember
          rcases List.mem_append.mp isMember with inValue | isLast
          · exact all d inValue
          · rwa [List.mem_singleton.mp isLast]
      · rintro ⟨value, named, split, all, after⟩
        rcases List.eq_nil_or_concat' value with rfl | ⟨value, d, rfl⟩
        · obtain ⟨rfl, rfl⟩ : c = ':' ∧ before = named := by simpa using split
          exact .inl ⟨rfl, after⟩
        · obtain ⟨rfl, rfl⟩ : c = d ∧ before = value.reverse ++ ':' :: named := by
            simpa using split
          exact .inr ⟨all c (by simp), value, named, rfl,
            fun d inValue => all d (List.mem_append_left _ inValue), after⟩

theorem inValue_append {value : List Char} (all : ∀ c ∈ value, isValueChar c = true)
    (inValue : InValue before) : InValue (value.reverse ++ before) := by
  obtain ⟨others, named, rfl, allOthers, after⟩ := inValue_iff.mp inValue
  refine inValue_iff.mpr ⟨others ++ value, named, by simp, ?_, after⟩
  intro c isMember
  exact (List.mem_append.mp isMember).elim (allOthers c) (all c)

theorem valueEnds_iff {last : Char} : ValueEnds last after ↔
    ∃ value rest, after = value ++ rest ∧ (∀ c ∈ value, isValueChar c = true) ∧
      (∀ c ∈ rest.head?, isCloser c = true) ∧ ∀ c ∈ (value.reverse ++ [last]).head?, c ≠ ',' := by
  induction after generalizing last with
  | nil =>
      constructor
      · intro ends
        rw [ValueEnds] at ends
        exact ⟨[], [], rfl, by simp, by simp, by simpa using ends⟩
      · rintro ⟨value, rest, split, _, _, ends⟩
        obtain ⟨rfl, rfl⟩ := List.append_eq_nil_iff.mp split.symm
        rw [ValueEnds]
        simpa using ends
  | cons c after hyp =>
      rw [ValueEnds]
      constructor
      · intro ends
        split at ends
        case isTrue closer => exact ⟨[], c :: after, rfl, by simp, by simpa using closer, by simpa using ends⟩
        case isFalse =>
          obtain ⟨isValue, ends⟩ := ends
          obtain ⟨value, rest, rfl, all, stop, noComma⟩ := hyp.mp ends
          refine ⟨c :: value, rest, rfl, by simpa using ⟨isValue, all⟩, stop, ?_⟩
          cases value.reverse with
          | nil => simpa using noComma
          | cons => simpa using noComma
      · rintro ⟨value, rest, split, all, stop, noComma⟩
        cases value with
        | nil =>
            obtain rfl : c :: after = rest := split
            have closer : isCloser c = true := stop c rfl
            simpa [closer] using noComma
        | cons d value =>
            obtain ⟨rfl, rfl⟩ : c = d ∧ after = value ++ rest := by simpa using split
            have isValue : isValueChar c = true := all c (by simp)
            rw [if_neg (by simp [not_isCloser_of_isValueChar isValue])]
            refine ⟨isValue, hyp.mpr ⟨value, rest, rfl, fun d inValue => all d (by simp [inValue]),
              stop, ?_⟩⟩
            cases turned : value.reverse with
            | nil => simpa [turned] using noComma
            | cons => simpa [turned] using noComma

/-! ## Declarations -/

/-- Where a declaration leads to, and what it captures. -/
def declarationState (before head value rest : List Char) : State :=
  let valued := head.reverse ++ before
  ⟨.between (value.reverse ++ valued) rest,
    [(2, .between valued (value ++ rest)), (1, .between before (head ++ (value ++ rest)))],
    [(2, .between (value.reverse ++ valued) rest), (1, .between valued (value ++ rest))]⟩

theorem capture?_one_declarationState {head value rest : List Char} :
    (declarationState before head value rest).capture? 1 = some head :=
  State.capture?_of_lookup _ rfl rfl

theorem capture?_two_declarationState {head value rest : List Char} :
    (declarationState before head value rest).capture? 2 = some value :=
  State.capture?_of_lookup _ rfl rfl

/-- A property with its blanks and its colon. -/
def IsHead (head : List Char) : Prop :=
  ∃ name blanks, head = name ++ (blanks ++ [':']) ∧ name ≠ [] ∧
    (∀ c ∈ name, isPropertyChar c = true) ∧ ∀ c ∈ blanks, isBlank c = true

private theorem closerAhead_reaches_iff {opened closed : List (Nat × Cursor)} :
    (ahead true (choice [char ⟨false, .folded, [.ofChar ';', .ofChar '\x7d']⟩, lineEnd])).Reaches
        ⟨.between before after, opened, closed⟩ condition ↔
      (after = [] ∨ after = ['\n'] ∨ ∃ c later, after = c :: later ∧ isCloser c = true) ∧
        condition ⟨.between before after, opened, closed⟩ := by
  have body : ∀ {condition : State → Prop},
      (choice [char ⟨false, .folded, [.ofChar ';', .ofChar '\x7d']⟩, lineEnd]).Reaches
          ⟨.between before after, opened, closed⟩ condition ↔
        (∃ c later, after = c :: later ∧ isCloser c = true ∧
          condition ⟨.between (c :: before) later, opened, closed⟩) ∨
        (after = [] ∨ after = ['\n']) ∧ condition ⟨.between before after, opened, closed⟩ := by
    intro condition
    rw [reaches_choice_iff (by simp)]
    simp only [List.mem_cons, List.not_mem_nil, or_false, exists_eq_or_imp, exists_eq_left,
      lineEnd, reaches_char_iff, reaches_anchor_iff, contains_closer, holds_lastLineEnd]
  rw [reaches_ahead_iff, body]
  · refine and_congr_left fun _ => ?_
    constructor
    · rintro (⟨c, later, rfl, closer, _⟩ | ⟨atEnd, _⟩)
      · exact .inr (.inr ⟨c, later, rfl, closer⟩)
      · exact or_assoc.mp (.inl atEnd)
    · rintro (rfl | rfl | ⟨c, later, rfl, closer⟩)
      · exact .inr ⟨.inl rfl, trivial⟩
      · exact .inr ⟨.inr rfl, trivial⟩
      · exact .inl ⟨c, later, rfl, closer, trivial⟩
  · intro condition reaches
    rcases body.mp reaches with ⟨_, _, _, _, met⟩ | ⟨_, met⟩
    · exact ⟨_, met⟩
    · exact ⟨_, met⟩

theorem declaration_reaches_iff :
    declaration.node.Reaches (.start (.between before after)) condition ↔
      ∃ head value rest, after = head ++ (value ++ rest) ∧ Begins before ∧ IsHead head ∧
        (∀ c ∈ value, isValueChar c = true) ∧
        (∀ c ∈ (value.reverse ++ [':']).head?, c ≠ ',') ∧
        (rest = [] ∨ rest = ['\n'] ∨ ∃ c later, rest = c :: later ∧ isCloser c = true) ∧
        condition (declarationState before head value rest) := by
  have tree : declaration.node = sequence
      [behind false 1 (oneOf
          [.anyWord, .ofChar '#', .ofChar '.', .ofChar ':', .ofChar '-'] .folded),
        group 1 (sequence
          [plus (oneOf [.chars 'a' 'z', .ofChar '-'] .folded), star (blank .folded),
            lit ':' .folded]),
        group 2 (star (noneOf [.ofChar ';', .ofChar '\x7b', .ofChar '\x7d'] .folded)),
        behind false 1 (lit ',' .folded),
        ahead true (choice [oneOf [.ofChar ';', .ofChar '\x7d'] .folded, lineEnd])] := rfl
  rw [tree]
  simp only [State.start, reaches_sequence_cons_iff, reaches_sequence_nil_iff, oneOf, noneOf, lit,
    blank, reaches_behind_iff, reaches_group_iff, State.openGroup, State.closeGroup,
    reaches_star_char_iff, reaches_plus_char_iff, reaches_char_iff, contains_joint,
    contains_valueChar, contains_blank, contains_comma, contains_colon, closerAhead_reaches_iff]
  constructor
  · rintro ⟨begins, name, _, rfl, nonempty, isName, blanks, _, rfl, allBlank, c, _, rfl, colon,
      value, rest, rfl, isValue, noComma, ends, met⟩
    obtain rfl : c = ':' := by simpa using colon
    refine ⟨name ++ (blanks ++ [':']), value, rest, by simp, begins,
      ⟨name, blanks, rfl, nonempty, isName, allBlank⟩, isValue, ?_, ends, ?_⟩
    · cases turned : value.reverse with
      | nil => simp
      | cons => simpa [turned] using noComma
    · simpa [declarationState] using met
  · rintro ⟨_, value, rest, rfl, begins, ⟨name, blanks, rfl, nonempty, isName, allBlank⟩, isValue,
      noComma, ends, met⟩
    refine ⟨begins, name, _, by simp, nonempty, isName, blanks, _, rfl, allBlank, ':',
      _, rfl, by simp, value, rest, rfl, isValue, ?_, ends, ?_⟩
    · cases turned : value.reverse with
      | nil => simp
      | cons => simpa [turned] using noComma
    · simpa [declarationState] using met

end LineRules.Builtin
