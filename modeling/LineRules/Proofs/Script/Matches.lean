import LineRules.Builtin.Script
import LineRules.Proofs.Pattern.Segments
import LineRules.Proofs.Text.Runs

/-!
# What the patterns for JavaScript match

For every pattern of a rule that replaces text: the texts that it matches, in what
surroundings, and what it captures.
-/

namespace LineRules.Builtin

open LineRules.Text LineRules.Pattern LineRules.Pattern.Node

variable {before after : List Char} {condition : State → Prop}

theorem isWord_function : ∀ c ∈ "function".toList, isWord c = true :=
  List.all_eq_true.mp (by decide)

theorem anonymousFunction_reaches_iff :
    anonymousFunction.node.Reaches (.start (.between before after)) condition ↔
      ∃ blanks rest, after = "function".toList ++ (blanks ++ '(' :: rest) ∧ NoWordNext before ∧
        blanks ≠ [] ∧ (∀ c ∈ blanks, isBlank c = true) ∧
        condition (.start (.between
          ('(' :: (blanks.reverse ++ ("function".toList.reverse ++ before))) rest)) := by
  have tree : anonymousFunction.node = sequence ([boundary] ++
      ("function".toList.map (fun c => lit c) ++ [plus blank, lit '('])) := rfl
  rw [tree]
  simp only [State.start, reaches_sequence_append_iff, reaches_sequence_cons_iff,
    reaches_sequence_nil_iff, boundary, reaches_anchor_iff, reaches_lits_iff, blank, oneOf,
    reaches_plus_char_iff, reaches_lit_iff, contains_oneOf, List.any_cons, List.any_nil,
    Bool.or_false, ClassItem.contains_anyBlank]
  constructor
  · rintro ⟨holds, _, rfl, blanks, _, rfl, nonempty, allBlank, rest, rfl, met⟩
    exact ⟨blanks, rest, rfl, (holds_boundary_before (by decide) isWord_function).mp holds,
      nonempty, allBlank, met⟩
  · rintro ⟨blanks, rest, rfl, stop, nonempty, allBlank, met⟩
    exact ⟨(holds_boundary_before (by decide) isWord_function).mpr stop, _, rfl, blanks, _, rfl,
      nonempty, allBlank, rest, rfl, met⟩

/-- The characters between the word `function` and the parenthesis of its arguments. -/
def isNameChar (c : Char) : Bool :=
  isWord c || c = '$' || c = ' '

/-- What stands between the parenthesis and the brace of a function where it is not set
right yet. -/
def LooseGap (blanks : List Char) : Prop :=
  (2 ≤ blanks.length ∧ ∀ c ∈ blanks, isBlank c = true) ∨ blanks = ['\t'] ∨ blanks = []

private theorem looseGap_reaches_iff {opened closed : List (Nat × Cursor)} :
    (choice [iterate .greedy 2 none blank, lit '\t', empty]).Reaches
        ⟨.between before after, opened, closed⟩ condition ↔
      ∃ blanks rest, after = blanks ++ rest ∧ LooseGap blanks ∧
        condition ⟨.between (blanks.reverse ++ before) rest, opened, closed⟩ := by
  rw [reaches_choice_iff (by simp)]
  simp only [List.mem_cons, List.not_mem_nil, or_false, exists_eq_or_imp, exists_eq_left,
    reaches_iterate_char_iff (by decide : Appetite.greedy ≠ .possessive), blank, oneOf, reaches_lit_iff,
    reaches_empty_iff, contains_oneOf, List.any_cons, List.any_nil, Bool.or_false,
    ClassItem.contains_anyBlank, LooseGap]
  constructor
  · rintro (⟨blanks, rest, rfl, enough, -, allBlank, met⟩ | ⟨rest, rfl, met⟩ | met)
    · exact ⟨blanks, rest, rfl, .inl ⟨enough, allBlank⟩, met⟩
    · exact ⟨['\t'], rest, rfl, .inr (.inl rfl), met⟩
    · exact ⟨[], after, rfl, .inr (.inr rfl), met⟩
  · rintro ⟨blanks, rest, rfl, ⟨enough, allBlank⟩ | rfl | rfl, met⟩
    · exact .inl ⟨blanks, rest, rfl, enough, by simp, allBlank, met⟩
    · exact .inr (.inl ⟨rest, rfl, met⟩)
    · exact .inr (.inr met)

/-- Where the head of a function and its brace lead to, and what they capture. -/
def braceState (before name arguments blanks rest : List Char) : State :=
  let named := "function".toList.reverse ++ before
  let opened := name.reverse ++ named
  let closed := arguments.reverse ++ '(' :: opened
  let body := blanks ++ '\x7b' :: rest
  ⟨.between ('\x7b' :: (blanks.reverse ++ ')' :: closed)) rest,
    [(2, .between ('(' :: opened) (arguments ++ ')' :: body)),
      (1, .between named (name ++ '(' :: (arguments ++ ')' :: body)))],
    [(2, .between closed (')' :: body)),
      (1, .between opened ('(' :: (arguments ++ ')' :: body)))]⟩

theorem capture?_one_braceState {name arguments blanks rest : List Char} :
    (braceState before name arguments blanks rest).capture? 1 = some name :=
  State.capture?_of_lookup _ rfl rfl

theorem capture?_two_braceState {name arguments blanks rest : List Char} :
    (braceState before name arguments blanks rest).capture? 2 = some arguments :=
  State.capture?_of_lookup _ rfl rfl

theorem functionBrace_reaches_iff :
    functionBrace.node.Reaches (.start (.between before after)) condition ↔
      ∃ name arguments blanks rest, after = "function".toList ++
          (name ++ '(' :: (arguments ++ ')' :: (blanks ++ '\x7b' :: rest))) ∧
        NoWordNext before ∧ NoWordNext (name ++ ['(']) ∧ (∀ c ∈ name, isNameChar c = true) ∧
        (∀ c ∈ arguments, c ≠ ')') ∧ LooseGap blanks ∧
        condition (braceState before name arguments blanks rest) := by
  have tree : functionBrace.node = sequence ([boundary] ++
      ("function".toList.map (fun c => lit c) ++ [boundary,
        group 1 (star (oneOf [.anyWord, .ofChar '$', .ofChar ' '])), lit '(',
        group 2 (star (noneOf [.ofChar ')'])), lit ')',
        choice [iterate .greedy 2 none blank, lit '\t', empty], lit '\x7b'])) := rfl
  have boundaryAfter : ∀ before name rest : List Char,
      Anchor.holds (.wordBoundary false) (.between ("function".toList.reverse ++ before)
        (name ++ '(' :: rest)) = true ↔ NoWordNext (name ++ ['(']) := by
    intro before name rest
    rw [holds_boundary_after (by decide) isWord_function]
    cases name <;> simp [NoWordNext]
  rw [tree]
  simp only [State.start, reaches_sequence_append_iff, reaches_sequence_cons_iff,
    reaches_sequence_nil_iff, boundary, reaches_anchor_iff, reaches_lits_iff, reaches_group_iff,
    State.openGroup, State.closeGroup, oneOf, noneOf, reaches_star_char_iff, looseGap_reaches_iff,
    reaches_lit_iff, contains_oneOf, contains_noneOf, List.any_cons, List.any_nil,
    Bool.or_false, ClassItem.contains_anyWord, ClassItem.contains_ofChar]
  constructor
  · rintro ⟨holds, _, rfl, next, name, _, rfl, inName, _, rfl, arguments, _, rfl, inArguments,
      _, rfl, blanks, _, rfl, loose, rest, rfl, met⟩
    refine ⟨name, arguments, blanks, rest, rfl,
      (holds_boundary_before (by decide) isWord_function).mp holds, (boundaryAfter _ _ _).mp next,
      ?_, ?_, loose, met⟩
    · intro c isName
      simpa [isNameChar, or_assoc] using inName c isName
    · intro c isArgument
      simpa using inArguments c isArgument
  · rintro ⟨name, arguments, blanks, rest, rfl, stop, next, inName, inArguments, loose, met⟩
    refine ⟨(holds_boundary_before (by decide) isWord_function).mpr stop, _, rfl,
      (boundaryAfter _ _ _).mpr next, name, _, rfl, ?_, _, rfl, arguments, _, rfl, ?_, _, rfl,
      blanks, _, rfl, loose, rest, rfl, met⟩
    · intro c isName
      simpa [isNameChar, or_assoc] using inName c isName
    · intro c isArgument
      simpa using inArguments c isArgument

/-- The keywords that are set off from their parenthesis. -/
def spacedKeywords : List String :=
  ["if", "for", "while", "switch", "catch"]

theorem isWord_spacedKeywords :
    ∀ keyword ∈ spacedKeywords, keyword.toList ≠ [] ∧ ∀ c ∈ keyword.toList, isWord c = true := by
  have all : (spacedKeywords.all fun keyword =>
      !keyword.toList.isEmpty && keyword.toList.all isWord) = true := by
    decide
  intro keyword isKeyword
  simpa using List.all_eq_true.mp all keyword isKeyword

theorem tightKeyword_reaches_iff :
    tightKeyword.node.Reaches (.start (.between before after)) condition ↔
      ∃ keyword ∈ spacedKeywords, ∃ rest, after = keyword.toList ++ '(' :: rest ∧
        NoWordNext before ∧
        condition ⟨.between ('(' :: (keyword.toList.reverse ++ before)) rest,
          [(1, .between before (keyword.toList ++ '(' :: rest))],
          [(1, .between (keyword.toList.reverse ++ before) ('(' :: rest))]⟩ := by
  have tree : tightKeyword.node = sequence [boundary, group 1 (words spacedKeywords), lit '('] :=
    rfl
  rw [tree]
  simp only [State.start, reaches_sequence_cons_iff, reaches_sequence_nil_iff, boundary,
    reaches_anchor_iff, reaches_group_iff, State.openGroup, State.closeGroup,
    reaches_words_iff (by decide : spacedKeywords ≠ []), reaches_lit_iff]
  constructor
  · rintro ⟨holds, keyword, isKeyword, _, rfl, rest, rfl, met⟩
    obtain ⟨nonempty, isText⟩ := isWord_spacedKeywords keyword isKeyword
    exact ⟨keyword, isKeyword, rest, rfl, (holds_boundary_before nonempty isText).mp holds, met⟩
  · rintro ⟨keyword, isKeyword, rest, rfl, stop, met⟩
    obtain ⟨nonempty, isText⟩ := isWord_spacedKeywords keyword isKeyword
    exact ⟨(holds_boundary_before nonempty isText).mpr stop, keyword, isKeyword, _, rfl, rest, rfl,
      met⟩

theorem isWord_else : ∀ c ∈ "else".toList, isWord c = true :=
  List.all_eq_true.mp (by decide)

theorem tightElse_reaches_iff :
    tightElse.node.Reaches (.start (.between before after)) condition ↔
      ∃ rest, after = '\x7d' :: ("else".toList ++ rest) ∧ NoWordNext rest ∧
        condition (.start (.between ("else".toList.reverse ++ '\x7d' :: before) rest)) := by
  have tree : tightElse.node = sequence (lit '\x7d' ::
      ("else".toList.map (fun c => lit c) ++ [boundary])) := rfl
  rw [tree]
  simp only [State.start, reaches_sequence_append_iff, reaches_sequence_cons_iff,
    reaches_sequence_nil_iff, boundary, reaches_anchor_iff, reaches_lits_iff, reaches_lit_iff]
  constructor
  · rintro ⟨_, rfl, rest, rfl, holds, met⟩
    exact ⟨rest, rfl, (holds_boundary_after (by decide) isWord_else).mp holds, met⟩
  · rintro ⟨rest, rfl, stop, met⟩
    exact ⟨_, rfl, rest, rfl, (holds_boundary_after (by decide) isWord_else).mpr stop, met⟩

theorem elseTight_reaches_iff :
    elseTight.node.Reaches (.start (.between before after)) condition ↔
      ∃ rest, after = "else".toList ++ '\x7b' :: rest ∧ NoWordNext before ∧
        condition (.start (.between ('\x7b' :: ("else".toList.reverse ++ before)) rest)) := by
  have tree : elseTight.node = sequence ([boundary] ++
      ("else".toList.map (fun c => lit c) ++ [lit '\x7b'])) := rfl
  rw [tree]
  simp only [State.start, reaches_sequence_append_iff, reaches_sequence_cons_iff,
    reaches_sequence_nil_iff, boundary, reaches_anchor_iff, reaches_lits_iff, reaches_lit_iff]
  constructor
  · rintro ⟨holds, _, rfl, rest, rfl, met⟩
    exact ⟨rest, rfl, (holds_boundary_before (by decide) isWord_else).mp holds, met⟩
  · rintro ⟨rest, rfl, stop, met⟩
    exact ⟨(holds_boundary_before (by decide) isWord_else).mpr stop, _, rfl, rest, rfl, met⟩

theorem looseSemicolon_reaches_iff :
    looseSemicolon.node.Reaches (.start (.between before after)) condition ↔
      ∃ c blanks rest, after = c :: (blanks ++ ';' :: rest) ∧ isBlank c = false ∧
        blanks ≠ [] ∧ (∀ d ∈ blanks, isGap d = true) ∧ (rest = [] ∨ rest = ['\n']) ∧
        condition ⟨.between (';' :: (blanks.reverse ++ c :: before)) rest,
          [(1, .between before (c :: (blanks ++ ';' :: rest)))],
          [(1, .between (c :: before) (blanks ++ ';' :: rest))]⟩ := by
  have tree : looseSemicolon.node = sequence [group 1 (oneOf [.blank true false]),
      plus (oneOf [.ofChar ' ', .ofChar '\t']), lit ';', lineEnd] := rfl
  rw [tree]
  simp only [State.start, reaches_sequence_cons_iff, reaches_sequence_nil_iff, lineEnd,
    reaches_anchor_iff, reaches_group_iff, State.openGroup, State.closeGroup, oneOf,
    reaches_char_iff, reaches_plus_char_iff, reaches_lit_iff, contains_oneOf, List.any_cons,
    List.any_nil, Bool.or_false, ClassItem.contains_notBlank, ClassItem.contains_ofChar,
    holds_lastLineEnd]
  constructor
  · rintro ⟨c, _, rfl, solid, blanks, _, rfl, nonempty, gap, rest, rfl, last, met⟩
    refine ⟨c, blanks, rest, rfl, by simpa using solid, nonempty, ?_, last, met⟩
    intro d inBlanks
    simpa [isGap] using gap d inBlanks
  · rintro ⟨c, blanks, rest, rfl, solid, nonempty, gap, last, met⟩
    refine ⟨c, _, rfl, by simpa using solid, blanks, _, rfl, nonempty, ?_, rest, rfl, last, met⟩
    intro d inBlanks
    simpa [isGap] using gap d inBlanks

end LineRules.Builtin
