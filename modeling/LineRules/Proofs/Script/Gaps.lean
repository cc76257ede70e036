import LineRules.Proofs.Script.Matches
import LineRules.Proofs.Text.GapPatterns

/-!
# The gaps that the rules for JavaScript set

Every rule for JavaScript that replaces text sets the gap between two texts. Each of them
is given here as a gap rule, and `…_setBy` says that its pattern and template carry out
just that rule.
-/

namespace LineRules.Builtin

open LineRules.Text LineRules.Pattern LineRules.Pattern.Node

/-! ## Heads of functions -/

/-- The text before a place is the word `function` and what may follow it up to the
parenthesis, at least one character of that. -/
def InName : List Char → Prop
  | [] => False
  | c :: before =>
    isNameChar c = true ∧
      ((EndsWord "function".toList before ∧ isWord c = false) ∨ InName before)

/-- The text before a place is the word `function` and what may follow it up to the
parenthesis. -/
def Named (before : List Char) : Prop :=
  EndsWord "function".toList before ∨ InName before

/-- The text before a place is the head of a function up to some place between the
parentheses. -/
def InArguments : List Char → Prop
  | [] => False
  | c :: before =>
    (c = '(' ∧ Named before) ∨
      (c ≠ ')' ∧ InArguments before)

/-- The text before a place is the head of a function. -/
def FunctionHead (before : List Char) : Prop :=
  ∃ earlier, before = ')' :: earlier ∧ InArguments earlier

theorem inName_iff {before : List Char} : InName before ↔
    ∃ name earlier, before = name.reverse ++ ("function".toList.reverse ++ earlier) ∧
      name ≠ [] ∧ NoWordNext earlier ∧ NoWordNext name ∧ ∀ c ∈ name, isNameChar c = true := by
  induction before with
  | nil => simp [InName]
  | cons c before hyp =>
      rw [InName, hyp, endsWord_iff isWord_function]
      constructor
      · rintro ⟨nameChar, ⟨⟨earlier, rfl, stop⟩, noWord⟩ |
          ⟨name, earlier, rfl, nonempty, stop, next, inName⟩⟩
        · exact ⟨[c], earlier, rfl, by simp, stop, by simpa [NoWordNext] using noWord,
            by simpa using nameChar⟩
        · refine ⟨name ++ [c], earlier, by simp, by simp, stop, ?_, ?_⟩
          · obtain ⟨d, name, rfl⟩ := List.exists_cons_of_ne_nil nonempty
            exact next
          · intro d isMember
            rcases List.mem_append.mp isMember with inside | isLast
            · exact inName d inside
            · obtain rfl : d = c := by simpa using isLast
              exact nameChar
      · rintro ⟨name, earlier, split, nonempty, stop, next, inName⟩
        obtain ⟨name, d, rfl⟩ := List.eq_nil_or_concat' name |>.resolve_left nonempty
        obtain ⟨rfl, rfl⟩ : c = d ∧
            before = name.reverse ++ ("function".toList.reverse ++ earlier) := by
          simpa using split
        refine ⟨inName c (by simp), ?_⟩
        cases name with
        | nil => exact .inl ⟨⟨earlier, rfl, stop⟩, next c (by simp)⟩
        | cons e name =>
            exact .inr ⟨e :: name, earlier, rfl, by simp, stop, next,
              fun d isMember => inName d (List.mem_append_left _ isMember)⟩

theorem named_iff {before : List Char} : Named before ↔
    ∃ name earlier, before = name.reverse ++ ("function".toList.reverse ++ earlier) ∧
      NoWordNext earlier ∧ NoWordNext (name ++ ['(']) ∧ ∀ c ∈ name, isNameChar c = true := by
  rw [Named, inName_iff, endsWord_iff isWord_function]
  constructor
  · rintro (⟨earlier, rfl, stop⟩ | ⟨name, earlier, rfl, nonempty, stop, next, inName⟩)
    · exact ⟨[], earlier, rfl, stop, by simpa [NoWordNext] using by decide, by simp⟩
    · obtain ⟨c, name, rfl⟩ := List.exists_cons_of_ne_nil nonempty
      exact ⟨c :: name, earlier, rfl, stop, next, inName⟩
  · rintro ⟨name, earlier, rfl, stop, next, inName⟩
    cases name with
    | nil => exact .inl ⟨earlier, rfl, stop⟩
    | cons c name => exact .inr ⟨c :: name, earlier, rfl, by simp, stop, next, inName⟩

theorem inArguments_iff {before : List Char} : InArguments before ↔
    ∃ arguments named : List Char, before = arguments.reverse ++ '(' :: named ∧ Named named ∧
      ∀ c ∈ arguments, c ≠ ')' := by
  induction before with
  | nil => simp [InArguments]
  | cons c before hyp =>
      rw [InArguments, hyp]
      constructor
      · rintro (⟨rfl, named⟩ | ⟨other, arguments, named, rfl, isNamed, inArguments⟩)
        · exact ⟨[], before, rfl, named, by simp⟩
        · refine ⟨arguments ++ [c], named, by simp, isNamed, ?_⟩
          intro d isMember
          rcases List.mem_append.mp isMember with inside | isLast
          · exact inArguments d inside
          · obtain rfl : d = c := by simpa using isLast
            exact other
      · rintro ⟨arguments, named, split, isNamed, inArguments⟩
        rcases List.eq_nil_or_concat' arguments with rfl | ⟨arguments, d, rfl⟩
        · obtain ⟨rfl, rfl⟩ : c = '(' ∧ before = named := by simpa using split
          exact .inl ⟨rfl, isNamed⟩
        · obtain ⟨rfl, rfl⟩ : c = d ∧ before = arguments.reverse ++ '(' :: named := by
            simpa using split
          exact .inr ⟨inArguments c (by simp), arguments, named, rfl, isNamed,
            fun d isMember => inArguments d (List.mem_append_left _ isMember)⟩

/-! ## The gaps -/

/-- No blank between `function` and a parenthesis. -/
def callGap : Gap where
  left := EndsWord "function".toList
  loose blanks := blanks ≠ [] ∧ ∀ c ∈ blanks, isBlank c = true
  right c _ := c = '('
  fill := []
  left_solid ends := ends.solid (by decide) isWord_function
  loose_blank loose := loose.2
  right_solid := by
    rintro _ _ rfl
    decide
  apart := by
    rintro _ _ _ _ rfl word
    exact absurd word (by decide)
  fill_blank := by simp
  fill_settled := by simp

/-- One space between the head of a function and its brace. -/
def braceGap : Gap where
  left := FunctionHead
  loose := LooseGap
  right c _ := c = '\x7b'
  fill := [' ']
  left_solid := by
    rintro _ ⟨earlier, rfl, _⟩
    exact ⟨')', earlier, rfl, by decide⟩
  loose_blank := by
    rintro blanks (⟨_, allBlank⟩ | rfl | rfl)
    · exact allBlank
    · exact List.all_eq_true.mp (by decide)
    · simp
  right_solid := by
    rintro _ _ rfl
    decide
  apart := by
    rintro _ _ _ _ rfl word
    exact absurd word (by decide)
  fill_blank := List.all_eq_true.mp (by decide)
  fill_settled := by simp [LooseGap]

/-- One space between a keyword and its parenthesis. -/
def keywordGap : Gap where
  left before := ∃ keyword ∈ spacedKeywords, EndsWord keyword.toList before
  loose blanks := blanks = []
  right c _ := c = '('
  fill := [' ']
  left_solid := by
    rintro _ ⟨keyword, isKeyword, ends⟩
    obtain ⟨nonempty, isText⟩ := isWord_spacedKeywords keyword isKeyword
    exact ends.solid nonempty isText
  loose_blank := by simp
  right_solid := by
    rintro _ _ rfl
    decide
  apart := by
    rintro _ _ _ _ rfl word
    exact absurd word (by decide)
  fill_blank := List.all_eq_true.mp (by decide)
  fill_settled := by simp

/-- One space between a brace and `else`. -/
def elseLeadingGap : Gap where
  left before := before.head? = some '\x7d'
  loose blanks := blanks = []
  right c after := FirstWord "else".toList (c :: after)
  fill := [' ']
  left_solid := by
    intro before isHead
    obtain ⟨earlier, rfl⟩ := List.head?_eq_some_iff.mp isHead
    exact ⟨'\x7d', earlier, rfl, by decide⟩
  loose_blank := by simp
  right_solid := by
    intro c after first
    obtain ⟨rest, split, _⟩ := (firstWord_iff isWord_else).mp first
    obtain rfl : c = 'e' := by simpa using congrArg List.head? split
    decide
  apart := by
    intro before c after isHead _ _ d isLast
    obtain rfl : d = '\x7d' := by simpa [isHead, eq_comm] using isLast
    decide
  fill_blank := List.all_eq_true.mp (by decide)
  fill_settled := by simp

/-- One space between `else` and a brace. -/
def elseTrailingGap : Gap where
  left := EndsWord "else".toList
  loose blanks := blanks = []
  right c _ := c = '\x7b'
  fill := [' ']
  left_solid ends := ends.solid (by decide) isWord_else
  loose_blank := by simp
  right_solid := by
    rintro _ _ rfl
    decide
  apart := by
    rintro _ _ _ _ rfl word
    exact absurd word (by decide)
  fill_blank := List.all_eq_true.mp (by decide)
  fill_settled := by simp

/-- No blank before a semicolon that ends the line. -/
def semicolonGap : Gap where
  left before := ∃ c earlier, before = c :: earlier ∧ isBlank c = false
  loose blanks := blanks ≠ [] ∧ ∀ c ∈ blanks, isGap c = true
  right c after := c = ';' ∧ (after = [] ∨ after = ['\n'])
  fill := []
  left_solid solid := solid
  loose_blank loose c inBlanks := isBlank_of_isGap (loose.2 c inBlanks)
  right_solid := by
    rintro _ _ ⟨rfl, _⟩
    decide
  apart := by
    rintro _ _ _ _ ⟨rfl, _⟩ word
    exact absurd word (by decide)
  fill_blank := by simp
  fill_settled := by simp

/-! ## What the patterns find -/

theorem callGap_setBy :
    callGap.SetBy anonymousFunction (Pattern.written anonymousFunction "function(") := by
  refine .of_words (· = "function".toList) ?_ ?_ ?_ ?_ ?_
  · rintro _ rfl
    exact ⟨by decide, isWord_function⟩
  · simp [callGap]
  · rintro _ _ rfl
    decide
  · intro before after found isMatch
    obtain ⟨start, reaches⟩ := reaches_of_matchAt_eq_some isMatch
    obtain ⟨blanks, rest, rfl, stop, nonempty, allBlank, final⟩ :=
      anonymousFunction_reaches_iff.mp reaches
    refine ⟨_, blanks, '(', rest, rfl, rfl, stop, ⟨nonempty, allBlank⟩, rfl, start, ?_, ?_⟩
    · rw [Match.finish, ← final]
      rfl
    · rw [Pattern.written_of_template [.literal "function(".toList] rfl]
      rfl
  · rintro before _ blanks c rest rfl stop ⟨nonempty, allBlank⟩ rfl
    exact exists_matchAt_of_reaches
      (anonymousFunction_reaches_iff.mpr ⟨blanks, rest, rfl, stop, nonempty, allBlank, trivial⟩)

theorem keywordGap_setBy : keywordGap.SetBy tightKeyword (Pattern.written tightKeyword "\\1 (") := by
  refine .of_words (fun word => ∃ keyword ∈ spacedKeywords, word = keyword.toList)
    ?_ ?_ ?_ ?_ ?_
  · rintro _ ⟨keyword, isKeyword, rfl⟩
    exact isWord_spacedKeywords keyword isKeyword
  · intro before
    constructor
    · rintro ⟨keyword, isKeyword, ends⟩
      exact ⟨_, ⟨keyword, isKeyword, rfl⟩, ends⟩
    · rintro ⟨_, ⟨keyword, isKeyword, rfl⟩, ends⟩
      exact ⟨keyword, isKeyword, ends⟩
  · rintro _ _ rfl
    decide
  · intro before after found isMatch
    obtain ⟨start, reaches⟩ := reaches_of_matchAt_eq_some isMatch
    obtain ⟨keyword, isKeyword, rest, rfl, stop, final⟩ := tightKeyword_reaches_iff.mp reaches
    refine ⟨_, [], '(', rest, ⟨keyword, isKeyword, rfl⟩, rfl, stop, rfl, rfl, start, ?_, ?_⟩
    · rw [Match.finish, ← final]
      rfl
    · have captured : found.group 1 = keyword.toList := by
        simp [Match.group, Match.group?, ← final, State.capture?]
      rw [Pattern.written_of_template [.group 1, .literal [' '], .literal ['(']] rfl]
      simp [Piece.expand, captured, keywordGap]
  · rintro before _ _ c rest ⟨keyword, isKeyword, rfl⟩ stop rfl rfl
    exact exists_matchAt_of_reaches
      (tightKeyword_reaches_iff.mpr ⟨keyword, isKeyword, rest, rfl, stop, trivial⟩)

theorem elseTrailingGap_setBy :
    elseTrailingGap.SetBy elseTight (Pattern.written elseTight "else \x7b") := by
  refine .of_words (· = "else".toList) ?_ ?_ ?_ ?_ ?_
  · rintro _ rfl
    exact ⟨by decide, isWord_else⟩
  · simp [elseTrailingGap]
  · rintro _ _ rfl
    decide
  · intro before after found isMatch
    obtain ⟨start, reaches⟩ := reaches_of_matchAt_eq_some isMatch
    obtain ⟨rest, rfl, stop, final⟩ := elseTight_reaches_iff.mp reaches
    refine ⟨_, [], '\x7b', rest, rfl, rfl, stop, rfl, rfl, start, ?_, ?_⟩
    · rw [Match.finish, ← final]
      rfl
    · rw [Pattern.written_of_template [.literal "else \x7b".toList] rfl]
      rfl
  · rintro before _ _ c rest rfl stop rfl rfl
    exact exists_matchAt_of_reaches
      (elseTight_reaches_iff.mpr ⟨rest, rfl, stop, trivial⟩)

private theorem not_found_elseLeading {before after : List Char} {c : Char}
    (other : c ≠ 'e' ∨ before.head? ≠ some '\x7d') :
    ¬ elseLeadingGap.Found before (c :: after) := by
  rw [Gap.found_iff]
  rintro ⟨_, d, rest, split, left, rfl, right⟩
  obtain ⟨rfl, rfl⟩ : c = d ∧ after = rest := by simpa using split
  obtain ⟨last, same, _⟩ := (firstWord_iff isWord_else).mp right
  obtain rfl : c = 'e' := by simpa using congrArg List.head? same
  rcases other with other | other
  · exact other rfl
  · exact other left

theorem elseLeadingGap_setBy :
    elseLeadingGap.SetBy tightElse (Pattern.written tightElse "\x7d else") where
  sound := by
    intro before after found isMatch
    obtain ⟨start, reaches⟩ := reaches_of_matchAt_eq_some isMatch
    obtain ⟨rest, rfl, stop, final⟩ := tightElse_reaches_iff.mp reaches
    have right : FirstWord "else".toList ('e' :: ("lse".toList ++ rest)) :=
      (firstWord_iff isWord_else).mpr ⟨rest, rfl, stop⟩
    refine ⟨['\x7d'], [], 'e', ['l', 's', 'e'], rest, rfl, rfl, rfl, right, ?_, ?_, start, ?_, ?_⟩
    · exact Gap.keeps_cons_iff.mpr ⟨not_found_elseLeading (.inl (by decide)), Gap.keeps_nil⟩
    · refine Gap.keeps_cons_iff.mpr ⟨not_found_elseLeading (.inl (by decide)), ?_⟩
      refine Gap.keeps_cons_iff.mpr ⟨not_found_elseLeading (.inl (by decide)), ?_⟩
      exact Gap.keeps_cons_iff.mpr ⟨not_found_elseLeading (.inr (by simp)), Gap.keeps_nil⟩
    · rw [Match.finish, ← final]
      rfl
    · rw [Pattern.written_of_template [.literal "\x7d else".toList] rfl]
      rfl
  complete := by
    rintro before _ c rest isHead rfl right
    obtain ⟨earlier, rfl⟩ := List.head?_eq_some_iff.mp isHead
    obtain ⟨last, split, stop⟩ := (firstWord_iff isWord_else).mp right
    obtain ⟨found, isMatch⟩ := @exists_matchAt_of_reaches _ (.between earlier _)
      (tightElse_reaches_iff.mpr ⟨last, rfl, stop, trivial⟩)
    obtain ⟨_, reaches⟩ := reaches_of_matchAt_eq_some isMatch
    obtain ⟨other, same, _, final⟩ := tightElse_reaches_iff.mp reaches
    obtain rfl : last = other := by simpa using same
    refine ⟨['\x7d'], earlier, found, rfl, ?_, ?_⟩
    · rw [List.nil_append, split]
      exact isMatch
    · rw [List.nil_append, split, Match.finish, ← final]
      simp
      omega
  nests := by
    intro before skipped rest outer inner _ nonempty isOuter longer isInner
    obtain ⟨_, reaches⟩ := reaches_of_matchAt_eq_some isOuter
    obtain ⟨last, split, _, final⟩ := tightElse_reaches_iff.mp reaches
    obtain ⟨_, reaches⟩ := reaches_of_matchAt_eq_some isInner
    obtain ⟨later, rfl, _⟩ := tightElse_reaches_iff.mp reaches
    obtain ⟨c, skipped, rfl⟩ := List.exists_cons_of_ne_nil nonempty
    obtain ⟨rfl, tails⟩ : c = '\x7d' ∧ skipped ++ _ = "else".toList ++ last := by simpa using split
    rw [Match.finish, ← final] at longer
    have inside := mem_of_suffix tails.symm (Nat.le_of_lt_succ longer)
    exact absurd inside (by decide)

theorem semicolonGap_setBy :
    semicolonGap.SetBy looseSemicolon (Pattern.written looseSemicolon "\\1;") where
  sound := by
    intro before after found isMatch
    obtain ⟨start, reaches⟩ := reaches_of_matchAt_eq_some isMatch
    obtain ⟨c, blanks, rest, rfl, solid, nonempty, gaps, last, final⟩ :=
      looseSemicolon_reaches_iff.mp reaches
    refine ⟨[c], blanks, ';', [], rest, rfl, ⟨c, before, rfl, solid⟩, ⟨nonempty, gaps⟩,
      ⟨rfl, last⟩, ?_, Gap.keeps_nil, start, ?_, ?_⟩
    · refine Gap.keeps_cons_iff.mpr ⟨?_, Gap.keeps_nil⟩
      rw [Gap.found_iff]
      rintro ⟨others, d, later, split, _, loose, _⟩
      obtain ⟨e, others, rfl⟩ := List.exists_cons_of_ne_nil loose.1
      obtain ⟨rfl, _⟩ : c = e ∧ _ = others ++ d :: later := by simpa using split
      rw [semicolonGap.loose_blank loose c (by simp)] at solid
      contradiction
    · rw [Match.finish, ← final]
      rfl
    · have captured : found.group 1 = [c] := by
        simp [Match.group, Match.group?, ← final, State.capture?]
      rw [Pattern.written_of_template [.group 1, .literal [';']] rfl]
      simp [Piece.expand, captured, semicolonGap]
  complete := by
    rintro _ blanks _ rest ⟨c, earlier, rfl, solid⟩ ⟨nonempty, gaps⟩ ⟨rfl, last⟩
    obtain ⟨found, isMatch⟩ := @exists_matchAt_of_reaches _ (.between earlier _)
      (looseSemicolon_reaches_iff.mpr
        ⟨c, blanks, rest, rfl, solid, nonempty, gaps, last, trivial⟩)
    obtain ⟨_, reaches⟩ := reaches_of_matchAt_eq_some isMatch
    obtain ⟨_, _, later, _, _, _, _, ends, final⟩ := looseSemicolon_reaches_iff.mp reaches
    refine ⟨[c], earlier, found, rfl, isMatch, ?_⟩
    have positive : 0 < blanks.length := List.length_pos_iff.mpr nonempty
    rw [Match.finish, ← final]
    rcases ends with rfl | rfl
    · simp only [Cursor.between_left, List.length_nil, List.length_append, List.length_cons]
      omega
    · simp only [Cursor.between_left, List.length_nil, List.length_append, List.length_cons]
      omega
  nests := by
    intro before skipped rest outer inner _ nonempty isOuter longer isInner
    obtain ⟨_, reaches⟩ := reaches_of_matchAt_eq_some isOuter
    obtain ⟨c, blanks, last, split, _, _, _, ends, final⟩ := looseSemicolon_reaches_iff.mp reaches
    obtain ⟨_, reaches⟩ := reaches_of_matchAt_eq_some isInner
    obtain ⟨d, others, later, rfl, _, _, _, otherEnds, otherFinal⟩ :=
      looseSemicolon_reaches_iff.mp reaches
    rw [Match.finish, Match.finish, ← final, ← otherFinal]
    rcases ends with rfl | rfl
    · simp
    · rcases otherEnds with rfl | rfl
      · have sameLast := congrArg (fun text => text.reverse.head?) split
        simp at sameLast
      · simp

/-- A word with a name and arguments, up to the closing parenthesis. -/
private def headText (word name arguments : List Char) : List Char :=
  word ++ (name ++ '(' :: arguments)

private theorem headText_append {word name arguments rest : List Char} :
    headText word name arguments ++ rest = word ++ (name ++ '(' :: (arguments ++ rest)) := by
  simp [headText]

private theorem headText_reverse_append {word name arguments before : List Char} :
    (headText word name arguments).reverse ++ before =
      arguments.reverse ++ '(' :: (name.reverse ++ (word.reverse ++ before)) := by
  simp [headText]

private theorem not_close_of_headText {name arguments : List Char}
    (inName : ∀ c ∈ name, isNameChar c = true) (inArguments : ∀ c ∈ arguments, c ≠ ')') :
    ∀ c ∈ headText "function".toList name arguments, decide (c ≠ ')') = true := by
  intro c isMember
  rw [decide_eq_true_eq]
  rintro rfl
  rcases List.mem_append.mp isMember with inWord | inRest
  · exact absurd inWord (by decide)
  · rcases List.mem_append.mp inRest with isName | isArgument
    · exact absurd (inName _ isName) (by decide)
    · rcases List.mem_cons.mp isArgument with opens | isArgument
      · exact absurd opens (by decide)
      · exact inArguments _ isArgument rfl

/-- Heads of functions that end alike are followed by the same gap and text. -/
private theorem brace_cut {first second blanks others rest last : List Char}
    (noClose : ∀ c ∈ first, decide (c ≠ ')') = true)
    (noOtherClose : ∀ c ∈ second, decide (c ≠ ')') = true)
    (loose : LooseGap blanks) (otherLoose : LooseGap others)
    (same : first ++ ')' :: (blanks ++ '\x7b' :: rest) =
      second ++ ')' :: (others ++ '\x7b' :: last)) : rest = last := by
  have stop : ∀ text, ∀ c ∈ (')' :: text).head?, decide (c ≠ ')') = false := by
    rintro text c ⟨⟩
    simp
  have tails := (run_unique noClose (stop _) noOtherClose (stop _) same).2
  have solid : ∀ text, ∀ c ∈ ('\x7b' :: text).head?, isBlank c = false := by
    rintro text c ⟨⟩
    decide
  have braces := (run_unique (braceGap.loose_blank loose) (solid _)
    (braceGap.loose_blank otherLoose) (solid _) (List.cons.inj tails).2).2
  exact (List.cons.inj braces).2

private theorem keeps_headText {name arguments before after : List Char}
    (noClose : ∀ c ∈ headText "function".toList name arguments, decide (c ≠ ')') = true) :
    braceGap.Keeps before (headText "function".toList name arguments ++ [')']) after := by
  intro done more split nonempty found
  rcases List.eq_nil_or_concat' done with rfl | ⟨done, d, rfl⟩
  · obtain rfl : _ = more := split
    refine Gap.not_found_of_word ?_ (by decide) found
    rintro _ _ rfl
    decide
  · obtain ⟨_, _, _, _, ⟨earlier, isClose, _⟩, _⟩ := Gap.found_iff.mp found
    obtain rfl : d = ')' := by simpa using congrArg List.head? isClose
    have inside : ')' ∈ headText "function".toList name arguments := by
      obtain ⟨more, e, rfl⟩ := List.eq_nil_or_concat' more |>.resolve_left nonempty
      have cut : headText "function".toList name arguments ++ [')'] =
          (done ++ [')'] ++ more) ++ [e] := by simpa using split
      rw [(List.append_inj' cut rfl).1]
      simp
    exact absurd (noClose _ inside) (by decide)

private theorem functionBrace_match {before after : List Char} {found : Match}
    (isMatch : functionBrace.matcher false (.between before after) = some found) :
    ∃ name arguments blanks rest,
      after = headText "function".toList name arguments ++ ')' :: (blanks ++ '\x7b' :: rest) ∧
      NoWordNext before ∧ NoWordNext (name ++ ['(']) ∧ (∀ c ∈ name, isNameChar c = true) ∧
      (∀ c ∈ arguments, c ≠ ')') ∧ LooseGap blanks ∧ found.start = .between before after ∧
      found.finish = .between ('\x7b' :: (blanks.reverse ++
        ((headText "function".toList name arguments ++ [')']).reverse ++ before))) rest ∧
      found.group 1 = name ∧ found.group 2 = arguments := by
  obtain ⟨start, reaches⟩ := reaches_of_matchAt_eq_some isMatch
  obtain ⟨name, arguments, blanks, rest, split, stop, next, inName, inArguments, loose, final⟩ :=
    functionBrace_reaches_iff.mp reaches
  refine ⟨name, arguments, blanks, rest, ?_, stop, next, inName, inArguments, loose, start, ?_,
    ?_, ?_⟩
  · rw [split, headText_append]
  · rw [Match.finish, ← final, List.reverse_append, List.append_assoc, headText_reverse_append]
    rfl
  · rw [Match.group, Match.group?, ← final]
    simp [capture?_one_braceState]
  · rw [Match.group, Match.group?, ← final]
    simp [capture?_two_braceState]

/-- Heads of functions that begin in one another end alike. -/
private theorem functionBrace_nests : functionBrace.matcher.Nests := by
  intro before skipped rest outer inner _ nonempty isOuter longer isInner
  obtain ⟨name, arguments, blanks, last, split, _, _, inName, inArguments, loose, _, finish, _⟩ :=
    functionBrace_match isOuter
  obtain ⟨other, others, more, later, inner, _, _, inOther, inOthers, otherLoose, _, otherFinish,
    _⟩ := functionBrace_match isInner
  have starts : rest = 'f' :: rest.tail := by
    rw [inner]
    rfl
  rw [finish] at longer
  rw [finish, otherFinish]
  rcases List.append_eq_append_iff.mp split with ⟨inside, first, same⟩ | ⟨beyond, first, same⟩
  · -- The inner head lies inside of the outer one, so they end together.
    have noClose := not_close_of_headText inName inArguments
    rw [first] at noClose
    have sameRest : last = later := brace_cut
      (fun c isMember => noClose c (List.mem_append_right _ isMember))
      (not_close_of_headText inOther inOthers) loose otherLoose (same.symm.trans inner)
    rw [sameRest]
    exact Nat.le_refl _
  · -- The inner head would begin in the gap.
    have inGap : 'f' ∈ ')' :: (blanks ++ ['\x7b']) := by
      have cut : ')' :: (blanks ++ ['\x7b']) ++ last = beyond ++ 'f' :: rest.tail := by
        rw [← starts, ← same]
        simp
      refine mem_of_suffix cut ?_
      rw [starts] at longer
      exact Nat.le_of_lt_succ longer
    rcases List.mem_cons.mp inGap with isClose | inGap
    · exact absurd isClose (by decide)
    · rcases List.mem_append.mp inGap with blank | isBrace
      · exact absurd (braceGap.loose_blank loose _ blank) (by decide)
      · exact absurd isBrace (by decide)

theorem braceGap_setBy :
    braceGap.SetBy functionBrace (Pattern.written functionBrace "function\\1(\\2) \x7b") where
  sound := by
    intro before after found isMatch
    obtain ⟨name, arguments, blanks, rest, split, stop, next, inName, inArguments, loose, start,
      finish, first, second⟩ := functionBrace_match isMatch
    refine ⟨headText "function".toList name arguments ++ [')'], blanks, '\x7b', [], rest, ?_,
      ?_, loose, rfl, keeps_headText (not_close_of_headText inName inArguments), Gap.keeps_nil,
      start, finish, ?_⟩
    · rw [split, List.append_assoc]
      rfl
    · have named : Named (name.reverse ++ ("function".toList.reverse ++ before)) :=
        named_iff.mpr ⟨name, before, rfl, stop, next, inName⟩
      refine ⟨(headText "function".toList name arguments).reverse ++ before, by simp, ?_⟩
      rw [headText_reverse_append]
      exact inArguments_iff.mpr ⟨arguments, _, rfl, named, inArguments⟩
    · rw [Pattern.written_of_template
        ("function".toList.map (fun c => .literal [c]) ++ [.group 1, .literal ['('],
          .group 2, .literal [')'], .literal [' '], .literal ['\x7b']]) rfl]
      generalize "function".toList = word
      simp [Piece.expand, first, second, headText, braceGap, List.flatMap_map]
  complete := by
    rintro _ blanks _ rest ⟨earlier, rfl, inHead⟩ loose rfl
    obtain ⟨arguments, _, rfl, named, inArguments⟩ := inArguments_iff.mp inHead
    obtain ⟨name, earlier, rfl, stop, next, inName⟩ := named_iff.mp named
    obtain ⟨found, isMatch⟩ := @exists_matchAt_of_reaches _ (.between earlier _)
      (functionBrace_reaches_iff.mpr
        ⟨name, arguments, blanks, rest, rfl, stop, next, inName, inArguments, loose, trivial⟩)
    obtain ⟨other, others, more, last, same, _, _, inOther, inOthers, otherLoose, _, finish, _⟩ :=
      functionBrace_match isMatch
    have sameRest : rest = last := by
      rw [← headText_append] at same
      exact brace_cut (not_close_of_headText inName inArguments)
        (not_close_of_headText inOther inOthers) loose otherLoose same
    refine ⟨headText "function".toList name arguments ++ [')'], earlier, found, ?_, ?_, ?_⟩
    · rw [List.reverse_append, List.append_assoc, headText_reverse_append]
      rfl
    · rw [List.append_assoc, headText_append]
      exact isMatch
    · rw [finish, ← sameRest]
      simp only [Cursor.between_left, List.length_append, List.length_cons]
      omega
  nests := functionBrace_nests

end LineRules.Builtin
