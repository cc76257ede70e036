import LineRules.Rule.Message
import Mathlib.Data.Nat.Digits.Defs

/-!
# Filled messages

A template is cut into its tokens and the text between them: `IsCut`. Every template has a cut,
and all its cuts have the same tokens at the same places (`IsCut.explode_eq`). A template is filled
by writing the pieces of a cut one after another, each token by itself, so no argument is ever
looked at again (`fillTemplate_cut`). Cuts of two texts are a cut of the joined text, unless a token
stands across the seam (`IsCut.append`).
-/

namespace LineRules

open LineRules.Text

/-! ## Tokens -/

namespace MessagePiece

variable {pieces others : List MessagePiece} {digits number before after text rest : List Char}
  {front back template : List Char}

/-- Digits that make up a number. -/
def IsNumeral (digits : List Char) : Prop := digits ≠ [] ∧ ∀ c ∈ digits, isDigit c = true

theorem isNumeral_singleton {c : Char} (digit : isDigit c = true) : IsNumeral [c] :=
  ⟨List.cons_ne_nil _ _, by simpa using digit⟩

/-- A token that begins in the one text ends in the other one. -/
def Straddles (front back : List Char) : Prop :=
  ∃ before digits after, IsNumeral digits ∧
    front ++ back = before ++ (token digits).chars ++ after ∧
    before.length < front.length ∧ front.length < before.length + (token digits).chars.length

/-- Pieces that make up a template, among which are all tokens in it. How the text between tokens is
divided is left open. -/
structure IsCut (pieces : List MessagePiece) (template : List Char) : Prop where
  whole : pieces.flatMap chars = template
  numerals : ∀ digits, token digits ∈ pieces → IsNumeral digits
  complete : ∀ before digits after, IsNumeral digits →
    template = before ++ (token digits).chars ++ after →
    ∃ earlier later, pieces = earlier ++ token digits :: later ∧ earlier.flatMap chars = before

/-- Where a token is found after an opening brace and the digits that follow it: it begins with that
brace and has just these digits, or it begins later. -/
theorem occurrence_cases (areDigits : ∀ c ∈ digits, isDigit c = true)
    (ends : ∀ c ∈ rest.head?, isDigit c = false) (isNumber : ∀ c ∈ number, isDigit c = true)
    (found : '\x7b' :: digits ++ rest = before ++ (token number).chars ++ after) :
    (before = [] ∧ number = digits ∧ rest = '\x7d' :: after) ∨
      ∃ between, before = '\x7b' :: digits ++ between ∧
        rest = between ++ (token number).chars ++ after := by
  cases before with
  | nil =>
      left
      have cut : digits ++ rest = number ++ '\x7d' :: after := by
        simpa [chars] using found
      rcases List.append_eq_append_iff.mp cut with ⟨more, rfl, rfl⟩ | ⟨more, rfl, isRest⟩
      · cases more with
        | nil => simp
        | cons c more =>
            have isDigit := isNumber c (by simp)
            rw [ends c (by simp)] at isDigit
            contradiction
      · cases more with
        | nil => simpa using isRest.symm
        | cons c more =>
            obtain rfl : c = '\x7d' := (List.cons.inj isRest).1.symm
            exact absurd (areDigits '\x7d' (by simp)) (by decide)
  | cons brace before =>
      right
      obtain ⟨rfl, cut⟩ : brace = '\x7b' ∧
          digits ++ rest = before ++ '\x7b' :: (number ++ '\x7d' :: after) := by
        simpa [chars, eq_comm] using found
      rcases List.append_eq_append_iff.mp cut with ⟨between, rfl, rfl⟩ | ⟨more, rfl, isRest⟩
      · exact ⟨between, by simp, by simp [chars]⟩
      · cases more with
        | nil => exact ⟨[], by simp, by simpa [chars] using isRest.symm⟩
        | cons c more =>
            obtain rfl : c = '\x7b' := (List.cons.inj isRest).1.symm
            exact absurd (areDigits '\x7b' (by simp)) (by decide)

theorem length_chars_token (digits : List Char) :
    (token digits).chars.length = digits.length + 2 := by
  simp [chars]

/-! ## Cuts -/

theorem isCut_nil : IsCut [] [] where
  whole := rfl
  numerals _ isMember := nomatch isMember
  complete before digits after _ found := by simp [chars] at found

/-- A token that begins after a text is a piece of what follows the text. -/
theorem IsCut.exists_of_late (cut : IsCut pieces rest) (isNumeral : IsNumeral digits)
    (found : text ++ rest = before ++ (token digits).chars ++ after)
    (late : text.length ≤ before.length) :
    ∃ earlier later, pieces = earlier ++ token digits :: later ∧
      text ++ earlier.flatMap chars = before := by
  obtain ⟨between, rfl⟩ : text <+: before := by
    refine List.prefix_of_prefix_length_le (List.prefix_append text rest) ?_ late
    rw [found, List.append_assoc]
    exact List.prefix_append _ _
  obtain ⟨earlier, later, isPiece, start⟩ := cut.complete between digits after isNumeral
    (by simpa using found)
  exact ⟨earlier, later, isPiece, by rw [start]⟩

/-- Text in which no token begins is a piece. -/
theorem IsCut.literal (cut : IsCut pieces rest) (free : ∀ before digits after, IsNumeral digits →
    text ++ rest = before ++ (token digits).chars ++ after → text.length ≤ before.length) :
    IsCut (.literal text :: pieces) (text ++ rest) where
  whole := by rw [List.flatMap_cons, cut.whole, chars]
  numerals digits isMember := cut.numerals digits (by simpa using isMember)
  complete before digits after isNumeral found := by
    obtain ⟨earlier, later, rfl, start⟩ := cut.exists_of_late isNumeral found
      (free before digits after isNumeral found)
    exact ⟨.literal text :: earlier, later, rfl, start⟩

/-- A token at the beginning is a piece, and no other one begins in it. -/
theorem IsCut.token (cut : IsCut pieces rest) (digits : List Char)
    (isNumeral : IsNumeral digits) :
    IsCut (.token digits :: pieces) ((token digits).chars ++ rest) where
  whole := by rw [List.flatMap_cons, cut.whole]
  numerals number isMember := by
    rcases List.mem_cons.mp isMember with same | isMember
    · obtain rfl := MessagePiece.token.inj same
      exact isNumeral
    · exact cut.numerals number isMember
  complete before number after isNumber found := by
    have ends : ∀ c ∈ ('\x7d' :: rest).head?, isDigit c = false := by simpa using by decide
    have opened : '\x7b' :: digits ++ '\x7d' :: rest =
        before ++ (MessagePiece.token number).chars ++ after := by
      rw [← found]
      simp [chars]
    rcases occurrence_cases isNumeral.2 ends isNumber.2 opened with
      ⟨rfl, rfl, _⟩ | ⟨between, rfl, isRest⟩
    · exact ⟨[], pieces, rfl, rfl⟩
    · have further : between ≠ [] := by
        rintro rfl
        simp [chars] at isRest
      have late : (MessagePiece.token digits).chars.length ≤
          ('\x7b' :: digits ++ between).length := by
        have := List.length_pos_iff.mpr further
        simp only [length_chars_token, List.length_append, List.length_cons]
        omega
      obtain ⟨earlier, later, rfl, start⟩ := cut.exists_of_late isNumber found late
      exact ⟨.token digits :: earlier, later, rfl, start⟩

/-- Cuts of two texts are a cut of the joined text, unless a token stands across the seam. -/
theorem IsCut.append (cut : IsCut pieces front) (other : IsCut others back)
    (apart : ¬Straddles front back) : IsCut (pieces ++ others) (front ++ back) where
  whole := by rw [List.flatMap_append, cut.whole, other.whole]
  numerals digits isMember :=
    (List.mem_append.mp isMember).elim (cut.numerals digits) (other.numerals digits)
  complete before digits after isNumeral found := by
    by_cases late : front.length ≤ before.length
    · obtain ⟨earlier, later, rfl, start⟩ := other.exists_of_late isNumeral found late
      exact ⟨pieces ++ earlier, later, by simp, by rw [List.flatMap_append, cut.whole, start]⟩
    · have within : before.length + (MessagePiece.token digits).chars.length ≤ front.length := by
        by_contra across
        exact apart ⟨before, digits, after, isNumeral, found, by omega, by omega⟩
      obtain ⟨between, rfl⟩ : before ++ (MessagePiece.token digits).chars <+: front := by
        refine List.prefix_of_prefix_length_le ?_ (List.prefix_append front back) (by simpa)
        rw [found]
        exact List.prefix_append _ _
      obtain ⟨earlier, later, rfl, start⟩ := cut.complete before digits between isNumeral rfl
      exact ⟨earlier, later ++ others, by simp, start⟩

/-! ## The cut of a template -/

/-- Where a token begins, there is an opening brace. -/
theorem mem_of_begins (found : text ++ rest = before ++ (MessagePiece.token digits).chars ++ after)
    (begins : before.length < text.length) : '\x7b' ∈ text := by
  have opens : (text ++ rest)[before.length]? = some '\x7b' := by
    rw [found]
    simp [chars]
  rw [List.getElem?_append_left begins] at opens
  exact List.mem_of_getElem? opens

theorem IsCut.solid (cut : IsCut pieces rest) (text : List Char) (solid : '\x7b' ∉ text) :
    IsCut (.literal text :: pieces) (text ++ rest) :=
  cut.literal fun _ _ _ _ found => Nat.le_of_not_lt fun begins => solid (mem_of_begins found begins)

/-- An opening brace with digits, and what follows them, are a piece unless they are closed. -/
theorem IsCut.unclosed (cut : IsCut pieces rest) (text : List Char)
    (areDigits : ∀ c ∈ digits, isDigit c = true)
    (ends : ∀ c ∈ (text ++ rest).head?, isDigit c = false) (solid : '\x7b' ∉ text)
    (unclosed : digits ≠ [] → (text ++ rest).head? ≠ some '\x7d') :
    IsCut (.literal ('\x7b' :: digits ++ text) :: pieces) ('\x7b' :: digits ++ text ++ rest) := by
  refine cut.literal fun before number after isNumber found => ?_
  rw [List.append_assoc] at found
  rcases occurrence_cases areDigits ends isNumber.2 found with
    ⟨rfl, rfl, closed⟩ | ⟨between, rfl, isRest⟩
  · exact absurd (by rw [closed]; rfl) (unclosed isNumber.1)
  · have late : text.length ≤ between.length :=
      Nat.le_of_not_lt fun begins => solid (mem_of_begins isRest begins)
    simpa using late

/-- What has been read of a template but stands in no piece yet. -/
def pending (digits : Option (List Char)) : List Char :=
  match digits with
  | none => []
  | some read => '\x7b' :: read.reverse

theorem isCut_cutTemplate (digits : Option (List Char)) (text : List Char)
    (areDigits : ∀ read ∈ digits, ∀ c ∈ read, isDigit c = true) :
    IsCut (cutTemplate digits text) (pending digits ++ text) := by
  fun_induction cutTemplate digits text with
  | case1 => exact isCut_nil
  | case2 read =>
      have allDigits : ∀ c ∈ read.reverse, isDigit c = true := by simpa using areDigits
      simpa [pending] using isCut_nil.unclosed [] allDigits (by simp) (by simp) (by simp)
  | case3 rest hyp => exact hyp (by simp)
  | case4 c rest other hyp =>
      exact (hyp (by simp)).solid [c] (by simpa using Ne.symm other)
  | case5 c rest read isNext hyp =>
      have grown := hyp (by simpa using ⟨isNext, areDigits read rfl⟩)
      simpa [pending] using grown
  | case6 c rest read noDigit closes hyp =>
      obtain ⟨rfl, nonempty⟩ : c = '\x7d' ∧ read ≠ [] := by simpa using closes
      have isNumeral : IsNumeral read.reverse := ⟨by simpa, by simpa using areDigits⟩
      simpa [pending, chars] using (hyp (by simp)).token _ isNumeral
  | case7 rest read noDigit closes hyp =>
      have allDigits : ∀ c ∈ read.reverse, isDigit c = true := by simpa using areDigits
      have cut : IsCut (cutTemplate (some []) rest) ('\x7b' :: rest) := hyp (by simp)
      have ends : ∀ c ∈ ([] ++ '\x7b' :: rest).head?, isDigit c = false := by simpa using by decide
      simpa [pending] using cut.unclosed [] allDigits ends (by simp) (by simp)
  | case8 c rest read noDigit closes other hyp =>
      have allDigits : ∀ c ∈ read.reverse, isDigit c = true := by simpa using areDigits
      have ends : ∀ d ∈ ([c] ++ rest).head?, isDigit d = false := by simpa using noDigit
      have unclosed : read.reverse ≠ [] → ([c] ++ rest).head? ≠ some '\x7d' := by
        intro nonempty closed
        exact closes (by simpa using ⟨by simpa using closed, by simpa using nonempty⟩)
      have cut := hyp (by simp)
      simpa [pending] using
        cut.unclosed [c] allDigits ends (by simpa using Ne.symm other) unclosed

theorem isCut_messagePieces (template : List Char) : IsCut (messagePieces template) template :=
  isCut_cutTemplate none template (by simp)

/-! ## All cuts of a template -/

/-- A piece, with its text divided into characters. -/
def explode : MessagePiece → List MessagePiece
  | literal text => text.map fun c => literal [c]
  | token digits => [token digits]

theorem flatMap_chars_explode (piece : MessagePiece) :
    piece.explode.flatMap chars = piece.chars := by
  cases piece with
  | literal text => simp [explode, chars, List.flatMap_map]
  | token digits => simp [explode]

/-- Whether a piece is a token or a single character. -/
def IsSingle (piece : MessagePiece) : Prop := piece.explode = [piece]

theorem isSingle_iff {piece : MessagePiece} :
    piece.IsSingle ↔ (∃ c, piece = literal [c]) ∨ ∃ digits, piece = token digits := by
  cases piece with
  | literal text =>
    match text with
    | [] => simp [IsSingle, explode]
    | [c] => simp [IsSingle, explode]
    | c :: d :: text => simp [IsSingle, explode]
  | token digits => simp [IsSingle, explode]

theorem isSingle_of_mem_explode {piece single : MessagePiece} (isMember : single ∈ piece.explode) :
    single.IsSingle := by
  rw [isSingle_iff]
  cases piece with
  | literal text =>
      obtain ⟨c, _, rfl⟩ := List.mem_map.mp isMember
      exact .inl ⟨c, rfl⟩
  | token digits => exact .inr ⟨digits, List.mem_singleton.mp isMember⟩

theorem IsSingle.chars_ne_nil {piece : MessagePiece} (single : piece.IsSingle) :
    piece.chars ≠ [] := by
  obtain ⟨c, rfl⟩ | ⟨digits, rfl⟩ := isSingle_iff.mp single <;> simp [chars]

theorem IsCut.explode (cut : IsCut pieces template) :
    IsCut (pieces.flatMap MessagePiece.explode) template where
  whole := by simp only [List.flatMap_assoc, flatMap_chars_explode, cut.whole]
  numerals digits isMember := by
    obtain ⟨piece, isPiece, isMember⟩ := List.mem_flatMap.mp isMember
    cases piece with
    | literal text => simp [MessagePiece.explode] at isMember
    | token number =>
        obtain rfl : digits = number := by simpa [MessagePiece.explode] using isMember
        exact cut.numerals digits isPiece
  complete before digits after isNumeral found := by
    obtain ⟨earlier, later, rfl, start⟩ := cut.complete before digits after isNumeral found
    refine ⟨earlier.flatMap MessagePiece.explode, later.flatMap MessagePiece.explode, ?_, ?_⟩
    · simp [MessagePiece.explode]
    · simp only [List.flatMap_assoc, flatMap_chars_explode, start]

theorem IsCut.tail {piece : MessagePiece} (cut : IsCut (piece :: pieces) template)
    (nonempty : piece.chars ≠ []) : IsCut pieces (pieces.flatMap chars) where
  whole := rfl
  numerals digits isMember := cut.numerals digits (List.mem_cons_of_mem _ isMember)
  complete before digits after isNumeral found := by
    have whole : template =
        (piece.chars ++ before) ++ (MessagePiece.token digits).chars ++ after := by
      rw [← cut.whole, List.flatMap_cons, found]
      simp
    obtain ⟨earlier, later, isCut, start⟩ := cut.complete _ digits after isNumeral whole
    cases earlier with
    | nil => simp [nonempty] at start
    | cons first earlier =>
        obtain ⟨rfl, rfl⟩ := List.cons.inj isCut
        exact ⟨earlier, later, rfl, by simpa using start⟩

/-- A token at the beginning is the first piece of every cut. -/
theorem IsCut.eq_token_cons (cut : IsCut (.token digits :: pieces) template)
    (other : IsCut others template) (single : ∀ piece ∈ others, piece.IsSingle) :
    ∃ later, others = .token digits :: later := by
  have isNumeral := cut.numerals digits List.mem_cons_self
  have whole : template =
      [] ++ (MessagePiece.token digits).chars ++ pieces.flatMap chars := by
    rw [← cut.whole]
    rfl
  obtain ⟨earlier, later, rfl, start⟩ := other.complete [] digits _ isNumeral whole
  cases earlier with
  | nil => exact ⟨later, rfl⟩
  | cons first earlier =>
      have empty : first.chars = [] := by
        rw [List.flatMap_cons] at start
        exact (List.append_eq_nil_iff.mp start).1
      exact absurd empty (single first (by simp)).chars_ne_nil

theorem IsCut.eq_of_single (cut : IsCut pieces template) (other : IsCut others template)
    (single : ∀ piece ∈ pieces, piece.IsSingle) (singles : ∀ piece ∈ others, piece.IsSingle) :
    pieces = others := by
  induction pieces generalizing others template with
  | nil =>
      cases others with
      | nil => rfl
      | cons first others =>
          have nonempty := (singles first (by simp)).chars_ne_nil
          have empty := cut.whole.trans other.whole.symm
          simp [nonempty] at empty
  | cons piece pieces hyp =>
      have nonempty := (single piece (by simp)).chars_ne_nil
      cases others with
      | nil =>
          have empty := other.whole.trans cut.whole.symm
          simp [nonempty] at empty
      | cons first others =>
          have same : piece = first := by
            obtain ⟨c, rfl⟩ | ⟨digits, rfl⟩ := isSingle_iff.mp (single piece (by simp))
            · obtain ⟨d, rfl⟩ | ⟨digits, rfl⟩ := isSingle_iff.mp (singles first (by simp))
              · have whole := cut.whole.trans other.whole.symm
                simp only [List.flatMap_cons, chars, List.singleton_append] at whole
                rw [(List.cons.inj whole).1]
              · obtain ⟨later, isToken⟩ := other.eq_token_cons cut single
                simp at isToken
            · obtain ⟨later, isToken⟩ := cut.eq_token_cons other singles
              exact (List.cons.inj isToken).1.symm
          subst same
          have rest : others.flatMap chars = pieces.flatMap chars := by
            have whole := other.whole.trans cut.whole.symm
            simpa using whole
          have tail := other.tail nonempty
          rw [rest] at tail
          rw [hyp (cut.tail nonempty) tail (fun piece isMember => single piece (by simp [isMember]))
            fun piece isMember => singles piece (by simp [isMember])]

/-- All cuts of a template have the same tokens at the same places. -/
theorem IsCut.explode_eq (cut : IsCut pieces template) (other : IsCut others template) :
    pieces.flatMap MessagePiece.explode = others.flatMap MessagePiece.explode := by
  have single : ∀ pieces : List MessagePiece,
      ∀ piece ∈ pieces.flatMap MessagePiece.explode, piece.IsSingle := by
    intro pieces piece isMember
    obtain ⟨whole, _, isPart⟩ := List.mem_flatMap.mp isMember
    exact isSingle_of_mem_explode isPart
  exact cut.explode.eq_of_single other.explode (single _) (single _)

/-! ## Filling -/

/-- The number that digits of any script write, place by place. -/
def numeral (digits : List Char) : Nat :=
  Nat.ofDigits 10 (digits.reverse.filterMap digitValue?)

theorem digitsValue_eq_numeral (digits : List Char) : digitsValue digits = numeral digits := by
  rw [digitsValue, numeral, ← List.foldr_reverse]
  induction digits.reverse with
  | nil => rfl
  | cons c digits hyp =>
      rw [List.foldr_cons, hyp, List.filterMap_cons]
      cases digitValue? c with
      | none => rfl
      | some digit =>
          rw [Nat.ofDigits_cons]
          simp [Nat.mul_comm, Nat.add_comm]

/-- What a piece becomes: the text of the argument that a token names, and else what it is. -/
def filled (arguments : List Value) : MessagePiece → List Char
  | literal text => text
  | token digits =>
    match arguments[numeral digits]? with
    | some value => value.shown.toList
    | none => (token digits).chars

variable {arguments : List Value}

/-- Pieces that are filled one after another. -/
def fillAll (arguments : List Value) (pieces : List MessagePiece) : Except Fault (List Char) :=
  (pieces.mapM (fill (arguments.map fun value => value.shown.toList))).map List.flatten

theorem fillAll_append (arguments : List Value) (pieces others : List MessagePiece) :
    fillAll arguments (pieces ++ others) = do
      return (← fillAll arguments pieces) ++ (← fillAll arguments others) := by
  rw [fillAll, List.mapM_append, fillAll, fillAll]
  cases pieces.mapM (fill (arguments.map fun value => value.shown.toList)) with
  | error fault => rfl
  | ok first =>
      cases others.mapM (fill (arguments.map fun value => value.shown.toList)) with
      | error fault => rfl
      | ok second => exact congrArg Except.ok List.flatten_append

theorem fillAll_singleton (arguments : List Value) (piece : MessagePiece) :
    fillAll arguments [piece] = piece.fill (arguments.map fun value => value.shown.toList) := by
  rw [fillAll, List.mapM_cons, List.mapM_nil]
  cases piece.fill (arguments.map fun value => value.shown.toList) with
  | error fault => rfl
  | ok text => exact congrArg Except.ok (by simp)

/-- It makes no difference how the text between tokens is divided. -/
theorem fillAll_explode (arguments : List Value) (pieces : List MessagePiece) :
    fillAll arguments (pieces.flatMap explode) = fillAll arguments pieces := by
  have characters : ∀ text : List Char,
      fillAll arguments (explode (literal text)) = .ok text := by
    intro text
    induction text with
    | nil => rfl
    | cons c text hyp =>
        have first : explode (literal (c :: text)) = [literal [c]] ++ explode (literal text) := rfl
        rw [first, fillAll_append, hyp, fillAll_singleton]
        rfl
  induction pieces with
  | nil => rfl
  | cons piece pieces hyp =>
      have here : fillAll arguments piece.explode = fillAll arguments [piece] := by
        cases piece with
        | literal text => rw [characters, fillAll_singleton, fill]
        | token digits => rfl
      rw [List.flatMap_cons, fillAll_append, hyp, here, ← fillAll_append, List.singleton_append]

theorem fill_of_short {piece : MessagePiece}
    (short : ∀ digits, piece = token digits → digits.length ≤ Decimal.digitLimit) :
    piece.fill (arguments.map fun value => value.shown.toList) = .ok (piece.filled arguments) := by
  cases piece with
  | literal text => rfl
  | token digits =>
      have enough : ¬Decimal.digitLimit < digits.length := Nat.not_lt.mpr (short digits rfl)
      rw [fill, if_neg enough, digitsValue_eq_numeral, filled, List.getElem?_map]
      cases arguments[numeral digits]? <;> rfl

theorem fillAll_of_short
    (short : ∀ digits, token digits ∈ pieces → digits.length ≤ Decimal.digitLimit) :
    fillAll arguments pieces = .ok (pieces.flatMap (filled arguments)) := by
  induction pieces with
  | nil => rfl
  | cons piece pieces hyp =>
      have here := @fill_of_short arguments piece fun digits isToken =>
        short digits (by simp [isToken])
      have others := hyp fun digits isMember => short digits (by simp [isMember])
      rw [← List.singleton_append, fillAll_append, fillAll_singleton, here, others]
      rfl

/-- A template is filled by filling the pieces of any cut. -/
theorem fillTemplate_of_cut {template : String} (cut : IsCut pieces template.toList)
    (arguments : List Value) :
    fillTemplate template arguments = (fillAll arguments pieces).map String.ofList := by
  have same := (isCut_messagePieces template.toList).explode_eq cut
  rw [← fillAll_explode, ← same, fillAll_explode, fillTemplate, fillAll]
  cases (messagePieces template.toList).mapM
    (fill (arguments.map fun value => value.shown.toList)) <;> rfl

theorem fillTemplate_append {front back : String} (apart : ¬Straddles front.toList back.toList)
    (arguments : List Value) : fillTemplate (front ++ back) arguments = do
      return (← fillTemplate front arguments) ++ (← fillTemplate back arguments) := by
  have first := isCut_messagePieces front.toList
  have second := isCut_messagePieces back.toList
  have joined := first.append second apart
  rw [← String.toList_append] at joined
  rw [fillTemplate_of_cut first, fillTemplate_of_cut second, fillTemplate_of_cut joined,
    fillAll_append]
  cases fillAll arguments (messagePieces front.toList) with
  | error fault => rfl
  | ok text =>
      cases fillAll arguments (messagePieces back.toList) with
      | error fault => rfl
      | ok others => exact congrArg Except.ok String.ofList_append

end MessagePiece

open MessagePiece

/-- **Filled messages.** Every template can be cut into its tokens and the text between them. To
fill it is to write one after another, for any such cut, the text of the argument whose number a
token has, and every other token and all text between as they are; only a token of more than 4300
digits is refused. A template is filled part by part, where no token stands across the seam. -/
theorem fillTemplate_cut (template : String) (arguments : List Value) :
    (∃ pieces, IsCut pieces template.toList) ∧
      (∀ pieces, IsCut pieces template.toList →
        (∀ digits, .token digits ∈ pieces → digits.length ≤ 4300) →
        fillTemplate template arguments =
          .ok (String.ofList (pieces.flatMap (filled arguments)))) ∧
      ∀ front back, template = front ++ back → ¬Straddles front.toList back.toList →
        fillTemplate template arguments = do
          return (← fillTemplate front arguments) ++ (← fillTemplate back arguments) := by
  refine ⟨⟨_, isCut_messagePieces template.toList⟩, fun pieces cut short => ?filled, ?parts⟩
  case filled => rw [fillTemplate_of_cut cut, fillAll_of_short short, Except.map]
  case parts =>
    rintro front back rfl apart
    exact fillTemplate_append apart arguments

/-- An argument that looks like a token stands in the message as it is. -/
theorem fillTemplate_cut_tokenArgument :
    let template := "at \x7b0\x7d:\x7b1\x7d\x7b2\x7d"
    let pieces := [.literal ['a', 't', ' '], .token ['0'], .literal [':'], .token ['1'],
      .token ['2']]
    let arguments := [Value.int 7, .text "\x7b0\x7d"]
    let parts := ("at ", "\x7b0\x7d:\x7b1\x7d\x7b2\x7d")
    IsCut pieces template.toList ∧
      fillTemplate template arguments = .ok "at 7:\x7b0\x7d\x7b2\x7d" ∧
      ¬Straddles parts.1.toList parts.2.toList ∧
      fillTemplate template arguments = do
        return (← fillTemplate parts.1 arguments) ++ (← fillTemplate parts.2 arguments) := by
  intro template pieces arguments parts
  have cut : IsCut pieces template.toList := by
    have second := (isCut_nil.token ['2'] (isNumeral_singleton rfl)).token ['1']
      (isNumeral_singleton rfl)
    have first := (second.solid [':'] (by decide)).token ['0'] (isNumeral_singleton rfl)
    simpa [pieces, template, chars] using first.solid ['a', 't', ' '] (by decide)
  have short : ∀ digits, .token digits ∈ pieces → digits.length ≤ 4300 := by
    simp [pieces]
  have apart : ¬Straddles parts.1.toList parts.2.toList := by
    rintro ⟨before, digits, after, _, found, begins, _⟩
    exact absurd (mem_of_begins found begins) (by decide)
  obtain ⟨_, filled, joined⟩ := fillTemplate_cut template arguments
  exact ⟨cut, (filled pieces cut short).trans (by decide), apart, joined _ _ (by decide) apart⟩

end LineRules
