import LineRules.Pattern.Error
import LineRules.Text.Blank
import LineRules.Text.Digit
import LineRules.Text.Identifier

/-!
# Reading a pattern text token by token

A token is one character, or a backslash with the character after it. The scanner
always holds the next token, so a backslash at the very end is refused as soon as it
becomes the next token, even if nothing would read it.
-/

namespace LineRules.Pattern

open LineRules.Text

/-- A character, or a backslash and a character. -/
inductive Token where
  | plain (c : Char)
  | escaped (c : Char)
deriving Repr, DecidableEq

namespace Token

/-- The characters of a token. -/
def chars : Token → List Char
  | plain c => [c]
  | escaped c => ['\\', c]

/-- The number of characters of a token. -/
def length : Token → Nat
  | plain _ => 1
  | escaped _ => 2

end Token

/-- A text being read: the whole of it, how much is read with the next token included,
the next token, and what comes after it. -/
structure Scanner where
  text : List Char
  index : Nat
  next : Option Token
  rest : List Char

namespace Scanner

/-- The position of the next token. -/
def position (scanner : Scanner) : Nat :=
  scanner.index - (scanner.next.map Token.length).getD 0

/-- Refuses the text at `offset` characters before the next token. -/
def refuse {α : Type} (scanner : Scanner) (complaint : Complaint) (offset : Nat := 0) :
    Except PatternError α :=
  .error (.malformed complaint (some (.ofPosition scanner.text (scanner.position - offset))))

/-- Moves on by one token. -/
def advance (scanner : Scanner) : Except PatternError Scanner :=
  match scanner.rest with
  | [] => .ok { scanner with next := none }
  | '\\' :: [] =>
    .error (.malformed .escapeAtEnd
      (some (.ofPosition scanner.text (scanner.text.length - 1))))
  | '\\' :: c :: rest =>
    .ok { scanner with index := scanner.index + 2, next := some (.escaped c), rest }
  | c :: rest =>
    .ok { scanner with index := scanner.index + 1, next := some (.plain c), rest }

/-- The scanner at the start of a text. -/
def ofText (text : List Char) : Except PatternError Scanner :=
  advance ⟨text, 0, none, text⟩

/-- Whether the next token is the given character. -/
def sees (scanner : Scanner) (c : Char) : Bool :=
  scanner.next == some (.plain c)

/-- The next token if it is a plain character of the class. -/
def seesAny (scanner : Scanner) (member : Char → Bool) : Option Char :=
  match scanner.next with
  | some (.plain c) => if member c then some c else none
  | _ => none

/-- Passes the given character if it is next. -/
def accept (scanner : Scanner) (c : Char) : Except PatternError (Bool × Scanner) :=
  if scanner.sees c then scanner.advance.map (true, ·) else .ok (false, scanner)

/-- Reads at most `count` plain characters of a class. -/
def readWhile (member : Char → Bool) : (count : Nat) → Scanner →
    Except PatternError (List Char × Scanner)
  | 0, scanner => .ok ([], scanner)
  | count + 1, scanner =>
    match scanner.seesAny member with
    | some c => do
      let (chars, scanner) ← readWhile member count (← scanner.advance)
      return (c :: chars, scanner)
    | none => .ok ([], scanner)

/-- Reads up to and past a terminator; `read` is what was read so far. The name before
the terminator must not be empty. -/
def readName (terminator : Char) (what : String) : (fuel : Nat) → (read : List Char) →
    Scanner → Except PatternError (List Char × Scanner)
  | 0, _, scanner => scanner.refuse .outOfSteps
  | fuel + 1, read, scanner =>
    match scanner.next with
    | none =>
      if read.isEmpty then scanner.refuse (.missing what)
      else scanner.refuse (.missingTerminator terminator) read.length
    | some token => do
      let later ← scanner.advance
      if token == .plain terminator then
        if read.isEmpty then later.refuse (.missing what) 1 else .ok (read, later)
      else readName terminator what fuel (read ++ token.chars) later

/-- Reads a nonempty name up to and past a terminator. -/
def name (scanner : Scanner) (terminator : Char) (what : String) :
    Except PatternError (List Char × Scanner) :=
  readName terminator what (scanner.text.length + 1) [] scanner

end Scanner

/-- Whether a character is an octal digit. -/
def isOctalDigit (c : Char) : Bool := '0' ≤ c && c ≤ '7'

/-- Digits in which single low lines may stand between digits. -/
def spacedDigits? : List Char → Option (List Char)
  | [] => none
  | [c] => if isDigit c then some [c] else none
  | c :: '_' :: rest => if isDigit c then (spacedDigits? rest).map (c :: ·) else none
  | c :: rest => if isDigit c then (spacedDigits? rest).map (c :: ·) else none

/-- The text without the blanks that may stand around a number. -/
def trimNumber (text : List Char) : List Char :=
  ((text.dropWhile isNumberBlank).reverse.dropWhile isNumberBlank).reverse

/-- The number that a text writes with optional blanks around it, a sign, and low lines
between digits; nothing for more digits than numbers may have. -/
def readInteger? (text : List Char) : Option Int :=
  let (negative, digits) := match trimNumber text with
    | '-' :: rest => (true, rest)
    | '+' :: rest => (false, rest)
    | rest => (false, rest)
  match spacedDigits? digits with
  | some digits =>
    if digits.length ≤ Decimal.digitLimit then
      let value : Int := digitsValue digits
      some (if negative then -value else value)
    else none
  | none => none

end LineRules.Pattern
