import LineRules.Decimal.Limit
import LineRules.Decimal.Shortest
import LineRules.Text.Digit
import LineRules.Value

/-!
# Scalars of settings files

Texts, numbers, dates and keys as a TOML document writes them. Every reader takes the
characters from its own first one on and gives the rest back.
-/

namespace LineRules.Toml

open LineRules.Text (isHexDigit numberIn)

/-- Why a document cannot be read. -/
inductive ReadError where
  /-- The text is no TOML document. -/
  | malformed
  /-- A decimal number has more digits than numbers may have. -/
  | tooManyDigits (count : Nat)
deriving Repr, DecidableEq

/-- The wording of a refusal. -/
def malformedMessage : String := "not a TOML document"

/-- What a reader gives: a value and the rest of the text. -/
abbrev Reader (α : Type) := List Char → Except ReadError (α × List Char)

/-- A blank inside a line. -/
def isLineBlank (c : Char) : Bool := c = ' ' || c = '\t'

/-- The text without the blanks of its line in front. -/
def skipBlanks (text : List Char) : List Char := text.dropWhile isLineBlank

/-- A character that no text, comment or key can hold as it is. -/
def isControl (c : Char) : Bool := (c.toNat < 0x20 && c ≠ '\t') || c.toNat = 0x7F

/-- The character that a letter stands for after a backslash. -/
def escapeLetter? (c : Char) : Option Char :=
  match c with
  | 'b' => some '\x08'
  | 't' => some '\t'
  | 'n' => some '\n'
  | 'f' => some '\x0c'
  | 'r' => some '\r'
  | '"' => some '"'
  | '\\' => some '\\'
  | _ => none

/-- Reads a character written by `count` hexadecimal digits. -/
def readCodePoint (count : Nat) : Reader Char := fun text =>
  let digits := text.take count
  let code := numberIn 16 digits
  if digits.length = count && digits.all isHexDigit && code.isValidChar then
    .ok (Char.ofNat code, text.drop count)
  else .error .malformed

/-- Reads a text in double quotes from after the opening quote on. -/
def readBasic : (fuel : Nat) → Reader (List Char)
  | 0, _ => .error .malformed
  | _, [] => .error .malformed
  | _, '"' :: rest => .ok ([], rest)
  | fuel + 1, '\\' :: c :: rest => do
    let (escaped, rest) ← match c with
      | 'u' => readCodePoint 4 rest
      | 'U' => readCodePoint 8 rest
      | c => match escapeLetter? c with
        | some escaped => pure (escaped, rest)
        | none => throw .malformed
    let (chars, rest) ← readBasic fuel rest
    return (escaped :: chars, rest)
  | fuel + 1, c :: rest =>
    if isControl c || c = '\\' then .error .malformed
    else do
      let (chars, rest) ← readBasic fuel rest
      return (c :: chars, rest)

/-- Reads a text in single quotes from after the opening quote on. -/
def readLiteral : Reader (List Char)
  | [] => .error .malformed
  | '\'' :: rest => .ok ([], rest)
  | c :: rest =>
    if isControl c then .error .malformed
    else do
      let (chars, rest) ← readLiteral rest
      return (c :: chars, rest)

/-- Up to two more quotes right after the end of a text of several lines, which belong
to the text. -/
def extraQuotes (quote : Char) (text : List Char) : List Char × List Char :=
  match text with
  | a :: b :: rest =>
    if a = quote then if b = quote then ([a, b], rest) else ([a], b :: rest)
    else ([], text)
  | [a] => if a = quote then ([a], []) else ([], text)
  | [] => ([], [])

/-- Reads a text of several lines in double quotes from after the opening quotes on. A
backslash at the end of a line takes the line end and the blanks after it away. -/
def readBasicLines : (fuel : Nat) → Reader (List Char)
  | 0, _ => .error .malformed
  | _, [] => .error .malformed
  | _, '"' :: '"' :: '"' :: rest => .ok (extraQuotes '"' rest)
  | fuel + 1, '\\' :: c :: rest =>
    if isLineBlank c || c = '\n' then
      let rest := if c = '\n' then c :: rest else skipBlanks rest
      match rest with
      | '\n' :: rest =>
        readBasicLines fuel (rest.dropWhile fun c => isLineBlank c || c = '\n')
      | [] => .error .malformed
      | _ => .error .malformed
    else do
      let (escaped, rest) ← match c with
        | 'u' => readCodePoint 4 rest
        | 'U' => readCodePoint 8 rest
        | c => match escapeLetter? c with
          | some escaped => pure (escaped, rest)
          | none => throw .malformed
      let (chars, rest) ← readBasicLines fuel rest
      return (escaped :: chars, rest)
  | fuel + 1, c :: rest =>
    if (isControl c && c ≠ '\n') || c = '\\' then .error .malformed
    else do
      let (chars, rest) ← readBasicLines fuel rest
      return (c :: chars, rest)

/-- Reads a text of several lines in single quotes from after the opening quotes on. -/
def readLiteralLines : Reader (List Char)
  | [] => .error .malformed
  | '\'' :: '\'' :: '\'' :: rest => .ok (extraQuotes '\'' rest)
  | c :: rest =>
    if isControl c && c ≠ '\n' then .error .malformed
    else do
      let (chars, rest) ← readLiteralLines rest
      return (c :: chars, rest)

/-- The text without a line feed in front. -/
def dropNewline : List Char → List Char
  | '\n' :: rest => rest
  | text => text

/-- A character of a key without quotes. -/
def isBareKeyChar (c : Char) : Bool := c.isAlphanum || c = '-' || c = '_'

/-- Reads one part of a key. -/
def readKeyPart : Reader String
  | '"' :: rest => (readBasic (rest.length + 1) rest).map fun (chars, rest) =>
    (String.ofList chars, rest)
  | '\'' :: rest => (readLiteral rest).map fun (chars, rest) => (String.ofList chars, rest)
  | text =>
    let chars := text.takeWhile isBareKeyChar
    if chars.isEmpty then .error .malformed
    else .ok (String.ofList chars, text.dropWhile isBareKeyChar)

/-- Reads a key of parts with points between them, and the blanks after it. -/
def readKeyFrom : (fuel : Nat) → Reader (List String)
  | 0, _ => .error .malformed
  | fuel + 1, text => do
    let (part, rest) ← readKeyPart text
    match skipBlanks rest with
    | '.' :: rest =>
      let (parts, rest) ← readKeyFrom fuel (skipBlanks rest)
      return (part :: parts, rest)
    | rest => return ([part], rest)

/-- Reads a key. -/
def readKey : Reader (List String) := fun text => readKeyFrom (text.length + 1) text

/-- Digits of a base in which single low lines may stand between digits; they are left
out of what is read. -/
def takeDigits (isDigit : Char → Bool) : List Char → List Char × List Char
  | '_' :: c :: rest =>
    if isDigit c then
      let (digits, rest) := takeDigits isDigit rest
      (c :: digits, rest)
    else ([], '_' :: c :: rest)
  | c :: rest =>
    if isDigit c then
      let (digits, rest) := takeDigits isDigit rest
      (c :: digits, rest)
    else ([], c :: rest)
  | [] => ([], [])

/-- Digits that begin with a digit. -/
def takeNumber (isDigit : Char → Bool) (text : List Char) : Option (List Char × List Char) :=
  match text with
  | c :: _ => if isDigit c then some (takeDigits isDigit text) else none
  | [] => none

/-- Reads a whole number with a mark for its base. -/
def readMarked? (text : List Char) : Option (Value × List Char) :=
  let read (base : Nat) (isDigit : Char → Bool) (rest : List Char) :=
    (takeNumber isDigit rest).map fun (digits, rest) =>
      (Value.int (numberIn base digits : Nat), rest)
  match text with
  | '0' :: 'x' :: rest => read 16 isHexDigit rest
  | '0' :: 'b' :: rest => read 2 (fun c => c = '0' || c = '1') rest
  | '0' :: 'o' :: rest => read 8 (fun c => '0' ≤ c && c ≤ '7') rest
  | _ => none

/-- Reads a fraction after a point, if there is one. -/
def takeFraction (text : List Char) : List Char × List Char :=
  match text with
  | '.' :: rest => (takeNumber Char.isDigit rest).getD ([], text)
  | _ => ([], text)

/-- Reads an exponent, if there is one. -/
def takeExponent (text : List Char) : Option Int × List Char :=
  match text with
  | e :: rest =>
    if e = 'e' || e = 'E' then
      let (negative, digits) := match rest with
        | '-' :: rest => (true, rest)
        | '+' :: rest => (false, rest)
        | rest => (false, rest)
      match takeNumber Char.isDigit digits with
      | some (digits, rest) =>
        let size : Int := numberIn 10 digits
        (some (if negative then -size else size), rest)
      | none => (none, text)
    else (none, text)
  | [] => (none, [])

/-- Reads a decimal number, whole or not; none if the text begins no number. -/
def readDecimal (text : List Char) : Except ReadError (Option (Value × List Char)) :=
  let (negative, unsigned) := match text with
    | '-' :: rest => (true, rest)
    | '+' :: rest => (false, rest)
    | rest => (false, rest)
  let whole := match unsigned with
    | '0' :: rest => some (['0'], rest)
    | rest => takeNumber Char.isDigit rest
  match whole with
  | none => .ok none
  | some (digits, afterWhole) =>
    let (fraction, afterFraction) := takeFraction afterWhole
    let (exponent, rest) := takeExponent afterFraction
    if fraction.isEmpty && exponent.isNone then
      if Decimal.digitLimit < digits.length then .error (.tooManyDigits digits.length)
      else
        let size : Int := numberIn 10 digits
        .ok (some (.int (if negative then -size else size), rest))
    else
      let scale := exponent.getD 0 - fraction.length
      let bits := Decimal.ofScientific negative (numberIn 10 (digits ++ fraction)) scale
      .ok (some (.float bits, rest))

/-- The bits of positive infinity. -/
def infinityBits : UInt64 := 0x7FF0000000000000

/-- The bits of the quiet value that is no number. -/
def undefinedBits : UInt64 := 0x7FF8000000000000

/-- Reads a number that is written as a word. -/
def readSpecial? (text : List Char) : Option (Value × List Char) :=
  match text with
  | 'i' :: 'n' :: 'f' :: rest => some (.float infinityBits, rest)
  | 'n' :: 'a' :: 'n' :: rest => some (.float undefinedBits, rest)
  | '+' :: 'i' :: 'n' :: 'f' :: rest => some (.float infinityBits, rest)
  | '-' :: 'i' :: 'n' :: 'f' :: rest => some (.float 0xFFF0000000000000, rest)
  | '+' :: 'n' :: 'a' :: 'n' :: rest => some (.float undefinedBits, rest)
  | '-' :: 'n' :: 'a' :: 'n' :: rest => some (.float undefinedBits, rest)
  | _ => none

/-- Reads a number of exactly `count` digits between two bounds. -/
def takeField (count low high : Nat) (text : List Char) : Option (Nat × List Char) :=
  let digits := text.take count
  let size := numberIn 10 digits
  if digits.length = count && digits.all Char.isDigit && low ≤ size && size ≤ high then
    some (size, text.drop count)
  else none

/-- Passes a character. -/
def takeMark (mark : Char) (text : List Char) : Option (List Char) :=
  match text with
  | c :: rest => if c = mark then some rest else none
  | [] => none

/-- Reads a time of day. Of the fraction of a second the first six digits count. -/
def takeTime (text : List Char) : Option (TimeOfDay × List Char) := do
  let (hour, rest) ← takeField 2 0 23 text
  let rest ← takeMark ':' rest
  let (minute, rest) ← takeField 2 0 59 rest
  let rest ← takeMark ':' rest
  let (second, rest) ← takeField 2 0 59 rest
  match rest with
  | '.' :: more =>
    let digits := more.takeWhile Char.isDigit
    if digits.isEmpty then some (⟨hour, minute, second, 0⟩, rest)
    else
      let micros := numberIn 10 ((digits ++ List.replicate 6 '0').take 6)
      some (⟨hour, minute, second, micros⟩, more.dropWhile Char.isDigit)
  | rest => some (⟨hour, minute, second, 0⟩, rest)

/-- Reads the distance of a time from universal time. -/
def takeOffset (text : List Char) : Option (Offset × List Char) :=
  match text with
  | 'Z' :: rest => some (⟨0⟩, rest)
  | 'z' :: rest => some (⟨0⟩, rest)
  | sign :: rest =>
    if sign = '+' || sign = '-' then do
      let (hour, rest) ← takeField 2 0 23 rest
      let rest ← takeMark ':' rest
      let (minute, rest) ← takeField 2 0 59 rest
      let minutes : Int := (hour * 60 + minute : Nat)
      some (⟨if sign = '-' then -minutes else minutes⟩, rest)
    else none
  | [] => none

/-- Reads a date, with a time if one follows; none if the text begins no date. A date
that no calendar has is refused. -/
def readDate (text : List Char) : Except ReadError (Option (Value × List Char)) :=
  let written := do
    let (year, rest) ← takeField 4 0 9999 text
    let rest ← takeMark '-' rest
    let (month, rest) ← takeField 2 1 12 rest
    let rest ← takeMark '-' rest
    let (day, rest) ← takeField 2 1 31 rest
    some (Date.mk year month day, rest)
  match written with
  | none => .ok none
  | some (date, rest) =>
    if !date.isValid then .error .malformed
    else
      let time := match rest with
        | mark :: rest =>
          if mark = 'T' || mark = 't' || mark = ' ' then takeTime rest else none
        | [] => none
      match time with
      | none => .ok (some (.moment (.date date), rest))
      | some (time, rest) =>
        match takeOffset rest with
        | some (offset, rest) =>
          .ok (some (.moment (.datetime date time (some offset)), rest))
        | none => .ok (some (.moment (.datetime date time none), rest))

/-- Reads a value that is neither text, truth value, list nor table. -/
def readNumeric : Reader Value := fun text => do
  match ← readDate text with
  | some found => return found
  | none =>
    match takeTime text with
    | some (time, rest) => return (.moment (.time time), rest)
    | none =>
      match readMarked? text with
      | some found => return found
      | none =>
        match ← readDecimal text with
        | some found => return found
        | none =>
          match readSpecial? text with
          | some found => return found
          | none => throw .malformed

end LineRules.Toml
