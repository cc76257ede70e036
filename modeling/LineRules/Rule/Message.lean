import LineRules.Rule.Basic

/-!
# Messages

A message template holds tokens such as `{0}`: decimal digits in braces, which name an
argument. A token that names no argument stays, and so does every other brace. What an
argument brings in is never looked at again.
-/

namespace LineRules

open LineRules.Text

/-- A piece of a message template. -/
inductive MessagePiece where
  | literal (text : List Char)
  | token (digits : List Char)
deriving Repr, DecidableEq

namespace MessagePiece

/-- A piece as it stands in the template. -/
def chars : MessagePiece → List Char
  | literal text => text
  | token digits => '\x7b' :: digits ++ ['\x7d']

end MessagePiece

/-- Cuts a template into pieces. After an opening brace, `digits` are the digits read
since, last first. -/
def cutTemplate (digits : Option (List Char)) : List Char → List MessagePiece
  | [] =>
    match digits with
    | none => []
    | some read => [.literal ('\x7b' :: read.reverse)]
  | c :: rest =>
    match digits with
    | none =>
      if c = '\x7b' then cutTemplate (some []) rest
      else .literal [c] :: cutTemplate none rest
    | some read =>
      if isDigit c then cutTemplate (some (c :: read)) rest
      else if c = '\x7d' && !read.isEmpty then .token read.reverse :: cutTemplate none rest
      else if c = '\x7b' then .literal ('\x7b' :: read.reverse) :: cutTemplate (some []) rest
      else .literal ('\x7b' :: read.reverse ++ [c]) :: cutTemplate none rest

/-- The pieces of a message template. -/
def messagePieces (template : List Char) : List MessagePiece :=
  cutTemplate none template

/-- What a piece becomes. A number of too many digits cannot be read. -/
def MessagePiece.fill (arguments : List (List Char)) : MessagePiece → Except Fault (List Char)
  | literal text => .ok text
  | token digits =>
    if Decimal.digitLimit < digits.length then .error (.tooManyDigits digits.length)
    else .ok ((arguments[digitsValue digits]?).getD (token digits).chars)

/-- Fills the tokens of a template with the texts of the arguments. -/
def fillTemplate (template : String) (arguments : List Value) : Except Fault String := do
  let texts := arguments.map fun value => value.shown.toList
  let parts ← (messagePieces template.toList).mapM (MessagePiece.fill texts)
  return String.ofList parts.flatten

/-- The name of a rule as readable text: words apart, the first letter in upper case. -/
def readableName (name : String) : List Char :=
  let spaced := name.toList.map fun c => if c = '_' || c = '-' then ' ' else c
  match trim spaced with
  | [] => []
  | c :: rest => upperChars c ++ rest

/-- The message made from the name of the rule; none for a rule without a readable
name. -/
def messageByName (lineNumber : Int) (context : Context) : Value :=
  match readableName (context.ruleName.getD "") with
  | [] => .null
  | readable => .text ("Line " ++ toString lineNumber ++ ": " ++ String.ofList readable)

/-- The message of a rule for a line, null for none. -/
def Rule.messageFor (rule : Rule) (lineNumber : Int) (item : Value) (evidence : Evidence)
    (context : Context) : Except Fault Value :=
  match rule.message with
  | .suppressed => .ok .null
  | .template text => (fillTemplate text [.int lineNumber, item]).map .text
  | .callback run => run lineNumber item evidence context
  | .byName => .ok (messageByName lineNumber context)

end LineRules
