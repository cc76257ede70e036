import LineRules.Value

/-!
# JSON text

Values written as JSON, two blanks deeper for every level. Text is kept to ASCII: other
characters are written by their UTF-16 units.
-/

namespace LineRules.JsonText

open LineRules.Text

/-- The UTF-16 units of a character. -/
def units (c : Char) : List Nat :=
  let code := c.toNat
  if code < 0x10000 then [code]
  else [0xD800 + (code - 0x10000) / 0x400, 0xDC00 + (code - 0x10000) % 0x400]

/-- A character between the quotes of a text. -/
def escapeChar (c : Char) : List Char :=
  match c with
  | '"' => ['\\', '"']
  | '\\' => ['\\', '\\']
  | '\n' => ['\\', 'n']
  | '\r' => ['\\', 'r']
  | '\t' => ['\\', 't']
  | '\x08' => ['\\', 'b']
  | '\x0c' => ['\\', 'f']
  | c =>
    if 0x20 ≤ c.toNat && c.toNat ≤ 0x7E then [c]
    else (units c).flatMap fun unit => '\\' :: 'u' :: hexDigits 4 unit

/-- A text in quotes. -/
def quoteText (text : String) : String :=
  String.ofList ('"' :: text.toList.flatMap escapeChar ++ ['"'])

/-- A line break and the blanks of a level. -/
def lineBreak (level : Nat) : String :=
  String.ofList ('\n' :: List.replicate (2 * level) ' ')

/-- Items between brackets, each on a line of its own. -/
def bracketed (opening closing : String) (level : Nat) (items : List String) : String :=
  if items.isEmpty then opening ++ closing
  else
    opening ++ lineBreak (level + 1) ++ ("," ++ lineBreak (level + 1)).intercalate items
      ++ lineBreak level ++ closing

mutual

/-- A value as JSON at a level. -/
def write (level : Nat) : Value → String
  | .null => "null"
  | .bool value => if value then "true" else "false"
  | .int value => toString value
  | .float bits => Decimal.text bits
  | .text value => quoteText value
  | .moment moment => quoteText moment.shown
  | .list items => bracketed "[" "]" level (writeItems (level + 1) items)
  | .tuple items => bracketed "[" "]" level (writeItems (level + 1) items)
  | .table entries => bracketed "\x7b" "\x7d" level (writeEntries (level + 1) entries)

/-- The items of a list as JSON. -/
def writeItems (level : Nat) : List Value → List String
  | [] => []
  | item :: rest => write level item :: writeItems level rest

/-- The entries of a table as JSON. -/
def writeEntries (level : Nat) : List (String × Value) → List String
  | [] => []
  | (key, value) :: rest =>
    (quoteText key ++ ": " ++ write level value) :: writeEntries level rest

end

/-- A value as JSON. -/
def render (value : Value) : String := write 0 value

end LineRules.JsonText
