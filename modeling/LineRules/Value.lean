import LineRules.Decimal.Limit
import LineRules.Decimal.Shortest
import LineRules.Keyed
import LineRules.Moment
import LineRules.Text.Quoted

/-!
# Values

The values that settings hold and that callbacks pass around: what a configuration
file can write, and tuples. A value has a text, as a message shows it, and a quoted
form, as it stands inside another value.
-/

namespace LineRules

/-- A setting or a callback's result. -/
inductive Value where
  | null
  | bool (value : Bool)
  | int (value : Int)
  /-- A floating-point number by its bits. -/
  | float (bits : UInt64)
  | text (value : String)
  /-- A date or time. -/
  | moment (value : Moment)
  | list (items : List Value)
  | tuple (items : List Value)
  | table (entries : List (String × Value))
deriving Repr, Inhabited

namespace Value

/-- The name of a value's kind, as error messages give it. -/
def kindName : Value → String
  | null => "NoneType"
  | bool _ => "bool"
  | int _ => "int"
  | float _ => "float"
  | text _ => "str"
  | moment value => value.kindName
  | list _ => "list"
  | tuple _ => "tuple"
  | table _ => "dict"

/-- Whether a value counts as present: not null, false, zero or empty. -/
def isTruthy : Value → Bool
  | null => false
  | bool value => value
  | int value => value ≠ 0
  | float bits => bits ≠ 0 && bits ≠ 0x8000000000000000
  | text value => !value.isEmpty
  | moment _ => true
  | list items => !items.isEmpty
  | tuple items => !items.isEmpty
  | table entries => !entries.isEmpty

/-- The text of a text value. -/
def text? : Value → Option String
  | text value => some value
  | _ => none

/-- The entries of a table. -/
def table? : Value → Option (Keyed Value)
  | table entries => some entries
  | _ => none

/-- The word for a truth value. -/
def boolWord (value : Bool) : String :=
  if value then "True" else "False"

mutual

/-- A value as it stands inside another value. -/
def quoted : Value → String
  | null => "None"
  | bool value => boolWord value
  | int value => toString value
  | float bits => Decimal.text bits
  | text value => Text.quote value
  | moment value => value.quoted
  | list items => "[" ++ ", ".intercalate (quotedItems items) ++ "]"
  | tuple [item] => "(" ++ quoted item ++ ",)"
  | tuple items => "(" ++ ", ".intercalate (quotedItems items) ++ ")"
  | table entries => "\x7b" ++ ", ".intercalate (quotedEntries entries) ++ "\x7d"

/-- The quoted forms of the items of a list. -/
def quotedItems : List Value → List String
  | [] => []
  | item :: rest => quoted item :: quotedItems rest

/-- The quoted forms of the entries of a table. -/
def quotedEntries : List (String × Value) → List String
  | [] => []
  | (key, value) :: rest => (Text.quote key ++ ": " ++ quoted value) :: quotedEntries rest

end

/-- A value as a message shows it: a text or moment by its own text, any other value
quoted. -/
def shown : Value → String
  | text value => value
  | moment value => value.shown
  | value => quoted value

mutual

/-- Whether some number in a value has more digits than can be written. -/
def hasLongNumber : Value → Bool
  | int value => Decimal.isTooLong value
  | list items => anyLongNumber items
  | tuple items => anyLongNumber items
  | table entries => anyLongEntry entries
  | _ => false

/-- Whether some number in a list of values is too long. -/
def anyLongNumber : List Value → Bool
  | [] => false
  | item :: rest => hasLongNumber item || anyLongNumber rest

/-- Whether some number in the entries of a table is too long. -/
def anyLongEntry : List (String × Value) → Bool
  | [] => false
  | (_, value) :: rest => hasLongNumber value || anyLongEntry rest

end

end Value

end LineRules
