/-!
# The limit on decimal digits

Numbers are read from and written with at most 4300 decimal digits.
-/

namespace LineRules.Decimal

/-- The greatest number of decimal digits of a number that is read or written. -/
def digitLimit : Nat := 4300

/-- Whether a number has more decimal digits than are written. -/
def isTooLong (number : Int) : Bool := Nat.pow 10 digitLimit ≤ number.natAbs

/-- The complaint about a text with too many digits. -/
def tooManyDigitsMessage (count : Nat) : String :=
  "Exceeds the limit (" ++ toString digitLimit
    ++ " digits) for integer string conversion: value has " ++ toString count
    ++ " digits; use sys.set_int_max_str_digits() to increase the limit"

/-- The complaint about a number with too many digits. -/
def tooLongMessage : String :=
  "Exceeds the limit (" ++ toString digitLimit
    ++ " digits) for integer string conversion; "
    ++ "use sys.set_int_max_str_digits() to increase the limit"

end LineRules.Decimal
