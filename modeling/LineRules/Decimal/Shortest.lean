/-!
# Shortest decimals

The shortest text that reads back as a given binary floating-point number. The
number is taken apart into sign, significand and exponent; then, for one digit, two
digits, and so on, the two decimals next to the number are tested against the
interval of reals that round to it. All arithmetic is exact.
-/

namespace LineRules.Decimal

/-- A binary floating-point number, taken apart. A finite one is
`significand * 2 ^ exponent`. -/
inductive Binary where
  | finite (negative : Bool) (significand : Nat) (exponent : Int)
  | infinite (negative : Bool)
  | undefined
deriving Repr, DecidableEq

namespace Binary

/-- Takes a 64-bit pattern apart: one sign bit, eleven exponent bits, fifty-two
significand bits. -/
def ofBits (bits : UInt64) : Binary :=
  let code := bits.toNat
  let negative := 0x8000000000000000 ≤ code
  let biased := code / 0x10000000000000 % 0x800
  let fraction := code % 0x10000000000000
  if biased == 0x7FF then if fraction == 0 then .infinite negative else .undefined
  else if biased == 0 then .finite negative fraction (-1074)
  else .finite negative (fraction + 0x10000000000000) ((biased : Int) - 1075)

end Binary

/-- A positive fraction as numerator and denominator. -/
structure Ratio where
  top : Nat
  bottom : Nat
deriving Repr, DecidableEq

namespace Ratio

/-- `base ^ power` for a power of either sign. -/
def powOf (base : Nat) (power : Int) : Ratio :=
  if 0 ≤ power then ⟨base.pow power.toNat, 1⟩ else ⟨1, base.pow (-power).toNat⟩

/-- The product. -/
def mul (a b : Ratio) : Ratio := ⟨a.top * b.top, a.bottom * b.bottom⟩

/-- The order of two fractions. -/
def lt (a b : Ratio) : Bool := a.top * b.bottom < b.top * a.bottom

/-- The order of two fractions, equality included. -/
def le (a b : Ratio) : Bool := a.top * b.bottom ≤ b.top * a.bottom

end Ratio

/-- The reals that round to a number: between two ends, which belong to the interval
when `closed`. -/
structure Interval where
  low : Ratio
  high : Ratio
  closed : Bool
deriving Repr, DecidableEq

namespace Interval

/-- Membership. -/
def contains (interval : Interval) (x : Ratio) : Bool :=
  if interval.closed then interval.low.le x && x.le interval.high
  else interval.low.lt x && x.lt interval.high

/-- The interval of a positive number: half way to either neighbour, where the lower
neighbour of a power of two is twice as near; an even significand wins its ties. -/
def around (significand : Nat) (exponent : Int) : Interval :=
  let quarter := Ratio.powOf 2 (exponent - 2)
  let below :=
    if significand == 0x10000000000000 && exponent ≠ -1074 then 1 else 2
  { low := Ratio.mul ⟨4 * significand - below, 1⟩ quarter
    high := Ratio.mul ⟨4 * significand + 2, 1⟩ quarter
    closed := significand % 2 == 0 }

end Interval

/-- Decimal digits and the place of the point: `0.d₁d₂… * 10 ^ point`. -/
structure Digits where
  digits : Nat
  point : Int
deriving Repr, DecidableEq

/-- The number of decimal digits of a number. -/
def digitCount (n : Nat) : Nat :=
  (Nat.toDigits 10 n).length

/-- The place of the decimal point of a positive fraction: the least `p` with the
fraction below `10 ^ p`, found from the lengths of its two parts. -/
def pointOf (x : Ratio) : Int :=
  let guess : Int := (digitCount x.top : Int) - (digitCount x.bottom : Int)
  if x.lt (Ratio.powOf 10 guess) then guess else guess + 1

/-- The decimal with `count` digits that lies in the interval and nearest to `x`, if
one of the two around `x` does. -/
def nearest? (x : Ratio) (interval : Interval) (point : Int) (count : Nat) : Option Digits :=
  let unit := Ratio.powOf 10 (point - count)
  let scaled := Ratio.mul x ⟨unit.bottom, unit.top⟩
  let floor := scaled.top / scaled.bottom
  let lower := Ratio.mul ⟨floor, 1⟩ unit
  let upper := Ratio.mul ⟨floor + 1, 1⟩ unit
  let lowerIn := interval.contains lower
  let upperIn := interval.contains upper
  let remainder := 2 * (scaled.top % scaled.bottom)
  let takeUpper :=
    if lowerIn && upperIn then
      scaled.bottom < remainder || (remainder == scaled.bottom && floor % 2 == 1)
    else upperIn
  if takeUpper then some ⟨floor + 1, point⟩
  else if lowerIn then some ⟨floor, point⟩
  else none

/-- The shortest decimal in the interval, trying `count`, `count + 1`, … digits. -/
def shortestFrom (x : Ratio) (interval : Interval) (point : Int) :
    (tries count : Nat) → Digits
  | 0, count => (nearest? x interval point count).getD ⟨0, point⟩
  | tries + 1, count =>
    match nearest? x interval point count with
    | some digits =>
      if digitCount digits.digits > count then ⟨digits.digits, point + 1⟩ else digits
    | none => shortestFrom x interval point tries (count + 1)

/-- The shortest decimal that reads back as the positive number; seventeen digits
always suffice. -/
def shortest (significand : Nat) (exponent : Int) : Digits :=
  let x := Ratio.mul ⟨significand, 1⟩ (Ratio.powOf 2 exponent)
  shortestFrom x (.around significand exponent) (pointOf x) 16 1

/-- A digit string without the zeros at its end. -/
def dropTrailingZeros (digits : List Char) : List Char :=
  (digits.reverse.dropWhile (· == '0')).reverse

/-- How numbers are laid out: positional while the point lies at `lowPoint` to
`highPoint`, and otherwise with an exponent of at least two digits. -/
structure Layout where
  lowPoint : Int
  highPoint : Int

/-- Writes digits with the point at its place. -/
def Layout.render (layout : Layout) (digits : List Char) (point : Int) : List Char :=
  if layout.lowPoint ≤ point && point ≤ layout.highPoint then
    if point ≤ 0 then
      '0' :: '.' :: List.replicate (-point).toNat '0' ++ digits
    else
      let whole := point.toNat
      let padded := digits ++ List.replicate (whole - digits.length) '0'
      let tail := padded.drop whole
      padded.take whole ++ '.' :: (if tail.isEmpty then ['0'] else tail)
  else
    let power := point - 1
    let powerDigits := Nat.toDigits 10 power.natAbs
    let mantissa := match digits with
      | [] => []
      | [d] => [d]
      | d :: rest => d :: '.' :: rest
    mantissa ++ 'e' :: (if power < 0 then '-' else '+')
      :: (if powerDigits.length < 2 then '0' :: powerDigits else powerDigits)

/-- Numbers in reports and settings are positional from `0.0001` up to sixteen digits
before the point. -/
def plainLayout : Layout := ⟨-3, 16⟩

/-- The shortest text of a 64-bit floating-point number. -/
def text (bits : UInt64) : String :=
  match Binary.ofBits bits with
  | .undefined => "nan"
  | .infinite negative => if negative then "-inf" else "inf"
  | .finite negative 0 _ => if negative then "-0.0" else "0.0"
  | .finite negative significand exponent =>
    let found := shortest significand exponent
    let digits := dropTrailingZeros (Nat.toDigits 10 found.digits)
    String.ofList ((if negative then ['-'] else []) ++ plainLayout.render digits found.point)

/-- The bits of the number nearest to `digits * 10 ^ exponent`. A number of more than
400 places either way is out of range and is infinite or zero. -/
def ofScientific (negative : Bool) (digits : Nat) (exponent : Int) : UInt64 :=
  let sign : UInt64 := if negative then 0x8000000000000000 else 0
  let size := exponent + digitCount digits
  let magnitude : UInt64 :=
    if digits == 0 || size < -400 then 0
    else if 400 < size then 0x7FF0000000000000
    else if exponent < 0 then (Float.ofScientific digits true (-exponent).toNat).toBits
    else (Float.ofScientific digits false exponent.toNat).toBits
  sign ||| magnitude

end LineRules.Decimal
