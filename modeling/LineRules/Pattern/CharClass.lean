import LineRules.Text.Blank
import LineRules.Text.Case
import LineRules.Text.Digit
import LineRules.Text.Word

/-!
# Classes of characters

What one place of a pattern accepts: single code points, ranges of them, and the digit,
blank and word classes, taken up to case or not, as they stand or all others. Case
concerns the code points and ranges; the named classes are the same in any case mode.
-/

namespace LineRules.Pattern

open LineRules.Text

/-- Which characters count as the same. -/
inductive CaseMode where
  /-- Only equal characters. -/
  | exact
  /-- Characters that are the same up to case in any script. -/
  | folded
  /-- Characters that are the same up to case of ASCII letters. -/
  | asciiFolded
deriving Repr, DecidableEq

namespace CaseMode

/-- The code points that stand for the given one in a class. -/
def variants : CaseMode → Nat → List Nat
  | exact, code => [code]
  | folded, code => caseVariants code
  | asciiFolded, code => asciiCaseVariants code

/-- The lower-case form of a code point. -/
def lower : CaseMode → Nat → Nat
  | exact, code => code
  | folded, code => lowerCode code
  | asciiFolded, code => asciiLowerCode code

/-- Whether a code point has variants other than itself. -/
def isCased : CaseMode → Nat → Bool
  | exact, _ => false
  | folded, code => Text.isCased code
  | asciiFolded, code => asciiCaseVariants code != [code]

/-- Whether a repeated text may show `c` where it first showed `d`. -/
def sameText (mode : CaseMode) (c d : Char) : Bool :=
  mode.lower c.toNat == mode.lower d.toNat

end CaseMode

/-- The code points below this one are the first plane of the character set. -/
def planeLimit : Nat := 0x10000

/-- One item of a class. The named classes are those of every script, or with
`ascii` only their ASCII members. -/
inductive ClassItem where
  | one (code : Nat)
  | range (low high : Nat)
  | digit (negated ascii : Bool)
  | blank (negated ascii : Bool)
  | word (negated ascii : Bool)
deriving Repr, DecidableEq

namespace ClassItem

/-- Membership of a code point in the item as it stands. -/
def contains (item : ClassItem) (code : Nat) : Bool :=
  match item with
  | one own => own == code
  | range low high => low ≤ code && code ≤ high
  | digit negated ascii =>
    let c := Char.ofNat code
    (if ascii then c.isDigit else isDigit c) != negated
  | blank negated ascii =>
    let c := Char.ofNat code
    (if ascii then isAsciiBlank c else isBlank c) != negated
  | word negated ascii =>
    let c := Char.ofNat code
    (if ascii then isAsciiWord c else isWord c) != negated

/-- Whether a range takes a code point in up to case. In the first plane every variant
counts. A range that goes on beyond that plane also takes in a code point whose
lower-case form lies in it, or the upper-case form of that one. -/
def rangeFolds (mode : CaseMode) (low high code : Nat) : Bool :=
  let inside (code : Nat) : Bool := low ≤ code && code ≤ high
  if high < planeLimit then (mode.variants code).any inside
  else
    let lowered := mode.lower code
    inside lowered || inside (upperCode lowered)
      || (mode.variants code).any fun code => code < planeLimit && inside code

/-- Membership of a code point in an item of a class with several items. There a code
point beyond the first plane takes in only what it is the lower-case form of. A named
class is taken as it stands. -/
def admits (item : ClassItem) (mode : CaseMode) (code : Nat) : Bool :=
  match mode, item with
  | .exact, item => item.contains code
  | mode, one own =>
    if own < planeLimit then (mode.variants code).contains own else mode.lower code == own
  | mode, range low high => rangeFolds mode low high code
  | _, named => named.contains code

end ClassItem

/-- A class of characters. -/
structure CharClass where
  negated : Bool
  mode : CaseMode
  items : List ClassItem
deriving Repr, DecidableEq

namespace CharClass

/-- Membership of a character. A class of one code point takes in all its variants; in
any other class some item takes the character in. -/
def contains (cls : CharClass) (c : Char) : Bool :=
  (match cls.items with
    | [.one own] => (cls.mode.variants c.toNat).contains own
    | items => items.any (·.admits cls.mode c.toNat)) != cls.negated

/-- Where case counts, membership goes by the items alone. -/
theorem contains_exact (negated : Bool) (items : List ClassItem) (c : Char) :
    (CharClass.mk negated .exact items).contains c
      = (items.any (·.contains c.toNat) != negated) := by
  simp only [contains, CaseMode.variants]
  split
  · simp only [List.contains_cons, List.contains_nil, List.any_cons, List.any_nil, ClassItem.contains]
  · rfl

end CharClass

end LineRules.Pattern
