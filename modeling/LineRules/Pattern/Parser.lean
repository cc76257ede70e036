import LineRules.Pattern.Assembly
import LineRules.Pattern.Scanner
import LineRules.Text.CharName

/-!
# Reading patterns

The grammar of pattern texts: alternatives of sequences of items, where an item is a
character, an escape, a set, an anchor, a group or a repetition of the item before it.
Flags are resolved while reading, so the tree that results needs none.

The steps of a pattern text are bounded by its length: every recursive step has read at
least one more token or is one of a few nested steps at the same token.
-/

namespace LineRules.Pattern

open LineRules.Text

/-- The flags that pattern texts can set. -/
structure Flags where
  ignoreCase : Bool
  multiline : Bool
  dotAll : Bool
  verbose : Bool
  ascii : Bool
  unicode : Bool
  plainTemplate : Bool
deriving Repr, DecidableEq

namespace Flags

/-- No flags. -/
def none : Flags := ⟨false, false, false, false, false, false, false⟩

/-- The flag that a letter names, on its own. -/
def ofLetter? (c : Char) : Option Flags :=
  match c with
  | 'i' => some { none with ignoreCase := true }
  | 'm' => some { none with multiline := true }
  | 's' => some { none with dotAll := true }
  | 'x' => some { none with verbose := true }
  | 'a' => some { none with ascii := true }
  | 'u' => some { none with unicode := true }
  | 't' => some { none with plainTemplate := true }
  | _ => Option.none

/-- Whether a letter names a flag; one letter does that no text pattern can use. -/
def isLetter (c : Char) : Bool := (ofLetter? c).isSome || c == 'L'

/-- All flags of either set. -/
def union (a b : Flags) : Flags :=
  ⟨a.ignoreCase || b.ignoreCase, a.multiline || b.multiline, a.dotAll || b.dotAll,
    a.verbose || b.verbose, a.ascii || b.ascii, a.unicode || b.unicode,
    a.plainTemplate || b.plainTemplate⟩

/-- The flags of both sets. -/
def inter (a b : Flags) : Flags :=
  ⟨a.ignoreCase && b.ignoreCase, a.multiline && b.multiline, a.dotAll && b.dotAll,
    a.verbose && b.verbose, a.ascii && b.ascii, a.unicode && b.unicode,
    a.plainTemplate && b.plainTemplate⟩

/-- The flags of the first set that are not in the second. -/
def diff (a b : Flags) : Flags :=
  ⟨a.ignoreCase && !b.ignoreCase, a.multiline && !b.multiline, a.dotAll && !b.dotAll,
    a.verbose && !b.verbose, a.ascii && !b.ascii, a.unicode && !b.unicode,
    a.plainTemplate && !b.plainTemplate⟩

/-- Whether one of the two flags is set that choose between ASCII and all scripts. -/
def choosesScript (flags : Flags) : Bool := flags.ascii || flags.unicode

/-- The flags inside a group that turns flags on and off; choosing a script replaces
the choice made outside. -/
def within (flags added removed : Flags) : Flags :=
  let base := if added.choosesScript then { flags with ascii := false, unicode := false }
    else flags
  (base.union added).diff removed

/-- Which characters count as the same under the flags. -/
def caseMode (flags : Flags) : CaseMode :=
  if flags.ignoreCase then if flags.ascii then .asciiFolded else .folded else .exact

end Flags

/-- A pattern text being read: the scanner, the flags of the whole pattern, the groups
opened so far with the widths of the closed ones, and what has to be checked at the
end. -/
structure Reading where
  scanner : Scanner
  flags : Flags
  /-- The number that the next group gets. -/
  groups : Nat
  names : List (List Char × Nat)
  /-- The widths of the groups that are closed. -/
  widths : List (Nat × Node.Width)
  /-- Inside a look-behind, the number of groups when it began. -/
  behindLimit : Option Nat
  /-- Groups that conditions ask for, with the places that ask. -/
  asked : List (Nat × Nat)
  /-- Whether some condition asks for a group that is open where it stands. -/
  asksOpen : Bool

namespace Reading

/-- Refuses the text at `offset` characters before the next token. -/
def refuse {α : Type} (reading : Reading) (complaint : Complaint) (offset : Nat := 0) :
    Except PatternError α :=
  reading.scanner.refuse complaint offset

/-- Moves on by one token. -/
def advance (reading : Reading) : Except PatternError Reading :=
  reading.scanner.advance.map fun scanner => { reading with scanner }

/-- Passes the given character if it is next. -/
def accept (reading : Reading) (c : Char) : Except PatternError (Bool × Reading) :=
  (reading.scanner.accept c).map fun (found, scanner) => (found, { reading with scanner })

/-- Reads at most `count` plain characters of a class. -/
def readWhile (reading : Reading) (member : Char → Bool) (count : Nat) :
    Except PatternError (List Char × Reading) :=
  (reading.scanner.readWhile member count).map fun (chars, scanner) =>
    (chars, { reading with scanner })

/-- Reads a nonempty name up to and past a terminator. -/
def name (reading : Reading) (terminator : Char) (what : String) :
    Except PatternError (List Char × Reading) :=
  (reading.scanner.name terminator what).map fun (chars, scanner) =>
    (chars, { reading with scanner })

/-- Whether a group is closed, so that it can be referred to. -/
def isClosed (reading : Reading) (index : Nat) : Bool :=
  index < reading.groups && (reading.widths.lookup index).isSome

/-- Notes that a condition asks for a group. -/
def asking (reading : Reading) (index : Nat) : Reading :=
  { reading with
    asksOpen := reading.asksOpen || (index < reading.groups && !reading.isClosed index) }

/-- The width of a closed group. -/
def widthOf (reading : Reading) (index : Nat) : Node.Width :=
  (reading.widths.lookup index).getD ⟨0, 0⟩

/-- Refuses a reference, made inside a look-behind, to a group of the same
look-behind. -/
def checkBehind (reading : Reading) (index : Nat) : Except PatternError Unit :=
  match reading.behindLimit with
  | some limit =>
    if !reading.isClosed index then reading.refuse .openReference
    else if limit ≤ index then reading.refuse .behindReference
    else .ok ()
  | none => .ok ()

end Reading

/-- What an escape stands for. -/
inductive Escape where
  | code (code : Nat)
  | item (item : ClassItem)
  | anchor (place : Anchor)
  | backref (index : Nat)

/-- The control characters that letters stand for after a backslash. -/
def controlEscape? (c : Char) : Option Nat :=
  match c with
  | 'a' => some 7
  | 'b' => some 8
  | 'f' => some 12
  | 'n' => some 10
  | 'r' => some 13
  | 't' => some 9
  | 'v' => some 11
  | '\\' => some 92
  | _ => none

/-- The class of characters that a letter stands for after a backslash. -/
def classEscape? (flags : Flags) (c : Char) : Option ClassItem :=
  match c with
  | 'd' => some (.digit false flags.ascii)
  | 'D' => some (.digit true flags.ascii)
  | 's' => some (.blank false flags.ascii)
  | 'S' => some (.blank true flags.ascii)
  | 'w' => some (.word false flags.ascii)
  | 'W' => some (.word true flags.ascii)
  | _ => none

/-- The anchor that a letter stands for after a backslash. -/
def anchorEscape? (flags : Flags) (c : Char) : Option Anchor :=
  match c with
  | 'A' => some .textStart
  | 'Z' => some .textEnd
  | 'b' => some (.wordBoundary flags.ascii)
  | 'B' => some (.notWordBoundary flags.ascii)
  | _ => none

/-- Reads the hexadecimal digits of an escape, which must be `count`. -/
def readHex (reading : Reading) (c : Char) (count : Nat) :
    Except PatternError (Nat × Reading) := do
  let (digits, reading) ← reading.readWhile isHexDigit count
  let escape := '\\' :: c :: digits
  if digits.length ≠ count then reading.refuse (.incompleteEscape escape) escape.length
  else
    let code := numberIn 16 digits
    if 0x110000 ≤ code then reading.refuse (.badEscape escape) escape.length
    else return (code, reading)

/-- Reads the name of a character in braces. -/
def readNamed (reading : Reading) : Except PatternError (Nat × Reading) := do
  let (opens, reading) ← reading.accept '\x7b'
  if !opens then reading.refuse .missingOpenBrace
  else
    let (name, reading) ← reading.name '\x7d' "character name"
    match charNamed? name with
    | some code => return (code, reading)
    | none => reading.refuse (.unknownCharacterName name) (name.length + 4)

/-- Reads the escapes that are the same in sets and outside; `c` follows the
backslash. -/
def readCodeEscape (reading : Reading) (c : Char) : Except PatternError (Nat × Reading) :=
  match c with
  | 'x' => readHex reading c 2
  | 'u' => readHex reading c 4
  | 'U' => readHex reading c 8
  | 'N' => readNamed reading
  | _ =>
    if c.isAlphanum then reading.refuse (.badEscape ['\\', c]) 2
    else .ok (c.toNat, reading)

/-- Reads an escape inside a set. -/
def readSetEscape (flags : Flags) (reading : Reading) (c : Char) :
    Except PatternError (Escape × Reading) := do
  match controlEscape? c, classEscape? flags c with
  | some code, _ => return (.code code, reading)
  | none, some item => return (.item item, reading)
  | none, none =>
    if isOctalDigit c then
      let (digits, reading) ← reading.readWhile isOctalDigit 2
      let code := numberIn 8 (c :: digits)
      if 0o377 < code then
        reading.refuse (.octalTooLarge ('\\' :: c :: digits)) (digits.length + 2)
      else return (.code code, reading)
    else
      let (code, reading) ← readCodeEscape reading c
      return (.code code, reading)

/-- Reads a reference to a group by number. -/
def readReference (reading : Reading) (digits : List Char) :
    Except PatternError (Escape × Reading) := do
  let index := numberIn 10 digits
  if index < reading.groups then
    if !reading.isClosed index then reading.refuse .openReference (digits.length + 1)
    else
      reading.checkBehind index
      return (.backref index, reading)
  else reading.refuse (.invalidReference index) digits.length

/-- Reads an escape outside of sets. After a backslash, a digit other than zero begins
a group number of at most two digits, unless three octal digits follow the
backslash. -/
def readEscape (flags : Flags) (reading : Reading) (c : Char) :
    Except PatternError (Escape × Reading) := do
  match anchorEscape? flags c, classEscape? flags c, controlEscape? c with
  | some place, _, _ => return (.anchor place, reading)
  | none, some item, _ => return (.item item, reading)
  | none, none, some code => return (.code code, reading)
  | none, none, none =>
    if c == '0' then
      let (digits, reading) ← reading.readWhile isOctalDigit 2
      return (.code (numberIn 8 digits), reading)
    else if c.isDigit then
      match reading.scanner.seesAny Char.isDigit with
      | none => readReference reading [c]
      | some d =>
        let reading ← reading.advance
        match reading.scanner.seesAny isOctalDigit with
        | some e =>
          if isOctalDigit c && isOctalDigit d then
            let reading ← reading.advance
            let code := numberIn 8 [c, d, e]
            if 0o377 < code then reading.refuse (.octalTooLarge ['\\', c, d, e]) 4
            else return (.code code, reading)
          else readReference reading [c, d]
        | none => readReference reading [c, d]
    else
      let (code, reading) ← readCodeEscape reading c
      return (.code code, reading)

/-- Reads one end of a range or one member of a set. -/
def readMember (flags : Flags) (reading : Reading) (token : Token) :
    Except PatternError (Escape × Reading) :=
  match token with
  | .plain c => .ok (.code c.toNat, reading)
  | .escaped c => readSetEscape flags reading c

/-- The member of a set that an escape stands for. -/
def Escape.toItem : Escape → ClassItem
  | .item named => named
  | .code value => .one value
  | _ => .one 0

/-- Reads the members of a set up to and past the closing bracket; `start` is the
position of the opening one, and `items` are the members read so far, last first. -/
def readSet (flags : Flags) (start : Nat) : (fuel : Nat) → List ClassItem → Reading →
    Except PatternError (List ClassItem × Reading)
  | 0, _, reading => reading.refuse .outOfSteps
  | fuel + 1, items, reading =>
    match reading.scanner.next with
    | none => reading.refuse .unterminatedSet (reading.scanner.position - start)
    | some this => do
      let reading ← reading.advance
      if this == .plain ']' && !items.isEmpty then return (items.reverse, reading)
      let (first, reading) ← readMember flags reading this
      let (dash, reading) ← reading.accept '-'
      if !dash then readSet flags start fuel (first.toItem :: items) reading
      else
        match reading.scanner.next with
        | none => reading.refuse .unterminatedSet (reading.scanner.position - start)
        | some that =>
          let reading ← reading.advance
          if that == .plain ']' then
            return ((.one '-'.toNat :: first.toItem :: items).reverse, reading)
          let (last, reading) ← readMember flags reading that
          let range := this.chars ++ '-' :: that.chars
          match first, last with
          | .code low, .code high =>
            if high < low then reading.refuse (.badRange range) range.length
            else readSet flags start fuel (.range low high :: items) reading
          | _, _ => reading.refuse (.badRange range) range.length

/-- What an item of a sequence is, as far as a repetition after it cares. -/
inductive ItemKind where
  | anchor
  | repeated
  /-- A group without number and flags, whose parts belong to the sequence around it. -/
  | bare
  | plain
deriving Repr, DecidableEq

/-- An item of a sequence. -/
structure Item where
  node : Node
  kind : ItemKind

/-- The beginning of a group, up to where its body starts; or a group without a body. -/
inductive GroupHead where
  | capture (name : Option (List Char))
  | bare
  | scope (flags : Flags)
  | atomic
  | look (wanted ahead : Bool)
  | conditional (index : Nat)
  | backref (index : Nat)
  | comment
  | flags (added : Flags)

/-- Refuses a name that no group can have. -/
def checkGroupName (reading : Reading) (name : List Char) : Except PatternError Unit :=
  if isIdentifier name then .ok () else reading.refuse (.badGroupName name) (name.length + 1)

/-- The characters of the next token if it is one character. -/
def flagLetter? (token : Token) : Option Char :=
  match token with
  | .plain c => some c
  | .escaped _ => none

/-- Whether a token is a letter of some script, which then is taken for a wrong flag. -/
def isLetterToken (token : Token) : Bool :=
  match token with
  | .plain c => Text.isLetter c
  | .escaped _ => false

/-- Refuses a token where a flag or one of a few marks is wanted. -/
def refuseFlag {α : Type} (reading : Reading) (token : Token) (wanted : String) :
    Except PatternError α :=
  reading.refuse (if isLetterToken token then .unknownFlag else .missing wanted) token.length

/-- Reads the flags to turn on; `letter` is the flag that was just read. Answers with
the mark that ends them. -/
def readFlagsOn : (fuel : Nat) → (letter : Char) → (added : Flags) → Reading →
    Except PatternError (Flags × Char × Reading)
  | 0, _, _, reading => reading.refuse .outOfSteps
  | fuel + 1, letter, added, reading =>
    match Flags.ofLetter? letter with
    | none => reading.refuse .flagNotForText
    | some flag =>
      let added := added.union flag
      if flag.choosesScript && added.ascii && added.unicode then reading.refuse .flagsExclusive
      else
        match reading.scanner.next with
        | none => reading.refuse (.missing "-, : or )")
        | some token => do
          let reading ← reading.advance
          match flagLetter? token with
          | some c =>
            if c == ')' || c == '-' || c == ':' then return (added, c, reading)
            else if Flags.isLetter c then readFlagsOn fuel c added reading
            else refuseFlag reading token "-, : or )"
          | none => refuseFlag reading token "-, : or )"

/-- Reads the flags to turn off, up to and past the colon; `letter` is the flag that
was just read. -/
def readFlagsOff : (fuel : Nat) → (letter : Char) → (removed : Flags) → Reading →
    Except PatternError (Flags × Reading)
  | 0, _, _, reading => reading.refuse .outOfSteps
  | fuel + 1, letter, removed, reading =>
    match Flags.ofLetter? letter with
    | none => reading.refuse .exclusiveFlagOff
    | some flag =>
      if flag.choosesScript then reading.refuse .exclusiveFlagOff
      else
        let removed := removed.union flag
        match reading.scanner.next with
        | none => reading.refuse (.missing ":")
        | some token => do
          let reading ← reading.advance
          match flagLetter? token with
          | some c =>
            if c == ':' then return (removed, reading)
            else if Flags.isLetter c then readFlagsOff fuel c removed reading
            else refuseFlag reading token ":"
          | none => refuseFlag reading token ":"

/-- Reads the rest of a flag group; `c` is its first flag or the minus sign. -/
def readFlags (flags : Flags) (reading : Reading) (c : Char) :
    Except PatternError (GroupHead × Reading) := do
  let fuel := reading.scanner.text.length + 1
  let (added, mark, reading) ←
    if c == '-' then pure (Flags.none, '-', reading) else readFlagsOn fuel c .none reading
  if mark == ')' then return (.flags added, reading)
  else if added.plainTemplate then reading.refuse .globalFlagOn 1
  else if mark == ':' then return (.scope (flags.within added .none), reading)
  else
    match reading.scanner.next with
    | none => reading.refuse (.missing "flag")
    | some token =>
      let reading ← reading.advance
      match flagLetter? token with
      | none => refuseFlag reading token "flag"
      | some letter =>
        if !Flags.isLetter letter then refuseFlag reading token "flag"
        else
          let (removed, reading) ← readFlagsOff fuel letter .none reading
          if removed.plainTemplate then reading.refuse .globalFlagOff 1
          else if added.inter removed ≠ .none then reading.refuse .flagOnAndOff 1
          else return (.scope (flags.within added removed), reading)

/-- Passes a comment and its closing parenthesis; `start` is the position of the
opening one. -/
def skipComment (start : Nat) : (fuel : Nat) → Reading → Except PatternError Reading
  | 0, reading => reading.refuse .outOfSteps
  | fuel + 1, reading =>
    match reading.scanner.next with
    | none => reading.refuse .unterminatedComment (reading.scanner.position - start)
    | some token => do
      let reading ← reading.advance
      if token == .plain ')' then return reading else skipComment start fuel reading

/-- The group numbers that can be asked for lie below this bound. -/
def groupLimit : Nat := 2147483647

/-- Reads the group that a condition asks for. -/
def readCondition (reading : Reading) : Except PatternError (GroupHead × Reading) := do
  let (name, reading) ← reading.name ')' "group name"
  if isIdentifier name then
    match reading.names.lookup name with
    | some index =>
      reading.checkBehind index
      return (.conditional index, reading.asking index)
    | none => reading.refuse (.unknownGroupName name) (name.length + 1)
  else
    match readInteger? name with
    | some (.ofNat 0) => reading.refuse .badGroupNumber (name.length + 1)
    | some (.ofNat index) =>
      if groupLimit ≤ index then
        reading.refuse (.invalidReference index) (name.length + 1)
      else
        let place := reading.scanner.position - name.length - 1
        let asked := if (reading.asked.lookup index).isSome then reading.asked
          else reading.asked ++ [(index, place)]
        let reading := { reading with asked }
        reading.checkBehind index
        return (.conditional index, reading.asking index)
    | _ => reading.refuse (.badGroupName name) (name.length + 1)

/-- Reads a group with a name: a capture, or the text of an earlier one. -/
def readNamedGroup (reading : Reading) : Except PatternError (GroupHead × Reading) := do
  let (named, reading) ← reading.accept '<'
  if named then
    let (name, reading) ← reading.name '>' "group name"
    checkGroupName reading name
    return (.capture (some name), reading)
  else
    let (again, reading) ← reading.accept '='
    if again then
      let (name, reading) ← reading.name ')' "group name"
      checkGroupName reading name
      match reading.names.lookup name with
      | none => reading.refuse (.unknownGroupName name) (name.length + 1)
      | some index =>
        if !reading.isClosed index then reading.refuse .openReference (name.length + 1)
        else
          reading.checkBehind index
          return (.backref index, reading)
    else
      match reading.scanner.next with
      | none => reading.refuse .unexpectedEnd
      | some token =>
        let reading ← reading.advance
        reading.refuse (.unknownExtension ('P' :: token.chars)) (token.length + 2)

/-- Reads the beginning of a group after its opening parenthesis, which is at
`start`. -/
def readGroupHead (flags : Flags) (start : Nat) (reading : Reading) :
    Except PatternError (GroupHead × Reading) := do
  let (special, reading) ← reading.accept '?'
  if !special then return (.capture none, reading)
  match reading.scanner.next with
  | none => reading.refuse .unexpectedEnd
  | some token =>
    let reading ← reading.advance
    match token with
    | .plain 'P' => readNamedGroup reading
    | .plain ':' => return (.bare, reading)
    | .plain '#' =>
      let reading ← skipComment start (reading.scanner.text.length + 1) reading
      return (.comment, reading)
    | .plain '=' => return (.look true true, reading)
    | .plain '!' => return (.look false true, reading)
    | .plain '<' =>
      match reading.scanner.next with
      | none => reading.refuse .unexpectedEnd
      | some token =>
        let reading ← reading.advance
        if token == .plain '=' then return (.look true false, reading)
        else if token == .plain '!' then return (.look false false, reading)
        else reading.refuse (.unknownExtension ('<' :: token.chars)) (token.length + 2)
    | .plain '(' => readCondition reading
    | .plain '>' => return (.atomic, reading)
    | .plain c =>
      if Flags.isLetter c || c == '-' then readFlags flags reading c
      else reading.refuse (.unknownExtension [c]) 2
    | .escaped c => reading.refuse (.unknownExtension ['\\', c]) 3

/-- Opens a group under the next number. -/
def openGroup (reading : Reading) (name : Option (List Char)) :
    Except PatternError (Nat × Reading) :=
  let index := reading.groups
  match name with
  | none => .ok (index, { reading with groups := index + 1 })
  | some name =>
    match reading.names.lookup name with
    | some earlier =>
      reading.refuse (.redefinedGroup name index earlier) (name.length + 1)
    | none =>
      .ok (index, { reading with groups := index + 1, names := reading.names ++ [(name, index)] })

/-- Closes a group, whose width is known from then on. -/
def closeGroup (reading : Reading) (index : Nat) (body : Node) : Reading :=
  { reading with widths := (index, body.width reading.widthOf) :: reading.widths }

/-- Reads a repetition count, which may be absent. -/
def readCount (digits : List Char) : Except PatternError (Option Nat) :=
  if digits.isEmpty then .ok none
  else if Decimal.digitLimit < digits.length then .error (.tooManyDigits digits.length)
  else
    let count := numberIn 10 digits
    if Node.countLimit ≤ count then .error .countTooLarge else .ok (some count)

/-- The numbers of rounds that a repetition mark asks for. -/
structure Rounds where
  least : Nat
  most : Option Nat

/-- Reads counts in braces after the opening brace; nothing if the brace stands for
itself. `start` is the position after the brace. -/
def readBraces (start : Nat) (reading : Reading) :
    Except PatternError (Option (Rounds × Reading)) := do
  if reading.scanner.sees '\x7d' then return none
  let fuel := reading.scanner.text.length
  let (low, later) ← reading.readWhile Char.isDigit fuel
  let (comma, later) ← later.accept ','
  let (high, later) ← if comma then later.readWhile Char.isDigit fuel else pure (low, later)
  let (closed, later) ← later.accept '\x7d'
  if !closed then return none
  let least := (← readCount low).getD 0
  let most ← readCount high
  if most.any (· < least) then
    later.refuse .countsReversed (later.scanner.position - start)
  else return some (⟨least, most⟩, later)

/-- Repeats the last item of a sequence. `mark` is the repetition mark and `start` the
position after it. -/
def repeatLast (rounds : Rounds) (start : Nat) (items : List Item) (reading : Reading) :
    Except PatternError (List Item × Reading) := do
  let offset := reading.scanner.position - start + 1
  match items with
  | [] => reading.refuse .nothingToRepeat offset
  | item :: earlier =>
    match item.kind with
    | .anchor => reading.refuse .nothingToRepeat offset
    | .repeated => reading.refuse .multipleRepeat offset
    | _ =>
      let (isLazy, reading) ← reading.accept '?'
      let (isPossessive, reading) ←
        if isLazy then pure (false, reading) else reading.accept '+'
      let appetite : Appetite :=
        if isLazy then .lazy else if isPossessive then .possessive else .greedy
      let node := Node.iterate appetite rounds.least rounds.most item.node
      return (⟨node, .repeated⟩ :: earlier, reading)

/-- A class of one code point or class item under the flags. -/
def classOf (flags : Flags) (item : ClassItem) : Node :=
  .char ⟨false, flags.caseMode, [item]⟩

/-- The item that an escape stands for. -/
def Escape.toSequenceItem (flags : Flags) : Escape → Item
  | .code value => ⟨classOf flags (.one value), .plain⟩
  | .item named => ⟨classOf flags named, .plain⟩
  | .anchor place => ⟨.anchor place, .anchor⟩
  | .backref number => ⟨.backref number flags.caseMode, .plain⟩

/-- The item that a character other than a group or repetition mark stands for. -/
def plainItem (flags : Flags) (c : Char) : Item :=
  match c with
  | '.' =>
    ⟨.char ⟨true, .exact, if flags.dotAll then [] else [.one '\n'.toNat]⟩, .plain⟩
  | '^' => ⟨.anchor (if flags.multiline then .lineStart else .textStart), .anchor⟩
  | '$' => ⟨.anchor (if flags.multiline then .lineEnd else .lastLineEnd), .anchor⟩
  | c => ⟨classOf flags (.one c.toNat), .plain⟩

/-- A character that verbose patterns skip. -/
def isLayout (c : Char) : Bool :=
  c == ' ' || (0x09 ≤ c.toNat && c.toNat ≤ 0x0D)

/-- Passes the rest of a line of a verbose pattern. -/
def skipLine : (fuel : Nat) → Reading → Except PatternError Reading
  | 0, reading => .ok reading
  | fuel + 1, reading =>
    match reading.scanner.next with
    | none => .ok reading
    | some token => do
      let reading ← reading.advance
      if token == .plain '\n' then return reading else skipLine fuel reading

/-- The parts that an item gives to its sequence. -/
def Item.parts (item : Item) : List Node :=
  match item.kind with
  | .bare => item.node.parts
  | _ => [item.node]

/-- The node of a finished sequence, given its items from last to first. -/
def sequenceNode (items : List Item) : Node :=
  Node.sequence (items.reverse.flatMap Item.parts)

/-- Reads the closing parenthesis of the group that was opened at `start`. -/
def closeParenthesis (start : Nat) (reading : Reading) : Except PatternError Reading := do
  let (closed, reading) ← reading.accept ')'
  if closed then return reading
  else reading.refuse .unterminatedGroup (reading.scanner.position - start)

/-- Where a sequence stands in the pattern. -/
structure Scope where
  /-- The flags inside a group; at the top the flags of the whole pattern count. -/
  flags? : Option Flags
  /-- Whether flags for the whole pattern can still be given. -/
  first : Bool

namespace Scope

/-- The flags in force. -/
def flags (scope : Scope) (reading : Reading) : Flags := scope.flags?.getD reading.flags

/-- A scope inside a group. -/
def inner (flags : Flags) : Scope := ⟨some flags, false⟩

end Scope

mutual

/-- Reads alternatives up to a closing parenthesis or the end; `earlier` are the
alternatives read so far, last first. -/
def readChoice : (fuel : Nat) → Scope → (earlier : List Node) → Reading →
    Except PatternError (Node × Reading)
  | 0, _, _, reading => reading.refuse .outOfSteps
  | fuel + 1, scope, earlier, reading => do
    let (node, reading) ← readSequence fuel scope [] reading
    let (more, reading) ← reading.accept '|'
    if more then readChoice fuel { scope with first := false } (node :: earlier) reading
    else return (Node.alternatives (node :: earlier).reverse, reading)

/-- Reads the items of a sequence up to a bar, a closing parenthesis or the end; `items`
are the items read so far, last first. -/
def readSequence : (fuel : Nat) → Scope → (items : List Item) → Reading →
    Except PatternError (Node × Reading)
  | 0, _, _, reading => reading.refuse .outOfSteps
  | fuel + 1, scope, items, reading =>
    let flags := scope.flags reading
    match reading.scanner.next with
    | none => .ok (sequenceNode items, reading)
    | some (.escaped c) => do
      let (escape, reading) ← readEscape flags (← reading.advance) c
      readSequence fuel scope (escape.toSequenceItem flags :: items) reading
    | some (.plain c) =>
      if c == '|' || c == ')' then .ok (sequenceNode items, reading)
      else do
        let reading ← reading.advance
        let start := reading.scanner.position
        if flags.verbose && isLayout c then readSequence fuel scope items reading
        else if flags.verbose && c == '#' then
          let reading ← skipLine (reading.scanner.text.length + 1) reading
          readSequence fuel scope items reading
        else
          match c with
          | '[' =>
            let (negated, reading) ← reading.accept '^'
            let (members, reading) ←
              readSet flags (start - 1) (reading.scanner.text.length + 1) [] reading
            let node := Node.char ⟨negated, flags.caseMode, members.eraseDups⟩
            readSequence fuel scope (⟨node, .plain⟩ :: items) reading
          | '*' =>
            let (items, reading) ← repeatLast ⟨0, none⟩ start items reading
            readSequence fuel scope items reading
          | '+' =>
            let (items, reading) ← repeatLast ⟨1, none⟩ start items reading
            readSequence fuel scope items reading
          | '?' =>
            let (items, reading) ← repeatLast ⟨0, some 1⟩ start items reading
            readSequence fuel scope items reading
          | '\x7b' =>
            match ← readBraces start reading with
            | none => readSequence fuel scope (plainItem flags c :: items) reading
            | some (rounds, reading) =>
              let (items, reading) ← repeatLast rounds start items reading
              readSequence fuel scope items reading
          | '(' =>
            let mayFlag := scope.first && items.isEmpty
            let (item, reading) ← readGroup fuel flags mayFlag (start - 1) reading
            readSequence fuel scope (item.toList ++ items) reading
          | c => readSequence fuel scope (plainItem flags c :: items) reading

/-- Reads a group after its opening parenthesis, which is at `start`; a comment or
flags for the whole pattern leave no item. -/
def readGroup : (fuel : Nat) → Flags → (mayFlag : Bool) → (start : Nat) → Reading →
    Except PatternError (Option Item × Reading)
  | 0, _, _, _, reading => reading.refuse .outOfSteps
  | fuel + 1, flags, mayFlag, start, reading => do
    let (head, reading) ← readGroupHead flags start reading
    match head with
    | .comment => return (none, reading)
    | .flags added =>
      let reading := { reading with flags := reading.flags.union added }
      if mayFlag then return (none, reading)
      else reading.refuse .lateFlags (reading.scanner.position - start)
    | .backref index => return (some ⟨.backref index flags.caseMode, .plain⟩, reading)
    | .capture name =>
      let (index, reading) ← openGroup reading name
      let (body, reading) ← readChoice fuel (.inner flags) [] reading
      let reading ← closeParenthesis start reading
      return (some ⟨.group index body, .plain⟩, closeGroup reading index body)
    | .bare =>
      let (body, reading) ← readChoice fuel (.inner flags) [] reading
      let reading ← closeParenthesis start reading
      return (some ⟨body, .bare⟩, reading)
    | .scope flags =>
      let (body, reading) ← readChoice fuel (.inner flags) [] reading
      let reading ← closeParenthesis start reading
      return (some ⟨body.flagged, .plain⟩, reading)
    | .atomic =>
      let (body, reading) ← readChoice fuel (.inner flags) [] reading
      let reading ← closeParenthesis start reading
      return (some ⟨.atomic body, .plain⟩, reading)
    | .look wanted true =>
      let (body, reading) ← readChoice fuel (.inner flags) [] reading
      let reading ← closeParenthesis start reading
      return (some ⟨.ahead wanted body, .plain⟩, reading)
    | .look wanted false =>
      let outer := reading.behindLimit
      let reading := { reading with behindLimit := some (outer.getD reading.groups) }
      let (body, reading) ← readChoice fuel (.inner flags) [] reading
      let reading := { reading with behindLimit := outer }
      let reading ← closeParenthesis start reading
      return (some ⟨.behind wanted (body.width reading.widthOf).least body, .plain⟩, reading)
    | .conditional index =>
      let (present, reading) ← readSequence fuel (.inner flags) [] reading
      let (more, reading) ← reading.accept '|'
      let (absent, reading) ←
        if more then readSequence fuel (.inner flags) [] reading
        else pure (Node.empty, reading)
      if more && reading.scanner.sees '|' then reading.refuse .tooManyBranches
      else
        let reading ← closeParenthesis start reading
        return (some ⟨.conditional index present absent, .plain⟩, reading)

end

/-- A pattern text read to its end. -/
structure Reading.Result where
  node : Node
  flags : Flags
  groups : Nat
  names : List (List Char × Nat)
  /-- Whether some condition asks for a group that is open where it stands. -/
  asksOpen : Bool

/-- Reads a whole pattern text under flags given from outside. What is wrong with the
whole pattern is told after what is wrong at a place: first flags that exclude each
other, then a parenthesis without a partner, then conditions on groups that do not
exist, and last parts that cannot be used. -/
def readPattern (flags : Flags) (text : List Char) : Except PatternError Reading.Result := do
  let scanner ← Scanner.ofText text
  let start : Reading := ⟨scanner, flags, 1, [], [], none, [], false⟩
  let (node, reading) ← readChoice (4 * text.length + 8) ⟨none, true⟩ [] start
  let flags := reading.flags
  if flags.ascii && flags.unicode then throw .flagsIncompatible
  if reading.scanner.next.isSome then reading.refuse .unbalancedParenthesis
  match reading.asked.find? fun asked => reading.groups ≤ asked.1 with
  | some (index, position) =>
    throw (.malformed (.invalidReference index) (some (.ofPosition text position)))
  | none =>
    match node.refusal? flags.plainTemplate reading.widthOf with
    | some complaint => throw (.malformed complaint none)
    | none =>
      return ⟨node.withOpening flags.ascii, flags, reading.groups - 1, reading.names,
        reading.asksOpen⟩

end LineRules.Pattern
