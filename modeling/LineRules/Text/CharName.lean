import LineRules.Text.CharName.Alphabets
import LineRules.Text.CharName.Ancient
import LineRules.Text.CharName.Pictures
import LineRules.Text.CharName.Syllables
import LineRules.Text.CharName.Symbols
import LineRules.Text.Digit

/-!
# Names of characters

Which character a name stands for. Most names are kept in a table, some characters have
further names, and three kinds of names follow rules: Hangul syllables are spelled by
their sounds, ideographs and some rare scripts are numbered by code point, and so are the
short names of variation selectors. Names are taken up to the case of their letters,
apart from those of Hangul syllables and unified ideographs.

A line of the table is a row of records. A record is a small letter and all that follows
up to the next one. After `z` stands the code point of the next name in base sixteen. Any
other letter says how many pieces the name shares with the name before it, `a` for none,
and the rest of the name follows; a piece of a name ends with a blank or hyphen. Names
without a code point in front belong to the code point after the one before.
-/

namespace LineRules.Text

namespace CharName

/-- Cuts a name after every blank and hyphen; `piece` is the piece being read,
reversed. -/
def piecesFrom (piece : List Char) : List Char → List (List Char)
  | [] => if piece.isEmpty then [] else [piece.reverse]
  | c :: rest =>
    if c = ' ' || c = '-' then (c :: piece).reverse :: piecesFrom [] rest
    else piecesFrom (c :: piece) rest

/-- The pieces of a name. -/
def pieces (name : List Char) : List (List Char) := piecesFrom [] name

theorem flatten_piecesFrom (name piece : List Char) :
    (piecesFrom piece name).flatten = piece.reverse ++ name := by
  induction name generalizing piece with
  | nil => cases piece <;> simp [piecesFrom]
  | cons c rest hyp =>
    rw [piecesFrom]
    split <;> simp [hyp]

/-- The pieces of a name make up the name. -/
theorem flatten_pieces (name : List Char) : (pieces name).flatten = name := by
  simp [pieces, flatten_piecesFrom]

/-- Cuts the text after a small letter into that letter's record and the records after
it; `body` is what was read of the first one, reversed. -/
def recordsFrom (mark : Char) (body : List Char) : List Char → List (Char × List Char)
  | [] => [(mark, body.reverse)]
  | c :: rest =>
    if c.isLower then (mark, body.reverse) :: recordsFrom c [] rest
    else recordsFrom mark (c :: body) rest

/-- The records of a line of the table. -/
def records (line : String) : List (Char × List Char) :=
  match line.toList with
  | [] => []
  | mark :: rest => recordsFrom mark [] rest

/-- The code point of a name among records; `code` is the code point of the next name and
`last` the name before it in pieces. -/
def codeIn (wanted : List Char) (code : Nat) (last : List (List Char)) :
    List (Char × List Char) → Option Nat
  | [] => none
  | (mark, body) :: rest =>
    if mark = 'z' then codeIn wanted (numberIn 16 body) last rest
    else
      let name := last.take (mark.toNat - 'a'.toNat) ++ pieces body
      if name.flatten = wanted then some code else codeIn wanted (code + 1) name rest

/-- The tables of names. -/
def tables : List (List String) :=
  [alphabetNames, symbolNames, syllableNames, ancientNames, pictureNames]

/-- Characters with further names. -/
def furtherNames : List (Nat × List String) :=
  [
   (0x0, ["NULL", "NUL"]), (0x1, ["START OF HEADING", "SOH"]), (0x2, ["START OF TEXT", "STX"]),
   (0x3, ["END OF TEXT", "ETX"]), (0x4, ["END OF TRANSMISSION", "EOT"]),
   (0x5, ["ENQUIRY", "ENQ"]), (0x6, ["ACKNOWLEDGE", "ACK"]), (0x7, ["ALERT", "BEL"]),
   (0x8, ["BACKSPACE", "BS"]),
   (0x9, ["CHARACTER TABULATION", "HORIZONTAL TABULATION", "HT", "TAB"]),
   (0xA, ["LINE FEED", "NEW LINE", "END OF LINE", "EOL", "LF", "NL"]),
   (0xB, ["LINE TABULATION", "VERTICAL TABULATION", "VT"]), (0xC, ["FORM FEED", "FF"]),
   (0xD, ["CARRIAGE RETURN", "CR"]), (0xE, ["SHIFT OUT", "LOCKING-SHIFT ONE", "SO"]),
   (0xF, ["SHIFT IN", "LOCKING-SHIFT ZERO", "SI"]), (0x10, ["DATA LINK ESCAPE", "DLE"]),
   (0x11, ["DEVICE CONTROL ONE", "DC1"]), (0x12, ["DEVICE CONTROL TWO", "DC2"]),
   (0x13, ["DEVICE CONTROL THREE", "DC3"]), (0x14, ["DEVICE CONTROL FOUR", "DC4"]),
   (0x15, ["NEGATIVE ACKNOWLEDGE", "NAK"]), (0x16, ["SYNCHRONOUS IDLE", "SYN"]),
   (0x17, ["END OF TRANSMISSION BLOCK", "ETB"]), (0x18, ["CANCEL", "CAN"]),
   (0x19, ["END OF MEDIUM", "EOM"]), (0x1A, ["SUBSTITUTE", "SUB"]), (0x1B, ["ESCAPE", "ESC"]),
   (0x1C, ["INFORMATION SEPARATOR FOUR", "FILE SEPARATOR", "FS"]),
   (0x1D, ["INFORMATION SEPARATOR THREE", "GROUP SEPARATOR", "GS"]),
   (0x1E, ["INFORMATION SEPARATOR TWO", "RECORD SEPARATOR", "RS"]),
   (0x1F, ["INFORMATION SEPARATOR ONE", "UNIT SEPARATOR", "US"]), (0x20, ["SP"]),
   (0x7F, ["DELETE", "DEL"]), (0x80, ["PADDING CHARACTER", "PAD"]),
   (0x81, ["HIGH OCTET PRESET", "HOP"]), (0x82, ["BREAK PERMITTED HERE", "BPH"]),
   (0x83, ["NO BREAK HERE", "NBH"]), (0x84, ["INDEX", "IND"]), (0x85, ["NEXT LINE", "NEL"]),
   (0x86, ["START OF SELECTED AREA", "SSA"]), (0x87, ["END OF SELECTED AREA", "ESA"]),
   (0x88, ["CHARACTER TABULATION SET", "HORIZONTAL TABULATION SET", "HTS"]),
   (0x89, ["CHARACTER TABULATION WITH JUSTIFICATION", "HORIZONTAL TABULATION WITH JUSTIFICATION", "HTJ"]),
   (0x8A, ["LINE TABULATION SET", "VERTICAL TABULATION SET", "VTS"]),
   (0x8B, ["PARTIAL LINE FORWARD", "PARTIAL LINE DOWN", "PLD"]),
   (0x8C, ["PARTIAL LINE BACKWARD", "PARTIAL LINE UP", "PLU"]),
   (0x8D, ["REVERSE LINE FEED", "REVERSE INDEX", "RI"]),
   (0x8E, ["SINGLE SHIFT TWO", "SINGLE-SHIFT-2", "SS2"]),
   (0x8F, ["SINGLE SHIFT THREE", "SINGLE-SHIFT-3", "SS3"]),
   (0x90, ["DEVICE CONTROL STRING", "DCS"]), (0x91, ["PRIVATE USE ONE", "PRIVATE USE-1", "PU1"]),
   (0x92, ["PRIVATE USE TWO", "PRIVATE USE-2", "PU2"]), (0x93, ["SET TRANSMIT STATE", "STS"]),
   (0x94, ["CANCEL CHARACTER", "CCH"]), (0x95, ["MESSAGE WAITING", "MW"]),
   (0x96, ["START OF GUARDED AREA", "START OF PROTECTED AREA", "SPA"]),
   (0x97, ["END OF GUARDED AREA", "END OF PROTECTED AREA", "EPA"]),
   (0x98, ["START OF STRING", "SOS"]), (0x99, ["SINGLE GRAPHIC CHARACTER INTRODUCER", "SGC"]),
   (0x9A, ["SINGLE CHARACTER INTRODUCER", "SCI"]), (0x9B, ["CONTROL SEQUENCE INTRODUCER", "CSI"]),
   (0x9C, ["STRING TERMINATOR", "ST"]), (0x9D, ["OPERATING SYSTEM COMMAND", "OSC"]),
   (0x9E, ["PRIVACY MESSAGE", "PM"]), (0x9F, ["APPLICATION PROGRAM COMMAND", "APC"]),
   (0xA0, ["NBSP"]), (0xAD, ["SHY"]), (0x1A2, ["LATIN CAPITAL LETTER GHA"]),
   (0x1A3, ["LATIN SMALL LETTER GHA"]), (0x34F, ["CGJ"]), (0x61C, ["ALM"]),
   (0x709, ["SYRIAC SUBLINEAR COLON SKEWED LEFT"]), (0xCDE, ["KANNADA LETTER LLLA"]),
   (0xE9D, ["LAO LETTER FO FON"]), (0xE9F, ["LAO LETTER FO FAY"]), (0xEA3, ["LAO LETTER RO"]),
   (0xEA5, ["LAO LETTER LO"]), (0xFD0, ["TIBETAN MARK BKA- SHOG GI MGO RGYAN"]),
   (0x11EC, ["HANGUL JONGSEONG YESIEUNG-KIYEOK"]),
   (0x11ED, ["HANGUL JONGSEONG YESIEUNG-SSANGKIYEOK"]),
   (0x11EE, ["HANGUL JONGSEONG SSANGYESIEUNG"]), (0x11EF, ["HANGUL JONGSEONG YESIEUNG-KHIEUKH"]),
   (0x180B, ["FVS1"]), (0x180C, ["FVS2"]), (0x180D, ["FVS3"]), (0x180E, ["MVS"]),
   (0x180F, ["FVS4"]), (0x200B, ["ZWSP"]), (0x200C, ["ZWNJ"]), (0x200D, ["ZWJ"]),
   (0x200E, ["LRM"]), (0x200F, ["RLM"]), (0x202A, ["LRE"]), (0x202B, ["RLE"]), (0x202C, ["PDF"]),
   (0x202D, ["LRO"]), (0x202E, ["RLO"]), (0x202F, ["NNBSP"]), (0x205F, ["MMSP"]),
   (0x2060, ["WJ"]), (0x2066, ["LRI"]), (0x2067, ["RLI"]), (0x2068, ["FSI"]), (0x2069, ["PDI"]),
   (0x2118, ["WEIERSTRASS ELLIPTIC FUNCTION"]), (0x2448, ["MICR ON US SYMBOL"]),
   (0x2449, ["MICR DASH SYMBOL"]),
   (0x2B7A, ["LEFTWARDS TRIANGLE-HEADED ARROW WITH DOUBLE VERTICAL STROKE"]),
   (0x2B7C, ["RIGHTWARDS TRIANGLE-HEADED ARROW WITH DOUBLE VERTICAL STROKE"]),
   (0xA015, ["YI SYLLABLE ITERATION MARK"]), (0xAA6E, ["MYANMAR LETTER KHAMTI LLA"]),
   (0xFE18, ["PRESENTATION FORM FOR VERTICAL RIGHT WHITE LENTICULAR BRACKET"]),
   (0xFEFF, ["BYTE ORDER MARK", "BOM", "ZWNBSP"]), (0x122D4, ["CUNEIFORM SIGN NU11 TENU"]),
   (0x122D5, ["CUNEIFORM SIGN NU11 OVER NU11 BUR OVER BUR"]),
   (0x16E56, ["MEDEFAIDRIN CAPITAL LETTER H"]), (0x16E57, ["MEDEFAIDRIN CAPITAL LETTER NG"]),
   (0x16E76, ["MEDEFAIDRIN SMALL LETTER H"]), (0x16E77, ["MEDEFAIDRIN SMALL LETTER NG"]),
   (0x1B001, ["HENTAIGANA LETTER E-1"]),
   (0x1D0C5, ["BYZANTINE MUSICAL SYMBOL FTHORA SKLIRON CHROMA VASIS"])]

/-- The text after a given beginning. -/
def after? (beginning : String) (text : List Char) : Option (List Char) :=
  if beginning.toList.isPrefixOf text then some (text.drop beginning.length) else none

/-- The number of the longest of some sounds that a text begins with, the first of equal
ones, and the text after it; `index` is the number of the first sound. -/
def longestSound? (text : List Char) (index : Nat) :
    List String → Option (Nat × List Char)
  | [] => none
  | sound :: rest =>
    let later := longestSound? text (index + 1) rest
    match after? sound text with
    | none => later
    | some remaining =>
      match later with
      | some (number, shorter) =>
        if shorter.length < remaining.length then some (number, shorter)
        else some (index, remaining)
      | none => some (index, remaining)

/-- The sounds that a syllable can begin with. -/
def leadSounds : List String :=
  ["G", "GG", "N", "D", "DD", "R", "M", "B", "BB", "S", "SS", "", "J", "JJ", "C", "K", "T", "P",
   "H"]

/-- The sounds in the middle of a syllable. -/
def vowelSounds : List String :=
  ["A", "AE", "YA", "YAE", "EO", "E", "YEO", "YE", "O", "WA", "WAE", "OE", "YO", "U", "WEO", "WE",
   "WI", "YU", "EU", "YI", "I"]

/-- The sounds that a syllable can end with. -/
def tailSounds : List String :=
  ["", "G", "GG", "GS", "N", "NJ", "NH", "D", "L", "LG", "LM", "LB", "LS", "LT", "LP", "LH", "M",
   "B", "BS", "S", "SS", "NG", "J", "C", "K", "T", "P", "H"]

/-- The Hangul syllable that sounds spell. -/
def hangulSyllable? (spelling : List Char) : Option Nat := do
  let (lead, rest) ← longestSound? spelling 0 leadSounds
  let (vowel, rest) ← longestSound? rest 0 vowelSounds
  let (tail, rest) ← longestSound? rest 0 tailSounds
  if rest.isEmpty then
    some (0xAC00 + (lead * vowelSounds.length + vowel) * tailSounds.length + tail)
  else none

/-- The code point that four or five digits in base sixteen write, with letters in upper
case. -/
def numbered? (digits : List Char) : Option Nat :=
  if (digits.length = 4 || digits.length = 5)
      && digits.all (fun c => isHexDigit c && !c.isLower) then
    some (numberIn 16 digits)
  else none

/-- The unified ideographs. -/
def unifiedIdeographs : List (Nat × Nat) :=
  [(0x3400, 0x4DBF), (0x4E00, 0x9FFF), (0x20000, 0x2A6DF), (0x2A700, 0x2B738),
   (0x2B740, 0x2B81D), (0x2B820, 0x2CEA1), (0x2CEB0, 0x2EBE0), (0x30000, 0x3134A)]

/-- Headings of numbered names, with the characters that have them. -/
def numberedNames : List (String × List (Nat × Nat)) :=
  [("CJK COMPATIBILITY IDEOGRAPH-", [(0xF900, 0xFA6D), (0xFA70, 0xFAD9), (0x2F800, 0x2FA1D)]),
   ("KHITAN SMALL SCRIPT CHARACTER-", [(0x18B00, 0x18CD5)]),
   ("NUSHU CHARACTER-", [(0x1B170, 0x1B2FB)])]

/-- The character of a numbered name. The number has no leading zeros. -/
def numberedName? (name : List Char) : Option Nat :=
  numberedNames.findSome? fun (heading, ranges) => do
    let digits ← after? heading name
    let code ← numbered? digits
    if inRanges ranges code && (digits.length = 4 || 0x10000 ≤ code) then some code else none

/-- The variation selector that a short name numbers: the first sixteen stand apart from
the others. -/
def selector? (name : List Char) : Option Nat := do
  let digits ← after? "VS" name
  let number := digitsValue digits
  if digits = Nat.toDigits 10 number && 1 ≤ number && number ≤ 256 then
    some (if number ≤ 16 then 0xFE00 + (number - 1) else 0xE0100 + (number - 17))
  else none

/-- The character of a name in upper case that follows no spelling. -/
def listed? (name : List Char) : Option Nat :=
  let further := furtherNames.find? fun (_, names) => names.any (·.toList = name)
  let ruled := ((further.map Prod.fst).or (selector? name)).or (numberedName? name)
  ruled.or (tables.findSome? fun lines => codeIn name 0 [] (lines.flatMap records))

end CharName

/-- The character that a name stands for. -/
def charNamed? (name : List Char) : Option Nat :=
  match CharName.after? "HANGUL SYLLABLE " name with
  | some spelling => CharName.hangulSyllable? spelling
  | none =>
    match CharName.after? "CJK UNIFIED IDEOGRAPH-" name with
    | some digits => (CharName.numbered? digits).filter (inRanges CharName.unifiedIdeographs)
    | none => CharName.listed? (name.map Char.toUpper)

end LineRules.Text
