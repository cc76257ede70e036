import LineRules.Report.Emoji.Names
import LineRules.Text.Blank
import LineRules.Text.Case
import LineRules.Text.Split

/-!
# Emoji in texts

A name between two colons, such as `:sparkles:`, stands for an emoji. The name is taken in
lower case, and may end with the presentation that is asked for, as in `:warning-text:`. A
name that no emoji goes by stays as it is written.
-/

namespace LineRules.Report

open LineRules.Text

namespace Emoji

/-- The first emoji of the table that one of its names is looked up for. -/
def find? (fits : List Char → Bool) : Option (List Char) :=
  emojiNames.findSome? fun line =>
    (split ',' line.toList).findSome? fun record =>
      match split ' ' record with
      | [] => none
      | emoji :: names => if names.any fits then some emoji else none

/-- A name of the table without the mark that the emoji comes in skin tones. -/
def bareName (written : List Char) : List Char :=
  if written.getLast? = some '+' then written.dropLast else written

/-- The endings of names for the skin tones, with the modifiers. -/
def skinTones : List (String × Char) :=
  [("_light_skin_tone", '🏻'), ("_medium-light_skin_tone", '🏼'), ("_medium_skin_tone", '🏽'),
    ("_medium-dark_skin_tone", '🏾'), ("_dark_skin_tone", '🏿')]

/-- The variation selector that asks for a picture. -/
def pictureSelector : Char := '\uFE0F'

/-- The variation selector that asks for plain text. -/
def textSelector : Char := '\uFE0E'

/-- An emoji in a skin tone. The modifier follows the first character, where it takes the
place of a selector. -/
def inTone (tone : Char) : List Char → List Char
  | [] => []
  | first :: rest =>
    first :: tone :: if rest.head? = some pictureSelector then rest.tail else rest

/-- The emoji that a name in lower case stands for. -/
def ofName? (name : List Char) : Option (List Char) :=
  let toned := skinTones.findSome? fun (ending, tone) =>
    if ending.toList.isSuffixOf name then
      let marked := name.take (name.length - ending.length) ++ ['+']
      (find? (· = marked)).map (inTone tone)
    else none
  match toned with
  | some emoji => some emoji
  | none => find? fun written => bareName written = name

/-- A name without the presentation at its end, and the selector for that. -/
def presentation (name : List Char) : List Char × List Char :=
  if "-emoji".toList.isSuffixOf name then (name.take (name.length - 6), [pictureSelector])
  else if "-text".toList.isSuffixOf name then (name.take (name.length - 5), [textSelector])
  else (name, [])

/-- What is shown for a name between colons. -/
def shown (name : List Char) : List Char :=
  let (bare, selector) := presentation name
  match ofName? (lower bare) with
  | some emoji => emoji ++ selector
  | none => ':' :: name ++ [':']

/-- The text up to the next colon, if nothing blank comes before it, and what follows the
colon. -/
def nameAhead? : List Char → Option (List Char × List Char)
  | [] => none
  | c :: rest =>
    if c = ':' then some ([], rest)
    else if isBlank c then none
    else (nameAhead? rest).map fun (name, after) => (c :: name, after)

/-- Puts emoji for their names; `steps` bounds the length of the text. -/
def putFrom : (steps : Nat) → List Char → List Char
  | 0, text => text
  | _, [] => []
  | steps + 1, c :: rest =>
    if c = ':' then
      match nameAhead? rest with
      | some (name, after) => shown name ++ putFrom steps after
      | none => ':' :: putFrom steps rest
    else c :: putFrom steps rest

/-- A text with emoji in place of their names. -/
def put (text : List Char) : List Char := putFrom text.length text

/-- A text without colons has no names of emoji. -/
theorem put_of_no_colon (text : List Char) (plain : ':' ∉ text) : put text = text := by
  unfold put
  induction text with
  | nil => rfl
  | cons c rest hyp =>
    simp only [List.mem_cons, not_or] at plain
    simp [putFrom, Ne.symm plain.1, hyp plain.2]

end Emoji

end LineRules.Report
