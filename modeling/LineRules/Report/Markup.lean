import LineRules.Fault
import LineRules.Report.Emoji
import LineRules.Report.TagStyle

/-!
# Markup

Texts for the terminal may hold tags in brackets, such as `[bold]` and `[/bold]`, which
only set styles and are not shown. A tag begins with a small letter, `#`, `/` or `@`, and
a backslash before it makes it text. A closing tag needs an open one. Between tags, names
in colons stand for emoji.
-/

namespace LineRules.Report

open LineRules.Text

/-- A piece of a text with markup. -/
inductive MarkupPiece where
  | text (chars : List Char)
  /-- A tag and the place where it stands. -/
  | tag (body : List Char) (position : Nat)
deriving Repr, DecidableEq

/-- Whether a character can begin a tag. -/
def startsTag (c : Char) : Bool :=
  ('a' ≤ c && c ≤ 'z') || c = '#' || c = '/' || c = '@'

/-- What stands in the brackets of a tag at the front of a text, and what comes after
them. -/
def tagAhead : List Char → Option (List Char × List Char)
  | '[' :: c :: rest =>
    if startsTag c then
      match rest.dropWhile fun c => c ≠ ']' && c ≠ '[' with
      | ']' :: after => some (c :: rest.takeWhile (fun c => c ≠ ']' && c ≠ '['), after)
      | _ => none
    else none
  | _ => none

/-- Cuts a text into tags and the texts between them. `held` is the text being read,
reversed, `slashes` counts the backslashes just read, and `steps` bounds the length of the
text. -/
def cutMarkup (position : Nat) (held : List Char) (slashes : Nat) :
    (steps : Nat) → List Char → List MarkupPiece
  | 0, _ => [.text (held.reverse ++ List.replicate slashes '\\')]
  | _, [] => [.text (held.reverse ++ List.replicate slashes '\\')]
  | steps + 1, '\\' :: rest => cutMarkup (position + 1) held (slashes + 1) steps rest
  | steps + 1, c :: rest =>
    match tagAhead (c :: rest) with
    | some (body, after) =>
      let next := position + body.length + 2
      let piece := if slashes % 2 = 1 then MarkupPiece.text ('[' :: body ++ [']'])
        else MarkupPiece.tag body position
      .text held.reverse :: .text (List.replicate (slashes / 2) '\\') :: piece
        :: cutMarkup next [] 0 steps after
    | none =>
      let kept := if c = '[' && 0 < slashes then slashes - 1 else slashes
      cutMarkup (position + 1) (c :: List.replicate kept '\\' ++ held) 0 steps rest

/-- The shown text of pieces, given the names of the open tags, innermost first. What
stands after an equals sign in a tag is no part of its name. -/
def showPieces (opened : List (List Char)) : List MarkupPiece → Except Fault (List Char)
  | [] => .ok []
  | .text chars :: rest => (showPieces opened rest).map (Emoji.put chars ++ ·)
  | .tag body position :: rest =>
    match body.takeWhile (· ≠ '=') with
    | '/' :: name =>
      if (trim name).isEmpty then
        match opened with
        | [] => .error (.nothingToClose position)
        | _ :: opened => showPieces opened rest
      else if opened.contains (tagName name) then
        showPieces (opened.erase (tagName name)) rest
      else .error (.unmatchedTag (String.ofList body) position)
    | name => showPieces (tagName name :: opened) rest

/-- The text that is shown for a text with markup. -/
def showMarkup (text : String) : Except Fault (List Char) :=
  showPieces [] (cutMarkup 0 [] 0 text.length text.toList)

end LineRules.Report
