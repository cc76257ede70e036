import LineRules.Text.Blank
import LineRules.Text.CellWidth
import LineRules.Text.Split

/-!
# Wrapping lines

A line that is wider than the place it is shown in goes on in the next row. It is broken
between words; a word keeps the blanks that follow it, and what hangs over the edge of them
is dropped. A word that is too wide for a row of its own is either folded over several rows
or cut short with an ellipsis.
-/

namespace LineRules.Report

open LineRules.Text

/-- What happens to words that are too wide for a row. -/
inductive Overflow where
  | fold
  | shorten
deriving Repr, DecidableEq

/-- How far the reading of a word with its blanks has come. -/
inductive WordStage where
  | before
  | inside
  | after
deriving Repr, DecidableEq

/-- A word of a line with the blanks after it, and before it if it is the first one. -/
structure LineWord where
  start : Nat
  chars : List Char
deriving Repr, DecidableEq

/-- Cuts a line into its words. `held` is the word being read, reversed. -/
def lineWordsFrom (start : Nat) (held : List Char) (stage : WordStage) :
    List Char → List LineWord
  | [] => if stage = .before then [] else [⟨start, held.reverse⟩]
  | c :: rest =>
    if isBlank c then
      lineWordsFrom start (c :: held) (if stage = .before then .before else .after) rest
    else if stage = .after then
      ⟨start, held.reverse⟩ :: lineWordsFrom (start + held.length) [c] .inside rest
    else lineWordsFrom start (c :: held) .inside rest

/-- The words of a line. -/
def lineWords (line : List Char) : List LineWord := lineWordsFrom 0 [] .before line

/-- Cuts a word into rows; `row` is the row being filled, reversed, and `used` its
cells. -/
def foldWordFrom (width : Nat) (row : List Char) (used : Nat) : List Char → List (List Char)
  | [] => [row.reverse]
  | c :: rest =>
    if width < used + charCells c then
      row.reverse :: foldWordFrom width [c] (charCells c) rest
    else foldWordFrom width (c :: row) (used + charCells c) rest

/-- The places where rows begin. -/
def rowStarts (start : Nat) : List (List Char) → List Nat
  | [] => []
  | row :: rest => start :: rowStarts (start + row.length) rest

/-- The places where a line is broken; `used` counts the cells in the row so far. The
beginning of the line is no such place. -/
def breaksFrom (overflow : Overflow) (width used : Nat) : List LineWord → List Nat
  | [] => []
  | word :: rest =>
    let needed := cells (trimEnd word.chars)
    if used + needed ≤ width then breaksFrom overflow width (used + cells word.chars) rest
    else if width < needed then
      let rows := match overflow with
        | .fold => foldWordFrom width [] 0 word.chars
        | .shorten => [word.chars]
      (rowStarts word.start rows).filter (0 < ·)
        ++ breaksFrom overflow width (cells (rows.getLast?.getD [])) rest
    else if 0 < used && 0 < word.start then
      word.start :: breaksFrom overflow width (cells word.chars) rest
    else breaksFrom overflow width used rest

/-- A text cut at ascending places; `done` is the place where it begins. -/
def cutAt (done : Nat) : List Nat → List Char → List (List Char)
  | [], text => [text]
  | place :: rest, text =>
    text.take (place - done) :: cutAt place rest (text.drop (place - done))

/-- A row without the blanks at its end, as far as it has too many characters. -/
def dropOverhang (width : Nat) (row : List Char) : List Char :=
  let blanks := (row.reverse.takeWhile isBlank).length
  row.take (row.length - min blanks (row.length - width))

/-- Characters that are known to take one cell without a look at the tables. -/
def isPlainCell (c : Char) : Bool :=
  let code := c.toNat
  (0x20 ≤ code && code ≤ 0x6F) || code = 0xA0 || code = 0x2FF || (0x370 ≤ code && code ≤ 0x482)

/-- Looks by halving for a beginning of a text that takes `total` cells; a wide character
that stands on the edge makes way for a blank. -/
def beginningOf (total : Nat) (text : List Char) (low high : Nat) : (steps : Nat) → List Char
  | 0 => text.take (low + 1)
  | steps + 1 =>
    let middle := (low + high) / 2
    let front := text.take (middle + 1)
    let size := cells front
    if size = total + 1 && (front.getLast?.map charCells) = some 2 then front.dropLast ++ [' ']
    else if size = total then front
    else if total < size then beginningOf total text low middle steps
    else beginningOf total text middle high steps

/-- The beginning of a text that takes `total` cells, when the text takes more. -/
def shortenTo (total : Nat) (text : List Char) : List Char :=
  if text.all isPlainCell then text.take total
  else if total = 0 then []
  else beginningOf total text 0 text.length (text.length + 1)

/-- A row brought to a width if it is wider. -/
def limitRow (overflow : Overflow) (width : Nat) (row : List Char) : List Char :=
  if cells row ≤ width then row
  else
    match overflow with
    | .fold => shortenTo width row
    | .shorten => shortenTo (width - 1) row ++ ['…']

/-- The rows of a line. -/
def wrapLine (overflow : Overflow) (width : Nat) (line : List Char) : List (List Char) :=
  (cutAt 0 (breaksFrom overflow width 0 (lineWords line)) line).map (dropOverhang width)

/-- The rows of a text with its tabs filled up. -/
def wrapText (overflow : Overflow) (width : Nat) (text : List Char) : List (List Char) :=
  ((split '\n' text).flatMap fun line => wrapLine overflow width (expandTabs line)).map
    (limitRow overflow width)

/-- The characters of the words are those of the line, unless all of it is blank. -/
theorem flatMap_chars_lineWordsFrom (line held : List Char) (start : Nat) (stage : WordStage)
    (begun : stage ≠ .before) :
    (lineWordsFrom start held stage line).flatMap LineWord.chars = held.reverse ++ line := by
  induction line generalizing held start stage with
  | nil => simp [lineWordsFrom, begun]
  | cons c rest hyp =>
    rw [lineWordsFrom]
    split
    · simp [hyp]
    · split <;> simp [hyp]

/-- Cutting a text loses nothing. -/
theorem flatten_cutAt (places : List Nat) (done : Nat) (text : List Char) :
    (cutAt done places text).flatten = text := by
  induction places generalizing done text with
  | nil => simp [cutAt]
  | cons place rest hyp => simp [cutAt, hyp]

end LineRules.Report
