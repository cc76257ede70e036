import LineRules.Toml.Scalar

/-!
# Settings files

A TOML document is a sequence of statements: keys with values, and headings that say
which table the keys after them belong to. What was written in one place must not be
changed from another, so tables and lists carry marks: a table with a heading of its own
gets no second one, and what is written as an inline list or table stays as it is.
-/

namespace LineRules.Toml

/-- The path of a table in a document. -/
abbrev TablePath := List String

/-- The marks on the tables of a document. -/
structure Marks where
  /-- Tables that no heading or dotted key may open any more. -/
  opened : List TablePath
  /-- Values that stay as they are, with everything below them. -/
  closed : List TablePath

namespace Marks

/-- Whether a path stays as it is. -/
def isClosed (marks : Marks) (path : TablePath) : Bool :=
  marks.closed.any fun above => !path.isEmpty && above.isPrefixOf path

/-- Whether a path is opened already. -/
def isOpened (marks : Marks) (path : TablePath) : Bool :=
  !path.isEmpty && marks.opened.contains path

/-- Marks a path as opened. -/
def openAt (marks : Marks) (path : TablePath) : Marks :=
  { marks with opened := path :: marks.opened }

/-- Marks a path as staying as it is. -/
def closeAt (marks : Marks) (path : TablePath) : Marks :=
  { marks with closed := path :: marks.closed }

/-- Takes all marks from a path and from everything below it. -/
def clear (marks : Marks) (path : TablePath) : Marks where
  opened := marks.opened.filter fun below => !path.isPrefixOf below
  closed := marks.closed.filter fun below => !path.isPrefixOf below

end Marks

/-- Changes the table at a path, making the tables on the way that do not exist. With
`throughLists`, a list on the way stands for its last item. -/
def changeAt (throughLists : Bool) (change : Keyed Value → Except ReadError (Keyed Value)) :
    TablePath → Keyed Value → Except ReadError (Keyed Value)
  | [], table => change table
  | key :: rest, table =>
    match table.get? key with
    | none => do
      let below ← changeAt throughLists change rest []
      return table.put key (.table below)
    | some (.table below) => do
      let below ← changeAt throughLists change rest below
      return table.put key (.table below)
    | some (.list items) =>
      match throughLists, items.getLast? with
      | true, some (.table below) => do
        let below ← changeAt throughLists change rest below
        return table.put key (.list (items.dropLast ++ [.table below]))
      | _, _ => .error .malformed
    | some _ => .error .malformed

/-- Puts a value under a key that is not known yet. -/
def putNew (key : String) (value : Value) (table : Keyed Value) :
    Except ReadError (Keyed Value) :=
  if table.has key then .error .malformed else .ok (table.put key value)

/-- Adds an empty table to the list under a key. -/
def appendTable (key : String) (table : Keyed Value) : Except ReadError (Keyed Value) :=
  match table.get? key with
  | none => .ok (table.put key (.list [.table []]))
  | some (.list items) => .ok (table.put key (.list (items ++ [.table []])))
  | some _ => .error .malformed

/-- Whether a value is a list or a table. -/
def isContainer : Value → Bool
  | .list _ => true
  | .table _ => true
  | _ => false

/-- Passes a comment up to the end of its line. -/
def skipComment (text : List Char) : Except ReadError (List Char) :=
  match text with
  | '#' :: rest =>
    let comment := rest.takeWhile (· ≠ '\n')
    if comment.any isControl then .error .malformed else .ok (rest.dropWhile (· ≠ '\n'))
  | text => .ok text

/-- Passes blanks, line ends and comments between the items of a list. -/
def skipBetween : (fuel : Nat) → List Char → Except ReadError (List Char)
  | 0, text => .ok text
  | fuel + 1, text =>
    match text.dropWhile fun c => isLineBlank c || c = '\n' with
    | '#' :: rest => do skipBetween fuel (← skipComment ('#' :: rest))
    | text => .ok text

mutual

/-- Reads a value. -/
def readValue : (fuel : Nat) → Reader Value
  | 0, _ => .error .malformed
  | fuel + 1, text =>
    let asText (read : Except ReadError (List Char × List Char)) :=
      read.map fun (chars, rest) => (Value.text (String.ofList chars), rest)
    match text with
    | '"' :: '"' :: '"' :: rest => asText (readBasicLines text.length (dropNewline rest))
    | '"' :: rest => asText (readBasic text.length rest)
    | '\'' :: '\'' :: '\'' :: rest => asText (readLiteralLines (dropNewline rest))
    | '\'' :: rest => asText (readLiteral rest)
    | 't' :: 'r' :: 'u' :: 'e' :: rest => .ok (.bool true, rest)
    | 'f' :: 'a' :: 'l' :: 's' :: 'e' :: rest => .ok (.bool false, rest)
    | '[' :: rest => do
      match ← skipBetween text.length rest with
      | ']' :: rest => return (.list [], rest)
      | rest =>
        let (items, rest) ← readItems fuel rest
        return (.list items, rest)
    | '\x7b' :: rest =>
      match skipBlanks rest with
      | '\x7d' :: rest => .ok (.table [], rest)
      | rest => do
        let (table, rest) ← readInline fuel [] ⟨[], []⟩ rest
        return (.table table, rest)
    | text => readNumeric text

/-- Reads the items of a list up to and past its closing bracket. -/
def readItems : (fuel : Nat) → Reader (List Value)
  | 0, _ => .error .malformed
  | fuel + 1, text => do
    let (item, rest) ← readValue fuel text
    match ← skipBetween text.length rest with
    | ']' :: rest => return ([item], rest)
    | ',' :: rest =>
      match ← skipBetween text.length rest with
      | ']' :: rest => return ([item], rest)
      | rest =>
        let (items, rest) ← readItems fuel rest
        return (item :: items, rest)
    | _ => throw .malformed

/-- Reads the entries of an inline table up to and past its closing brace. -/
def readInline : (fuel : Nat) → Keyed Value → Marks → Reader (Keyed Value)
  | 0, _, _, _ => .error .malformed
  | fuel + 1, table, marks, text => do
    let (key, value, rest) ← readPair fuel text
    if marks.isClosed key then throw .malformed
    let table ← changeAt false (putNew (key.getLast?.getD "") value) key.dropLast table
    match skipBlanks rest with
    | '\x7d' :: rest => return (table, rest)
    | ',' :: rest =>
      let marks := if isContainer value then marks.closeAt key else marks
      readInline fuel table marks (skipBlanks rest)
    | _ => throw .malformed

/-- Reads a key, the equals sign and a value. -/
def readPair : (fuel : Nat) → List Char → Except ReadError (TablePath × Value × List Char)
  | 0, _ => .error .malformed
  | fuel + 1, text => do
    let (key, rest) ← readKey text
    match rest with
    | '=' :: rest =>
      let (value, rest) ← readValue fuel (skipBlanks rest)
      return (key, value, rest)
    | _ => throw .malformed

end

/-- A document being read. -/
structure Document where
  table : Keyed Value := []
  marks : Marks := ⟨[], []⟩
  /-- Tables opened by dotted keys since the last heading. -/
  pending : List TablePath := []
  /-- The table that keys belong to. -/
  heading : TablePath := []

namespace Document

/-- Marks the tables that dotted keys opened. -/
def settle (document : Document) : Document :=
  { document with marks := document.pending.foldl Marks.openAt document.marks, pending := [] }

/-- Opens the table of a heading. -/
def openTable (document : Document) (path : TablePath) : Except ReadError Document := do
  if document.marks.isOpened path || document.marks.isClosed path then throw .malformed
  let table ← changeAt true .ok path document.table
  return { document with table, marks := document.marks.openAt path, heading := path }

/-- Opens a further table of the list of a heading. -/
def openItem (document : Document) (path : TablePath) : Except ReadError Document := do
  if document.marks.isClosed path then throw .malformed
  let table ← changeAt true (appendTable (path.getLast?.getD "")) path.dropLast document.table
  let marks := (document.marks.clear path).openAt path
  return { document with table, marks, heading := path }

/-- Puts a value under a key, which belongs to the table of the last heading. -/
def putValue (document : Document) (key : TablePath) (value : Value) :
    Except ReadError Document := do
  let opened := (List.range (key.length - 1)).map fun count =>
    document.heading ++ key.take (count + 1)
  if opened.any document.marks.isOpened then throw .malformed
  let above := document.heading ++ key.dropLast
  if document.marks.isClosed above then throw .malformed
  let table ← changeAt true (putNew (key.getLast?.getD "") value) above document.table
  let marks := if isContainer value then document.marks.closeAt (document.heading ++ key)
    else document.marks
  return { document with table, marks, pending := document.pending ++ opened }

/-- Reads one statement. -/
def readStatement (document : Document) (text : List Char) :
    Except ReadError (Document × List Char) :=
  match text with
  | '[' :: '[' :: rest => do
    let (path, rest) ← readKey (skipBlanks rest)
    let document ← document.settle.openItem path
    match rest with
    | ']' :: ']' :: rest => return (document, skipBlanks rest)
    | _ => throw .malformed
  | '[' :: rest => do
    let (path, rest) ← readKey (skipBlanks rest)
    let document ← document.settle.openTable path
    match rest with
    | ']' :: rest => return (document, skipBlanks rest)
    | _ => throw .malformed
  | c :: _ =>
    if isBareKeyChar c || c = '"' || c = '\'' then do
      let (key, value, rest) ← readPair (2 * text.length + 2) text
      let document ← document.putValue key value
      return (document, skipBlanks rest)
    else if c = '#' then .ok (document, text)
    else .error .malformed
  | [] => .ok (document, [])

/-- Reads statements, one a line, to the end of the text. -/
def readLines : (fuel : Nat) → Document → List Char → Except ReadError Document
  | 0, document, _ => .ok document
  | fuel + 1, document, text =>
    match skipBlanks text with
    | [] => .ok document
    | '\n' :: rest => readLines fuel document rest
    | text => do
      let (document, rest) ← document.readStatement text
      match ← skipComment rest with
      | [] => return document
      | '\n' :: rest => readLines fuel document rest
      | _ => throw .malformed

end Document

/-- Reads a document, whose line ends are line feeds. -/
def read (text : List Char) : Except ReadError (Keyed Value) :=
  (Document.readLines (text.length + 1) {} text).map Document.table

end LineRules.Toml
