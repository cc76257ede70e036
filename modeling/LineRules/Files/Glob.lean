import LineRules.Files.Disk
import LineRules.Text.Split

/-!
# File name patterns

In a pattern `*` stands for any characters of a name, `?` for one, and brackets for one
of a class. A part `**` stands for any number of directories. Names that start with a
point are found only by parts that start with one.
-/

namespace LineRules

open LineRules.Text

namespace Glob

/-- Whether a character makes a text a pattern. -/
def isSpecial (c : Char) : Bool := c = '*' || c = '?' || c = '['

/-- Whether a text is a pattern. -/
def isPattern (text : List Char) : Bool := text.any isSpecial

/-- A member of a bracket class: a character, or the dash of a range. -/
inductive ClassToken where
  | char (c : Char)
  | dash
deriving Repr, DecidableEq

/-- A part of a pattern for names. -/
inductive Token where
  | char (c : Char)
  | any
  | star
  | oneOf (negated : Bool) (ranges : List (Char × Char))
  | never
deriving Repr, DecidableEq

/-- Cuts what stands in brackets at the dashes of ranges. `held` is the chunk being read,
reversed, and `passed` counts the characters that cannot be such a dash. -/
def chunksFrom (held : List Char) (passed : Nat) : List Char → List (List Char)
  | [] => [held.reverse]
  | c :: rest =>
    match passed with
    | passed + 1 => chunksFrom (c :: held) passed rest
    | 0 => if c = '-' then held.reverse :: chunksFrom [] 2 rest else chunksFrom (c :: held) 0 rest

/-- Gives a dash at the very end back to the chunk before it. -/
def closeChunks : List (List Char) → List (List Char)
  | [] => []
  | [chunk] => [chunk]
  | [chunk, []] => [chunk ++ ['-']]
  | chunk :: rest => chunk :: closeChunks rest

/-- Drops the ranges that go backwards, from the last to the first. -/
def dropBackward : List (List Char) → List (List Char)
  | [] => []
  | chunk :: rest =>
    match dropBackward rest with
    | [] => [chunk]
    | next :: others =>
      match chunk.getLast?, next with
      | some low, high :: tail =>
        if high < low then (chunk.dropLast ++ tail) :: others else chunk :: next :: others
      | _, _ => chunk :: next :: others

/-- The members of a class from its chunks. -/
def tokensOfChunks : List (List Char) → List ClassToken
  | [] => []
  | [chunk] => chunk.map .char
  | chunk :: rest => chunk.map .char ++ .dash :: tokensOfChunks rest

/-- The members of what stands in brackets. -/
def classTokens (stuff : List Char) : List ClassToken :=
  if stuff.contains '-' then
    let passed := if stuff.head? = some '!' then 2 else 1
    tokensOfChunks (dropBackward (closeChunks (chunksFrom [] passed stuff)))
  else stuff.map .char

/-- The ranges of the members of a class. -/
def rangesOf : List ClassToken → List (Char × Char)
  | .char low :: .dash :: .char high :: rest => (low, high) :: rangesOf rest
  | .char c :: rest => (c, c) :: rangesOf rest
  | .dash :: rest => ('-', '-') :: rangesOf rest
  | [] => []

/-- The class for what stands in brackets; an exclamation mark turns it round. -/
def classOf (stuff : List Char) : Token :=
  match classTokens stuff with
  | [] => .never
  | [.char '!'] => .any
  | .char '!' :: rest => .oneOf true (rangesOf rest)
  | members => .oneOf false (rangesOf members)

/-- What stands in brackets and what comes after them, if the brackets are closed. A
closing bracket in first place is a member. -/
def bracket? (rest : List Char) : Option (List Char × List Char) :=
  let (mark, body) := match rest with
    | '!' :: body => (['!'], body)
    | body => ([], body)
  let (first, body) := match body with
    | ']' :: body => ([']'], body)
    | body => ([], body)
  match body.dropWhile (· ≠ ']') with
  | [] => none
  | _ :: after => some (mark ++ first ++ body.takeWhile (· ≠ ']'), after)

/-- Reads a pattern for names; `steps` bounds the length of the pattern. -/
def readTokens : (steps : Nat) → List Char → List Token
  | 0, _ => []
  | _, [] => []
  | steps + 1, '*' :: rest => .star :: readTokens steps rest
  | steps + 1, '?' :: rest => .any :: readTokens steps rest
  | steps + 1, '[' :: rest =>
    match bracket? rest with
    | none => .char '[' :: readTokens steps rest
    | some (stuff, after) => classOf stuff :: readTokens steps after
  | steps + 1, c :: rest => .char c :: readTokens steps rest

/-- The parts of a pattern for names. -/
def tokens (pattern : List Char) : List Token :=
  readTokens pattern.length pattern

/-- All endings of a text, the text itself first. -/
def endings : List Char → List (List Char)
  | [] => [[]]
  | c :: rest => (c :: rest) :: endings rest

/-- Whether a name fits the parts of a pattern. -/
def fits : List Token → List Char → Bool
  | [], name => name.isEmpty
  | .star :: rest, name => (endings name).any (fits rest)
  | .never :: _, _ => false
  | _ :: _, [] => false
  | .any :: rest, _ :: name => fits rest name
  | .char c :: rest, d :: name => c = d && fits rest name
  | .oneOf negated ranges :: rest, d :: name =>
    (negated != ranges.any fun (low, high) => low ≤ d && d ≤ high) && fits rest name

/-- Whether a name is hidden. -/
def isHidden (name : List Char) : Bool := name.head? = some '.'

/-- The part of a pattern that stands for any number of directories. -/
def anyDepth : List Char := ['*', '*']

/-- Two path texts put together. -/
def join (above name : List Char) : List Char :=
  if name.head? = some '/' then name
  else if above.isEmpty || above.getLast? = some '/' then above ++ name
  else above ++ '/' :: name

/-- A path text without the slashes at its end, unless it is nothing else. -/
def trimSlashes (text : List Char) : List Char :=
  if text.all (· = '/') then text else (text.reverse.dropWhile (· = '/')).reverse

/-- Drops empty parts, but keeps the last one, which a slash at the end leaves. -/
def dropEmpty : List (List Char) → List (List Char)
  | [] => []
  | [part] => [part]
  | part :: rest => if part.isEmpty then dropEmpty rest else part :: dropEmpty rest

/-- A pattern for paths, cut into the directory before its first special part, and the
parts from there on. -/
def cutPattern (pattern : List Char) : List Char × List (List Char) :=
  let parts := split '/' pattern
  let plain := parts.takeWhile fun part => !isPattern part
  let above := plain.flatMap fun part => part ++ ['/']
  (trimSlashes above, dropEmpty (parts.dropWhile fun part => !isPattern part))

end Glob

namespace Disk

open Glob

/-- The place that a path text leads to; an empty text is the working directory. -/
def walkText (disk : Disk) (text : List Char) : Option (List String) :=
  let start := if text.head? = some '/' then [] else disk.directory
  (disk.walkFrom start ((split '/' text).map String.ofList)).toOption

/-- The directory that a path text leads to. -/
def directoryText (disk : Disk) (text : List Char) : Option (List String) :=
  (disk.walkText text).filter disk.isDirectoryAt

/-- The path texts in a directory that one part of a pattern stands for. -/
def globIn (disk : Disk) (onlyDirectories : Bool) (part above : List Char) :
    List (List Char) :=
  let wanted (node : DiskNode) : Bool := !onlyDirectories || node = .directory
  if part = anyDepth then
    let deeper := match disk.directoryText above with
      | none => []
      | some place =>
        (disk.below place).filterMap fun (names, node) =>
          if wanted node && !names.any fun name => isHidden name.toList then
            some ("/".intercalate names).toList
          else none
    ([] :: deeper).map (join above)
  else if isPattern part then
    match disk.directoryText above with
    | none => []
    | some place =>
      let parts := tokens part
      (disk.children place).filterMap fun (name, node) =>
        let name := name.toList
        if wanted node && (isHidden part || !isHidden name) && fits parts name then
          some (join above name)
        else none
  else if part.isEmpty then
    if !above.isEmpty && (disk.directoryText above).isSome then [join above part] else []
  else if (disk.walkText (join above part)).isSome then [join above part]
  else []

/-- The path texts that the parts of a pattern stand for below some directories. -/
def globBelow (disk : Disk) (above : List (List Char)) : List (List Char) → List (List Char)
  | [] => above
  | part :: rest =>
    globBelow disk (above.flatMap (disk.globIn (!rest.isEmpty) part)) rest

/-- The path texts that a pattern stands for, sorted by code point. The directory before
its first special part is looked up in any case. -/
def glob (disk : Disk) (pattern : String) : Except Fault (List String) :=
  let (above, parts) := cutPattern pattern.toList
  if above.contains '\x00' then .error .nullInPath
  else
    let found := (disk.globBelow [above] parts).filter fun text => !text.isEmpty
    .ok ((found.map String.ofList).mergeSort fun a b => decide (a ≤ b))

/-- The paths that an argument stands for: the matches of a pattern, or the argument
itself if it is none or has no matches. -/
def candidates (disk : Disk) (argument : String) : Except Fault (List Path) := do
  let found ← if isPattern argument.toList then disk.glob argument else .ok []
  return if found.isEmpty then [Path.ofString argument] else found.map Path.ofString

/-- The paths that arguments stand for, in order, each one once. -/
def selectPaths (disk : Disk) (arguments : List String) : Except Fault (List Path) := do
  let candidates ← arguments.mapM disk.candidates
  return candidates.flatten.foldl
    (fun seen path => if seen.contains path then seen else seen ++ [path]) []

end Disk

end LineRules
