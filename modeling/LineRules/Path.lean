import LineRules.Text.Case
import LineRules.Text.Split

/-!
# Paths

A path is a root and the names of its parts. Empty parts and single points are dropped
when a path is read; double points stay, because what they lead to depends on links.
-/

namespace LineRules

open LineRules.Text

/-- What a path starts from. -/
inductive PathRoot where
  | relative
  | slash
  /-- Exactly two slashes, which mean a root of their own. -/
  | doubleSlash
deriving Repr, DecidableEq

/-- A path. -/
structure Path where
  root : PathRoot
  parts : List String
deriving Repr, DecidableEq

namespace PathRoot

/-- The text of a root. -/
def text : PathRoot → String
  | relative => ""
  | slash => "/"
  | doubleSlash => "//"

end PathRoot

namespace Path

/-- The parts of a path text between slashes that count. -/
def partsOf (text : List Char) : List String :=
  ((split '/' text).map String.ofList).filter fun part => part ≠ "" && part ≠ "."

/-- The root of a path text. -/
def rootOf : List Char → PathRoot
  | '/' :: '/' :: '/' :: _ => .slash
  | '/' :: '/' :: _ => .doubleSlash
  | '/' :: _ => .slash
  | _ => .relative

/-- Reads a path. -/
def ofString (text : String) : Path :=
  ⟨rootOf text.toList, partsOf text.toList⟩

/-- The working directory. -/
def here : Path := ⟨.relative, []⟩

/-- The text of a path. -/
def toString (path : Path) : String :=
  let text := path.root.text ++ "/".intercalate path.parts
  if text = "" then "." else text

instance : ToString Path := ⟨toString⟩

/-- Whether a path holds a null character, which no file system takes. -/
def holdsNull (path : Path) : Bool :=
  path.parts.any fun part => part.toList.contains '\x00'

/-- Whether a path starts from a root. -/
def isAbsolute (path : Path) : Bool := path.root ≠ .relative

/-- The last part, empty if there is none. -/
def name (path : Path) : String := path.parts.getLast?.getD ""

/-- The ending of a name from its last point on; a point at either end of the name
begins no ending. -/
def suffixOf (name : List Char) : List Char :=
  let ending := (name.reverse.takeWhile (· ≠ '.')).reverse
  if ending.isEmpty || name.length ≤ ending.length + 1 then [] else '.' :: ending

/-- The ending of the last part. -/
def suffix (path : Path) : String := String.ofList (suffixOf path.name.toList)

/-- The path without its last part. -/
def parent (path : Path) : Path := { path with parts := path.parts.dropLast }

/-- All paths above this one, the nearest first. -/
def parents (path : Path) : List Path :=
  (List.range path.parts.length).map fun dropped =>
    { path with parts := path.parts.take (path.parts.length - 1 - dropped) }

/-- A path continued by another; an absolute one replaces it. -/
def join (path other : Path) : Path :=
  if other.isAbsolute then other else { path with parts := path.parts ++ other.parts }

/-- A path continued by one part. -/
def child (path : Path) (part : String) : Path :=
  { path with parts := path.parts ++ [part] }

/-- Parts with every double point taken back together with the part before it. -/
def collapse (parts : List String) : List String :=
  (parts.foldl (fun taken part => if part = ".." then taken.tail else part :: taken) []).reverse

/-- The parts of a path as seen from the root, with the working directory before a
relative one. -/
def absoluteParts (directory : List String) (path : Path) : List String :=
  collapse (if path.isAbsolute then path.parts else directory ++ path.parts)

/-- The number of leading parts that two paths share. -/
def sharedCount : List String → List String → Nat
  | a :: as, b :: bs => if a = b then sharedCount as bs + 1 else 0
  | _, _ => 0

/-- The text of the way from one path to another, both seen from the working
directory. -/
def relativeText (directory : List String) (path base : Path) : String :=
  let target := path.absoluteParts directory
  let start := base.absoluteParts directory
  let shared := sharedCount start target
  let parts := List.replicate (start.length - shared) ".." ++ target.drop shared
  if parts.isEmpty then "." else "/".intercalate parts

/-- A path as reports show it: as given, or relative to a base. -/
def display (directory : List String) (path : Path) (relative : Bool)
    (base : Path := here) : String :=
  if relative then path.relativeText directory base else path.toString

end Path

end LineRules
