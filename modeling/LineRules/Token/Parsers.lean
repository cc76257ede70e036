import LineRules.Fault

/-!
# Parsers

Every language has a parser of its own, which is made when it is first needed and kept
once the language is loaded into it. A parser that fails in one of the known ways gives
no tree; any other failure is passed on.
-/

namespace LineRules.Token

/-- The parsers of a session. -/
structure Parsers where
  /-- The languages whose parsers are kept. -/
  ready : List String := []
  /-- The number of parsers made so far. -/
  made : Nat := 0
deriving Repr, DecidableEq

/-- Whether a failure means that there is no tree. -/
def isTreeless : Fault → Bool
  | .raised (.other _) _ => false
  | .raised _ _ => true
  | _ => false

/-- A result that may be missing for one of the known failures. -/
def treeOf {α : Type} : Except Fault α → Except Fault (Option α)
  | .ok tree => .ok (some tree)
  | .error fault => if isTreeless fault then .ok none else .error fault

namespace Parsers

variable {α : Type}

/-- Parses with the parser of a language, which is loaded if it is not kept yet. -/
def parse (parsers : Parsers) (language : String) (load : Except Fault Unit)
    (run : Except Fault α) : Parsers × Except Fault (Option α) :=
  if parsers.ready.contains language then (parsers, treeOf run)
  else
    match load with
    | .error fault => ({ parsers with made := parsers.made + 1 }, treeOf (.error fault))
    | .ok () => (⟨parsers.ready ++ [language], parsers.made + 1⟩, treeOf run)

end Parsers

end LineRules.Token
