import LineRules.Notice
import LineRules.Text.Blank
import LineRules.Text.Split
import LineRules.Token.Rule

/-!
# The registry of token rules

Token rules by id, in the order of first registration; registering an id again replaces
its rule. Ids have the form `csf-some-name`.
-/

namespace LineRules.Token

open LineRules.Text

/-- The beginning of every rule id. -/
def idStart : String := "csf-"

/-- A character of a rule id between the dashes. -/
def isIdChar (c : Char) : Bool := c.isDigit || ('a' ≤ c && c ≤ 'z')

/-- Whether a text is `csf` and further nonempty parts, with a dash before each. -/
def isRuleId (id : List Char) : Bool :=
  match split '-' id with
  | first :: second :: rest =>
    first = ['c', 's', 'f'] && (second :: rest).all fun part => !part.isEmpty && part.all isIdChar
  | _ => false

/-- Whether a rule can be registered under an id; one line feed after the id is passed
over. -/
def isRegistrable (id : List Char) : Bool :=
  isRuleId id || (id.getLast? = some '\n' && isRuleId id.dropLast)

/-- The rule id for the file name of a module. -/
def idOfModuleName (name : String) : String :=
  let last := (Path.ofString name).name
  let stem := if last.endsWith ".py" then String.ofList (last.toList.take (last.length - 3))
    else last
  idStart ++ String.ofList (stem.toList.map fun c => if c = '_' then '-' else c)

/-- Token rules by id. -/
structure Registry where
  rules : Keyed TokenRule := []

namespace Registry

/-- The number of rules. -/
def size (registry : Registry) : Nat := registry.rules.length

/-- The rule with an id. -/
def get? (registry : Registry) (id : String) : Option TokenRule := registry.rules.get? id

/-- Whether an id is registered. -/
def has (registry : Registry) (id : String) : Bool := registry.rules.has id

/-- The ids, in the order of first registration. -/
def ids (registry : Registry) : List String := registry.rules.names

/-- Registers a rule; an id of the wrong form is refused. -/
def register (registry : Registry) (rule : TokenRule) : Except PluginError Registry :=
  if isRegistrable rule.id.toList then .ok ⟨registry.rules.put rule.id rule⟩
  else .error (.badRuleId rule.id)

/-- Registering rules one after another: the registry so far, the notices, and the fault
that stopped it, if one did. -/
structure Loading where
  registry : Registry
  notices : List Notice
  fault : Option Fault

/-- Registers rules until one is refused. -/
def registerAll (registry : Registry) (notices : List Notice) : List TokenRule → Loading
  | [] => ⟨registry, notices, none⟩
  | rule :: rest =>
    match registry.register rule with
    | .error error => ⟨registry, notices, some (.plugin error)⟩
    | .ok next =>
      let notices := if registry.has rule.id then notices ++ [.tokenRuleOverridden rule.id]
        else notices
      registerAll next notices rest

end Registry

end LineRules.Token
