import LineRules.Text.Line
import LineRules.Token.Registry

/-!
# Plugins

Token rules from outside. A plugin is named by a module, or by a module and one of its
members after a colon. What is exported may be a rule, a list of rules, something to
call for rules, or another module that exports rules; a module with nothing but a check
is a rule of its own.
-/

namespace LineRules.Token

open LineRules.Text

/-- What stands under a name in a module. -/
inductive Export where
  | rule (rule : TokenRule)
  | list (items : List Export)
  | tuple (items : List Export)
  /-- Something to call, which gives an export. -/
  | call (result : Export)
  /-- Something to call, which fails with a message. -/
  | fails (message : String)
  /-- A check with fixed findings. -/
  | check (findings : List Finding)
  | moduleRef (name : String)
  | value (value : Value)
deriving Inhabited

namespace Export

/-- The name of an export's kind, as error messages give it. -/
def kindName : Export → String
  | rule _ => "TokenRule"
  | list _ => "list"
  | tuple _ => "tuple"
  | call _ => "function"
  | fails _ => "function"
  | check _ => "function"
  | moduleRef _ => "module"
  | value held => held.kindName

/-- Whether an export can be called. -/
def isCallable : Export → Bool
  | call _ => true
  | fails _ => true
  | check _ => true
  | _ => false

end Export

/-- A module that plugins can name. -/
structure PluginModule where
  name : String
  doc : Option String := none
  /-- Importing the module fails with this message. -/
  failure : Option String := none
  isPackage : Bool := false
  members : Keyed Export := []

namespace PluginModule

/-- A member of a module; every module has its name and its documentation. -/
def member? (plugin : PluginModule) (name : String) : Option Export :=
  match plugin.members.get? name with
  | some found => some found
  | none =>
    if name = "__name__" then some (.value (.text plugin.name))
    else if name = "__doc__" then
      some (.value (match plugin.doc with
        | some doc => .text doc
        | none => .null))
    else none

end PluginModule

/-- The modules that can be imported. -/
abbrev Modules := List PluginModule

namespace Modules

/-- The module of a name, wherever it is. -/
def find? (modules : Modules) (name : String) : Option PluginModule :=
  List.find? (fun plugin => decide (plugin.name = name)) modules

/-- Imports the module at the end of a path of names, after the modules above it; `taken`
is the dotted name of the module before, which is imported already. -/
def importBelow (modules : Modules) (taken : PluginModule) :
    List String → Except String PluginModule
  | [] => .ok taken
  | part :: rest =>
    let name := taken.name ++ "." ++ part
    if !taken.isPackage then
      .error ("No module named " ++ quote name ++ "; " ++ quote taken.name
        ++ " is not a package")
    else
      match modules.find? name with
      | none => .error ("No module named " ++ quote name)
      | some plugin =>
        match plugin.failure with
        | some message => .error message
        | none => importBelow modules plugin rest

/-- Imports a module by its dotted name, after the modules above it. -/
def importModule (modules : Modules) (name : String) : Except String PluginModule :=
  if name = "" then .error "Empty module name"
  else if name.toList.head? = some '.' then
    .error ("the 'package' argument is required to perform a relative import for "
      ++ quote name)
  else
    match segments name with
    | [] => .error "Empty module name"
    | part :: rest =>
      match modules.find? part with
      | none => .error ("No module named " ++ quote part)
      | some plugin =>
        match plugin.failure with
        | some message => .error message
        | none => modules.importBelow plugin rest

end Modules

/-- Refuses items of an exported list that are no rules. -/
def rulesOfItems (items : List Export) : Except Fault (List TokenRule) :=
  items.mapM fun item =>
    match item with
    | .rule rule => .ok rule
    | item => .error (.plugin (.notARule item.kindName))

/-- The rules that an export gives. Modules may refer to each other, so only `steps`
modules are followed. -/
def rulesOfExport (modules : Modules) : (steps : Nat) → Export → Except Fault (List TokenRule)
  | _, .rule rule => .ok [rule]
  | steps, .call result => rulesOfExport modules steps result
  | _, .fails message => .error (.raised .badRun message)
  | _, .check findings =>
    if findings.isEmpty then .ok [] else .error (.plugin (.notARule "Finding"))
  | _, .list items => rulesOfItems items
  | _, .tuple items => rulesOfItems items
  | 0, .moduleRef _ =>
    .error .endlessReference
  | steps + 1, .moduleRef name =>
    match modules.find? name with
    | none => .error (.plugin .noRules)
    | some plugin =>
      match plugin.members.get? "csf_token_rules", plugin.members.get? "TOKEN_RULES" with
      | some exported, _ => rulesOfExport modules steps exported
      | none, some exported => rulesOfExport modules steps exported
      | none, none => .error (.plugin .noRules)
  | _, .value held => .error (.plugin (.unsupportedExport held.kindName))

/-- The findings that calling an export gives. What is no finding has no line. -/
def findingsOf : Export → Except Fault (List Finding)
  | .check findings => .ok findings
  | .fails message => .error (.raised .badRun message)
  | .call (.list items) => findingsOfItems (items.map Export.kindName)
  | .call (.tuple items) => findingsOfItems (items.map Export.kindName)
  | .call (.value (.list items)) => findingsOfItems (items.map Value.kindName)
  | .call (.value (.table entries)) => findingsOfItems (entries.map fun _ => "str")
  | .call (.value (.text text)) => findingsOfItems (text.toList.map fun _ => "str")
  | .call item => .error (.notIterable item.kindName)
  | item => .error (.notCallable item.kindName)
where
  /-- The findings in a list of things that are none. -/
  findingsOfItems : List String → Except Fault (List Finding)
    | [] => .ok []
    | kind :: _ => .error (.missingMember kind "line")

/-- A module with a check, as a rule; the first line of its documentation describes it. -/
def ruleOfModule (plugin : PluginModule) (id : String) : Except Fault TokenRule :=
  match plugin.members.get? "check" with
  | some exported =>
    if exported.isCallable then
      let description := firstLine (trim (plugin.doc.getD "").toList)
      .ok ⟨id, String.ofList description, fun _ => findingsOf exported⟩
    else .error (.plugin (.noCheck plugin.name))
  | none => .error (.plugin (.noCheck plugin.name))

/-- A plugin name before its first colon, and the member after it. -/
def cutSpec (spec : List Char) : List Char × Option (List Char) :=
  match spec.dropWhile (· ≠ ':') with
  | [] => (spec, none)
  | _ :: member => (spec.takeWhile (· ≠ ':'), some member)

/-- The rules of one plugin, named without blanks around. -/
def loadPlugin (modules : Modules) (spec : List Char) : Except Fault (List TokenRule) := do
  let (moduleChars, member) := cutSpec spec
  let moduleName := String.ofList moduleChars
  let steps := modules.length + 1
  match modules.importModule moduleName with
  | .error reason => .error (.plugin (.importFailed moduleName reason))
  | .ok plugin =>
    match member with
    | some member =>
      match plugin.member? (String.ofList member) with
      | none => .error (.plugin (.noAttribute moduleName (String.ofList member)))
      | some exported => rulesOfExport modules steps exported
    | none =>
      let exports := plugin.members.has "csf_token_rules" || plugin.members.has "TOKEN_RULES"
      if !exports && ((plugin.members.get? "check").any Export.isCallable) then
        let last := (segments moduleName).getLast?.getD ""
        return [← ruleOfModule plugin (idOfModuleName last)]
      else rulesOfExport modules steps (.moduleRef moduleName)

/-- The rules of all plugins, in order; blank names are passed over. -/
def loadPlugins (modules : Modules) : List String → Except Fault (List TokenRule)
  | [] => .ok []
  | spec :: rest => do
    let name := trim spec.toList
    let rules ← if name.isEmpty then pure [] else loadPlugin modules name
    return rules ++ (← loadPlugins modules rest)

/-- Registers the built-in rules and then the rules of plugins. The plugins are loaded
between the two, so a plugin that cannot be loaded leaves the built-in rules
registered. -/
def Registry.load (registry : Registry) (modules : Modules) (specs : List String) : Loading :=
  let builtin := registry.registerAll [] builtinRules
  match builtin.fault with
  | some _ => builtin
  | none =>
    match loadPlugins modules specs with
    | .error fault => { builtin with fault := some fault }
    | .ok rules =>
      let loaded := builtin.registry.registerAll builtin.notices rules
      match loaded.fault with
      | some _ => loaded
      | none =>
        { loaded with
          notices := loaded.notices ++
            [.tokenRulesRegistered loaded.registry.size rules.length] }

end LineRules.Token
