import LineRules.Rule.Draft
import LineRules.Text.Split

/-!
# Rule-sets

A rule-set is an ordered table of rules; it may hold further rule-sets, the names of
others (aliases), and under the reserved name `IGNORE` a pattern for lines to leave
alone. A dotted name leads through nested rule-sets.
-/

namespace LineRules

open LineRules.Text

/-- What stands under a name in a rule-set. A text is the name of another rule-set, or
under `IGNORE` the text of a pattern. -/
inductive Entry where
  | rule (rule : Rule)
  | pattern (pattern : Pattern)
  | ruleSet (entries : List (String × Entry))
  | value (value : Value)
deriving Inhabited

/-- The entries of a rule-set, in the order of first insertion. -/
abbrev RuleSet := Keyed Entry

/-- The reserved name of the pattern for lines to leave alone. -/
def ignoreName : String := "IGNORE"

/-- Whether a name is reserved, so that no rule under it is run. -/
def isReserved (name : String) : Bool :=
  name = ignoreName || name.toList.head? = some '_'

namespace Entry

/-- The name of an entry's kind, as error messages give it. Rule-sets of a store are
read-only views. -/
def kindName (stored : Bool) : Entry → String
  | rule _ => "Rule"
  | pattern _ => "re.Pattern"
  | ruleSet _ => if stored then "mappingproxy" else "dict"
  | value held => held.kindName

/-- The entry as a pattern for lines to leave alone. -/
def asIgnorePattern (stored : Bool) : Entry → Except Fault (Option Pattern)
  | pattern compiled => .ok (some compiled)
  | value held => compileIgnore held
  | entry => .error (.rulePart .ignorePattern (entry.kindName stored))

mutual

/-- A value as an entry, in which every table is a rule-set. -/
def ofValue : Value → Entry
  | .table entries => ruleSet (ofValues entries)
  | held => value held

/-- The entries of a table as those of a rule-set. -/
def ofValues : List (String × Value) → List (String × Entry)
  | [] => []
  | (name, held) :: rest => (name, ofValue held) :: ofValues rest

end

/-- The name that an alias stands for. -/
def alias? : Entry → Option String
  | value (.text name) => some name
  | _ => none

/-- The entry as a rule-set, which it has to be. -/
def asRuleSet : Entry → Except Fault RuleSet
  | ruleSet entries => .ok entries
  | entry => .error (.missingMember (entry.kindName false) "items")

/-- The entries of a nested rule-set. -/
def ruleSet? : Entry → Option RuleSet
  | ruleSet entries => some entries
  | _ => none

end Entry

namespace RuleSet

/-- The entry at the end of a path of names through nested rule-sets. -/
def entryAlong? (root : RuleSet) : List String → Option Entry
  | [] => none
  | [name] => root.get? name
  | name :: rest =>
    match root.get? name with
    | some (.ruleSet entries) => entryAlong? entries rest
    | _ => none

/-- The entry at a dotted name. A name that ends in a point leads nowhere. -/
def entryAt? (root : RuleSet) (name : String) : Option Entry :=
  let path := segments name
  if path.getLast? = some "" then none else entryAlong? root path

mutual

/-- Lays one entry over another: two rule-sets are merged, anything else replaces. -/
def overlayEntry (old : Option Entry) : Entry → Entry
  | .ruleSet upper =>
    match old with
    | some (.ruleSet base) => .ruleSet (overlay base upper)
    | _ => .ruleSet upper
  | entry => entry

/-- Lays rule-sets over others, name by name. Names of the base keep their places, new
names come last. -/
def overlay (base : RuleSet) : List (String × Entry) → RuleSet
  | [] => base
  | (name, entry) :: rest =>
    overlay (base.put name (overlayEntry (base.get? name) entry)) rest

end

mutual

/-- Compiles the texts of ignore patterns in an entry under a name. -/
def compileEntry (name : String) : Entry → Except Fault Entry
  | .ruleSet entries => (compileIgnores entries).map .ruleSet
  | .value (.text source) =>
    if name = ignoreName then ((Pattern.compile source).mapError Fault.pattern).map .pattern
    else .ok (.value (.text source))
  | entry => .ok entry

/-- Compiles the texts of ignore patterns at every level. -/
def compileIgnores : List (String × Entry) → Except Fault RuleSet
  | [] => .ok []
  | (name, entry) :: rest => do
    let entry ← compileEntry name entry
    let rest ← compileIgnores rest
    return (name, entry) :: rest

end

mutual

/-- The dotted names of an entry and of what is nested in it, if it is a rule-set or an
alias. -/
def entryNames (name : String) : Entry → List String
  | .ruleSet entries => name :: namesUnder (name ++ ".") entries
  | .value (.text _) => [name]
  | _ => []

/-- The dotted names of all rule-sets and aliases, each before what is nested in it;
`path` goes before every name. -/
def namesUnder (path : String) : List (String × Entry) → List String
  | [] => []
  | (name, entry) :: rest => entryNames (path ++ name) entry ++ namesUnder path rest

end

mutual

/-- The number of aliases in an entry. -/
def entryAliases : Entry → Nat
  | .ruleSet entries => aliasCount entries
  | .value (.text _) => 1
  | _ => 0

/-- The number of aliases at all levels. -/
def aliasCount : List (String × Entry) → Nat
  | [] => 0
  | (_, entry) :: rest => entryAliases entry + aliasCount rest

end

end RuleSet

/-- A registry of named rule-sets, whose ignore patterns are compiled. -/
structure Store where
  root : RuleSet

/-- A reference to a rule-set. -/
inductive RuleSetRef where
  | null
  | named (name : String)
  | direct (entries : RuleSet)
  /-- A value that can refer to nothing. -/
  | other (value : Value)

namespace RuleSetRef

/-- A reference in quoted form, as log lines show it. -/
def quoted : RuleSetRef → String
  | null => Value.null.quoted
  | named name => quote name
  | direct _ => ""
  | other value => value.quoted

end RuleSetRef

namespace Store

/-- The store of a tree of rule-sets. -/
def ofRuleSets (entries : RuleSet) : Except Fault Store :=
  (RuleSet.compileIgnores entries).map Store.mk

/-- Follows aliases from a name to a rule-set, at most `steps` of them. -/
def follow (store : Store) : (steps : Nat) → String → Option RuleSet
  | 0, _ => none
  | steps + 1, name =>
    match store.root.entryAt? name with
    | some (.ruleSet entries) => some entries
    | some (.value (.text target)) => follow store steps target
    | _ => none

/-- The rule-set that a name stands for. A chain with more links than the store has
aliases goes round in a circle, so it leads nowhere. -/
def lookupName (store : Store) (name : String) : Option RuleSet :=
  store.follow (RuleSet.aliasCount store.root + 1) name

/-- The rule-set that a reference stands for, if any. -/
def lookup (store : Store) : RuleSetRef → Option RuleSet
  | .named name => store.lookupName name
  | .direct entries => some entries
  | _ => none

/-- Whether a name is an alias. -/
def isAlias (store : Store) (name : String) : Bool :=
  ((store.root.entryAt? name).bind Entry.alias?).isSome

/-- The dotted names of all rule-sets and aliases, in order. -/
def names (store : Store) : List String :=
  RuleSet.namesUnder "" store.root

/-- The store with rule-sets laid over it. -/
def merged (store : Store) (overrides : RuleSet) : Except Fault Store :=
  ofRuleSets (RuleSet.overlay store.root overrides)

end Store

end LineRules
