/-!
# Command lines

What the program is asked for on its command line. Options before the command apply to
the whole program, those after it to the command; after `--` everything is an argument.
What cannot be understood is refused.
-/

namespace LineRules.Cli

/-- Options that were given: names in their long form, with the values of those that take
one. -/
abbrev Given := List (String × String)

/-- The options that a command knows: long names, each with the letter that it may be
shortened to and whether it takes a value. -/
abbrev Known := List (String × Option Char × Bool)

namespace Known

/-- Whether a long option takes a value, if it is known. -/
def takesValue? (known : Known) (name : String) : Option Bool :=
  (known.find? fun entry => entry.1 = name).map fun entry => entry.2.2

/-- The long name of a short flag. -/
def flag? (known : Known) (letter : Char) : Option String :=
  (known.find? fun entry => entry.2.1 = some letter).map Prod.fst

end Known

/-- What one word of a command line gives. -/
inductive Word where
  | flags (names : List String)
  | complete (name value : String)
  /-- An option whose value is the next word. -/
  | awaits (name : String)
deriving Repr, DecidableEq

/-- Whether a word is an option. -/
def isOption : List Char → Bool
  | '-' :: _ :: _ => true
  | _ => false

/-- Reads an option, if it is a known one. -/
def readWord (known : Known) (word : List Char) : Option Word :=
  let name := String.ofList (word.takeWhile (· ≠ '='))
  let value := word.dropWhile (· ≠ '=')
  match known.takesValue? name with
  | some true => if value.isEmpty then some (.awaits name)
    else some (.complete name (String.ofList value.tail))
  | some false => if value.isEmpty then some (.flags [name]) else none
  | none =>
    if word.take 2 = ['-', '-'] then none
    else (word.tail.mapM known.flag?).map .flags

/-- Reads the options among words. Unless options may stand among the arguments, the
first argument ends them. The result is what was given, and the arguments. -/
def readOptions (known : Known) (among : Bool) : List String → Option (Given × List String)
  | [] => some ([], [])
  | word :: rest =>
    if word = "--" then some ([], rest)
    else if isOption word.toList then
      match readWord known word.toList, rest with
      | none, _ => none
      | some (.flags names), rest =>
        (readOptions known among rest).map fun (given, arguments) =>
          (names.map (·, "") ++ given, arguments)
      | some (.complete name value), rest =>
        (readOptions known among rest).map fun (given, arguments) =>
          ((name, value) :: given, arguments)
      | some (.awaits _), [] => none
      | some (.awaits name), value :: rest =>
        (readOptions known among rest).map fun (given, arguments) =>
          ((name, value) :: given, arguments)
    else if among then
      (readOptions known among rest).map fun (given, arguments) => (given, word :: arguments)
    else some ([], word :: rest)

namespace Given

/-- Whether a flag was given. -/
def has (given : Given) (name : String) : Bool := given.any fun entry => entry.1 = name

/-- The value that was given last. -/
def last? (given : Given) (name : String) : Option String :=
  (given.reverse.find? fun entry => entry.1 = name).map Prod.snd

end Given

/-- How much the program says about its own work. -/
inductive Verbosity where
  | normal
  | verbose
  | quiet
deriving Repr, DecidableEq

/-- Where settings are taken from. -/
structure SettingsSource where
  /-- The file to take them from. -/
  file : Option String := none
  /-- Whether the defaults hold. -/
  defaults : Bool := false
deriving Repr, DecidableEq

/-- What a check is asked for. -/
structure CheckRequest where
  arguments : List String
  inlineEdit : Bool
  filenames : Bool
  relative : Bool
  format : String
  settings : SettingsSource
deriving Repr, DecidableEq

/-- What a listing of the rules is asked for. -/
structure ListRequest where
  directory : String
  format : String
  settings : SettingsSource
deriving Repr, DecidableEq

/-- What the program is asked for. -/
inductive Request where
  | version
  | help
  /-- A path that is looked up at once holds a null character. -/
  | nullInPath
  | check (request : CheckRequest)
  | list (request : ListRequest)
deriving Repr, DecidableEq

/-- The options of the whole program. -/
def programOptions : Known :=
  [("--version", none, false), ("--verbose", some 'v', false), ("--quiet", some 'q', false),
    ("--help", none, false)]

/-- The options that both commands have. -/
def commonOptions : Known :=
  [("--format", none, true), ("--config", none, true), ("--no-config", none, false),
    ("--help", none, false)]

/-- The options of a check. -/
def checkOptions : Known :=
  [("--inline-edit", some 'i', false), ("--filenames", none, false),
    ("--relative", none, false)] ++ commonOptions

/-- The source of settings that was given. -/
def settingsOf (given : Given) : SettingsSource :=
  ⟨Given.last? given "--config", Given.has given "--no-config"⟩

/-- The output format that was given. -/
def formatOf (given : Given) : String := (Given.last? given "--format").getD "terminal"

/-- Whether a text holds a null character. -/
def holdsNull (text : String) : Bool := text.toList.contains '\x00'

/-- Reads a command and its words. The file for settings and the directory of a listing are
looked up before anything is found to be missing or too much. -/
def readCommand (command : String) (words : List String) : Option Request :=
  if command = "check" then do
    let (given, arguments) ← readOptions checkOptions true words
    if Given.has given "--help" then return .help
    let settings := settingsOf given
    if settings.file.any holdsNull then return .nullInPath
    if arguments.isEmpty then none
    return .check {
      arguments
      inlineEdit := Given.has given "--inline-edit"
      filenames := Given.has given "--filenames"
      relative := Given.has given "--relative"
      format := formatOf given
      settings }
  else if command = "rules" then do
    let (given, arguments) ← readOptions commonOptions true words
    if Given.has given "--help" then return .help
    let settings := settingsOf given
    if (settings.file.toList ++ arguments.take 1).any holdsNull then return .nullInPath
    let directory ← match arguments with
      | [] => some "."
      | [directory] => some directory
      | _ => none
    return .list { directory, format := formatOf given, settings }
  else none

/-- Reads a command line: how much to say, and what is asked for. -/
def readArguments (words : List String) : Option (Verbosity × Request) := do
  if words.isEmpty then return (.normal, .help)
  let (given, arguments) ← readOptions programOptions false words
  match given.find? fun entry => entry.1 = "--version" || entry.1 = "--help" with
  | some (name, _) => return (.normal, if name = "--version" then .version else .help)
  | none =>
    let verbosity ← match Given.has given "--verbose", Given.has given "--quiet" with
      | true, true => none
      | true, false => some .verbose
      | false, true => some .quiet
      | false, false => some .normal
    match arguments with
    | [] => none
    | command :: words =>
      let request ← readCommand command words
      return (verbosity, request)

end LineRules.Cli
