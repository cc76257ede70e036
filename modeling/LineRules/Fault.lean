import LineRules.Config.Error
import LineRules.Text.Utf8
import LineRules.Token.Error

/-!
# Faults

Everything that can stop the work on a rule, a configuration or a file, as causes.
`Fault.message` holds the wording of each.
-/

namespace LineRules

open LineRules.Text

/-- Why a rule cannot be evaluated. -/
inductive DefinitionGap where
  /-- Its test or its replacement needs a pattern, and it has none. -/
  | missingPattern
deriving Repr, DecidableEq

namespace DefinitionGap

/-- The wording of a gap. -/
def message : DefinitionGap → String
  | missingPattern => "a regex is required for this test/replacer"

end DefinitionGap

/-- The parts of a rule that are given as loosely typed values. -/
inductive RulePart where
  | test
  | message
  | replacer
  | ignorePattern
deriving Repr, DecidableEq

namespace RulePart

/-- What a part of a rule has to be, as a complaint says it. -/
def requirement : RulePart → String
  | test => "Rule test must be a mode name or a callable"
  | message => "Rule message must be a string, False or a callable"
  | replacer => "Rule replacer must be a string or a callable"
  | ignorePattern => "Rule-set IGNORE must be a pattern or a string"

end RulePart

/-- The kinds of failures that foreign code, such as callbacks and parsers, reports. -/
inductive FailureKind where
  | badMember
  | badKey
  | badValue
  | badType
  | badRun
  /-- A kind by a name of its own. -/
  | other (name : String)
deriving Repr, DecidableEq

/-- A cause that stops the work. Kinds of values are named as in messages. -/
inductive Fault where
  /-- A pattern or template is refused. -/
  | pattern (error : Pattern.PatternError)
  /-- A configuration is refused. -/
  | config (error : SettingError)
  /-- A plugin or token rule is refused. -/
  | plugin (error : PluginError)
  /-- A rule is incomplete for what it is asked to do. -/
  | definition (ruleSet rule : String) (gap : DefinitionGap)
  /-- A part of a rule has a value of the wrong kind. -/
  | rulePart (part : RulePart) (kind : String)
  /-- The test of a rule names no known mode. -/
  | testMode (shown : String)
  /-- The ignore policy of a rule is unknown. -/
  | ignorePolicy (shown : String)
  /-- A pattern is run on something that is no text. -/
  | notText (kind : String)
  /-- A replacement count is no integer. -/
  | countKind (kind : String)
  /-- A replacement count does not fit into 64 bits. -/
  | countRange
  /-- A value lacks a member that it is asked for. -/
  | missingMember (kind member : String)
  /-- A value that is no list is gone through. -/
  | notIterable (kind : String)
  /-- A value that is nothing to call is called. -/
  | notCallable (kind : String)
  /-- A built-in rule has lost its pattern. -/
  | patternMissing
  /-- Modules refer to each other without end. -/
  | endlessReference
  /-- A list or table stands where one of a few words is wanted. -/
  | notComparable (kind : String)
  /-- A number is written with more digits than numbers may have. -/
  | tooManyDigits (count : Nat)
  /-- A number has more digits than can be written. -/
  | numberTooLong
  /-- A page opens a block under a name that no closing tag is known for. -/
  | unknownBlock (tag : String)
  /-- A closing tag in a text for the terminal belongs to no open one. -/
  | unmatchedTag (tag : String) (position : Nat)
  /-- A tag that closes the last open one comes when none is open. -/
  | nothingToClose (position : Nat)
  /-- A path, or a name in it, is too long to be looked up. -/
  | pathTooLong (path : String)
  /-- A path that has to be looked up holds a null character. -/
  | nullInPath
  /-- A settings file is not UTF-8. -/
  | undecodable (error : Utf8.DecodeError)
  /-- Foreign code reports a failure of its own, by its kind and in its words. -/
  | raised (kind : FailureKind) (message : String)
deriving Repr, DecidableEq, Inhabited

namespace Fault

/-- The wording of a decoding fault. -/
def decodeMessage (error : Utf8.DecodeError) : String :=
  let place :=
    if error.stop = error.start + 1 then
      "byte 0x" ++ String.ofList (hexDigits 2 error.first)
        ++ " in position " ++ toString error.start
    else
      "bytes in position " ++ toString error.start ++ "-" ++ toString (error.stop - 1)
  "'utf-8' codec can't decode " ++ place ++ ": " ++ error.reason.message

/-- The wording of a fault. -/
def message : Fault → String
  | pattern error => error.message
  | config error => error.message
  | plugin error => error.message
  | definition ruleSet rule gap =>
    "Rule " ++ quote rule ++ " in rule-set " ++ quote ruleSet ++ ": " ++ gap.message
  | rulePart part kind => part.requirement ++ ", got: " ++ kind
  | testMode shown => "Unsupported rule test mode: " ++ shown
  | ignorePolicy shown => "Unsupported rule ignore policy: " ++ shown ++ " (expected 'node')."
  | notText kind => "expected string or bytes-like object, got '" ++ kind ++ "'"
  | countKind kind => "'" ++ kind ++ "' object cannot be interpreted as an integer"
  | countRange => "Python int too large to convert to C ssize_t"
  | missingMember kind member =>
    "'" ++ kind ++ "' object has no attribute '" ++ member ++ "'"
  | notIterable kind => "'" ++ kind ++ "' object is not iterable"
  | notCallable kind => "'" ++ kind ++ "' object is not callable"
  | patternMissing => ""
  | endlessReference => "maximum recursion depth exceeded"
  | notComparable kind => "unhashable type: '" ++ kind ++ "'"
  | tooManyDigits count => Decimal.tooManyDigitsMessage count
  | numberTooLong => Decimal.tooLongMessage
  | unknownBlock tag => quote tag
  | unmatchedTag tag position =>
    "closing tag '[" ++ tag ++ "]' at position " ++ toString position
      ++ " doesn't match any open tag"
  | nothingToClose position =>
    "closing tag '[/]' at position " ++ toString position ++ " has nothing to close"
  | pathTooLong path => "[Errno 36] File name too long: " ++ quote path
  | nullInPath => "embedded null byte"
  | undecodable error => decodeMessage error
  | raised _ message => message

end Fault

end LineRules
