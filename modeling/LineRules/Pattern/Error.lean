import LineRules.Decimal.Limit
import LineRules.Pattern.Node
import LineRules.Text.Quoted

/-!
# Refusals of patterns

Why the text of a pattern or of a replacement template is refused. Most refusals name
a place in the text; a text of several lines has the place by line and column too.
-/

namespace LineRules.Pattern

open LineRules.Text

/-- What is wrong with the text of a pattern or template. -/
inductive Complaint where
  | escapeAtEnd
  | badEscape (escape : List Char)
  | incompleteEscape (escape : List Char)
  | octalTooLarge (escape : List Char)
  | missingOpenBrace
  | unknownCharacterName (name : List Char)
  | unterminatedSet
  | badRange (range : List Char)
  | unterminatedGroup
  | unterminatedComment
  | unbalancedParenthesis
  | unexpectedEnd
  | nothingToRepeat
  | multipleRepeat
  | countsReversed
  | missing (what : String)
  | missingTerminator (terminator : Char)
  | badGroupName (name : List Char)
  | unknownGroupName (name : List Char)
  | redefinedGroup (name : List Char) (index earlier : Nat)
  | badGroupNumber
  | invalidReference (index : Nat)
  | openReference
  | behindReference
  | tooManyGroups
  | unknownExtension (shown : List Char)
  | tooManyBranches
  | lateFlags
  | unknownFlag
  | flagNotForText
  | flagsExclusive
  | exclusiveFlagOff
  | globalFlagOn
  | globalFlagOff
  | flagOnAndOff
  | variableBehind
  | repeatInTemplate (appetite : Appetite)
  | outOfSteps
deriving Repr, DecidableEq

namespace Complaint

/-- What a kind of repetition is called. -/
def repeatName : Appetite → String
  | .greedy => "MAX_REPEAT"
  | .lazy => "MIN_REPEAT"
  | .possessive => "POSSESSIVE_REPEAT"

/-- The wording of a complaint. -/
def message : Complaint → String
  | escapeAtEnd => "bad escape (end of pattern)"
  | badEscape escape => "bad escape " ++ String.ofList escape
  | incompleteEscape escape => "incomplete escape " ++ String.ofList escape
  | octalTooLarge escape =>
    "octal escape value " ++ String.ofList escape ++ " outside of range 0-0o377"
  | missingOpenBrace => "missing \x7b"
  | unknownCharacterName name => "undefined character name " ++ quote (String.ofList name)
  | unterminatedSet => "unterminated character set"
  | badRange range => "bad character range " ++ String.ofList range
  | unterminatedGroup => "missing ), unterminated subpattern"
  | unterminatedComment => "missing ), unterminated comment"
  | unbalancedParenthesis => "unbalanced parenthesis"
  | unexpectedEnd => "unexpected end of pattern"
  | nothingToRepeat => "nothing to repeat"
  | multipleRepeat => "multiple repeat"
  | countsReversed => "min repeat greater than max repeat"
  | missing what => "missing " ++ what
  | missingTerminator terminator =>
    "missing " ++ String.singleton terminator ++ ", unterminated name"
  | badGroupName name => "bad character in group name " ++ quote (String.ofList name)
  | unknownGroupName name => "unknown group name " ++ quote (String.ofList name)
  | redefinedGroup name index earlier =>
    "redefinition of group name " ++ quote (String.ofList name) ++ " as group "
      ++ toString index ++ "; was group " ++ toString earlier
  | badGroupNumber => "bad group number"
  | invalidReference index => "invalid group reference " ++ toString index
  | openReference => "cannot refer to an open group"
  | behindReference => "cannot refer to group defined in the same lookbehind subpattern"
  | tooManyGroups => "too many groups"
  | unknownExtension shown => "unknown extension ?" ++ String.ofList shown
  | tooManyBranches => "conditional backref with more than two branches"
  | lateFlags => "global flags not at the start of the expression"
  | unknownFlag => "unknown flag"
  | flagNotForText => "bad inline flags: cannot use 'L' flag with a str pattern"
  | flagsExclusive => "bad inline flags: flags 'a', 'u' and 'L' are incompatible"
  | exclusiveFlagOff => "bad inline flags: cannot turn off flags 'a', 'u' and 'L'"
  | globalFlagOn => "bad inline flags: cannot turn on global flag"
  | globalFlagOff => "bad inline flags: cannot turn off global flag"
  | flagOnAndOff => "bad inline flags: flag turned on and off"
  | variableBehind => "look-behind requires fixed-width pattern"
  | repeatInTemplate appetite =>
    "internal: unsupported template operator " ++ repeatName appetite
  | outOfSteps => "pattern too deeply nested"

end Complaint

/-- A place in a text; by line and column too, both counted from one, when the text has
several lines. -/
structure Place where
  position : Nat
  lineColumn : Option (Nat × Nat)
deriving Repr, DecidableEq

namespace Place

/-- The place at a position of a text. -/
def ofPosition (text : List Char) (position : Nat) : Place where
  position
  lineColumn :=
    if text.contains '\n' then
      let before := text.take position
      let column := (before.reverse.takeWhile (· ≠ '\n')).length + 1
      some (before.count '\n' + 1, column)
    else none

/-- The wording of a place. -/
def message (place : Place) : String :=
  " at position " ++ toString place.position ++
    match place.lineColumn with
    | some (line, column) =>
      " (line " ++ toString line ++ ", column " ++ toString column ++ ")"
    | none => ""

end Place

/-- Why a pattern or template cannot be used. -/
inductive PatternError where
  /-- The text is malformed, at a place if one is to blame. -/
  | malformed (complaint : Complaint) (place : Option Place)
  /-- A repetition count reaches the limit for counts. -/
  | countTooLarge
  /-- The flags for ASCII and for all scripts are both given for the whole pattern. -/
  | flagsIncompatible
  /-- A number is written with more digits than numbers may have. -/
  | tooManyDigits (count : Nat)
  /-- A template names a group that the pattern does not have. -/
  | noSuchGroup (name : List Char)
deriving Repr, DecidableEq

namespace PatternError

/-- The wording of an error. -/
def message : PatternError → String
  | malformed complaint place => complaint.message ++ (place.map Place.message).getD ""
  | countTooLarge => "the repetition number is too large"
  | flagsIncompatible => "ASCII and UNICODE flags are incompatible"
  | tooManyDigits count => Decimal.tooManyDigitsMessage count
  | noSuchGroup name => "unknown group name " ++ quote (String.ofList name)

/-- Whether the error is about how the text is written. -/
def isMalformed : PatternError → Bool
  | malformed _ _ => true
  | _ => false

end PatternError

end LineRules.Pattern
