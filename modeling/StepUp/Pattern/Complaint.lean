import StepUp.Text.Quoted
import StepUp.Json.Parser

/-!
# Why a pattern is refused

A complaint is the cause; where it arises from reading the pattern it comes with a position.
Besides complaints there are bounds too large to count to and contradictory options.
-/

namespace StepUp.Pattern

inductive Complaint where
  | trailingBackslash
  | missing (what : Text)
  | unterminatedName (terminator : CodePoint)
  | badGroupName (name : Text)
  | unknownGroupName (name : Text)
  | redefinedGroupName (name : Text) (group former : Nat)
  | badGroupNumber
  | invalidGroup (group : Nat)
  | openGroup
  | groupInSameLookbehind
  | incompleteEscape (escape : Text)
  | badEscape (escape : Text)
  | octalTooLarge (escape : Text)
  | unknownCharacterName (name : Text)
  | unterminatedSet
  | badRange (low high : Text)
  | reversedBounds
  | nothingToRepeat
  | multipleRepeat
  | unexpectedEnd
  | unknownExtension (text : Text)
  | tooManyBranches
  | lateGlobalFlags
  | unknownFlag
  | localeFlag
  | incompatibleFlags
  | globalFlagOn
  | typeFlagOff
  | globalFlagOff
  | flagOnAndOff
  | unbalancedParenthesis
  | variableLookbehind
  | longLookbehind
  | templateOperator (name : Text)
deriving DecidableEq

namespace Complaint

def message : Complaint → Text
  | .trailingBackslash => "bad escape (end of pattern)"
  | .missing what => "missing " ++ what
  | .unterminatedName t => "missing " ++ [t] ++ ", unterminated name"
  | .badGroupName name => "bad character in group name " ++ Text.quoted name
  | .unknownGroupName name => "unknown group name " ++ Text.quoted name
  | .redefinedGroupName name group former =>
    "redefinition of group name " ++ Text.quoted name ++ " as group " ++ Text.ofNat group
      ++ "; was group " ++ Text.ofNat former
  | .badGroupNumber => "bad group number"
  | .invalidGroup group => "invalid group reference " ++ Text.ofNat group
  | .openGroup => "cannot refer to an open group"
  | .groupInSameLookbehind => "cannot refer to group defined in the same lookbehind subpattern"
  | .incompleteEscape escape => "incomplete escape " ++ escape
  | .badEscape escape => "bad escape " ++ escape
  | .octalTooLarge escape => "octal escape value " ++ escape ++ " outside of range 0-0o377"
  | .unknownCharacterName name => "undefined character name " ++ Text.quoted name
  | .unterminatedSet => "unterminated character set"
  | .badRange low high => "bad character range " ++ low ++ "-" ++ high
  | .reversedBounds => "min repeat greater than max repeat"
  | .nothingToRepeat => "nothing to repeat"
  | .multipleRepeat => "multiple repeat"
  | .unexpectedEnd => "unexpected end of pattern"
  | .unknownExtension text => "unknown extension ?" ++ text
  | .tooManyBranches => "conditional backref with more than two branches"
  | .lateGlobalFlags => "global flags not at the start of the expression"
  | .unknownFlag => "unknown flag"
  | .localeFlag => "bad inline flags: cannot use 'L' flag with a str pattern"
  | .incompatibleFlags => "bad inline flags: flags 'a', 'u' and 'L' are incompatible"
  | .globalFlagOn => "bad inline flags: cannot turn on global flag"
  | .typeFlagOff => "bad inline flags: cannot turn off flags 'a', 'u' and 'L'"
  | .globalFlagOff => "bad inline flags: cannot turn off global flag"
  | .flagOnAndOff => "bad inline flags: flag turned on and off"
  | .unbalancedParenthesis => "unbalanced parenthesis"
  | .variableLookbehind => "look-behind requires fixed-width pattern"
  | .longLookbehind => "looks too much behind"
  | .templateOperator name => "internal: unsupported template operator " ++ name

end Complaint

inductive Refusal where
  | malformed (complaint : Complaint) (position : Option Nat)
  | hugeBound
  | oversizedBound (digits : Nat)
  | flagConflict
deriving DecidableEq

namespace Refusal

/-- A position comes with line and column where the pattern has several lines. -/
def message (pattern : Text) : Refusal → Text
  | .malformed complaint none => complaint.message
  | .malformed complaint (some position) =>
    let (line, column) := Json.lineColumn pattern position
    complaint.message ++ " at position " ++ Text.ofNat position ++
      (if pattern.contains (CodePoint.ofChar '\n') then
        " (line " ++ Text.ofNat line ++ ", column " ++ Text.ofNat column ++ ")"
      else [] : Text)
  | .hugeBound => "the repetition number is too large"
  | .oversizedBound digits => Json.oversizedIntegerMessage digits
  | .flagConflict => "ASCII and UNICODE flags are incompatible"

end Refusal

end StepUp.Pattern
