import Sheetflow.Number.Numeral
import Sheetflow.Text.Quoted

/-!
# Faults in the text of a pattern

Each fault has a cause and, mostly, a position in the pattern. The message gives the position, and in
a pattern of several lines the line and the column too.
-/

namespace Sheetflow.Pattern

/-- What is wrong with the text of a pattern. -/
inductive Cause where
  | danglingBackslash
  | badEscape (escape : String)
  | incompleteEscape (escape : String)
  | missing (what : String)
  | unterminatedName (terminator : String)
  | undefinedCharacter (name : String)
  | octalTooLarge (escape : String)
  | openGroup
  | groupInsideLookBehind
  | invalidGroup (group : Nat)
  | unterminatedSet
  | badRange (lo hi : String)
  | leastAboveMost
  | nothingToRepeat
  | multipleRepeat
  | unexpectedEnd
  | badGroupName (name : String)
  | unknownGroupName (name : String)
  | unknownExtension (text : String)
  | unterminatedComment
  | unterminatedGroup
  | badGroupNumber
  | tooManyBranches
  | flagsNotAtStart
  | groupRedefined (name : String) (group earlier : Nat)
  | localeFlag
  | incompatibleFlags
  | unknownFlag
  | cannotTurnOnGlobal
  | cannotTurnOffGlobal
  | cannotTurnOffType
  | flagOnAndOff
  | unbalanced
  | variableLookBehind
  | farLookBehind
  | templateRepeat (operator : String)
deriving DecidableEq, Repr

def Cause.message : Cause → String
  | .danglingBackslash => "bad escape (end of pattern)"
  | .badEscape e => "bad escape " ++ e
  | .incompleteEscape e => "incomplete escape " ++ e
  | .missing what => "missing " ++ what
  | .unterminatedName t => "missing " ++ t ++ ", unterminated name"
  | .undefinedCharacter name => "undefined character name " ++ Text.quoted name
  | .octalTooLarge e => "octal escape value " ++ e ++ " outside of range 0-0o377"
  | .openGroup => "cannot refer to an open group"
  | .groupInsideLookBehind => "cannot refer to group defined in the same lookbehind subpattern"
  | .invalidGroup n => "invalid group reference " ++ toString n
  | .unterminatedSet => "unterminated character set"
  | .badRange lo hi => "bad character range " ++ lo ++ "-" ++ hi
  | .leastAboveMost => "min repeat greater than max repeat"
  | .nothingToRepeat => "nothing to repeat"
  | .multipleRepeat => "multiple repeat"
  | .unexpectedEnd => "unexpected end of pattern"
  | .badGroupName name => "bad character in group name " ++ Text.quoted name
  | .unknownGroupName name => "unknown group name " ++ Text.quoted name
  | .unknownExtension t => "unknown extension " ++ t
  | .unterminatedComment => "missing ), unterminated comment"
  | .unterminatedGroup => "missing ), unterminated subpattern"
  | .badGroupNumber => "bad group number"
  | .tooManyBranches => "conditional backref with more than two branches"
  | .flagsNotAtStart => "global flags not at the start of the expression"
  | .groupRedefined name group earlier =>
    "redefinition of group name " ++ Text.quoted name ++ " as group " ++ toString group ++
      "; was group " ++ toString earlier
  | .localeFlag => "bad inline flags: cannot use 'L' flag with a str pattern"
  | .incompatibleFlags => "bad inline flags: flags 'a', 'u' and 'L' are incompatible"
  | .unknownFlag => "unknown flag"
  | .cannotTurnOnGlobal => "bad inline flags: cannot turn on global flag"
  | .cannotTurnOffGlobal => "bad inline flags: cannot turn off global flag"
  | .cannotTurnOffType => "bad inline flags: cannot turn off flags 'a', 'u' and 'L'"
  | .flagOnAndOff => "bad inline flags: flag turned on and off"
  | .unbalanced => "unbalanced parenthesis"
  | .variableLookBehind => "look-behind requires fixed-width pattern"
  | .farLookBehind => "looks too much behind"
  | .templateRepeat operator => "internal: unsupported template operator " ++ operator

structure Fault where
  cause : Cause
  position : Option Nat
deriving DecidableEq, Repr

/-- The line of a position, from 1, and the column in it, from 1. -/
def lineAndColumn (text : List Char) (position : Nat) : Nat × Nat :=
  let before := text.take position
  (before.count '\n' + 1, (before.reverse.takeWhile (· != '\n')).length + 1)

/-- The message for a fault in the given pattern. -/
def Fault.message (pattern : String) (f : Fault) : String :=
  match f.position with
  | none => f.cause.message
  | some p =>
    let text := f.cause.message ++ " at position " ++ toString p
    let cs := pattern.toList
    if cs.contains '\n' then
      let (line, column) := lineAndColumn cs p
      text ++ " (line " ++ toString line ++ ", column " ++ toString column ++ ")"
    else text

/-- Why a text is no pattern. -/
inductive Error where
  | fault (f : Fault)
  | repetitionTooLarge
  /-- The number of a repetition is too long to be read. -/
  | numeral (e : NumeralTooLong)
  | asciiAndUnicode
deriving DecidableEq

end Sheetflow.Pattern
