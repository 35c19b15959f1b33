import FileSieve.Text.Quoted

/-!
# What can be wrong with a pattern

A malformed pattern has a fault at a place; the place is told as a position and, in a pattern
of several lines, as a line and a column too. Four further refusals have no place: a repeat
count or a numeral that is too large, two charsets at once, and groups that lie too deep.
-/

namespace FileSieve.Regex

open Text

/-- What is wrong at some place of a pattern. -/
inductive Fault where
  | loneBackslash
  | badEscape (escape : List Char)
  | incompleteEscape (escape : List Char)
  | octalTooLarge (escape : List Char)
  | missingBrace
  | missingName (what : String)
  | unterminatedName (closing : Char)
  | unknownCharacterName (name : List Char)
  | openGroup
  | groupOfSameLookbehind
  | invalidReference (index : Nat)
  | unterminatedSet
  | badRange (low high : List Char)
  | leastAboveMost
  | nothingToRepeat
  | multipleRepeat
  | unexpectedEnd
  | badGroupName (name : List Char)
  | unknownGroupName (name : List Char)
  | groupRedefined (name : List Char) (index former : Nat)
  | unknownExtension (extension : List Char)
  | unterminatedComment
  | unterminatedGroup
  | badGroupNumber
  | thirdBranch
  | lateGlobalFlags
  | localeFlag
  | clashingCharsets
  | unknownFlag
  | missingFlagsEnd
  | missingFlag
  | missingColon
  | globalFlagOn
  | globalFlagOff
  | charsetOff
  | flagOnAndOff
  | unbalancedParenthesis
  | lookbehindNotFixed
  | lookbehindTooWide
  | repeatForbidden (operator : String)
  deriving DecidableEq, Repr

/-- The wording of a fault. -/
def Fault.message : Fault → String
  | .loneBackslash => "bad escape (end of pattern)"
  | .badEscape e => "bad escape " ++ .ofList e
  | .incompleteEscape e => "incomplete escape " ++ .ofList e
  | .octalTooLarge e => "octal escape value " ++ .ofList e ++ " outside of range 0-0o377"
  | .missingBrace => "missing \x7b"
  | .missingName what => "missing " ++ what
  | .unterminatedName closing => "missing " ++ .ofList [closing] ++ ", unterminated name"
  | .unknownCharacterName name => "undefined character name " ++ .ofList (quoted name)
  | .openGroup => "cannot refer to an open group"
  | .groupOfSameLookbehind =>
    "cannot refer to group defined in the same lookbehind subpattern"
  | .invalidReference index => "invalid group reference " ++ toString index
  | .unterminatedSet => "unterminated character set"
  | .badRange low high => "bad character range " ++ .ofList low ++ "-" ++ .ofList high
  | .leastAboveMost => "min repeat greater than max repeat"
  | .nothingToRepeat => "nothing to repeat"
  | .multipleRepeat => "multiple repeat"
  | .unexpectedEnd => "unexpected end of pattern"
  | .badGroupName name => "bad character in group name " ++ .ofList (quoted name)
  | .unknownGroupName name => "unknown group name " ++ .ofList (quoted name)
  | .groupRedefined name index former =>
    "redefinition of group name " ++ .ofList (quoted name) ++ " as group " ++ toString index ++
      "; was group " ++ toString former
  | .unknownExtension e => "unknown extension ?" ++ .ofList e
  | .unterminatedComment => "missing ), unterminated comment"
  | .unterminatedGroup => "missing ), unterminated subpattern"
  | .badGroupNumber => "bad group number"
  | .thirdBranch => "conditional backref with more than two branches"
  | .lateGlobalFlags => "global flags not at the start of the expression"
  | .localeFlag => "bad inline flags: cannot use 'L' flag with a str pattern"
  | .clashingCharsets => "bad inline flags: flags 'a', 'u' and 'L' are incompatible"
  | .unknownFlag => "unknown flag"
  | .missingFlagsEnd => "missing -, : or )"
  | .missingFlag => "missing flag"
  | .missingColon => "missing :"
  | .globalFlagOn => "bad inline flags: cannot turn on global flag"
  | .globalFlagOff => "bad inline flags: cannot turn off global flag"
  | .charsetOff => "bad inline flags: cannot turn off flags 'a', 'u' and 'L'"
  | .flagOnAndOff => "bad inline flags: flag turned on and off"
  | .unbalancedParenthesis => "unbalanced parenthesis"
  | .lookbehindNotFixed => "look-behind requires fixed-width pattern"
  | .lookbehindTooWide => "looks too much behind"
  | .repeatForbidden operator => "internal: unsupported template operator " ++ operator

/-- Why a pattern is refused. -/
inductive Error where
  /-- A fault, at a position if it belongs to one. -/
  | malformed (fault : Fault) (position : Option Nat)
  /-- A repeat count of `2 ^ 32 - 1` or more. -/
  | repeatTooLarge
  /-- A repeat count too long to be read. -/
  | numeralTooLong
  /-- Both charsets are chosen for the whole pattern. -/
  | bothCharsets
  /-- There is no room for the groups inside each other. -/
  | tooDeep
  deriving DecidableEq, Repr

/-- The place of a position as it is told after the fault. -/
def placeText (pattern : List Char) (position : Nat) : String :=
  let before := pattern.take position
  let place := " at position " ++ toString position
  if pattern.contains '\n' then
    let line := before.count '\n' + 1
    let column := (before.reverse.takeWhile (· ≠ '\n')).length + 1
    place ++ " (line " ++ toString line ++ ", column " ++ toString column ++ ")"
  else place

/-- The full reason why a pattern is malformed. -/
def Fault.reason (fault : Fault) (pattern : List Char) (position : Option Nat) : String :=
  match position with
  | some p => fault.message ++ placeText pattern p
  | none => fault.message

end FileSieve.Regex
