import YamlAudit.Decimal.Numeral
import YamlAudit.Pattern.Basic

/-!
# Pattern — Flaw

What can be wrong with the text of a pattern, where it lies, and how that is worded.  The place is a
position in the text; in a text of several lines the line and the column are given as well.
-/

namespace YamlAudit

/-- What is wrong with the text of a pattern. -/
inductive FlawCause where
  | unterminatedSet
  | badRange (first last : String)
  | unterminatedGroup
  | unterminatedComment
  | unbalanced
  | endOfPattern
  | nothingToRepeat
  | multipleRepeat
  | minAboveMax
  /-- A count no repetition can have. -/
  | countTooLarge
  /-- A count of too many digits. -/
  | overlongCount (digits : Nat)
  | danglingEscape
  | badEscape (text : String)
  /-- The code of an escape is far beyond all code points. -/
  | codeTooLarge
  | incompleteEscape (text : String)
  | octalRange (text : String)
  | noCharacterName
  | undefinedCharacter (name : String)
  | unknownExtension (text : String)
  | missingText (what : String)
  | badGroupName (name : String)
  | repeatedGroupName (name : String) (number earlier : Nat)
  | unknownGroupName (name : String)
  | badGroupNumber
  | noSuchGroup (number : Nat)
  | openGroup
  /-- A reference to a group of the same look behind. -/
  | groupBehind
  | thirdBranch
  | lateFlags
  | unknownFlag
  | byteFlag
  | incompatibleFlags
  | fixedFlags
  | flagOnAndOff
  /-- A group turns on the flag that is only for whole patterns. -/
  | wholeFlagOn
  | wholeFlagOff
  /-- The whole pattern has letters of ASCII and letters of all scripts. -/
  | bothAlphabets
  /-- A repetition in a pattern that may have none. -/
  | barredLoop (appetite : Appetite)
  /-- A look behind at stretches of different lengths. -/
  | variableWidth
  | looksTooFar
  /-- A look behind at stretches longer than can be looked for. -/
  | longLook
  deriving DecidableEq, Repr, Inhabited

/-- The name of a kind of repetition. -/
def Appetite.label : Appetite → String
  | greedy => "MAX_REPEAT"
  | lazy => "MIN_REPEAT"
  | possessive => "POSSESSIVE_REPEAT"

/-- The wording of a cause. -/
def FlawCause.message : FlawCause → String
  | unterminatedSet => "unterminated character set"
  | badRange first last => "bad character range " ++ first ++ "-" ++ last
  | unterminatedGroup => "missing ), unterminated subpattern"
  | unterminatedComment => "missing ), unterminated comment"
  | unbalanced => "unbalanced parenthesis"
  | endOfPattern => "unexpected end of pattern"
  | nothingToRepeat => "nothing to repeat"
  | multipleRepeat => "multiple repeat"
  | minAboveMax => "min repeat greater than max repeat"
  | countTooLarge => "the repetition number is too large"
  | overlongCount digits => (NumeralFault.tooManyDigits digits).message 10 []
  | danglingEscape => "bad escape (end of pattern)"
  | badEscape text => "bad escape " ++ text
  | codeTooLarge => "Python int too large to convert to C int"
  | incompleteEscape text => "incomplete escape " ++ text
  | octalRange text => "octal escape value " ++ text ++ " outside of range 0-0o377"
  | noCharacterName => "missing \x7b"
  | undefinedCharacter name => "undefined character name " ++ quoted name
  | unknownExtension text => "unknown extension ?" ++ text
  | missingText what => "missing " ++ what
  | badGroupName name => "bad character in group name " ++ quoted name
  | repeatedGroupName name number earlier =>
    "redefinition of group name " ++ quoted name ++ " as group " ++ toString number ++ "; was group "
      ++ toString earlier
  | unknownGroupName name => "unknown group name " ++ quoted name
  | badGroupNumber => "bad group number"
  | noSuchGroup number => "invalid group reference " ++ toString number
  | openGroup => "cannot refer to an open group"
  | groupBehind => "cannot refer to group defined in the same lookbehind subpattern"
  | thirdBranch => "conditional backref with more than two branches"
  | lateFlags => "global flags not at the start of the expression"
  | unknownFlag => "unknown flag"
  | byteFlag => "bad inline flags: cannot use 'L' flag with a str pattern"
  | incompatibleFlags => "bad inline flags: flags 'a', 'u' and 'L' are incompatible"
  | fixedFlags => "bad inline flags: cannot turn off flags 'a', 'u' and 'L'"
  | flagOnAndOff => "bad inline flags: flag turned on and off"
  | wholeFlagOn => "bad inline flags: cannot turn on global flag"
  | wholeFlagOff => "bad inline flags: cannot turn off global flag"
  | bothAlphabets => "ASCII and UNICODE flags are incompatible"
  | barredLoop appetite => "internal: unsupported template operator " ++ appetite.label
  | variableWidth => "look-behind requires fixed-width pattern"
  | looksTooFar => "looks too much behind"
  | longLook => "invalid SRE code"

/-- Whether a cause is a fault of the text of a pattern; the others are limits of what can be read. -/
def FlawCause.isReported : FlawCause → Bool
  | countTooLarge | overlongCount _ | codeTooLarge | bothAlphabets | longLook => false
  | _ => true

/-- What is wrong and, if it can be told, at which position. -/
structure Flaw where
  cause : FlawCause
  position : Option Nat
  deriving DecidableEq, Repr, Inhabited

/-- The wording of a flaw in the pattern `source`. -/
def Flaw.message (f : Flaw) (source : String) : String :=
  match f.position with
  | none => f.cause.message
  | some n =>
    let cs := source.toList
    let before := cs.take n
    let place := if cs.contains '\n' then
        " (line " ++ toString (before.count '\n' + 1) ++ ", column "
          ++ toString ((before.reverse.takeWhile (· != '\n')).length + 1) ++ ")"
      else ""
    f.cause.message ++ " at position " ++ toString n ++ place

end YamlAudit
