import FileQuery.Number.Integer
import FileQuery.Text.Quoted

/-!
Why a regular expression is refused, and how that is worded.
-/

namespace FileQuery.Pattern

inductive Greed where
  | greedy
  | lazy
  | possessive
deriving DecidableEq, Repr

inductive Cause where
  | escapeAtEnd
  | badEscape (text : String)
  | incompleteEscape (text : String)
  | missingBrace
  | missingName (what : String)
  | unterminatedName (terminator : Char)
  | undefinedCharacter (name : String)
  | octalTooLarge (text : String)
  | openGroup
  | lookbehindGroup
  | unknownGroup (number : Nat)
  | unterminatedSet
  | badRange (first last : String)
  | repeatBounds
  | nothingToRepeat
  | multipleRepeat
  | unexpectedEnd
  | badGroupName (name : String)
  | unknownGroupName (name : String)
  | groupRedefined (name : String) (number earlier : Nat)
  | unknownExtension (text : String)
  | unterminatedComment
  | unterminatedGroup
  | badGroupNumber
  | manyBranches
  | lateFlags
  | localeFlag
  | incompatibleFlags
  | globalFlagOn
  | globalFlagOff
  | typeFlagOff
  | flagOnAndOff
  | unknownFlag
  | missingFlag
  | missingFlagEnd
  | missingColon
  | unbalancedClose
  | lookbehindWidth
  | lookbehindTooWide
  | templateRepeat (greed : Greed)
deriving DecidableEq, Repr

def Cause.text : Cause → String
  | .escapeAtEnd => "bad escape (end of pattern)"
  | .badEscape text => "bad escape " ++ text
  | .incompleteEscape text => "incomplete escape " ++ text
  | .missingBrace => "missing \x7b"
  | .missingName what => "missing " ++ what
  | .unterminatedName terminator => "missing " ++ terminator.toString ++ ", unterminated name"
  | .undefinedCharacter name => "undefined character name " ++ Text.quoted name
  | .octalTooLarge text => "octal escape value " ++ text ++ " outside of range 0-0o377"
  | .openGroup => "cannot refer to an open group"
  | .lookbehindGroup => "cannot refer to group defined in the same lookbehind subpattern"
  | .unknownGroup number => "invalid group reference " ++ toString number
  | .unterminatedSet => "unterminated character set"
  | .badRange first last => "bad character range " ++ first ++ "-" ++ last
  | .repeatBounds => "min repeat greater than max repeat"
  | .nothingToRepeat => "nothing to repeat"
  | .multipleRepeat => "multiple repeat"
  | .unexpectedEnd => "unexpected end of pattern"
  | .badGroupName name => "bad character in group name " ++ Text.quoted name
  | .unknownGroupName name => "unknown group name " ++ Text.quoted name
  | .groupRedefined name number earlier =>
    "redefinition of group name " ++ Text.quoted name ++ " as group " ++ toString number ++
      "; was group " ++ toString earlier
  | .unknownExtension text => "unknown extension ?" ++ text
  | .unterminatedComment => "missing ), unterminated comment"
  | .unterminatedGroup => "missing ), unterminated subpattern"
  | .badGroupNumber => "bad group number"
  | .manyBranches => "conditional backref with more than two branches"
  | .lateFlags => "global flags not at the start of the expression"
  | .localeFlag => "bad inline flags: cannot use 'L' flag with a str pattern"
  | .incompatibleFlags => "bad inline flags: flags 'a', 'u' and 'L' are incompatible"
  | .globalFlagOn => "bad inline flags: cannot turn on global flag"
  | .globalFlagOff => "bad inline flags: cannot turn off global flag"
  | .typeFlagOff => "bad inline flags: cannot turn off flags 'a', 'u' and 'L'"
  | .flagOnAndOff => "bad inline flags: flag turned on and off"
  | .unknownFlag => "unknown flag"
  | .missingFlag => "missing flag"
  | .missingFlagEnd => "missing -, : or )"
  | .missingColon => "missing :"
  | .unbalancedClose => "unbalanced parenthesis"
  | .lookbehindWidth => "look-behind requires fixed-width pattern"
  | .lookbehindTooWide => "looks too much behind"
  | .templateRepeat .greedy => "internal: unsupported template operator MAX_REPEAT"
  | .templateRepeat .lazy => "internal: unsupported template operator MIN_REPEAT"
  | .templateRepeat .possessive => "internal: unsupported template operator POSSESSIVE_REPEAT"

/-- Why there is no matcher for a regular expression: its text is at fault, at a position if the
fault has one, a number or the flags in it are out of all bounds, or the interpreter runs out of
stack. -/
inductive Fault where
  | refused (cause : Cause) (position : Option Nat)
  | repeatTooLarge
  | repeatUnreadable (digits : Nat)
  | asciiAndUnicode
  | tooDeep
deriving DecidableEq, Repr

/-- Whether a fault lies in the text, and is told to its author.  The other faults are not foreseen
where patterns are compiled. -/
def Fault.isRefusal : Fault → Bool
  | .refused .. => true
  | _ => false

/-- Whether a fault is a value that cannot be read, and foreseen where values are compared with
documents. -/
def Fault.isValueFault : Fault → Bool
  | .repeatTooLarge | .tooDeep => false
  | _ => true

def lineAndColumn (source : List Char) (position : Nat) : Nat × Nat :=
  let before := source.take position
  (before.count '\n' + 1, ((before.reverse.takeWhile (· != '\n')).length + 1))

def refusalText (source : String) (cause : Cause) (position : Option Nat) : String :=
  match position with
  | none => cause.text
  | some p =>
    let text := cause.text ++ " at position " ++ toString p
    if source.toList.contains '\n' then
      let (line, column) := lineAndColumn source.toList p
      text ++ " (line " ++ toString line ++ ", column " ++ toString column ++ ")"
    else text

def Fault.message (source : String) : Fault → String
  | .refused cause position => refusalText source cause position
  | .repeatTooLarge => "the repetition number is too large"
  | .repeatUnreadable digits => (Number.IntegerFault.tooLong digits).message
  | .asciiAndUnicode => "ASCII and UNICODE flags are incompatible"
  | .tooDeep => "maximum recursion depth exceeded"

end FileQuery.Pattern
