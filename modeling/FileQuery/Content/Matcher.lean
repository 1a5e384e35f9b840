import FileQuery.Operator
import FileQuery.Pattern.Compile

/-!
Conditions on content: a text that occurs anywhere, a line that a regular expression matches, or the
whole content.
-/

namespace FileQuery.Content

inductive Matcher where
  | contains (needle : String)
  | line (p : Pattern)
  | equals (expected : String)
deriving DecidableEq, Repr

inductive MatcherFault where
  | operator (op : Operator)
  | regex (fault : Pattern.Fault)
deriving DecidableEq, Repr

def MatcherFault.message (text : String) : MatcherFault → String
  | .operator op => "operator '" ++ op.spelling ++ "' is not valid for content"
  | .regex fault => fault.message text

namespace Matcher

def compile (stack : Pattern.Stack) (op : Operator) (text : String) : Except MatcherFault Matcher :=
  match op with
  | .contains => .ok (.contains text)
  | .matching => ((Pattern.ofRegex stack text).map .line).mapError .regex
  | .eq => .ok (.equals text)
  | op => .error (.operator op)

def operator : Matcher → Operator
  | .contains _ => .contains
  | .line _ => .matching
  | .equals _ => .eq

def text : Matcher → String
  | .contains needle => needle
  | .line p => p.source
  | .equals expected => expected

end Matcher

end FileQuery.Content
