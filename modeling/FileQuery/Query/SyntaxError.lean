/-!
Syntax errors of the query language.  An error is a cause, the character position it points at and
the set of things that would have been accepted there; its wording is one function of these and of
the query text, because offsets are reported in bytes.
-/

namespace FileQuery.Query

inductive Expected where
  | escapable (c : Char)
  | quote (c : Char)
  | closingBracket
  | item
  | comma
  | selector
  | openParen
  | closeParen
  | bang
  | notWord
  | value
  | andSign
  | orSign
  | andWord
  | orWord
  | endOfInput
deriving DecidableEq, Repr

def Expected.spelling : Expected → String
  | .escapable c => c.toString
  | .quote c => c.toString
  | .closingBracket => "]"
  | .item => "value"
  | .comma => ","
  | .selector => "selector"
  | .openParen => "("
  | .closeParen => ")"
  | .bang => "!"
  | .notWord => "NOT"
  | .value => "value"
  | .andSign => "&&"
  | .orSign => "||"
  | .andWord => "AND"
  | .orWord => "OR"
  | .endOfInput => "end of input"

inductive SyntaxCause where
  | unterminatedEscape
  | invalidEscape (c : Char)
  | unterminatedString
  | unterminatedSet
  | missingItem
  | strayInSet (c : Char)
  | unterminatedBracket
  | emptyQuery
  | unbalancedClose
  | unclosedOpen
  | unexpectedToken (text : String)
  | unexpectedEnd
  | missingValue (operator : String)
deriving DecidableEq, Repr

def SyntaxCause.text : SyntaxCause → String
  | .unterminatedEscape => "Unterminated escape sequence"
  | .invalidEscape c => "Invalid escape sequence: \\" ++ c.toString
  | .unterminatedString => "Unterminated string"
  | .unterminatedSet => "Unterminated set"
  | .missingItem => "Expected set item"
  | .strayInSet c => "Unexpected character in set: " ++ c.toString
  | .unterminatedBracket => "Unterminated bracket"
  | .emptyQuery => "Empty query"
  | .unbalancedClose => "Unbalanced ')'"
  | .unclosedOpen => "Unclosed '('"
  | .unexpectedToken text => "Unexpected token: " ++ text
  | .unexpectedEnd => "Unexpected end of input"
  | .missingValue operator => "Expected value after '" ++ operator ++ "'"

structure SyntaxError where
  cause : SyntaxCause
  position : Nat
  expected : List Expected
deriving DecidableEq, Repr

def byteOffset (query : String) (position : Nat) : Nat :=
  (String.ofList (query.toList.take position)).utf8ByteSize

namespace SyntaxError

/-- The spellings of what was expected, in code point order. -/
def spellings (e : SyntaxError) : List String :=
  (e.expected.map Expected.spelling).mergeSort (fun a b => decide (a ≤ b))

def message (query : String) (e : SyntaxError) : String :=
  let head := e.cause.text ++ " at byte " ++ toString (byteOffset query e.position)
  match e.spellings with
  | [] => head
  | names => head ++ " (expected one of: " ++ String.intercalate ", " names ++ ")"

end SyntaxError

end FileQuery.Query
