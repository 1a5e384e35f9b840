import FileQuery.Text.Digit
import FileQuery.Text.Blank
import FileQuery.Text.Quoted

/-!
Decimal integers.  Reading takes decimal digits of any script; a text with more digits than the limit
is not converted, and an integer with more digits than the limit is not written.
-/

namespace FileQuery.Number

/-- The most digits of an integer that is read or written in decimal. -/
def digitLimit : Nat := 4300

inductive IntegerFault where
  | tooLong (digits : Nat)
  | malformed (text : String)
deriving DecidableEq, Repr

def IntegerFault.message : IntegerFault → String
  | .tooLong digits =>
    "Exceeds the limit (" ++ toString digitLimit ++
      " digits) for integer string conversion: value has " ++ toString digits ++
      " digits; use sys.set_int_max_str_digits() to increase the limit"
  | .malformed text => "invalid literal for int() with base 10: " ++ Text.quoted text

def digitsValue? (value : Nat) : List Char → Option Nat
  | [] => some value
  | c :: rest =>
    match Text.decimalValue? c with
    | some d => digitsValue? (10 * value + d) rest
    | none => none

def readDigits (shown : String) (digits : List Char) : Except IntegerFault Nat :=
  if digits.isEmpty then .error (.malformed shown)
  else if digits.any (fun c => (Text.decimalValue? c).isNone) then .error (.malformed shown)
  else if digitLimit < digits.length then .error (.tooLong digits.length)
  else
    match digitsValue? 0 digits with
    | some n => .ok n
    | none => .error (.malformed shown)

def readInteger (shown : String) : List Char → Except IntegerFault Int
  | '-' :: digits => (readDigits shown digits).map fun n => -(n : Int)
  | '+' :: digits => (readDigits shown digits).map Int.ofNat
  | digits => (readDigits shown digits).map Int.ofNat

def joinDigitGroups : List Char → Option (List Char)
  | [] => some []
  | ['_'] => none
  | '_' :: '_' :: _ => none
  | '_' :: rest => joinDigitGroups rest
  | c :: rest => (joinDigitGroups rest).map (c :: ·)

def readLooseInteger (s : List Char) : Option Int :=
  let s := Text.trimNumber s
  let (negative, digits) := match s with
    | '-' :: digits => (true, digits)
    | '+' :: digits => (false, digits)
    | digits => (false, digits)
  if digits.head? == some '_' then none
  else
    match joinDigitGroups digits with
    | none => none
    | some digits =>
      match readDigits "" digits with
      | .error _ => none
      | .ok n => some (if negative then -(n : Int) else n)

/-- Whether an integer has few enough digits to be written. -/
def isWritable (n : Int) : Bool := n.natAbs < Nat.pow 10 digitLimit

end FileQuery.Number
