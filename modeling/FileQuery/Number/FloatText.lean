import FileQuery.Number.Binary64
import FileQuery.Number.Integer

/-!
Reading floating-point numbers: a sign, digits of any script with a point, and an exponent.
-/

namespace FileQuery.Number

/-- A number as written: its sign, its digits without the point, how many of them follow the point,
and its exponent. -/
structure WrittenFloat where
  negative : Bool
  digits : List Char
  places : Nat
  exponent : Int

def WrittenFloat.value (w : WrittenFloat) : Binary64 :=
  Binary64.ofDecimal w.negative ((digitsValue? 0 w.digits).getD 0) (w.exponent - w.places)

def takeSign : List Char → Bool × List Char
  | '-' :: rest => (true, rest)
  | '+' :: rest => (false, rest)
  | rest => (false, rest)

def readExponent : List Char → Option Int
  | [] => some 0
  | e :: rest =>
    if e == 'e' || e == 'E' then
      let (negative, digits) := takeSign rest
      if digits.isEmpty then none
      else (digitsValue? 0 digits).map fun n => if negative then -(n : Int) else n
    else none

/-- Reads a number that takes up a whole text: digits, a point and an exponent, of which the last
two may be missing, and the digits on one side of the point. -/
def readFloat (s : List Char) : Option WrittenFloat :=
  let (negative, s) := takeSign s
  let whole := s.takeWhile Text.isDecimal
  let rest := s.dropWhile Text.isDecimal
  let (fraction, rest) := match rest with
    | '.' :: rest => (rest.takeWhile Text.isDecimal, rest.dropWhile Text.isDecimal)
    | rest => ([], rest)
  if whole.isEmpty && fraction.isEmpty then none
  else (readExponent rest).map (⟨negative, whole ++ fraction, fraction.length, ·⟩)

end FileQuery.Number
