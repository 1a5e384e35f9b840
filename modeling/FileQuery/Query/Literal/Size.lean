import FileQuery.Number.Binary64
import FileQuery.Query.Literal.Fault
import FileQuery.Text.Case

/-!
Byte counts such as `1024`, `10kb` or `1.5 mb`.  The product of number and unit is kept to 28 digits,
a tie going to the even digit, and then cut to an integer.
-/

namespace FileQuery.Query

/-- The factors of the units, each with and without its `b`. -/
def sizeUnits : List (String × Nat) :=
  [("", 1), ("b", 1), ("k", 1024), ("kb", 1024), ("m", Nat.pow 1024 2),
    ("mb", Nat.pow 1024 2), ("g", Nat.pow 1024 3), ("gb", Nat.pow 1024 3),
    ("t", Nat.pow 1024 4), ("tb", Nat.pow 1024 4)]

/-- A decimal number as written: its digits as one number, and how many of them follow the point. -/
structure WrittenDecimal where
  digits : Nat
  places : Nat
deriving DecidableEq, Repr

/-- The most digits of a product. -/
def productDigits : Nat := 28

/-- The greatest power of ten of the leading digit of a product. -/
def productLimit : Nat := 999999

def digitCount (n : Nat) : Nat := (Nat.toDigits 10 n).length

def roundToDigits (limit n : Nat) : Nat :=
  let count := digitCount n
  if count ≤ limit then n
  else
    let unit := Nat.pow 10 (count - limit)
    Number.roundDiv n unit * unit

def sizeProduct (d : WrittenDecimal) (factor : Nat) : Except LiteralFault Nat :=
  let product := roundToDigits productDigits (d.digits * factor)
  if productLimit + 1 + d.places < digitCount product then .error .sizeTooLarge
  else .ok (product / Nat.pow 10 d.places)

def isUnitLetter (c : Char) : Bool :=
  c.isAlpha || c == 'ı' || c == 'İ' || c == 'ſ' || c == '\u212a'

def readDecimal (s : List Char) : Option (WrittenDecimal × List Char) :=
  let whole := s.takeWhile Text.isDecimal
  let rest := s.dropWhile Text.isDecimal
  let fraction := match rest with
    | '.' :: rest => rest.takeWhile Text.isDecimal
    | _ => []
  if fraction.isEmpty then
    if whole.isEmpty then none
    else (Number.digitsValue? 0 whole).map fun n => (⟨n, 0⟩, rest)
  else
    (Number.digitsValue? 0 (whole ++ fraction)).map fun n =>
      (⟨n, fraction.length⟩, rest.drop (fraction.length + 1))

def readSize (text : String) : Except LiteralFault Nat :=
  match readDecimal (Text.trim text.toList) with
  | none => .error (.notSize text)
  | some (number, rest) =>
    let unit := Text.trimLeft rest
    if unit.all isUnitLetter then
      match sizeUnits.lookup (Text.lower (String.ofList unit)) with
      | none => .error (.unknownUnit (String.ofList unit))
      | some factor => sizeProduct number factor
    else .error (.notSize text)

/-- The natural number that a text spells in decimal digits alone. -/
def readCount (text : String) : Except LiteralFault Nat :=
  let s := Text.trim text.toList
  if s.isEmpty || !s.all Text.isDigit then .error (.notCount text)
  else (Number.readDigits (String.ofList s) s).mapError .integer

end FileQuery.Query
