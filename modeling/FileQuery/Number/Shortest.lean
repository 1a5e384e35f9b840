import FileQuery.Number.Binary64

/-!
The shortest decimal text of a floating-point number: the fewest digits that read back as the same
number, and of those the nearest.  The number is written positionally when its leading digit stands
for a power of ten from -4 to 15, and with an exponent of at least two digits otherwise.
-/

namespace FileQuery.Number

/-- The decimals that read back as a mantissa and exponent lie between two bounds; both bounds and
the value are given over the common denominator `den`. -/
structure ReadBack where
  value : Nat
  lower : Nat
  upper : Nat
  den : Nat
  /-- The bounds themselves read back. -/
  closed : Bool

/-- The decimals that read back as `mantissa * 2 ^ exponent`. -/
def readBack (mantissa : Nat) (exponent : Int) : ReadBack :=
  -- below a power of two the neighbour is half as far away
  let near := mantissa = Nat.pow 2 52 && Binary64.leastExponent < exponent
  let value := 4 * mantissa
  let lower := if near then value - 1 else value - 2
  let upper := value + 2
  let closed := mantissa % 2 = 0
  if 0 ≤ exponent then
    let scale := Nat.pow 2 exponent.toNat
    ⟨value * scale, lower * scale, upper * scale, 4, closed⟩
  else ⟨value, lower, upper, 4 * Nat.pow 2 (-exponent).toNat, closed⟩

namespace ReadBack

/-- Whether `digits * 10 ^ power` reads back. -/
def holds (r : ReadBack) (digits : Nat) (power : Int) : Bool :=
  let (x, scale) :=
    if 0 ≤ power then (digits * Nat.pow 10 power.toNat * r.den, 1)
    else (digits * r.den, Nat.pow 10 (-power).toNat)
  if r.closed then r.lower * scale ≤ x && x ≤ r.upper * scale
  else r.lower * scale < x && x < r.upper * scale

def onGrid? (r : ReadBack) (power : Int) : Option Nat :=
  let (num, den) :=
    if 0 ≤ power then (r.value, r.den * Nat.pow 10 power.toNat)
    else (r.value * Nat.pow 10 (-power).toNat, r.den)
  let below := num / den
  let nearest := roundDiv num den
  let other := if nearest = below then below + 1 else below
  if r.holds nearest power then some nearest
  else if r.holds other power then some other
  else none

def search (r : ReadBack) (power : Int) : Nat → Nat × Int
  | 0 => (r.value / r.den, 0)
  | fuel + 1 =>
    match r.onGrid? power with
    | some digits => (digits, power)
    | none => r.search (power - 1) fuel

end ReadBack

/-- The power of ten of the leading digit of `num / den`, which is positive, or one more. -/
def leadingPower (num den : Nat) : Int :=
  ((num.log2 : Int) - den.log2) * 30103 / 100000 + 1

def trimZeros (digits : Nat) (power : Int) : Nat × Int :=
  if _h : 0 < digits ∧ digits % 10 = 0 then trimZeros (digits / 10) (power + 1)
  else (digits, power)
termination_by digits
decreasing_by omega

/-- Shortest digits and their power of ten for a positive number. -/
def shortestDigits (mantissa : Nat) (exponent : Int) : Nat × Int :=
  let r := readBack mantissa exponent
  let (digits, power) := r.search (leadingPower r.value r.den) 20
  trimZeros digits power

/-- Digits with a point so that the leading digit stands for `10 ^ leading`; a whole number gets
`.0`. -/
def positional (digits : List Char) (leading : Int) : List Char :=
  if leading < 0 then
    ['0', '.'] ++ List.replicate (-leading - 1).toNat '0' ++ digits
  else
    let whole := leading.toNat + 1
    let padded := digits ++ List.replicate (whole - digits.length) '0'
    let fraction := padded.drop whole
    padded.take whole ++ '.' :: (if fraction.isEmpty then ['0'] else fraction)

def scientific (digits : List Char) (leading : Int) : List Char :=
  let power := (toString leading.natAbs).toList
  digits.take 1 ++ (if digits.length ≤ 1 then [] else '.' :: digits.drop 1) ++
    ['e', if leading < 0 then '-' else '+'] ++
    List.replicate (2 - power.length) '0' ++ power

def Binary64.text : Binary64 → String
  | .nan => "nan"
  | .infinite negative => if negative then "-inf" else "inf"
  | .finite negative mantissa exponent =>
    let body :=
      if mantissa = 0 then ['0', '.', '0']
      else
        let (digits, power) := shortestDigits mantissa exponent
        let digits := (toString digits).toList
        let leading := power + digits.length - 1
        if -4 ≤ leading && leading < 16 then positional digits leading
        else scientific digits leading
    String.ofList (if negative then '-' :: body else body)

end FileQuery.Number
