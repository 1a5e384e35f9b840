/-!
Floating-point numbers of 64 bits as exact values.  A finite number is a sign, a mantissa below
`2 ^ 53` and a power of two; every operation is carried out on the exact values and rounded once, a
tie to the even mantissa.
-/

namespace FileQuery.Number

/-- A binary floating-point number.  In a finite one the exponent is at least -1074 and as small as
the mantissa allows, so equal numbers other than the zeros have equal parts. -/
inductive Binary64 where
  | finite (negative : Bool) (mantissa : Nat) (exponent : Int)
  | infinite (negative : Bool)
  | nan
deriving DecidableEq, Repr

/-- The quotient rounded to the nearest integer, a tie to the even one. -/
def roundDiv (num den : Nat) : Nat :=
  let q := num / den
  let r := num % den
  if 2 * r < den then q
  else if den < 2 * r then q + 1
  else q + q % 2

namespace Binary64

def leastExponent : Int := -1074

def greatestExponent : Int := 971

/-- Puts a rounded mantissa of at most `2 ^ 53` into a number. -/
def pack (negative : Bool) (mantissa : Nat) (exponent : Int) : Binary64 :=
  let (mantissa, exponent) :=
    if mantissa = Nat.pow 2 53 then (Nat.pow 2 52, exponent + 1) else (mantissa, exponent)
  if greatestExponent < exponent then .infinite negative
  else .finite negative mantissa exponent

/-- The number nearest to `num / den`. -/
def ofRatio (negative : Bool) (num den : Nat) : Binary64 :=
  if num = 0 then .finite negative 0 leastExponent
  else
    let guess : Int := (num.log2 : Int) - den.log2 - 52
    -- the guess is right or one too large
    let scaled (e : Int) : Nat × Nat :=
      if 0 ≤ e then (num, den * Nat.pow 2 e.toNat) else (num * Nat.pow 2 (-e).toNat, den)
    let exponent :=
      let (n, d) := scaled guess
      if n < d * Nat.pow 2 52 then guess - 1 else guess
    let exponent := max exponent leastExponent
    let (n, d) := scaled exponent
    pack negative (roundDiv n d) exponent

def ofInt (n : Int) : Binary64 := ofRatio (n < 0) n.natAbs 1

/-- The number nearest to `digits * 10 ^ exponent`. -/
def ofDecimal (negative : Bool) (digits : Nat) (exponent : Int) : Binary64 :=
  let magnitude : Int := (digits.log2 : Int) * 30103 / 100000 + exponent
  if digits = 0 then .finite negative 0 leastExponent
  else if 310 < magnitude then .infinite negative
  else if magnitude < -330 then .finite negative 0 leastExponent
  else if 0 ≤ exponent then ofRatio negative (digits * Nat.pow 10 exponent.toNat) 1
  else ofRatio negative digits (Nat.pow 10 (-exponent).toNat)

def ratio (negative : Bool) (mantissa : Nat) (exponent : Int) : Int × Nat :=
  let signed : Int := if negative then -(mantissa : Int) else mantissa
  if 0 ≤ exponent then (signed * Int.pow 2 exponent.toNat, 1)
  else (signed, Nat.pow 2 (-exponent).toNat)

def compare? : Binary64 → Binary64 → Option Ordering
  | .nan, _ => none
  | _, .nan => none
  | .infinite x, .infinite y =>
    some (if x == y then .eq else if x then .lt else .gt)
  | .infinite x, .finite .. => some (if x then .lt else .gt)
  | .finite .., .infinite y => some (if y then .gt else .lt)
  | .finite s m e, .finite t n f =>
    let (a, b) := ratio s m e
    let (c, d) := ratio t n f
    some (Ord.compare (a * d) (c * b))

def compareInt? (i : Int) : Binary64 → Option Ordering
  | .nan => none
  | .infinite y => some (if y then .gt else .lt)
  | .finite t n f =>
    let (c, d) := ratio t n f
    some (Ord.compare (i * d) c)

/-- The product with a natural number, rounded once. -/
def mulNat (x : Binary64) (k : Nat) : Binary64 :=
  match x with
  | .nan => .nan
  | .infinite s => if k = 0 then .nan else .infinite s
  | .finite s m e =>
    if 0 ≤ e then ofRatio s (m * k * Nat.pow 2 e.toNat) 1
    else ofRatio s (m * k) (Nat.pow 2 (-e).toNat)

def neg : Binary64 → Binary64
  | .nan => .nan
  | .infinite s => .infinite !s
  | .finite s m e => .finite (!s) m e

def mul : Binary64 → Binary64 → Binary64
  | .finite s m e, .finite t n f =>
    let product := m * n
    let exponent := e + f
    if 0 ≤ exponent then ofRatio (s != t) (product * Nat.pow 2 exponent.toNat) 1
    else ofRatio (s != t) product (Nat.pow 2 (-exponent).toNat)
  | .infinite s, .infinite t => .infinite (s != t)
  | .infinite s, .finite t n _ => if n = 0 then .nan else .infinite (s != t)
  | .finite s m _, .infinite t => if m = 0 then .nan else .infinite (s != t)
  | _, _ => .nan

def add : Binary64 → Binary64 → Binary64
  | .finite s m e, .finite t n f =>
    if m = 0 && n = 0 then .finite (s && t) 0 leastExponent
    else
      let (a, b) := ratio s m e
      let (c, d) := ratio t n f
      let sum := a * d + c * b
      ofRatio (sum < 0) sum.natAbs (b * d)
  | .infinite s, .infinite t => if s = t then .infinite s else .nan
  | .infinite s, .finite .. => .infinite s
  | .finite .., .infinite t => .infinite t
  | _, _ => .nan

end Binary64

end FileQuery.Number
