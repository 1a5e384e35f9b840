import FileQuery.Document.Reader

/-!
Numbers, dates and times in TOML.
-/

namespace FileQuery.Document.Toml

/-- Reads digits, two of which may be joined by an underscore; `done` holds the digits so far in
reverse, without it. -/
def takeGroups (isMember : Char → Bool) (done : List Char) : List Char → List Char × List Char
  | '_' :: c :: rest =>
    if isMember c then takeGroups isMember (c :: done) rest else (done.reverse, '_' :: c :: rest)
  | c :: rest =>
    if isMember c then takeGroups isMember (c :: done) rest else (done.reverse, c :: rest)
  | [] => (done.reverse, [])

def readGroups (isMember : Char → Bool) (s : List Char) : Option (List Char × List Char) :=
  match s with
  | c :: _ => if isMember c then some (takeGroups isMember [] s) else none
  | [] => none

def baseOf? : Char → Option (Nat × (Char → Bool))
  | 'x' => some (16, fun c => (hexDigit? c).isSome)
  | 'o' => some (8, fun c => '0' ≤ c && c ≤ '7')
  | 'b' => some (2, fun c => c == '0' || c == '1')
  | _ => none

def readBased? (s : List Char) : Option (Scalar × List Char) :=
  match s with
  | '0' :: mark :: rest => do
    let (base, isMember) ← baseOf? mark
    let (digits, rest) ← readGroups isMember rest
    return (.int (valueInBase base digits), rest)
  | _ => none

def takeSign (s : List Char) : List Char × List Char :=
  let sign := (s.take 1).filter fun c => c == '+' || c == '-'
  (sign, s.drop sign.length)

def takeFraction (s : List Char) : List Char × List Char :=
  match s with
  | '.' :: rest =>
    match readGroups isDigit rest with
    | some (digits, rest) => ('.' :: digits, rest)
    | none => ([], s)
  | _ => ([], s)

def takeExponent (s : List Char) : List Char × List Char :=
  match s with
  | c :: rest =>
    if c == 'e' || c == 'E' then
      let (sign, digits) := takeSign rest
      match readGroups isDigit digits with
      | some (digits, rest) => (c :: sign ++ digits, rest)
      | none => ([], s)
    else ([], s)
  | [] => ([], s)

def readDecimal? (s : List Char) : Option (Except ReadFault (Scalar × List Char)) :=
  let (sign, t) := takeSign s
  let whole := match t with
    | '0' :: rest => some (['0'], rest)
    | t => readGroups isDigit t
  whole.map fun (whole, t) =>
    let (fraction, t) := takeFraction t
    let (exponent, t) := takeExponent t
    if fraction.isEmpty && exponent.isEmpty then
      match Number.readInteger "" (sign ++ whole) with
      | .ok i => .ok (.int i, t)
      | .error fault => .error (.badValue (.integer fault))
    else
      match Number.readFloat (sign ++ whole ++ fraction ++ exponent) with
      | some w => .ok (.float w.value, t)
      | none => .error .malformed

def readSpecial? (s : List Char) : Option (Scalar × List Char) :=
  let (sign, t) := takeSign s
  match t with
  | 'i' :: 'n' :: 'f' :: rest => some (.float (.infinite (sign == ['-'])), rest)
  | 'n' :: 'a' :: 'n' :: rest => some (.float .nan, rest)
  | _ => none

/-- Reads exactly `n` digits as a number between two bounds. -/
def takeNumber (n low high : Nat) (s : List Char) : Option (Nat × List Char) :=
  let digits := (s.take n).takeWhile isDigit
  let value := valueInBase 10 digits
  if digits.length = n && low ≤ value && value ≤ high then some (value, s.drop n) else none

def takeChar (c : Char) (s : List Char) : Option (List Char) :=
  match s with
  | d :: rest => if d == c then some rest else none
  | [] => none

/-- Reads a fraction of a second in microseconds; its digits after the sixth do not count. -/
def takeMicros (s : List Char) : Nat × List Char :=
  match s with
  | '.' :: rest =>
    let digits := rest.takeWhile isDigit
    if digits.isEmpty then (0, s)
    else
      let six := digits.take 6
      (valueInBase 10 six * Nat.pow 10 (6 - six.length), rest.drop digits.length)
  | _ => (0, s)

def readTime? (s : List Char) : Option (Calendar.Clock × List Char) := do
  let (hour, s) ← takeNumber 2 0 23 s
  let (minute, s) ← takeNumber 2 0 59 (← takeChar ':' s)
  let (second, s) ← takeNumber 2 0 59 (← takeChar ':' s)
  let (micro, s) := takeMicros s
  return (⟨hour, minute, second, micro⟩, s)

def readOffset? (s : List Char) : Option (Int × List Char) :=
  match s with
  | 'Z' :: rest | 'z' :: rest => some (0, rest)
  | c :: rest =>
    if c == '+' || c == '-' then do
      let (hour, s) ← takeNumber 2 0 23 rest
      let (minute, s) ← takeNumber 2 0 59 (← takeChar ':' s)
      let distance : Int := (hour * 60 + minute) * 60 * Calendar.second
      return (if c == '-' then -distance else distance, s)
    else none
  | [] => none

/-- Reads a date as it is spelled, whether it exists or not. -/
def readDate? (s : List Char) : Option (Calendar.Date × List Char) := do
  let (year, s) ← takeNumber 4 0 9999 s
  let (month, s) ← takeNumber 2 1 12 (← takeChar '-' s)
  let (day, s) ← takeNumber 2 1 31 (← takeChar '-' s)
  return (⟨year, month, day⟩, s)

def readTimeOfDate? (s : List Char) : Option (Calendar.Clock × Option Int × List Char) :=
  match s with
  | c :: rest =>
    if c == 'T' || c == 't' || c == ' ' then
      (readTime? rest).map fun (clock, s) =>
        match readOffset? s with
        | some (offset, s) => (clock, some offset, s)
        | none => (clock, none, s)
    else none
  | [] => none

def readMoment? (s : List Char) : Option (Except ReadFault (Scalar × List Char)) :=
  (readDate? s).map fun (date, s) =>
    if !date.isValid then .error .malformed
    else
      match readTimeOfDate? s with
      | some (clock, offset?, s) =>
        .ok (.dateTime ⟨Calendar.readingOf date clock, offset?⟩, s)
      | none => .ok (.date date, s)

def readScalar : Reader Scalar := fun s =>
  match s with
  | 't' :: 'r' :: 'u' :: 'e' :: rest => .ok (.bool true, rest)
  | 'f' :: 'a' :: 'l' :: 's' :: 'e' :: rest => .ok (.bool false, rest)
  | s =>
    match readMoment? s with
    | some r => r
    | none =>
      match readTime? s with
      | some (clock, rest) => .ok (.time clock, rest)
      | none =>
        match readBased? s with
        | some r => .ok r
        | none =>
          match readDecimal? s with
          | some r => r
          | none =>
            match readSpecial? s with
            | some r => .ok r
            | none => .error .malformed

end FileQuery.Document.Toml
