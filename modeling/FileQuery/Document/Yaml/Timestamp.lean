import FileQuery.Document.Reader

/-!
Dates and times as YAML spells them: a date with or without a time of day, which can have a fraction
and an offset.
-/

namespace FileQuery.Document.Yaml

structure WrittenTime where
  hour : Nat
  minute : Nat
  second : Nat
  fraction : List Char
  offset : Option (Bool × Nat × Nat)

/-- A date with or without a time of day as written.  It is padded if month and day have two digits
each. -/
structure WrittenTimestamp where
  date : Calendar.Date
  isPadded : Bool
  time : Option WrittenTime

/-- Reads up to `most` digits, at least `least` of them, as a number; their count comes with it. -/
def takeDigits (least most : Nat) (s : List Char) : Option ((Nat × Nat) × List Char) :=
  let digits := (s.take most).takeWhile isDigit
  if digits.length < least then none
  else some ((valueInBase 10 digits, digits.length), s.drop digits.length)

def takeChar (c : Char) : List Char → Option (List Char)
  | d :: rest => if d == c then some rest else none
  | [] => none

def takeFraction : List Char → List Char × List Char
  | '.' :: rest => (rest.takeWhile isDigit, rest.dropWhile isDigit)
  | s => ([], s)

def isBlank (c : Char) : Bool := c == ' ' || c == '\t'

def readOffset? (s : List Char) : Option (Option (Bool × Nat × Nat)) :=
  if s.isEmpty then some none
  else
    match s.dropWhile isBlank with
    | ['Z'] => some (some (false, 0, 0))
    | c :: rest =>
      if c == '+' || c == '-' then do
        let ((hour, _), rest) ← takeDigits 1 2 rest
        if rest.isEmpty then return some (c == '-', hour, 0)
        let ((minute, _), rest) ← takeDigits 2 2 (← takeChar ':' rest)
        if rest.isEmpty then return some (c == '-', hour, minute) else none
      else none
    | [] => none

def readTime? (s : List Char) : Option WrittenTime := do
  let ((hour, _), s) ← takeDigits 1 2 s
  let ((minute, _), s) ← takeDigits 2 2 (← takeChar ':' s)
  let ((second, _), s) ← takeDigits 2 2 (← takeChar ':' s)
  let (fraction, s) := takeFraction s
  return ⟨hour, minute, second, fraction, ← readOffset? s⟩

def skipDateEnd? (s : List Char) : Option (List Char) :=
  match s with
  | c :: rest =>
    if c == 'T' || c == 't' then some rest
    else if isBlank c then some (rest.dropWhile isBlank)
    else none
  | [] => none

/-- A line feed at the end of a text does not count. -/
def dropFinalBreak (s : List Char) : List Char :=
  if s.getLast? == some '\n' then s.dropLast else s

def readTimestamp? (s : List Char) : Option WrittenTimestamp := do
  let ((year, _), s) ← takeDigits 4 4 (dropFinalBreak s)
  let ((month, monthDigits), s) ← takeDigits 1 2 (← takeChar '-' s)
  let ((day, dayDigits), s) ← takeDigits 1 2 (← takeChar '-' s)
  let isPadded := monthDigits == 2 && dayDigits == 2
  if s.isEmpty then return ⟨⟨year, month, day⟩, isPadded, none⟩
  return ⟨⟨year, month, day⟩, isPadded, some (← readTime? (← skipDateEnd? s))⟩

def microsOf (fraction : List Char) : Nat :=
  let six := fraction.take 6
  valueInBase 10 six * Nat.pow 10 (6 - six.length)

def offsetOf? (offset : Bool × Nat × Nat) : Option Int :=
  let (negative, hour, minute) := offset
  let distance := (hour * 60 + minute) * 60 * Calendar.second
  if distance < Calendar.day then some (if negative then -(distance : Int) else distance) else none

/-- What a timestamp denotes, if its date and its time exist. -/
def WrittenTimestamp.value? (w : WrittenTimestamp) : Option Scalar :=
  if !w.date.isValid then none
  else
    match w.time with
    | none => some (.date w.date)
    | some t => do
      let clock : Calendar.Clock := ⟨t.hour, t.minute, t.second, microsOf t.fraction⟩
      if !clock.isValid then none
      let reading := Calendar.readingOf w.date clock
      match t.offset with
      | none => return .dateTime ⟨reading, none⟩
      | some offset => return .dateTime ⟨reading, some (← offsetOf? offset)⟩

end FileQuery.Document.Yaml
