import FileQuery.Calendar.Moment

/-!
Reading dates and times in the manner of ISO 8601.  Accepted are calendar dates and week dates, with
or without hyphens, then any one character and a time with or without colons, a fraction of any
length of which six digits count, and an offset.

Where a time is followed by an offset, one ASCII character that belongs to neither is passed over, and
so is anything after a fraction of at least six digits.
-/

namespace FileQuery.Calendar

def takeDigits (n : Nat) (s : List Char) : Option (Nat × List Char) :=
  let digits := s.take n
  if digits.length = n && digits.all Char.isDigit then
    some (digits.foldl (fun v c => 10 * v + (c.toNat - '0'.toNat)) 0, s.drop n)
  else none

/-- Where the date ends and the time or its separator starts. -/
def dateLength (s : List Char) : Nat :=
  let at' (i : Nat) : Char := s.getD i '\x00'
  if s.length = 7 then 7
  else if at' 4 == '-' then
    if at' 5 == 'W' then
      if at' 8 == '-' then if (at' 10).isDigit then 8 else 10
      else 8
    else 10
  else if at' 4 == 'W' then
    -- hours, minutes and seconds have two digits each, so the number of digits tells whether one of
    -- them is the day of the week
    let stop := 7 + ((s.drop 7).takeWhile Char.isDigit).length
    if stop < 9 then stop else if stop % 2 = 0 then 7 else 8
  else 8

def readDate (s : List Char) : Option Date := do
  let (year, rest) ← takeDigits 4 s
  let hyphens := rest.head? == some '-'
  let rest := if hyphens then rest.tail else rest
  let hyphen (s : List Char) : Option (List Char) :=
    if hyphens then if s.head? == some '-' then some s.tail else none else some s
  match rest with
  | 'W' :: rest =>
    let (week, rest) ← takeDigits 2 rest
    if rest.isEmpty then Date.ofWeek? year week 1
    else
      let (weekday, _) ← takeDigits 1 (← hyphen rest)
      Date.ofWeek? year week weekday
  | rest =>
    let (month, rest) ← takeDigits 2 rest
    let (dayOfMonth, rest) ← takeDigits 2 (← hyphen rest)
    let date : Date := ⟨year, month, dayOfMonth⟩
    if rest.isEmpty && date.isValid then some date else none

/-- A time as read, not yet checked against the clock, and whether something was left over. -/
structure ReadClock where
  clock : Clock
  leftover : Bool

def readFraction (hour minute sec : Nat) (s after : List Char) : Option ReadClock := do
  let n := min s.length 6
  let (value, rest) ← takeDigits n s
  let rest := (rest ++ after).dropWhile Char.isDigit
  return ⟨⟨hour, minute, sec, value * Nat.pow 10 (6 - n)⟩, rest.headD '\x00' != '\x00'⟩

/-- Whether a text is at most one character long, which has to be an ASCII one. -/
def isShort : List Char → Bool
  | [] => true
  | [c] => c.toNat < 128
  | _ => false

/-- Reads hours, then minutes and seconds as far as they are given, then a fraction; `after` is what
follows the time. -/
def readClock (s after : List Char) : Option ReadClock := do
  let (hour, rest) ← takeDigits 2 s
  let c := (rest ++ after).headD '\x00'
  let colons := c == ':'
  if isShort rest then return ⟨⟨hour, 0, 0, 0⟩, c != '\x00'⟩
  if c == '.' || c == ',' then readFraction hour 0 0 rest.tail after
  else
    let (minute, rest) ← takeDigits 2 (if colons then rest.tail else rest)
    let c := (rest ++ after).headD '\x00'
    if isShort rest then return ⟨⟨hour, minute, 0, 0⟩, c != '\x00'⟩
    if c == '.' || c == ',' then readFraction hour minute 0 rest.tail after
    else if colons && c != ':' then none
    else
      let (sec, rest) ← takeDigits 2 (if colons then rest.tail else rest)
      let c := (rest ++ after).headD '\x00'
      if isShort rest then return ⟨⟨hour, minute, sec, 0⟩, c != '\x00'⟩
      if (colons && c == ':') || c == '.' || c == ',' then
        readFraction hour minute sec rest.tail after
      else if colons then none
      else readFraction hour minute sec rest after

/-- Reads a time with its offset in microseconds, if it has one. -/
def readTime (s : List Char) : Option (Clock × Option Int) := do
  let isZoneSign (c : Char) : Bool := c == '+' || c == '-' || c == 'Z'
  let (time, zone) := s.span fun c => !isZoneSign c
  let read ← readClock time zone
  match zone with
  | [] => if read.leftover then none else some (read.clock, none)
  | 'Z' :: rest => if rest.headD '\x00' == '\x00' then some (read.clock, some 0) else none
  | sign :: rest =>
    let offset ← readClock rest []
    if offset.leftover then none
    else
      let c := offset.clock
      let seconds := c.hour * 3600 + c.minute * 60 + c.second
      let micros := if seconds = 0 then 0 else seconds * second + c.micro
      if micros < day then
        some (read.clock, some (if sign == '-' then -(micros : Int) else micros))
      else none

def readDateTime (s : List Char) : Option DateTime := do
  let n := dateLength s
  let date ← readDate (s.take n)
  match s.drop n with
  | [] => return ⟨readingOf date ⟨0, 0, 0, 0⟩, none⟩
  | _ :: rest =>
    let (clock, offset) ← readTime rest
    if clock.isValid then return ⟨readingOf date clock, offset⟩ else none

end FileQuery.Calendar
