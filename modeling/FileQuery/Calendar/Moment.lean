import FileQuery.Calendar.Date

/-!
Clock readings and moments.  A reading is the number of microseconds from the start of year 1 to what
calendar and clock of some place show; a moment is a reading with its distance east of universal
time.
-/

namespace FileQuery.Calendar

/-- Microseconds in a second. -/
def second : Nat := 1000000

/-- Microseconds in a day. -/
def day : Nat := 86400 * second

/-- The first reading after year 9999. -/
def readingLimit : Nat := 3652059 * day

structure Clock where
  hour : Nat
  minute : Nat
  second : Nat
  micro : Nat
deriving DecidableEq, Repr

namespace Clock

def isValid (c : Clock) : Bool :=
  c.hour < 24 && c.minute < 60 && c.second < 60 && c.micro < 1000000

/-- Microseconds since midnight. -/
def sinceMidnight (c : Clock) : Nat :=
  ((c.hour * 60 + c.minute) * 60 + c.second) * Calendar.second + c.micro

/-- The time a number of microseconds after midnight. -/
def ofMicros (n : Nat) : Clock :=
  let s := n / Calendar.second
  ⟨s / 3600, s / 60 % 60, s % 60, n % Calendar.second⟩

/-- A time as hour, minute and second joined by colons, with six digits of a fraction that is not
zero. -/
def iso (c : Clock) : String :=
  padded 2 c.hour ++ ":" ++ padded 2 c.minute ++ ":" ++ padded 2 c.second ++
    if c.micro = 0 then "" else "." ++ padded 6 c.micro

end Clock

/-- The text of a distance from universal time: a sign, hours and minutes, then seconds and their
fraction where they are not zero. -/
def offsetText (offset : Int) : String :=
  let c := Clock.ofMicros offset.natAbs
  let sign := if offset < 0 then "-" else "+"
  let tail :=
    if c.second = 0 && c.micro = 0 then ""
    else ":" ++ padded 2 c.second ++ if c.micro = 0 then "" else "." ++ padded 6 c.micro
  sign ++ padded 2 c.hour ++ ":" ++ padded 2 c.minute ++ tail

def readingOf (d : Date) (c : Clock) : Nat :=
  (d.ordinal - 1) * day + c.sinceMidnight

def dateOf (reading : Nat) : Date := Date.ofOrdinal (reading / day + 1)

def clockOf (reading : Nat) : Clock := Clock.ofMicros (reading % day)

def epoch : Nat := readingOf ⟨1970, 1, 1⟩ ⟨0, 0, 0, 0⟩

def readingText (between : String) (reading : Nat) : String :=
  (dateOf reading).iso ++ between ++ (clockOf reading).iso

/-- What calendar and clock show at a place, and how far east of universal time the place is. -/
structure Moment where
  reading : Nat
  offset : Int
deriving DecidableEq, Repr

/-- A moment, or a reading of an unnamed place. -/
structure DateTime where
  reading : Nat
  offset? : Option Int
deriving DecidableEq, Repr

/-- Why a moment cannot be computed: the result lies before year 1 or after year 9999, or so does a
year met on the way. -/
inductive RangeFault where
  | moment
  | year (year : Int)
deriving DecidableEq, Repr

def RangeFault.message : RangeFault → String
  | .moment => "date value out of range"
  | .year n => "year " ++ toString n ++ " is out of range"

/-- The reading at a distance in microseconds. -/
def addReading (reading : Nat) (distance : Int) : Except RangeFault Nat :=
  let n : Int := reading + distance
  if 0 ≤ n && n < readingLimit then .ok n.toNat else .error .moment

namespace Moment

/-- Microseconds of universal time; the number by which moments are ordered. -/
def instant (m : Moment) : Int := m.reading - m.offset

/-- A moment as date, `T`, time and offset. -/
def iso (m : Moment) : String := readingText "T" m.reading ++ offsetText m.offset

end Moment

def DateTime.text (between : String) (d : DateTime) : String :=
  readingText between d.reading ++
    match d.offset? with
    | some offset => offsetText offset
    | none => ""

end FileQuery.Calendar
