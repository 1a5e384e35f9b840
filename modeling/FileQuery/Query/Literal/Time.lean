import FileQuery.Calendar.IsoText
import FileQuery.Calendar.Zone
import FileQuery.Query.Literal.Size

/-!
Times: keywords, distances from now such as `-7d` or `-2.hours`, and dates with or without a time.
-/

namespace FileQuery.Query

/-- When and where a query is read: the reference time, and the local zone. -/
structure Clock where
  now : Calendar.Reference
  zone : Calendar.Zone

/-- The units of distances, in seconds. -/
def timeUnits : List (List String × Nat) :=
  [(["s", "sec", "secs", "second", "seconds"], 1),
    (["m", "min", "mins", "minute", "minutes"], 60),
    (["h", "hr", "hrs", "hour", "hours"], 3600),
    (["d", "day", "days"], 86400),
    (["w", "week", "weeks"], 7 * 86400)]

def timeUnit? (name : String) : Option Nat :=
  (timeUnits.find? (·.1.contains name)).map (·.2)

structure WrittenDistance where
  back : Bool
  amount : WrittenDecimal
  unit : String

def readDistance (s : List Char) : Option WrittenDistance :=
  let (back, s) := match s with
    | '-' :: rest => (true, rest)
    | '+' :: rest => (false, rest)
    | rest => (false, rest)
  if s.head? == some '.' then none
  else
    match readDecimal s with
    | none => none
    | some (amount, rest) =>
      let rest := if rest.head? == some '.' then rest.tail else rest
      let unit := Text.trimLeft rest
      if unit.isEmpty || !unit.all isUnitLetter then none
      else some ⟨back, amount, String.ofList unit⟩

/-- The microseconds in a number of seconds.  Whole seconds are exact; the rest is multiplied as a
floating-point number and rounded, a tie to the even microsecond.  None for a number that is not
finite. -/
def microsOf : Number.Binary64 → Option Nat
  | .finite _ mantissa exponent =>
    let (num, den) := Number.Binary64.ratio false mantissa exponent
    let whole := num.toNat / den
    match Number.Binary64.mulNat (Number.Binary64.ofRatio false (num.toNat % den) den)
        Calendar.second with
    | .finite _ m e =>
      let (n, d) := Number.Binary64.ratio false m e
      some (whole * Calendar.second + Number.roundDiv n.toNat d)
    | _ => none
  | _ => none

/-- The longest distance, in days. -/
def distanceLimit : Nat := 999999999

def WrittenDistance.from (d : WrittenDistance) (now : Calendar.Reference) (seconds : Nat) :
    Except LiteralFault Calendar.PlacedMoment :=
  let amount := Number.Binary64.ofDecimal false d.amount.digits (-(d.amount.places : Int))
  match microsOf (amount.mulNat seconds) with
  | none => .error (.range .moment)
  | some micros =>
    if (distanceLimit + 1) * Calendar.day ≤ micros then .error (.range .moment)
    else
      (now.shifted now.reading (if d.back then -(micros : Int) else micros)).mapError .range

/-- Reads a date or a date and time; one without an offset is local. -/
def readAbsolute (zone : Calendar.Zone) (text : String) (s : List Char) :
    Except LiteralFault Calendar.Moment :=
  match Calendar.readDateTime s with
  | none => .error (.notTime text)
  | some ⟨reading, some offset⟩ => .ok ⟨reading, offset⟩
  | some ⟨reading, none⟩ => (zone.momentOf false reading).mapError .range

def readMoment (clock : Clock) (text : String) : Except LiteralFault Calendar.PlacedMoment :=
  let s := Text.trim text.toList
  match Text.lower (String.ofList s) with
  | "now" => .ok clock.now.moment
  | "today" => .ok clock.now.midnight
  | "yesterday" =>
    (clock.now.shifted clock.now.midnight.reading (-(Calendar.day : Int))).mapError .range
  | _ =>
    match (readDistance s).bind fun d => (timeUnit? (Text.lower d.unit)).map (d, ·) with
    | some (d, seconds) => d.from clock.now seconds
    | none => (readAbsolute clock.zone text s).map (⟨·, false⟩)

end FileQuery.Query
