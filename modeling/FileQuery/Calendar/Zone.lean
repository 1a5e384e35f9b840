import FileQuery.Calendar.Moment

/-!
Time zones.  The clock of a place is put forward and back, so it leaves out readings and shows others
twice; the second showing is called the fold, as in PEP 495.  The local zone is given by its distance
from universal time at each second of universal time.  The place of a reference time is given the other
way round, by its distance at each reading.
-/

namespace FileQuery.Calendar

/-- Seconds in a day; the clock of a place differs from universal time by less. -/
def daySeconds : Int := 86400

/-- The first second after year 9999. -/
def secondLimit : Int := 3652059 * daySeconds

def yearOf (t : Int) : Int :=
  let days := t / daySeconds
  days / 146097 * 400 + (Date.ofOrdinal ((days % 146097).toNat + 1)).year

/-- The local zone: how many seconds its clock is ahead of universal time, at each second of that. -/
structure Zone where
  aheadAt : Int → Int
  lt_day : ∀ t, (aheadAt t).natAbs < daySeconds.natAbs

namespace Zone

def fixed (ahead : Int) (h : ahead.natAbs < daySeconds.natAbs := by decide) : Zone :=
  ⟨fun _ => ahead, fun _ => h⟩

/-- The second that the clock shows at a second of universal time. -/
def shownAt (zone : Zone) (t : Int) : Except RangeFault Int :=
  let shown := t + zone.aheadAt t
  if 0 ≤ shown && shown < secondLimit then .ok shown else .error (.year (yearOf shown))

/-- Whether the clock shows a second for the second time, having been put back less than a day
before. -/
def isFoldAt (zone : Zone) (t : Int) : Except RangeFault Bool := do
  let shown ← zone.shownAt t
  let before ← zone.shownAt (t - daySeconds)
  let change := shown - before - daySeconds
  if change < 0 then return (← zone.shownAt (t + change)) = shown
  return false

/-- How far the clock is ahead at a second of universal time, by what it shows. -/
def distanceAt (zone : Zone) (t : Int) : Except RangeFault Int :=
  (zone.shownAt t).map (· - t)

/-- A second distance to try for `shown`, after the clock was found to show `shownFirst` at `first`: if
that was right, the one a day apart, on the side where another showing would be. -/
def otherDistance (zone : Zone) (fold : Bool) (shown first shownFirst : Int) :
    Except RangeFault Int :=
  if shownFirst = shown then
    zone.distanceAt (if fold then first + daySeconds else first - daySeconds)
  else .ok (shownFirst - first)

/-- Which of two seconds of universal time is meant by `shown`.  Where neither is, the clock leaves it
out, and the distance before the change is taken, with `fold` the one after it. -/
def universalAmong (zone : Zone) (fold : Bool) (shown first shownFirst second : Int) :
    Except RangeFault Int :=
  if shownFirst = shown ∧ second = first then .ok first
  else
    (zone.shownAt second).map fun shownSecond =>
      if shownSecond = shown then second
      else if shownFirst = shown then first
      else if fold then min first second
      else max first second

/-- The second of universal time at which the clock shows `shown`, for the first or the second time. -/
def universalOf (zone : Zone) (fold : Bool) (shown : Int) : Except RangeFault Int := do
  let first := shown - (← zone.distanceAt shown)
  let shownFirst ← zone.shownAt first
  let second := shown - (← zone.otherDistance fold shown first shownFirst)
  zone.universalAmong fold shown first shownFirst second

/-- Microseconds by which the clock is ahead, at a number of microseconds of universal time. -/
def offsetAt (zone : Zone) (universal : Int) : Int := zone.aheadAt (universal / second) * second

/-- The moment there at a number of microseconds of universal time. -/
def momentAt (zone : Zone) (universal : Nat) : Except RangeFault Moment :=
  (addReading universal (zone.offsetAt universal)).map (⟨·, zone.offsetAt universal⟩)

/-- The moment at which the clock shows a reading, for the first or the second time. -/
def momentOf (zone : Zone) (fold : Bool) (reading : Nat) : Except RangeFault Moment := do
  let t ← zone.universalOf fold (reading / second : Nat)
  zone.momentAt (← addReading reading (-(zone.aheadAt t * second)))

/-- The moment of a timestamp in microseconds of universal time: the clock is read then, and what it
shows is looked up again. -/
def momentOfStamp (zone : Zone) (stamp : Int) : Except RangeFault Moment := do
  let t := stamp / second
  let shown ← zone.shownAt t
  zone.momentOf (← zone.isFoldAt t) (shown * second + stamp % second).toNat

end Zone

def Moment.dateAt (zone : Zone) (m : Moment) : Except RangeFault Date := do
  let there ← zone.momentAt (← addReading m.reading (-m.offset))
  return dateOf there.reading

/-- A place with rules of its own: how many microseconds its clock is ahead when it shows a reading, for
the first or the second time. -/
structure Place where
  offset : Nat → Bool → Int
  lt_day : ∀ reading fold, (offset reading fold).natAbs < day

/-- A moment as a place tells it.  Where the offset is another one in the fold, the moment is not equal
to any of another place. -/
structure PlacedMoment extends Moment where
  isFoldable : Bool := false
deriving DecidableEq, Repr

def Place.moment (place : Place) (reading : Nat) (fold : Bool) : PlacedMoment :=
  ⟨⟨reading, place.offset reading fold⟩, place.offset reading true != place.offset reading false⟩

/-- A reference time: a reading of the clock of a place. -/
structure Reference where
  reading : Nat
  fold : Bool
  place : Place
  lt_limit : reading < readingLimit

namespace Reference

def fixed (reading : Nat) (offset : Int) (h : reading < readingLimit := by decide)
    (h' : offset.natAbs < day := by decide) : Reference :=
  ⟨reading, false, ⟨fun _ _ => offset, fun _ _ => h'⟩, h⟩

/-- A reference time at a place whose clock is never changed, if the calendar has the reading and the
offset is shorter than a day. -/
def fixed? (reading : Nat) (offset : Int) : Option Reference :=
  if h : reading < readingLimit ∧ offset.natAbs < day then some (fixed reading offset h.1 h.2) else none

def moment (now : Reference) : PlacedMoment := now.place.moment now.reading now.fold

/-- Midnight before a reference time, by the same clock and on the same side of the fold. -/
def midnight (now : Reference) : PlacedMoment :=
  now.place.moment (now.reading / day * day) now.fold

/-- The moment at which the clock shows a distance from a reading, outside the fold. -/
def shifted (now : Reference) (reading : Nat) (distance : Int) : Except RangeFault PlacedMoment :=
  (addReading reading distance).map (now.place.moment · false)

end Reference

end FileQuery.Calendar
