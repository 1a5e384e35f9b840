import FileQuery.Document.Scalar

/-!
Scalars as they are shown, so that their kind can be told, and the text of a set, which shows its
members.
-/

namespace FileQuery.Document

/-- Numbers between brackets, after a name. -/
def callText (name : String) (arguments : List String) : String :=
  name ++ "(" ++ String.intercalate ", " arguments ++ ")"

def shownDate (d : Calendar.Date) : String :=
  callText "datetime.date" ([d.year, d.month, d.day].map toString)

def clockArguments (c : Calendar.Clock) : List String :=
  let shown :=
    if c.micro ≠ 0 then [c.hour, c.minute, c.second, c.micro]
    else if c.second ≠ 0 then [c.hour, c.minute, c.second]
    else [c.hour, c.minute]
  shown.map toString

def shownClock (c : Calendar.Clock) : String := callText "datetime.time" (clockArguments c)

/-- A distance from universal time; a negative one counts on from the day before. -/
def shownZone (offset : Int) : String :=
  if offset = 0 then "datetime.timezone.utc"
  else
    let days := Int.fdiv offset Calendar.day
    let rest := (Int.fmod offset Calendar.day).toNat
    let part (name : String) (n : Int) : List String :=
      if n = 0 then [] else [name ++ "=" ++ toString n]
    callText "datetime.timezone" [callText "datetime.timedelta"
      (part "days" days ++ part "seconds" (rest / Calendar.second) ++
        part "microseconds" (rest % Calendar.second))]

def shownDateTime (d : Calendar.DateTime) : String :=
  let date := Calendar.dateOf d.reading
  let zone := match d.offset? with
    | some offset => ["tzinfo=" ++ shownZone offset]
    | none => []
  callText "datetime.datetime"
    ([date.year, date.month, date.day].map toString ++ clockArguments (Calendar.clockOf d.reading) ++
      zone)

def Scalar.shown : Scalar → Except TextFault String
  | .null => .ok "None"
  | .bool b => .ok (if b then "True" else "False")
  | .int i => integerText i
  | .float x => .ok x.text
  | .str s => .ok (Text.quoted s)
  | .date d => .ok (shownDate d)
  | .time c => .ok (shownClock c)
  | .dateTime d => .ok (shownDateTime d)
  | .bytes b => .ok (bytesText b)

/-- The text of a set in quotes, its members in the order in which it is gone through. -/
def setText (members : List Scalar) : Except TextFault String := do
  if members.isEmpty then return jsonString "set()"
  return jsonString ("\x7b" ++ String.intercalate ", " (← members.mapM Scalar.shown) ++ "\x7d")

end FileQuery.Document
