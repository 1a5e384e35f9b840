import FileQuery.Document.Yaml.Spot

/-!
Plain scalars: texts without quotes, which may go on over several lines.
-/

namespace FileQuery.Document.Yaml

/-- A scalar as it is read: its text, the position after it, and whether that position is in a later
line than the last character of the text. -/
structure PlainText where
  text : String
  spot : Spot
  isAfterBreak : Bool

def isFlowMark (c : Char) : Bool :=
  c == ',' || c == '[' || c == ']' || c == '\x7b' || c == '\x7d'

/-- Whether a colon before the given character ends a plain scalar. -/
def endsAtColon (inFlow : Bool) (following : Option Char) : Bool :=
  following.all fun c => c == ' ' || c == '\t' || isBreak c || (inFlow && isFlowMark c)

def plainWord (inFlow : Bool) (done : List Char) : List Char → List Char
  | [] => done.reverse
  | c :: rest =>
    if c == ' ' || c == '\t' || isBreak c then done.reverse
    else if c == ':' && endsAtColon inFlow rest.head? then done.reverse
    else if inFlow && (isFlowMark c || c == '?') then done.reverse
    else plainWord inFlow (c :: done) rest

/-- What stands between two words of a plain scalar: as it counts in the text, the position after it,
and whether there is a line break in it.  There is no text if the document ends there. -/
structure Between where
  text : Option (List Char)
  spot : Spot
  hasBreak : Bool

def takeBreaks (breaks : List Char) (p : Spot) : Nat → Option (List Char) × Spot
  | 0 => (some breaks.reverse, p)
  | fuel + 1 =>
    if p.char? == some ' ' then takeBreaks breaks p.next fuel
    else if p.atBreak then
      let (b, p) := p.takeBreak
      if p.atSeparator then (none, p) else takeBreaks (b.reverse ++ breaks) p fuel
    else (some breaks.reverse, p)

/-- How a line break counts in a text, with the breaks after it: one break alone as a blank. -/
def foldBreak (first breaks : List Char) : List Char :=
  if first != ['\n'] then first ++ breaks
  else if breaks.isEmpty then [' ']
  else breaks

def takeBetween (p : Spot) : Between :=
  let blanks := p.span (· == ' ')
  let p := p.skip blanks.length
  if p.atBreak then
    let (first, p) := p.takeBreak
    if p.atSeparator then ⟨none, p, true⟩
    else
      let (breaks, p) := takeBreaks [] p p.fuel
      ⟨breaks.map (foldBreak first), p, true⟩
  else ⟨some blanks, p, false⟩

/-- Reads a plain scalar word by word; its later lines have to be indented by `indent` columns.
`done` holds the text so far in reverse, and `between` what stands between it and the next word. -/
def takeWords (inFlow : Bool) (indent : Int) (done between : List Char) (isAfterBreak : Bool)
    (p : Spot) : Nat → PlainText
  | 0 => ⟨String.ofList done.reverse, p, isAfterBreak⟩
  | fuel + 1 =>
    let word := if p.char? == some '#' then [] else plainWord inFlow [] p.rest
    if word.isEmpty then ⟨String.ofList done.reverse, p, isAfterBreak⟩
    else
      let done := word.reverse ++ between.reverse ++ done
      let next := takeBetween (p.skip word.length)
      let finished : PlainText := ⟨String.ofList done.reverse, next.spot, next.hasBreak⟩
      match next.text with
      | none => finished
      | some between =>
        if between.isEmpty || next.spot.char? == some '#' ||
            (!inFlow && next.spot.column < indent) then finished
        else takeWords inFlow indent done between next.hasBreak next.spot fuel

def takePlain (inFlow : Bool) (indent : Int) (p : Spot) : PlainText :=
  takeWords inFlow indent [] [] false p p.fuel

end FileQuery.Document.Yaml
