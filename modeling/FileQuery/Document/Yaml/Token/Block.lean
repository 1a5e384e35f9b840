import FileQuery.Document.Yaml.Spot

/-!
Block scalars: the lines after `|` or `>` that are indented, kept as they are or folded.
-/

namespace FileQuery.Document.Yaml

inductive Chomping where
  | clip
  | strip
  | keep
deriving DecidableEq, Repr

/-- The marks after `|` or `>`: which line breaks at the end count, and by how many columns the lines
are indented further than what is around them. -/
structure BlockHeader where
  chomping : Chomping
  increment : Option Nat
  spot : Spot

def takeChomping (p : Spot) : Option Chomping × Spot :=
  match p.char? with
  | some '+' => (some .keep, p.next)
  | some '-' => (some .strip, p.next)
  | _ => (none, p)

/-- Reads a number of columns, which is not zero. -/
def takeIncrement (p : Spot) : Except ReadFault (Option Nat × Spot) :=
  match p.char? with
  | some c =>
    if c == '0' then .error .malformed
    else if isDigit c then .ok (some (c.toNat - 48), p.next)
    else .ok (none, p)
  | none => .ok (none, p)

def takeBlockHeader (p : Spot) : Except ReadFault BlockHeader := do
  let (before, p) := takeChomping p
  let (increment, p) ← takeIncrement p
  let (behind, p) := if before.isNone && increment.isSome then takeChomping p else (none, p)
  if p.char?.all fun c => c == ' ' || isBreak c then
    return ⟨(before.or behind).getD .clip, increment, p⟩
  else throw .malformed

/-- The position after blanks in columns before `indent`. -/
def skipIndent (indent : Nat) (p : Spot) : Spot :=
  p.skip ((p.rest.take (indent - p.column)).takeWhile (· == ' ')).length

/-- Reads empty lines and the indentation of the line after them; `breaks` holds the line breaks so
far in reverse. -/
def takeEmptyLines (indent : Nat) (breaks : List Char) (p : Spot) : Nat → List Char × Spot
  | 0 => (breaks.reverse, p)
  | fuel + 1 =>
    let p := skipIndent indent p
    if p.atBreak then
      let (b, p) := p.takeBreak
      takeEmptyLines indent (b.reverse ++ breaks) p fuel
    else (breaks.reverse, p)

/-- Reads empty lines in front of a block scalar, with the greatest column that their blanks or those
of the line after them reach. -/
def measureIndent (deepest : Nat) (breaks : List Char) (p : Spot) :
    Nat → List Char × Nat × Spot
  | 0 => (breaks.reverse, deepest, p)
  | fuel + 1 =>
    if p.char? == some ' ' then
      let p := p.next
      measureIndent (max deepest p.column) breaks p fuel
    else if p.atBreak then
      let (b, p) := p.takeBreak
      measureIndent deepest (b.reverse ++ breaks) p fuel
    else (breaks.reverse, deepest, p)

def atBlank (p : Spot) : Bool := p.char?.any fun c => c == ' ' || c == '\t'

/-- What stands between two lines in a folded scalar: a blank for one break between lines that do not
start with blanks. -/
def foldLines (indented : Bool) (lineBreak breaks : List Char) (p : Spot) : List Char :=
  if lineBreak == ['\n'] && !indented && !atBlank p then
    if breaks.isEmpty then [' '] else []
  else lineBreak

/-- The line breaks at the end of a block scalar that belong to it. -/
def chompedEnd (chomping : Chomping) (lineBreak breaks : List Char) : List Char :=
  match chomping with
  | .strip => []
  | .clip => lineBreak
  | .keep => lineBreak ++ breaks

/-- Reads the lines of a block scalar; `done` holds its text so far in reverse, `lineBreak` the break
that ended the last line and `breaks` those of the empty lines after it. -/
def takeLines (folded : Bool) (chomping : Chomping) (indent : Nat)
    (done lineBreak breaks : List Char) (p : Spot) : Nat → String × Spot
  | 0 => (String.ofList done.reverse, p)
  | fuel + 1 =>
    if p.column = indent && p.char?.isSome then
      let line := p.span (!isBreak ·)
      let indented := atBlank p
      let (lineBreak, p) := (p.skip line.length).takeBreak
      let done := line.reverse ++ breaks.reverse ++ done
      let (breaks, p) := takeEmptyLines indent [] p p.fuel
      if p.column = indent && p.char?.isSome then
        let between := if folded then foldLines indented lineBreak breaks p else lineBreak
        takeLines folded chomping indent (between.reverse ++ done) lineBreak breaks p fuel
      else
        (String.ofList (done.reverse ++ chompedEnd chomping lineBreak breaks), p)
    else (String.ofList (done.reverse ++ chompedEnd chomping lineBreak breaks), p)

/-- Reads a block scalar; what is around it is indented by `parent` columns. -/
def takeBlock (folded : Bool) (parent : Int) (p : Spot) : Except ReadFault (String × Spot) := do
  let header ← takeBlockHeader p.next
  match header.spot.finishLine? with
  | none => throw .malformed
  | some p =>
    let least := (max 1 (parent + 1)).toNat
    let fuel := p.fuel
    match header.increment with
    | none =>
      let (breaks, deepest, p) := measureIndent 0 [] p fuel
      return takeLines folded header.chomping (max least deepest) [] [] breaks p fuel
    | some n =>
      let indent := least + n - 1
      let (breaks, p) := takeEmptyLines indent [] p fuel
      return takeLines folded header.chomping indent [] [] breaks p fuel

end FileQuery.Document.Yaml
