import FileQuery.Document.Yaml.Spot
import FileQuery.Text.Utf8

/-!
Names of anchors and aliases, tags, and directives.
-/

namespace FileQuery.Document.Yaml

inductive Directive where
  | version (major minor : Nat)
  | tag (handle lead : String)
  | other
deriving DecidableEq, Repr

def isNameChar (c : Char) : Bool := c.isAlphanum || c == '-' || c == '_'

/-- Characters of tags; a percent sign begins the code of a byte. -/
def isTagChar (c : Char) : Bool :=
  c.isAlphanum || "-;/?:@&=+$,_.!~*'()[]%".toList.contains c

def atSpace (p : Spot) : Bool := p.char?.all fun c => c == ' ' || isBreak c

def takeName (p : Spot) : Except ReadFault (String × Spot) :=
  let name := p.span isNameChar
  let p := p.skip name.length
  if name.isEmpty then .error .malformed
  else if p.isGapAt 0 || p.char?.any ("?:,]\x7d%@\x60".toList.contains ·) then
    .ok (String.ofList name, p)
  else .error .malformed

def takeCodes (done : List UInt8) (p : Spot) : Nat → Except ReadFault (List Char × Spot)
  | 0 => .error .malformed
  | fuel + 1 =>
    match p.rest with
    | '%' :: rest =>
      match takeHex 0 2 rest with
      | some (code, _) => takeCodes (code.toUInt8 :: done) (p.skip 3) fuel
      | none => .error .malformed
    | _ =>
      match Text.readUtf8 done.reverse with
      | .ok text => .ok (text, p)
      | .error _ => .error .malformed

def takeTagChars (done : List Char) (p : Spot) : Nat → Except ReadFault (List Char × Spot)
  | 0 => .error .malformed
  | fuel + 1 =>
    match p.char? with
    | some '%' =>
      match takeCodes [] p p.fuel with
      | .ok (text, p) => takeTagChars (text.reverse ++ done) p fuel
      | .error e => .error e
    | some c =>
      if isTagChar c then takeTagChars (c :: done) p.next fuel else .ok (done.reverse, p)
    | none => .ok (done.reverse, p)

/-- Reads the characters of a tag, of which there has to be one. -/
def takeTagText (p : Spot) : Except ReadFault (String × Spot) :=
  match takeTagChars [] p p.fuel with
  | .ok (text, q) =>
    if q.index = p.index then .error .malformed else .ok (String.ofList text, q)
  | .error e => .error e

def takeHandle (p : Spot) : Except ReadFault (String × Spot) :=
  match p.rest with
  | '!' :: rest =>
    if rest.head? == some ' ' then .ok ("!", p.next)
    else
      let name := rest.takeWhile isNameChar
      if (rest.drop name.length).head? == some '!' then
        .ok (String.ofList ('!' :: name ++ ['!']), p.skip (name.length + 2))
      else .error .malformed
  | _ => .error .malformed

def takeTag (p : Spot) : Except ReadFault ((Option String × String) × Spot) := do
  let (tag, p) ←
    if p.peek? 1 == some '<' then do
      let (text, p) ← takeTagText (p.skip 2)
      if p.char? == some '>' then pure ((none, text), p.next) else throw .malformed
    else if p.isGapAt 1 then pure ((none, "!"), p.next)
    else do
      let word := p.next.span fun c => !(c == ' ' || isBreak c)
      let (handle, p) ← if word.contains '!' then takeHandle p else pure ("!", p.next)
      let (text, p) ← takeTagText p
      pure ((some handle, text), p)
  if atSpace p then return (tag, p) else throw .malformed

def takeVersionNumber (p : Spot) : Except ReadFault (Nat × Spot) :=
  let digits := p.span isDigit
  if digits.isEmpty then .error .malformed
  else
    match Number.readDigits "" digits with
    | .ok n => .ok (n, p.skip digits.length)
    | .error fault => .error (.badValue (.integer fault))

def takeVersion (p : Spot) : Except ReadFault (Directive × Spot) := do
  let (major, p) ← takeVersionNumber p.skipSpaces
  if p.char? != some '.' then throw .malformed
  let (minor, p) ← takeVersionNumber p.next
  if atSpace p then return (.version major minor, p) else throw .malformed

def takeTagDirective (p : Spot) : Except ReadFault (Directive × Spot) := do
  let (handle, p) ← takeHandle p.skipSpaces
  if p.char? != some ' ' then throw .malformed
  let (lead, p) ← takeTagText p.skipSpaces
  if atSpace p then return (.tag handle lead, p) else throw .malformed

def takeDirective (p : Spot) : Except ReadFault (Directive × Spot) := do
  let name := p.span isNameChar
  let p := p.skip name.length
  if name.isEmpty || !atSpace p then throw .malformed
  let (directive, p) ← match String.ofList name with
    | "YAML" => takeVersion p
    | "TAG" => takeTagDirective p
    | _ => pure (.other, p.after (!isBreak ·))
  match p.finishLine? with
  | some p => return (directive, p)
  | none => throw .malformed

end FileQuery.Document.Yaml
