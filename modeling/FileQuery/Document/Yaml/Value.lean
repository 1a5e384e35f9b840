import FileQuery.Document.Yaml.Tag
import FileQuery.Text.Base64
import FileQuery.Text.Case

/-!
Values of scalar nodes.  A node can be marked as of a kind that its text does not spell; then there is
no value.
-/

namespace FileQuery.Document.Yaml

def dropJoints (s : List Char) : List Char := s.filter (· != '_')

def digitInBase? (base : Nat) (c : Char) : Option Nat :=
  let value := (Text.decimalValue? c).or ((hexDigit? c).filter (10 ≤ ·))
  value.filter (· < base)

def baseMarks (base : Nat) : List Char :=
  if base = 16 then ['x', 'X'] else if base = 8 then ['o', 'O'] else ['b', 'B']

def dropBaseMark (base : Nat) (s : List Char) : List Char :=
  match s with
  | '0' :: mark :: rest => if (baseMarks base).contains mark then rest else s
  | s => s

def readBased? (base : Nat) (s : List Char) : Option Int :=
  let s := Text.trimNumber s
  let digits := dropBaseMark base (dropSign s)
  if digits.isEmpty then none
  else
    (digits.foldlM (fun n c => (digitInBase? base c).map (n * base + ·)) 0).map fun n =>
      if s.head? == some '-' then -(n : Int) else n

def readWhole (s : List Char) : Except ReadFault Int :=
  (Number.readInteger (String.ofList s) (Text.trimNumber s)).mapError (.badValue <| .integer ·)

def splitColons (part : List Char) : List Char → List (List Char)
  | [] => [part.reverse]
  | c :: rest =>
    if c == ':' then part.reverse :: splitColons [] rest else splitColons (c :: part) rest

def inBase (base : Nat) (s : List Char) : Except ReadFault Int :=
  match readBased? base s with
  | some i => .ok i
  | none => .error (.badValue (.integer (.malformed (String.ofList s))))

/-- The value of an integer without its first sign. -/
def readMagnitude (s : List Char) : Except ReadFault Int :=
  match s with
  | [] => .error (.badValue .emptyNumber)
  | ['0'] => .ok 0
  | '0' :: 'b' :: rest => inBase 2 rest
  | '0' :: 'x' :: rest => inBase 16 rest
  | '0' :: _ => inBase 8 s
  | s =>
    if s.contains ':' then do
      let parts ← (splitColons [] s).mapM readWhole
      return parts.foldl (fun n part => n * 60 + part) 0
    else readWhole s

def readInt (text : String) : Except ReadFault Scalar := do
  let s := dropJoints text.toList
  if s.isEmpty then throw (.badValue .emptyNumber)
  let n ← readMagnitude (dropSign s)
  return .int (if s.head? == some '-' then -n else n)

def readReal (s : List Char) : Except ReadFault Number.Binary64 :=
  let s := Text.trimNumber s
  match String.ofList (dropSign s) with
  | "inf" | "infinity" => .ok (.infinite (s.head? == some '-'))
  | "nan" => .ok .nan
  | _ =>
    match Number.readFloat s with
    | some w => .ok w.value
    | none => .error (.badValue .float)

/-- Adds the groups below 60 of a number, the last one first; `base` is what a unit of the next group
counts. -/
def addSixties (sum : Number.Binary64) (base : Nat) :
    List Number.Binary64 → Except ReadFault Number.Binary64
  | [] => .ok sum
  | x :: rest =>
    match Number.Binary64.ofInt base with
    | .finite s m e => addSixties (sum.add (x.mul (.finite s m e))) (base * 60) rest
    | _ => .error (.badValue .hugeNumber)

def readRealMagnitude (s : List Char) : Except ReadFault Number.Binary64 := do
  match String.ofList s with
  | ".inf" => return .infinite false
  | ".nan" => return .nan
  | _ =>
    if s.contains ':' then
      let parts ← (splitColons [] s).mapM readReal
      addSixties (.finite false 0 Number.Binary64.leastExponent) 1 parts.reverse
    else readReal s

def readFloat (text : String) : Except ReadFault Scalar := do
  let s := (Text.lower (String.ofList (dropJoints text.toList))).toList
  if s.isEmpty then throw (.badValue .emptyNumber)
  let x ← readRealMagnitude (dropSign s)
  return .float (if s.head? == some '-' then x.neg else x)

def readBool (text : String) : Except ReadFault Scalar :=
  match Text.lower text with
  | "yes" | "true" | "on" => .ok (.bool true)
  | "no" | "false" | "off" => .ok (.bool false)
  | _ => .error (.badValue .truth)

def readTimestamp (text : String) : Except ReadFault Scalar :=
  match readTimestamp? text.toList with
  | none => .error (.badValue .timestamp)
  | some w =>
    match w.value? with
    | some x => .ok x
    | none => .error (.badValue .date)

def readBinary (text : String) : Except ReadFault Scalar :=
  let s := text.toList
  if s.all (·.toNat < 128) then
    match Text.readBase64 s with
    | some bytes => .ok (.bytes bytes)
    | none => .error .malformed
  else .error .malformed

def Tag.reader? : Tag → Option (String → Except ReadFault Scalar)
  | .null => some fun _ => .ok .null
  | .bool => some readBool
  | .int => some readInt
  | .float => some readFloat
  | .binary => some readBinary
  | .timestamp => some readTimestamp
  | .str => some fun text => .ok (.str text)
  | _ => none

end FileQuery.Document.Yaml
