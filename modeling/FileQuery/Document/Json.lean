import FileQuery.Document.Reader
import FileQuery.Document.Tree

/-!
Reading JSON.  Besides the standard's values there are `NaN`, `Infinity` and `-Infinity`; of several
members with one name the last counts, at the place of the first.
-/

namespace FileQuery.Document.Json

def isBlank (c : Char) : Bool := c == ' ' || c == '\t' || c == '\n' || c == '\r'

def skipBlanks (s : List Char) : List Char := s.dropWhile isBlank

def lowSurrogate? (s : List Char) : Option (Nat × List Char) :=
  match s with
  | '\\' :: 'u' :: rest =>
    (takeHex 0 4 rest).bind fun (n, rest) =>
      if 0xdc00 ≤ n && n < 0xe000 then some (n, rest) else none
  | _ => none

/-- Half of a pair of surrogates, which is no character by itself; it is kept as one of those at the
end of the last plane, which are for private use. -/
def loneSurrogate (code : Nat) : Char := Char.ofNat (0x10f800 + (code - 0xd800))

def escapedChar (code : Nat) (s : List Char) : Char × List Char :=
  if 0xd800 ≤ code && code < 0xdc00 then
    match lowSurrogate? s with
    | some (low, rest) => (Char.ofNat (0x10000 + (code - 0xd800) * 0x400 + (low - 0xdc00)), rest)
    | none => (loneSurrogate code, s)
  else if 0xdc00 ≤ code && code < 0xe000 then (loneSurrogate code, s)
  else (Char.ofNat code, s)

def shortEscape? : Char → Option Char
  | '"' => some '"'
  | '\\' => some '\\'
  | '/' => some '/'
  | 'b' => some '\x08'
  | 'f' => some '\x0c'
  | 'n' => some '\n'
  | 'r' => some '\r'
  | 't' => some '\t'
  | _ => none

def readEscape : Reader Char
  | [] => .error .malformed
  | 'u' :: rest =>
    match takeHex 0 4 rest with
    | some (code, rest) => .ok (escapedChar code rest)
    | none => .error .malformed
  | c :: rest =>
    match shortEscape? c with
    | some d => .ok (d, rest)
    | none => .error .malformed

/-- Reads a text after its opening quote; `done` holds its characters so far in reverse.  There are
no more characters than `size`. -/
def readString (done : List Char) : Nat → Reader String
  | _, [] => .error .malformed
  | 0, _ => .error .malformed
  | size + 1, c :: rest =>
    if c == '"' then .ok (String.ofList done.reverse, rest)
    else if c == '\\' then
      match readEscape rest with
      | .ok (d, rest) => readString (d :: done) size rest
      | .error e => .error e
    else if c.toNat < 32 then .error .malformed
    else readString (c :: done) size rest

def wholeDigits (s : List Char) : List Char :=
  match s with
  | '0' :: _ => ['0']
  | s => s.takeWhile isDigit

def fractionPart (s : List Char) : List Char :=
  match s with
  | '.' :: rest =>
    let digits := rest.takeWhile isDigit
    if digits.isEmpty then [] else '.' :: digits
  | _ => []

def exponentPart (s : List Char) : List Char :=
  match s with
  | c :: rest =>
    if c == 'e' || c == 'E' then
      let sign := (rest.take 1).filter fun d => d == '+' || d == '-'
      let digits := (rest.drop sign.length).takeWhile isDigit
      if digits.isEmpty then [] else c :: sign ++ digits
    else []
  | [] => []

def readNumber : Reader Scalar := fun s =>
  let sign := (s.take 1).filter (· == '-')
  let s := s.drop sign.length
  let whole := wholeDigits s
  if whole.isEmpty then .error .malformed
  else
    let s := s.drop whole.length
    let fraction := fractionPart s
    let s := s.drop fraction.length
    let exponent := exponentPart s
    let s := s.drop exponent.length
    let text := sign ++ whole ++ fraction ++ exponent
    if fraction.isEmpty && exponent.isEmpty then
      match Number.readInteger (String.ofList text) text with
      | .ok i => .ok (.int i, s)
      | .error fault => .error (.badValue (.integer fault))
    else
      match Number.readFloat text with
      | some w => .ok (.float w.value, s)
      | none => .error .malformed

def words : List (String × Scalar) :=
  [("null", .null), ("true", .bool true), ("false", .bool false), ("NaN", .float .nan),
    ("Infinity", .float (.infinite false)), ("-Infinity", .float (.infinite true))]

def readScalar (size : Nat) : Reader Scalar := fun s =>
  match s with
  | '"' :: rest => (readString [] size rest).map fun (t, rest) => (.str t, rest)
  | s =>
    match words.find? fun (word, _) => word.toList.isPrefixOf s with
    | some (word, value) => .ok (value, s.drop word.length)
    | none => readNumber s

def readItems (read : Reader Tree) (done : List Tree) : Nat → Reader Tree
  | 0, _ => .error .malformed
  | size + 1, s =>
    match read s with
    | .error e => .error e
    | .ok (t, rest) =>
      match skipBlanks rest with
      | ',' :: rest => readItems read (t :: done) size (skipBlanks rest)
      | ']' :: rest => .ok (.list (t :: done).reverse, rest)
      | _ => .error .malformed

/-- Reads the name of a member, up to its value. -/
def readName (size : Nat) : Reader String := fun s =>
  match s with
  | '"' :: rest =>
    match readString [] size rest with
    | .error e => .error e
    | .ok (name, rest) =>
      match skipBlanks rest with
      | ':' :: rest => .ok (name, skipBlanks rest)
      | _ => .error .malformed
  | _ => .error .malformed

def readMembers (read : Reader Tree) (done : List (String × Tree)) : Nat → Reader Tree
  | 0, _ => .error .malformed
  | size + 1, s =>
    match readName (size + 1) s with
    | .error e => .error e
    | .ok (name, rest) =>
      match read rest with
      | .error e => .error e
      | .ok (t, rest) =>
        let done := Tree.put name t done
        match skipBlanks rest with
        | ',' :: rest => readMembers read done size (skipBlanks rest)
        | '\x7d' :: rest => .ok (.map done, rest)
        | _ => .error .malformed

/-- Reads a value whose collections are nested no deeper than `depth`.  The whole text has no more
than `size` characters. -/
def readValue (size : Nat) : Nat → Reader Tree
  | 0, s =>
    match s with
    | '[' :: _ | '\x7b' :: _ => .error .tooDeep
    | s => (readScalar size s).map fun (x, rest) => (.scalar x, rest)
  | depth + 1, s =>
    match s with
    | '[' :: rest =>
      match skipBlanks rest with
      | ']' :: rest => .ok (.list [], rest)
      | rest => readItems (readValue size depth) [] size rest
    | '\x7b' :: rest =>
      match skipBlanks rest with
      | '\x7d' :: rest => .ok (.map [], rest)
      | rest => readMembers (readValue size depth) [] size rest
    | s => (readScalar size s).map fun (x, rest) => (.scalar x, rest)

/-- Reads a text that is one value.  A byte order mark is no blank. -/
def read (depth : Nat) (s : List Char) : Except ReadFault Tree :=
  match readValue (s.length + 1) depth (skipBlanks s) with
  | .error e => .error e
  | .ok (t, rest) => if (skipBlanks rest).isEmpty then .ok t else .error .malformed

end FileQuery.Document.Json
