import FileQuery.Document.Toml.Scalar
import FileQuery.Document.Toml.Table
import FileQuery.Document.Toml.Text

/-!
Keys and values of TOML.
-/

namespace FileQuery.Document.Toml

def isNameChar (c : Char) : Bool := c.isAlphanum || c == '-' || c == '_'

def isKeyStart (c : Char) : Bool := isNameChar c || c == '"' || c == '\''

def readName (size : Nat) : Reader String := fun s =>
  let name := s.takeWhile isNameChar
  if name.isEmpty then (readLine size s).map fun (name, rest) => (name, skipBlanks rest)
  else .ok (String.ofList name, skipBlanks (s.drop name.length))

def readNames (size : Nat) (done : Key) : Nat → Reader Key
  | 0, _ => .error .malformed
  | fuel + 1, s =>
    match readName size s with
    | .error e => .error e
    | .ok (name, rest) =>
      match rest with
      | '.' :: rest => readNames size (name :: done) fuel (skipBlanks rest)
      | rest => .ok ((name :: done).reverse, rest)

def readKey (size : Nat) : Reader Key := readNames size [] size

def readPair (size : Nat) (read : Reader Tree) : Reader (Key × Tree) := fun s =>
  match readKey size s with
  | .error e => .error e
  | .ok (key, '=' :: rest) => (read (skipBlanks rest)).map fun (t, rest) => ((key, t), rest)
  | .ok _ => .error .malformed

def skipLines : Nat → List Char → Except ReadFault (List Char)
  | 0, s => .ok s
  | fuel + 1, s =>
    match s.dropWhile isSpace with
    | '#' :: rest =>
      match skipComment ('#' :: rest) with
      | .ok rest => skipLines fuel rest
      | .error e => .error e
    | rest => .ok rest

def readItems (size : Nat) (read : Reader Tree) (done : List Tree) : Nat → Reader Tree
  | 0, _ => .error .malformed
  | fuel + 1, s =>
    match s with
    | ']' :: rest => .ok (.list done.reverse, rest)
    | s => do
      let (t, rest) ← read s
      match ← skipLines size rest with
      | ']' :: rest => return (.list (t :: done).reverse, rest)
      | ',' :: rest => readItems size read (t :: done) fuel (← skipLines size rest)
      | _ => throw .malformed

def readMembers (size : Nat) (read : Reader Tree) (members : Members) (guards : Guards) :
    Nat → Reader Tree
  | 0, _ => .error .malformed
  | fuel + 1, s => do
    let ((key, t), rest) ← readPair size read s
    if guards.hasSealed key then throw .malformed
    let members ←
      changeTable false (addMember (key.getLast?.getD "") t) key.dropLast members
    match skipBlanks rest with
    | '\x7d' :: rest => return (.map members, rest)
    | ',' :: rest =>
      readMembers size read members (guards.sealValue key t) fuel (skipBlanks rest)
    | _ => throw .malformed

/-- Reads a value whose lists and tables are nested no deeper than `depth`.  The whole text has no
more than `size` characters. -/
def readValue (size : Nat) : Nat → Reader Tree
  | 0, s =>
    match s with
    | '[' :: _ | '\x7b' :: _ => .error .tooDeep
    | s => readLeaf s
  | depth + 1, s =>
    match s with
    | '[' :: rest => do readItems size (readValue size depth) [] size (← skipLines size rest)
    | '\x7b' :: rest =>
      match skipBlanks rest with
      | '\x7d' :: rest => .ok (.map [], rest)
      | rest => readMembers size (readValue size depth) [] Guards.empty size rest
    | s => readLeaf s
where
  /-- Reads a value that is no collection. -/
  readLeaf : Reader Tree
    | '"' :: rest => (readText size ('"' :: rest)).map fun (t, rest) => (.scalar (.str t), rest)
    | '\'' :: rest => (readText size ('\'' :: rest)).map fun (t, rest) => (.scalar (.str t), rest)
    | s => (readScalar s).map fun (x, rest) => (.scalar x, rest)

end FileQuery.Document.Toml
