import FileQuery.Document.Toml.Value

/-!
Reading TOML, statement by statement: a statement sets a member of the table of the last header, or
is a header that opens a table or adds one to a list of tables.
-/

namespace FileQuery.Document.Toml

/-- What has been read of a document: its members, the keys that may not be used again, those that
may not from the next header on, and the key of the current header. -/
structure State where
  members : Members
  guards : Guards
  pending : List Key
  header : Key

/-- The keys of the tables that a dotted key passes through. -/
def passedKeys (header key : Key) : List Key :=
  (List.range (key.length - 1)).map fun i => header ++ key.take (i + 1)

def State.set (state : State) (key : Key) (t : Tree) : Except ReadFault State := do
  let passed := passedKeys state.header key
  if passed.any state.guards.hasDeclared then throw .malformed
  let target := state.header ++ key.dropLast
  if state.guards.hasSealed target then throw .malformed
  let members ← changeTable true (addMember (key.getLast?.getD "") t) target state.members
  return { state with
    members, guards := state.guards.sealValue (state.header ++ key) t
    pending := passed ++ state.pending }

/-- The keys that waited for a header are declared. -/
def State.settle (state : State) : State :=
  { state with guards := state.pending.foldl Guards.declare state.guards, pending := [] }

def State.openTable (state : State) (key : Key) : Except ReadFault State := do
  if state.guards.hasDeclared key || state.guards.hasSealed key then throw .malformed
  let members ← changeTable true .ok key state.members
  return { state with members, guards := state.guards.declare key, header := key }

def State.openItem (state : State) (key : Key) : Except ReadFault State := do
  if state.guards.hasSealed key then throw .malformed
  let members ← changeTable true (addTable (key.getLast?.getD "")) key.dropLast state.members
  return { state with members, guards := (state.guards.free key).declare key, header := key }

def readHeader (size : Nat) (state : State) : Reader State := fun s =>
  match s with
  | '[' :: '[' :: rest => do
    let (key, rest) ← readKey size (skipBlanks rest)
    let state ← state.settle.openItem key
    match rest with
    | ']' :: ']' :: rest => return (state, rest)
    | _ => throw .malformed
  | '[' :: rest => do
    let (key, rest) ← readKey size (skipBlanks rest)
    let state ← state.settle.openTable key
    match rest with
    | ']' :: rest => return (state, rest)
    | _ => throw .malformed
  | _ => .error .malformed

def readStatement (size depth : Nat) (state : State) : Reader State := fun s =>
  match s with
  | c :: _ =>
    if isKeyStart c then do
      let ((key, t), rest) ← readPair size (readValue size depth) s
      return (← state.set key t, rest)
    else if c == '#' then .ok (state, s)
    else readHeader size state s
  | [] => .ok (state, s)

def readStatements (size depth : Nat) (state : State) :
    Nat → List Char → Except ReadFault Members
  | 0, _ => .error .malformed
  | fuel + 1, s =>
    match skipBlanks s with
    | [] => .ok state.members
    | '\n' :: rest => readStatements size depth state fuel rest
    | s => do
      let (state, rest) ← readStatement size depth state s
      match ← skipComment (skipBlanks rest) with
      | [] => return state.members
      | '\n' :: rest => readStatements size depth state fuel rest
      | _ => throw .malformed

def joinBreaks (done : List Char) : List Char → List Char
  | '\r' :: '\n' :: rest => joinBreaks ('\n' :: done) rest
  | c :: rest => joinBreaks (c :: done) rest
  | [] => done.reverse

def read (depth : Nat) (s : List Char) : Except ReadFault Tree :=
  let s := joinBreaks [] s
  let size := s.length + 1
  (readStatements size depth ⟨[], Guards.empty, [], []⟩ size s).map .map

end FileQuery.Document.Toml
