import FileQuery.Document.Yaml.Tag
import FileQuery.Document.Yaml.Token

/-!
Nodes: a document as it is marked up, before its scalars are read.  Nodes are numbered, so that an
alias is a second mention of a number.
-/

namespace FileQuery.Document.Yaml

inductive Content where
  | scalar (text : String)
  | sequence (items : List Nat)
  | mapping (entries : List (Nat × Nat))
deriving DecidableEq, Repr

structure Node where
  tag : Tag
  content : Content
deriving DecidableEq, Repr

/-- What is known while nodes are made of tokens: the tokens to come, the nodes, those with an anchor,
and what the handles of tags stand for. -/
structure Composer where
  lexer : Lexer
  nodes : Array Node
  anchors : List (String × Nat)
  handles : List (String × String)

abbrev Compose (α : Type) := StateT Composer (Except ReadFault) α

namespace Compose

def peek : Compose Token := do
  let (t, lexer) ← (← get).lexer.peek
  modify ({ · with lexer })
  return t

def advance : Compose Unit := modify fun c => { c with lexer := c.lexer.advance }

def accept (t : Token) : Compose Bool := do
  if (← peek) = t then
    advance
    return true
  return false

/-- More steps than the tokens to come can take. -/
def fuel : Compose Nat := return (← get).lexer.spot.fuel

def add (n : Node) : Compose Nat := do
  let id := (← get).nodes.size
  modify fun c => { c with nodes := c.nodes.push n }
  return id

def fill (id : Nat) (content : Content) : Compose Unit :=
  modify fun c => { c with nodes := c.nodes.modify id ({ · with content }) }

def empty : Compose Nat := add ⟨.null, .scalar ""⟩

def properties : Compose (Option String × Option (Option String × String)) := do
  match ← peek with
  | .anchor name =>
    advance
    match ← peek with
    | .tag handle text =>
      advance
      return (some name, some (handle, text))
    | _ => return (some name, none)
  | .tag handle text =>
    advance
    match ← peek with
    | .anchor name =>
      advance
      return (some name, some (handle, text))
    | _ => return (none, some (handle, text))
  | _ => return (none, none)

def tagText (tag : Option (Option String × String)) : Compose (Option String) := do
  match tag with
  | none => return none
  | some (none, text) => return some text
  | some (some handle, text) =>
    match (← get).handles.lookup handle with
    | some lead => return some (lead ++ text)
    | none => throw .malformed

/-- The kind of a scalar: the one that its tag names, else the one that it is spelled like if it is
plain or its tag is a lone exclamation mark. -/
def scalarTag (tag : Option String) (text : String) (isPlain : Bool) : Tag :=
  match tag with
  | none => if isPlain then .ofPlain text else .str
  | some "!" => .ofPlain text
  | some tag => .ofText tag

def collectionTag (tag : Option String) (usual : Tag) : Tag :=
  match tag with
  | none | some "!" => usual
  | some tag => .ofText tag

def addAnchored (anchor : Option String) (n : Node) : Compose Nat := do
  match anchor with
  | none => add n
  | some name =>
    if ((← get).anchors.lookup name).isSome then throw .malformed
    let id ← add n
    modify fun c => { c with anchors := (name, id) :: c.anchors }
    return id

/-- What may begin where a node is read: no block collection inside flow collections; any collection
in block sequences and at the root; a sequence that is not indented as well, as a key or a value of a
block mapping; a mapping of one member without braces in a flow sequence. -/
inductive Manner where
  | inFlow
  | inBlock
  | inMapping
  | asMember
deriving DecidableEq, Repr

def orEmpty (read : Compose Nat) (ends : List Token) : Compose Nat := do
  if ends.contains (← peek) then empty else read

def blockItems (read : Manner → Compose Nat) (done : List Nat) : Nat → Compose (List Nat)
  | 0 => throw .malformed
  | fuel + 1 => do
    if ← accept .blockEntry then
      let item ← orEmpty (read .inBlock) [.blockEntry, .blockEnd]
      blockItems read (item :: done) fuel
    else if ← accept .blockEnd then return done.reverse
    else throw .malformed

/-- Reads the items of a block sequence that is not indented. -/
def indentlessItems (read : Manner → Compose Nat) (done : List Nat) : Nat → Compose (List Nat)
  | 0 => throw .malformed
  | fuel + 1 => do
    if ← accept .blockEntry then
      let item ← orEmpty (read .inBlock) [.blockEntry, .key, .value, .blockEnd]
      indentlessItems read (item :: done) fuel
    else return done.reverse

def valueOrEmpty (read : Compose Nat) (ends : List Token) : Compose Nat := do
  if ← accept .value then orEmpty read ends else empty

def blockEntries (read : Manner → Compose Nat) (done : List (Nat × Nat)) :
    Nat → Compose (List (Nat × Nat))
  | 0 => throw .malformed
  | fuel + 1 => do
    if ← accept .key then
      let ends := [.key, .value, .blockEnd]
      let key ← orEmpty (read .inMapping) ends
      let value ← valueOrEmpty (read .inMapping) ends
      blockEntries read ((key, value) :: done) fuel
    else if ← accept .blockEnd then return done.reverse
    else throw .malformed

def comma (isFirst : Bool) : Compose Unit := do
  if isFirst then return
  if !(← accept .flowEntry) then throw .malformed

/-- Reads the items of a flow sequence; an item can be a mapping of one member without braces. -/
def flowItems (read : Manner → Compose Nat) (done : List Nat) : Nat → Compose (List Nat)
  | 0 => throw .malformed
  | fuel + 1 => do
    if ← accept .flowSequenceEnd then return done.reverse
    comma done.isEmpty
    if ← accept .flowSequenceEnd then return done.reverse
    let item ← read (if (← peek) = .key then .asMember else .inFlow)
    flowItems read (item :: done) fuel

def soleMember (read : Manner → Compose Nat) : Compose (Nat × Nat) := do
  let key ← orEmpty (read .inFlow) [.value, .flowEntry, .flowSequenceEnd]
  let value ← valueOrEmpty (read .inFlow) [.flowEntry, .flowSequenceEnd]
  return (key, value)

def flowEntries (read : Manner → Compose Nat) (done : List (Nat × Nat)) :
    Nat → Compose (List (Nat × Nat))
  | 0 => throw .malformed
  | fuel + 1 => do
    if ← accept .flowMappingEnd then return done.reverse
    comma done.isEmpty
    if ← accept .flowMappingEnd then return done.reverse
    if ← accept .key then
      let key ← orEmpty (read .inFlow) [.value, .flowEntry, .flowMappingEnd]
      let value ← valueOrEmpty (read .inFlow) [.flowEntry, .flowMappingEnd]
      flowEntries read ((key, value) :: done) fuel
    else
      let key ← read .inFlow
      let value ← empty
      flowEntries read ((key, value) :: done) fuel

def collection? (read : Manner → Compose Nat) (manner : Manner) :
    Token → Option (Tag × (Nat → Compose Content))
  | .key =>
    if manner = .asMember then
      some (.map, fun _ => do advance; return .mapping [← soleMember read])
    else none
  | .blockEntry =>
    if manner = .inMapping then
      some (.seq, fun fuel => return .sequence (← indentlessItems read [] fuel))
    else none
  | .flowSequence => some (.seq, fun fuel => do advance; return .sequence (← flowItems read [] fuel))
  | .flowMapping => some (.map, fun fuel => do advance; return .mapping (← flowEntries read [] fuel))
  | .blockSequence =>
    if manner = .inBlock || manner = .inMapping then
      some (.seq, fun fuel => do advance; return .sequence (← blockItems read [] fuel))
    else none
  | .blockMapping =>
    if manner = .inBlock || manner = .inMapping then
      some (.map, fun fuel => do advance; return .mapping (← blockEntries read [] fuel))
    else none
  | _ => none

def node : Nat → Manner → Compose Nat
  | depth, manner => do
    match ← peek with
    | .alias name =>
      advance
      match (← get).anchors.lookup name with
      | some id => return id
      | none => throw .malformed
    | _ =>
      let (anchor, tag) ← properties
      let tag ← tagText tag
      match ← peek with
      | .scalar text isPlain =>
        advance
        addAnchored anchor ⟨scalarTag tag text isPlain, .scalar text⟩
      | t =>
        match depth with
        | 0 =>
          if (collection? (fun _ => throw .tooDeep) manner t).isSome then throw .tooDeep
          else bare anchor tag
        | depth + 1 =>
          match collection? (node depth) manner t with
          | some (usual, read) =>
            let id ← addAnchored anchor ⟨collectionTag tag usual, .scalar ""⟩
            fill id (← read (← fuel))
            return id
          | none => bare anchor tag
where
  /-- An anchor or a tag can stand alone, before an empty scalar. -/
  bare (anchor tag : Option String) : Compose Nat := do
    if anchor.isNone && tag.isNone then throw .malformed
    addAnchored anchor ⟨scalarTag tag "" true, .scalar ""⟩

def usualHandles : List (String × String) := [("!", "!"), ("!!", knownLead)]

def directives (hasVersion : Bool) (handles : List (String × String)) :
    Nat → Compose (List (String × String))
  | 0 => throw .malformed
  | fuel + 1 => do
    match ← peek with
    | .directive d =>
      advance
      match d with
      | .version major _ =>
        if hasVersion || major != 1 then throw .malformed
        directives true handles fuel
      | .tag handle lead =>
        if (handles.lookup handle).isSome then throw .malformed
        directives hasVersion ((handle, lead) :: handles) fuel
      | .other => directives hasVersion handles fuel
    | _ => return handles

def skipEnds : Nat → Compose Unit
  | 0 => throw .malformed
  | fuel + 1 => do if ← accept .documentEnd then skipEnds fuel

def isFinished : Compose Bool := do
  skipEnds (← fuel)
  return (← peek) = .streamEnd

def explicitRoot (depth : Nat) : Compose (Option Nat) := do
  if ← isFinished then return none
  let handles ← directives false [] (← fuel)
  modify ({ · with handles := handles ++ usualHandles })
  if !(← accept .documentStart) then throw .malformed
  match ← peek with
  | .directive _ | .documentStart | .documentEnd | .streamEnd => return some (← empty)
  | _ => return some (← node depth .inBlock)

def root (depth : Nat) (isFirst : Bool) : Compose (Option Nat) := do
  modify ({ · with nodes := #[], anchors := [] })
  let hasMark := match ← peek with
    | .directive _ | .documentStart | .streamEnd => true
    | _ => !isFirst
  let root ← if hasMark then explicitRoot depth else do
    modify ({ · with handles := usualHandles })
    pure (some (← node depth .inBlock))
  if root.isSome then let _ ← accept .documentEnd
  return root

end Compose

end FileQuery.Document.Yaml
