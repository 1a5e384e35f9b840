import FileQuery.Document.Store
import FileQuery.Document.Yaml.Node
import FileQuery.Document.Yaml.Value

/-!
From nodes to documents.  A collection gets its place in the store when it is first met and is filled
later, in the order of the places, so it can contain itself.
-/

namespace FileQuery.Document.Yaml

/-- What is known while nodes become values: the order of sets, the nodes, their values as far as they
are known, the store, and the collections with their places in the order in which they are filled. -/
structure Builder where
  setOrder : List Scalar → List Scalar
  nodes : Array Node
  values : Array (Option Value)
  store : Store
  places : Array (Nat × Nat)

abbrev Build (α : Type) := StateT Builder (Except ReadFault) α

namespace Build

def nodeAt (id : Nat) : Build Node := do
  match (← get).nodes[id]? with
  | some n => return n
  | none => throw .malformed

def entriesOf (id : Nat) : Build (List (Nat × Nat)) := do
  match (← nodeAt id).content with
  | .mapping entries => return entries
  | _ => throw .malformed

def itemsOf (id : Nat) : Build (List Nat) := do
  match (← nodeAt id).content with
  | .sequence items => return items
  | _ => throw .malformed

def setEntries (id : Nat) (entries : List (Nat × Nat)) : Build Unit :=
  modify fun b => { b with nodes := b.nodes.modify id ({ · with content := .mapping entries }) }

/-- The text of a scalar; a mapping has the text of its value key. -/
def scalarText (id : Nat) : Nat → Build String
  | 0 => throw .tooDeep
  | fuel + 1 => do
    match (← nodeAt id).content with
    | .scalar text => return text
    | .sequence _ => throw .malformed
    | .mapping entries =>
      let nodes := (← get).nodes
      match entries.find? fun (key, _) => (nodes[key]?).any (·.tag = .value) with
      | some (_, value) => scalarText value fuel
      | none => throw .malformed

def emptyOf : Tag → Option Collection
  | .seq | .omap | .pairs => some (.list [])
  | .map => some (.map .empty)
  | .set => some (.set [])
  | _ => none

def push (c : Collection) : Build Nat := do
  let place := (← get).store.size
  modify fun b => { b with store := b.store.push c }
  return place

def setValue (id : Nat) (v : Value) : Build Value := do
  modify fun b => { b with values := b.values.set! id (some v) }
  return v

def scalarValue (id : Nat) (n : Node) (read : String → Except ReadFault Scalar) :
    Build Scalar := do
  let text ← scalarText id ((← get).nodes.size + 1)
  match n.tag, n.content with
  | .timestamp, .mapping _ => throw (.badValue .timestampOfMap)
  | _, _ => liftM (read text)

/-- The value of a node; a collection is filled later. -/
def valueOf (id : Nat) : Build Value := do
  match (← get).values[id]?.join with
  | some v => return v
  | none =>
    let n ← nodeAt id
    match n.tag.reader?, emptyOf n.tag with
    | some read, _ => setValue id (.scalar (← scalarValue id n read))
    | none, some c =>
      let place ← push c
      modify fun b => { b with places := b.places.push (id, place) }
      setValue id (.node place)
    | none, none => throw .malformed

def nextMerge? (nodes : Array Node) (start : Nat) (entries : List (Nat × Nat)) : Option Nat :=
  ((entries.drop start).findIdx? fun (key, _) => (nodes[key]?).any (·.tag = .merge)).map
    (start + ·)

/-- A value key that is not used as one is a text. -/
def relabel (entries : List (Nat × Nat)) : Build Unit :=
  modify fun b => { b with
    nodes := entries.foldl (fun nodes (key, _) =>
      nodes.modify key fun n => if n.tag = .value then { n with tag := .str } else n) b.nodes }

/-- Replaces the merge keys of a mapping from a place on by the members of the mappings that they
refer to, in front of its own members; `merged` holds those found before. -/
def mergeFrom (id start : Nat) (merged : List (Nat × Nat)) : Nat → Build Unit
  | 0 => throw .tooDeep
  | fuel + 1 => do
    let entries ← entriesOf id
    match nextMerge? (← get).nodes start entries with
    | none =>
      relabel (entries.drop start)
      if !merged.isEmpty then setEntries id (merged ++ entries)
    | some place =>
      relabel ((entries.take place).drop start)
      let value := (entries[place]?).map (·.2)
      setEntries id (entries.eraseIdx place)
      match value with
      | none => throw .malformed
      | some value =>
        match (← nodeAt value).content with
        | .mapping _ =>
          mergeFrom value 0 [] fuel
          mergeFrom id place (merged ++ (← entriesOf value)) fuel
        | .sequence items =>
          let found ← items.mapM fun item => do
            let _ ← entriesOf item
            mergeFrom item 0 [] fuel
            entriesOf item
          mergeFrom id place (merged ++ found.reverse.flatten) fuel
        | .scalar _ => throw .malformed

def mergeFuel : Build Nat := do
  let count (n : Node) : Nat := match n.content with
    | .scalar _ => 1
    | .sequence items => items.length + 1
    | .mapping entries => entries.length + 1
  return (← get).nodes.foldl (fun sum n => sum + count n) 1

/-- Sets a member.  What is no number is one and the same thing wherever it is spelled, so it is a key
that can be met again. -/
def putMember (key : Scalar) (value : Value) (entries : Entries) : Entries :=
  if key = .float .nan ∧ entries.members.any (·.1 = key) then entries.replace key value
  else entries.put key value

/-- The members of a mapping; keys that are collections are refused. -/
def membersOf (id : Nat) : Build Entries := do
  let _ ← entriesOf id
  mergeFrom id 0 [] (← mergeFuel)
  (← entriesOf id).foldlM (fun members (key, value) => do
    match ← valueOf key with
    | .scalar k => return putMember k (← valueOf value) members
    | .node _ => throw .malformed) .empty

/-- A pair, for a mapping with one member. -/
def pairOf (id : Nat) : Build Value := do
  match ← entriesOf id with
  | [(key, value)] =>
    let first ← valueOf key
    let second ← valueOf value
    return .node (← push (.pair first second))
  | _ => throw .malformed

def contentOf (id : Nat) : Build Collection := do
  match (← nodeAt id).tag with
  | .seq => return .list (← (← itemsOf id).mapM valueOf)
  | .omap | .pairs => return .list (← (← itemsOf id).mapM pairOf)
  | .set => return .set ((← get).setOrder ((← membersOf id).members.map (·.1)))
  | _ => return .map (← membersOf id)

/-- Fills the collections from a place in their order on. -/
def fillFrom (next : Nat) : Nat → Build Unit
  | 0 => throw .tooDeep
  | fuel + 1 => do
    match (← get).places[next]? with
    | none => return
    | some (id, place) =>
      let c ← contentOf id
      modify fun b => { b with store := b.store.set! place c }
      fillFrom (next + 1) fuel

def document (root : Nat) : Build Root := do
  let v ← valueOf root
  fillFrom 0 ((← get).nodes.size + 1)
  return ⟨(← get).store, v⟩

end Build

def toDocument (setOrder : List Scalar → List Scalar) (nodes : Array Node) (root : Nat) :
    Except ReadFault Root :=
  (Build.document root).run' ⟨setOrder, nodes, Array.replicate nodes.size none, #[], #[]⟩

end FileQuery.Document.Yaml
