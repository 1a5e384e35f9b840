import FileQuery.Document.Fault
import FileQuery.Document.Tree

/-!
Tables under construction: members are set by keys of several names, and some keys may not be used
again.
-/

namespace FileQuery.Document.Toml

/-- A key: names that lead from table to table. -/
abbrev Key := List String

abbrev Members := List (String × Tree)

/-- Changes the table that a key leads to; tables that are missing on the way are made.  A list of
tables stands for its last one, where `throughLists` allows it. -/
def changeTable (throughLists : Bool) (change : Members → Except ReadFault Members) :
    Key → Members → Except ReadFault Members
  | [], members => change members
  | name :: key, members =>
    match members.lookup name with
    | none => do
      let inner ← changeTable throughLists change key []
      return Tree.put name (.map inner) members
    | some (.map inner) => do
      let inner ← changeTable throughLists change key inner
      return Tree.put name (.map inner) members
    | some (.list items) =>
      match throughLists, items.getLast? with
      | true, some (.map inner) => do
        let inner ← changeTable throughLists change key inner
        return Tree.put name (.list (items.dropLast ++ [.map inner])) members
      | _, _ => .error .malformed
    | some (.scalar _) => .error .malformed

def addMember (name : String) (value : Tree) (members : Members) : Except ReadFault Members :=
  if (members.lookup name).isSome then .error .malformed else .ok (members ++ [(name, value)])

def addTable (name : String) (members : Members) : Except ReadFault Members :=
  match members.lookup name with
  | none => .ok (members ++ [(name, .list [.map []])])
  | some (.list items) => .ok (Tree.put name (.list (items ++ [.map []])) members)
  | some _ => .error .malformed

/-- The keys that may not be used again: a declared one may not be opened by a header, and nothing
may be added at or below a sealed one. -/
structure Guards where
  declared : List Key
  isSealed : List Key

namespace Guards

def empty : Guards := ⟨[], []⟩

/-- Whether a key may not be opened by a header. -/
def hasDeclared (g : Guards) (key : Key) : Bool := g.declared.contains key

/-- Whether nothing may be added at a key. -/
def hasSealed (g : Guards) (key : Key) : Bool := g.isSealed.any (·.isPrefixOf key)

def declare (g : Guards) (key : Key) : Guards := { g with declared := key :: g.declared }

/-- A key is sealed if its value is a list or a table. -/
def sealValue (g : Guards) (key : Key) (value : Tree) : Guards :=
  match value with
  | .scalar _ => g
  | _ => { g with isSealed := key :: g.isSealed }

/-- The keys at and below a key are free again. -/
def free (g : Guards) (key : Key) : Guards :=
  ⟨g.declared.filter (!key.isPrefixOf ·), g.isSealed.filter (!key.isPrefixOf ·)⟩

end Guards

end FileQuery.Document.Toml
