import FileQuery.Document.Store

/-!
Documents without sharing, as the readers of JSON and TOML make them.
-/

namespace FileQuery.Document

inductive Tree where
  | scalar (s : Scalar)
  | list (items : List Tree)
  | map (entries : List (String × Tree))
deriving Repr

namespace Tree

def put (name : String) (t : Tree) : List (String × Tree) → List (String × Tree)
  | [] => [(name, t)]
  | (n, u) :: rest => if n = name then (n, t) :: rest else (n, u) :: put name t rest

mutual
/-- Adds the collections of a tree to a store, inner ones first. -/
def place (store : Store) : Tree → Value × Store
  | .scalar s => (.scalar s, store)
  | .list items =>
    let (values, store) := placeItems [] store items
    (.node store.size, store.push (.list values))
  | .map entries =>
    let (members, store) := placeEntries [] store entries
    (.node store.size, store.push (.map (.ofList members)))
def placeItems (done : List Value) (store : Store) : List Tree → List Value × Store
  | [] => (done.reverse, store)
  | t :: rest =>
    let (v, store) := t.place store
    placeItems (v :: done) store rest
def placeEntries (done : List (Scalar × Value)) (store : Store) :
    List (String × Tree) → List (Scalar × Value) × Store
  | [] => (done.reverse, store)
  | (name, t) :: rest =>
    let (v, store) := t.place store
    placeEntries ((.str name, v) :: done) store rest
end

def toRoot (t : Tree) : Root :=
  let (value, store) := t.place #[]
  ⟨store, value⟩

end Tree

end FileQuery.Document
