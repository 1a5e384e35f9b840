import FileQuery.Document.Path
import FileQuery.Document.Store

/-!
Following paths through documents.
-/

namespace FileQuery.Document

def distinctFrom (seen : List Nat) : List Value → List Value
  | [] => []
  | .scalar s :: rest => .scalar s :: distinctFrom seen rest
  | .node id :: rest =>
    if id ∈ seen then distinctFrom seen rest else .node id :: distinctFrom (id :: seen) rest

/-- Keeps the first of several mentions of a collection. -/
def distinct (values : List Value) : List Value := distinctFrom [] values

def Collection.look (name : String) : Collection → List Value × List Value
  | .list items => (items, [])
  | .map entries =>
    (entries.members.map (·.2),
      (entries.members.filter fun member => member.1 = .str name).map (·.2))
  | .pair .. | .set _ => ([], [])

/-- The members of a name at any depth below the values on a stack, whose top comes first.  `fresh`
holds the collections that were not visited yet; each is visited once. -/
def collect (store : Store) (name : String) (fresh : List Nat) (stack : List Value) :
    List Value :=
  match stack with
  | [] => []
  | .scalar _ :: stack => collect store name fresh stack
  | .node id :: stack =>
    if _h : id ∈ fresh then
      match store[id]? with
      | none => collect store name fresh stack
      | some c =>
        let (inside, found) := c.look name
        found ++ collect store name (fresh.erase id) (inside.reverse ++ stack)
    else collect store name fresh stack
termination_by (fresh.length, stack.length)
decreasing_by
  · exact Prod.Lex.right _ (by simp)
  · exact Prod.Lex.right _ (by simp)
  · refine Prod.Lex.left _ _ ?_
    have := List.length_pos_of_mem _h
    rw [List.length_erase_of_mem _h]
    omega
  · exact Prod.Lex.right _ (by simp)

/-- The members of a name at any depth below a value. -/
def descend (store : Store) (name : String) (v : Value) : List Value :=
  collect store name (List.range store.size) [v]

def follow (store : Store) (segment : Segment) (v : Value) : List Value :=
  match segment with
  | .field name => ((store.entries? v).bind (·.get? name)).toList
  | .recursive name => descend store name v
  | .index n => ((store.items? v).bind (·[n]?)).toList
  | .wildcard => (store.items? v).getD []

def navigate (root : Root) (path : Path) : List Value :=
  path.foldl (fun values segment => distinct (values.flatMap (follow root.store segment)))
    [root.value]

end FileQuery.Document
