import FileQuery.Document.Scalar

/-!
Documents as graphs.  Collections live in a store and are referred to by number, so parts of a
document can be shared and can contain themselves.
-/

namespace FileQuery.Document

/-- A value: a scalar, or the number of a collection. -/
inductive Value where
  | scalar (s : Scalar)
  | node (id : Nat)
deriving DecidableEq, Repr

/-- The members of a map, in order; no two have the same key. -/
structure Entries where
  members : List (Scalar × Value) := []
  distinct : members.Pairwise fun x y => x.1.sameKey y.1 = false := by decide
deriving DecidableEq, Repr

/-- A list or a map, or a pair or a set, which paths do not enter.  The members of a set stand in the
order in which it is gone through. -/
inductive Collection where
  | list (items : List Value)
  | map (entries : Entries)
  | pair (first second : Value)
  | set (members : List Scalar)
deriving DecidableEq, Repr

/-- The collections of a document, by number. -/
abbrev Store := Array Collection

/-- A document: its root, and the store that the root refers to. -/
structure Root where
  store : Store
  value : Value
deriving DecidableEq, Repr

namespace Entries

def empty : Entries where
  members := []
  distinct := .nil

/-- Sets a member among others: a key that is there keeps its place and takes the new value. -/
def putAmong (key : Scalar) (value : Value) : List (Scalar × Value) → List (Scalar × Value)
  | [] => [(key, value)]
  | (k, v) :: rest => if k.sameKey key then (k, value) :: rest else (k, v) :: putAmong key value rest

theorem key_of_mem_putAmong {key : Scalar} {value : Value} {members : List (Scalar × Value)}
    {member : Scalar × Value} (h : member ∈ putAmong key value members) :
    member.1 = key ∨ ∃ old ∈ members, old.1 = member.1 := by
  induction members with
  | nil => exact .inl (by rw [List.mem_singleton.1 h])
  | cons first rest ih =>
    rw [putAmong] at h
    split at h
    · rcases List.mem_cons.1 h with rfl | h
      · exact .inr ⟨first, List.mem_cons_self, rfl⟩
      · exact .inr ⟨member, List.mem_cons_of_mem _ h, rfl⟩
    · rcases List.mem_cons.1 h with rfl | h
      · exact .inr ⟨first, List.mem_cons_self, rfl⟩
      · refine (ih h).imp_right ?_
        rintro ⟨old, hold, hkey⟩
        exact ⟨old, List.mem_cons_of_mem _ hold, hkey⟩

theorem distinct_putAmong (key : Scalar) (value : Value) {members : List (Scalar × Value)}
    (h : members.Pairwise fun x y => x.1.sameKey y.1 = false) :
    (putAmong key value members).Pairwise fun x y => x.1.sameKey y.1 = false := by
  induction members with
  | nil => exact List.pairwise_singleton _ _
  | cons first rest ih =>
    obtain ⟨hfirst, hrest⟩ := List.pairwise_cons.1 h
    rw [putAmong]
    split
    · exact List.pairwise_cons.2 ⟨hfirst, hrest⟩
    · next hother =>
      refine List.pairwise_cons.2 ⟨fun member hmember => ?_, ih hrest⟩
      rcases key_of_mem_putAmong hmember with hkey | ⟨old, hold, hkey⟩
      · rw [hkey]
        exact Bool.eq_false_iff.2 hother
      · rw [← hkey]
        exact hfirst old hold

def put (key : Scalar) (value : Value) (entries : Entries) : Entries :=
  ⟨putAmong key value entries.members, distinct_putAmong key value entries.distinct⟩

def replace (key : Scalar) (value : Value) (entries : Entries) : Entries where
  members := entries.members.map fun member => (member.1, if member.1 = key then value else member.2)
  distinct := by
    rw [List.pairwise_map]
    exact entries.distinct

def ofList (members : List (Scalar × Value)) : Entries :=
  members.foldl (fun entries member => entries.put member.1 member.2) .empty

def get? (name : String) (entries : Entries) : Option Value :=
  (entries.members.find? fun member => member.1 == .str name).map (·.2)

end Entries

namespace Store

def collection? (store : Store) : Value → Option Collection
  | .scalar _ => none
  | .node id => store[id]?

def items? (store : Store) (v : Value) : Option (List Value) :=
  match store.collection? v with
  | some (.list items) => some items
  | _ => none

def entries? (store : Store) (v : Value) : Option Entries :=
  match store.collection? v with
  | some (.map entries) => some entries
  | _ => none

end Store

def Scalar.kindName : Scalar → String
  | .null => "NoneType"
  | .bool _ => "bool"
  | .int _ => "int"
  | .float _ => "float"
  | .str _ => "str"
  | .date _ => "date"
  | .time _ => "time"
  | .dateTime _ => "datetime"
  | .bytes _ => "bytes"

def Collection.kindName : Collection → String
  | .list _ => "list"
  | .map _ => "dict"
  | .pair .. => "tuple"
  | .set _ => "set"

def Value.kindName (store : Store) : Value → String
  | .scalar s => s.kindName
  | .node id => ((store[id]?).map Collection.kindName).getD "list"

end FileQuery.Document
