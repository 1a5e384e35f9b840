import FileQuery.Entity
import FileQuery.Text.Quoted
import FileQuery.Tree

/-!
Finding the place that a path names.  Links on the way are followed, but only so many of them, so a
link that leads back to itself is found out.
-/

namespace FileQuery

inductive PathFault where
  | missing
  | forbidden
  | notDirectory
  | isDirectory
  | nameTooLong
  | tooManyLinks
deriving DecidableEq, Repr

namespace PathFault

def description : PathFault → Nat × String
  | .missing => (2, "No such file or directory")
  | .forbidden => (13, "Permission denied")
  | .notDirectory => (20, "Not a directory")
  | .isDirectory => (21, "Is a directory")
  | .nameTooLong => (36, "File name too long")
  | .tooManyLinks => (40, "Too many levels of symbolic links")

def obstacle : PathFault → Obstacle
  | .missing => .missing
  | .forbidden => .forbidden
  | .notDirectory => .notDirectory
  | .isDirectory => .isDirectory
  | .nameTooLong | .tooManyLinks => .other

def message (path : String) (fault : PathFault) : String :=
  let (number, wording) := fault.description
  "[Errno " ++ toString number ++ "] " ++ wording ++ ": " ++ Text.quoted path

def unavailable (path : String) (fault : PathFault) : Unavailable :=
  ⟨fault.obstacle, fault.message path⟩

end PathFault

namespace Tree

def linkLimit : Nat := 40

def nameLimit : Nat := 255

def pathLimit : Nat := 4095

def namesOf (path : String) : List String :=
  let parts := (path.splitOn "/").filter (!·.isEmpty)
  if path.endsWith "/" then parts ++ ["."] else parts

structure Found where
  place : List String
  item : Item
  links : Nat
deriving Repr

/-- Follows names from a place, `links` links having been followed before.  A link at the end is
followed only on request.  What lies outside the tree is not known. -/
def follow (tree : Tree) (isLastFollowed : Bool) (links : Nat) (place : List String) (item : Item) :
    List String → Except PathFault Found
  | [] => .ok ⟨place, item, links⟩
  | name :: rest =>
    if item.node ≠ .directory then .error .notDirectory
    else if name = "." then follow tree isLastFollowed links place item rest
    else if name = ".." then
      match tree.get? place.dropLast with
      | some above =>
        if place.isEmpty then .error .missing
        else follow tree isLastFollowed links place.dropLast above rest
      | none => .error .missing
    else if nameLimit < name.utf8ByteSize then .error .nameTooLong
    else
      match tree.get? (place ++ [name]) with
      | none => .error .missing
      | some next =>
        match next.node with
        | .link target =>
          if rest.isEmpty && !isLastFollowed then .ok ⟨place ++ [name], next, links⟩
          else if _ : linkLimit ≤ links then .error .tooManyLinks
          else if target.startsWith "/" then .error .missing
          else follow tree isLastFollowed (links + 1) place item (namesOf target ++ rest)
        | _ => follow tree isLastFollowed links (place ++ [name]) next rest
termination_by names => (linkLimit - links, names.length)

def locate (tree : Tree) (isLastFollowed : Bool) (path : String) : Except PathFault Found :=
  if path.isEmpty || path.startsWith "/" || path.contains '\x00' then .error .missing
  else if pathLimit < path.utf8ByteSize then .error .nameTooLong
  else follow tree isLastFollowed 0 [] { node := .directory } (namesOf path)

def locateBelow (tree : Tree) (found : Found) (name : String) : Except PathFault Found :=
  follow tree true found.links found.place found.item [name]

/-- Puts an item at the place that a path names; directories on the way there are made, as `way` says,
where there is nothing. -/
def plant (tree : Tree) (way : Item) (path : String) (item : Item) : Tree :=
  let names := (namesOf path).filter (· != ".")
  let parents := names.dropLast
  let name := names.getLast?.toList
  match tree.follow true 0 [] { node := .directory } parents with
  | .ok found => tree.put (found.place ++ name) item
  | .error _ => (tree.makeWay way [] parents).put (parents ++ name) item

def uproot (tree : Tree) (path : String) : Tree :=
  match tree.locate false path with
  | .ok found => tree.remove found.place
  | .error _ => tree

end Tree

def joinPaths (path below : String) : String :=
  if below.startsWith "/" then below
  else if path.isEmpty || path.endsWith "/" then path ++ below
  else path ++ "/" ++ below

end FileQuery
