import FileQuery.Config
import FileQuery.Message
import FileQuery.Tree.Locate

/-!
Walking through a directory tree.  A directory comes before what is in it, directories come before
everything else in the same place, and both in the order of their names.
-/

namespace FileQuery.Tree

inductive RootFault where
  | missing (root : String)
  | notDirectory (root : String)
deriving DecidableEq, Repr

def RootFault.message : RootFault → String
  | .missing root => "Directory not found: " ++ root
  | .notDirectory root => "Not a directory: " ++ root

/-- What is met on a walk: something at a path below the root, or a directory that is passed over
because it cannot be read. -/
inductive Step where
  | entry (path : String)
  | skipped (path : String) (fault : PathFault)
deriving DecidableEq, Repr

def skipMessage (path : String) (fault : PathFault) : Message :=
  .debug "detect.entity.fs" ("Skipping unreadable directory: " ++ fault.message path)

def isHidden (name : String) : Bool := name.startsWith "."

def visibleNames (tree : Tree) (config : Config) (place : List String) : List String :=
  ((tree.names place).filter fun name => config.includeHidden || !isHidden name).mergeSort

def isDirectoryBelow (tree : Tree) (found : Found) (name : String) : Bool :=
  match tree.locateBelow found name with
  | .ok below => below.item.node = .directory
  | .error _ => false

def isEntered (tree : Tree) (config : Config) (found : Found) (name : String) : Bool :=
  config.followSymlinks ||
    match tree.get? (found.place ++ [name]) with
    | some item => item.node = .directory
    | none => false

def walkFrom (tree : Tree) (config : Config) (path : String) (below : List String) (found : Found) :
    Nat → List Step
  | 0 => []
  | fuel + 1 =>
    if !found.item.isReadable then [.skipped path .forbidden]
    else
      let names := tree.visibleNames config found.place
      let directories := names.filter (tree.isDirectoryBelow found)
      let others := names.filter fun name => !tree.isDirectoryBelow found name
      let entry (name : String) : Step := .entry (String.intercalate "/" (below ++ [name]))
      directories.map entry ++ others.map entry ++
        (directories.filter (tree.isEntered config found)).flatMap fun name =>
          match tree.locateBelow found name with
          | .ok next => walkFrom tree config (joinPaths path name) (below ++ [name]) next fuel
          | .error _ => []

/-- A number of directories that no way through a tree exceeds: links are followed only so often, and
between two of them the way leads down. -/
def depthBound (tree : Tree) : Nat := (linkLimit + 1) * (tree.items.length + 1)

def walk (tree : Tree) (config : Config) (root : String) : Except RootFault (List Step) :=
  match tree.locate true root with
  | .error _ => .error (.missing root)
  | .ok found =>
    if found.item.node = .directory then .ok (tree.walkFrom config root [] found tree.depthBound)
    else .error (.notDirectory root)

end FileQuery.Tree
