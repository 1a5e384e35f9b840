import FileQuery.PathName
import FileQuery.Query.Selector

/-!
Attributes that are read off a path.
-/

namespace FileQuery.Query

inductive NameValue where
  | text (s : String)
  | count (n : Nat)
deriving DecidableEq, Repr

def Selector.nameValue? (selector : Selector) (path : String) : Option NameValue :=
  let name := PathName.ofString path
  match selector with
  | .name => some (.text name.name)
  | .basename => some (.text name.stem)
  | .ext => some (.text name.extension)
  | .path => some (.text path)
  | .dir => some (.text name.parent.text)
  | .depth => some (.count name.depth)
  | _ => none

end FileQuery.Query
