/-!
Path names, taken apart: a root of one or two slashes, or none, and the parts between slashes.  Empty
parts and single points do not count.
-/

namespace FileQuery

structure PathName where
  root : String
  parts : List String
deriving DecidableEq, Repr

namespace PathName

def splitSlashes (part : List Char) : List Char → List (List Char)
  | [] => [part.reverse]
  | c :: rest =>
    if c == '/' then part.reverse :: splitSlashes [] rest else splitSlashes (c :: part) rest

/-- Takes a path name apart.  Exactly two slashes at the front are a root of their own. -/
def ofString (path : String) : PathName :=
  let s := path.toList
  let slashes := (s.takeWhile (· == '/')).length
  let root := if slashes = 0 then "" else if slashes = 2 then "//" else "/"
  let parts := (splitSlashes [] (s.drop slashes)).filter fun p => !p.isEmpty && p != ['.']
  ⟨root, parts.map String.ofList⟩

/-- The last part, empty for a root and for no parts. -/
def name (p : PathName) : String := p.parts.getLast?.getD ""

/-- The part of a name before its last point, and the part after it.  A point at the start or at the
end of a name does not divide it. -/
def splitExtension (name : String) : String × String :=
  let s := name.toList
  let extension := (s.reverse.takeWhile (· != '.')).reverse
  let stem := s.take (s.length - extension.length - 1)
  if extension.isEmpty || stem.isEmpty || extension.length = s.length then (name, "")
  else (String.ofList stem, String.ofList extension)

/-- The name without its extension. -/
def stem (p : PathName) : String := (splitExtension p.name).1

/-- The extension, without its point. -/
def extension (p : PathName) : String := (splitExtension p.name).2

def parent (p : PathName) : PathName := { p with parts := p.parts.dropLast }

/-- The text of a path name; empty if it has neither root nor parts. -/
def text (p : PathName) : String := p.root ++ String.intercalate "/" p.parts

def depth (p : PathName) : Nat := p.parts.length

end PathName

end FileQuery
