import FileQuery.Number.Integer
import FileQuery.Text.Utf8.Lossy

/-!
Lists of what is in a tree.  A record is mode, type, id and size, separated by blanks, then a tab and
the path, which may hold anything but the zero character that ends the record.
-/

namespace FileQuery.Git

/-- What is listed: a blob, a tree or another repository. -/
structure Entry where
  mode : String
  type : String
  id : String
  size : Option Nat
  path : List Text.Piece
deriving DecidableEq, Repr

inductive RecordFault where
  | fields (count : Nat)
  | size (fault : Number.IntegerFault)
deriving DecidableEq, Repr

def isPiece (c : Char) (p : Text.Piece) : Bool := p = .char c

def isBlankPiece : Text.Piece → Bool
  | .char c => Text.isBlank c
  | .undecodable _ => false

/-- Splits where a test holds; `part` holds the elements since the last such place in reverse, and
`done` the parts before in reverse. -/
def splitWhere {α : Type} (test : α → Bool) (done : List (List α)) (part : List α) :
    List α → List (List α)
  | [] => (part.reverse :: done).reverse
  | x :: rest =>
    if test x then splitWhere test (part.reverse :: done) [] rest
    else splitWhere test done (x :: part) rest

def records (ps : List Text.Piece) : List (List Text.Piece) :=
  (splitWhere (isPiece '\x00') [] [] ps).filter (!·.isEmpty)

def fieldsOf (record : List Text.Piece) : List String :=
  let front := record.takeWhile fun p => !isPiece '\t' p
  ((splitWhere isBlankPiece [] [] front).filter (!·.isEmpty)).map Text.countable

def pathOf (record : List Text.Piece) : List Text.Piece :=
  (record.dropWhile fun p => !isPiece '\t' p).drop 1

def readEntrySize (field : String) : Except RecordFault (Option Nat) :=
  if field.toList.all Text.isDigit then
    ((Number.readDigits field field.toList).mapError .size).map some
  else .ok none

def Entry.ofRecord (record : List Text.Piece) : Except RecordFault Entry :=
  match fieldsOf record with
  | [mode, type, id, size] => do
    return ⟨mode, type, id, ← readEntrySize size, pathOf record⟩
  | fields => .error (.fields fields.length)

def entriesFrom (done : List Entry) : List (List Text.Piece) → List Entry × Option RecordFault
  | [] => (done.reverse, none)
  | record :: rest =>
    match Entry.ofRecord record with
    | .ok e => entriesFrom (e :: done) rest
    | .error fault => (done.reverse, some fault)

/-- The entries of a list, and what is wrong with it after them. -/
def readListing (bytes : List UInt8) : List Entry × Option RecordFault :=
  entriesFrom [] (records (Text.pieces bytes))

namespace Entry

def shownPath (e : Entry) : String := Text.displayed e.path

/-- The path that queries look at. -/
def queriedPath (e : Entry) : String := Text.countable e.path

def isBlob (e : Entry) : Bool := e.type = "blob"

end Entry

end FileQuery.Git
