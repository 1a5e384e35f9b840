import FileQuery.Text.Quoted
import FileQuery.Text.Utf8

/-!
Bytes that need not be a text, such as names of files: the characters in them, and between these the
bytes that belong to none.
-/

namespace FileQuery.Text

/-- A piece of what bytes spell: a character, or bytes that belong to none. -/
inductive Piece where
  | char (c : Char)
  | undecodable (bytes : List UInt8)
deriving DecidableEq, Repr

/-- The first piece of some bytes, given where decoding stands. -/
def firstPiece (state : Utf8State) : List UInt8 → Piece
  | [] => .undecodable state.blamed
  | b :: rest =>
    match state.step b with
    | .char c => .char c
    | .more state => firstPiece state rest
    | .bad => .undecodable (state.faultOf 0 b).bytes

def utf8Length (c : Char) : Nat :=
  if c.toNat < 0x80 then 1 else if c.toNat < 0x800 then 2 else if c.toNat < 0x10000 then 3 else 4

def Piece.length : Piece → Nat
  | .char c => utf8Length c
  | .undecodable bytes => bytes.length

def piecesFrom (done : List Piece) (bytes : List UInt8) : List Piece :=
  match bytes with
  | [] => done.reverse
  | b :: rest =>
    let piece := firstPiece .between (b :: rest)
    piecesFrom (piece :: done) (rest.drop (piece.length - 1))
termination_by bytes.length
decreasing_by
  simp only [List.length_drop, List.length_cons]
  omega

def pieces (bytes : List UInt8) : List Piece := piecesFrom [] bytes

def displayed (ps : List Piece) : String :=
  String.ofList (ps.map fun
    | .char c => c
    | .undecodable _ => '\ufffd')

def byteChar (b : UInt8) : Char := Char.ofNat (0xf700 + b.toNat)

def countable (ps : List Piece) : String :=
  String.ofList (ps.flatMap fun
    | .char c => [c]
    | .undecodable bytes => bytes.map byteChar)

def quotedPieces (ps : List Piece) : String :=
  let quote := quoteFor (ps.flatMap fun
    | .char c => [c]
    | .undecodable _ => [])
  String.ofList (quote :: ps.flatMap (fun
    | .char c => quotedChar quote c
    | .undecodable bytes => bytes.flatMap fun b => hexEscape (0xdc00 + b.toNat)) ++ [quote])

def readLossy (bytes : List UInt8) : String := displayed (pieces bytes)

end FileQuery.Text
