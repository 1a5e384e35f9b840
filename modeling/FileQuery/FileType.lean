/-!
Kinds of entities, and their coding in the mode word of a file.
-/

namespace FileQuery

inductive FileType where
  | file
  | dir
  | symlink
  | socket
  | fifo
  | block
  | char
deriving DecidableEq, Repr

namespace FileType

def name : FileType → String
  | .file => "file"
  | .dir => "dir"
  | .symlink => "symlink"
  | .socket => "socket"
  | .fifo => "fifo"
  | .block => "block"
  | .char => "char"

def all : List FileType := [.file, .dir, .symlink, .socket, .fifo, .block, .char]

def ofMode (mode : Nat) : FileType :=
  match mode / 0o10000 % 0o20 with
  | 0o12 => .symlink
  | 0o04 => .dir
  | 0o14 => .socket
  | 0o01 => .fifo
  | 0o06 => .block
  | 0o02 => .char
  | _ => .file

def ofModeWord? (mode : Int) : Option FileType :=
  if 0 ≤ mode && mode < Int.pow 2 32 then some (ofMode mode.toNat) else none

end FileType

end FileQuery
