import FileQuery.Document.Fault
import FileQuery.Document.Store

/-!
What the readers of documents have in common, and what they are given from outside.
-/

namespace FileQuery.Document

abbrev Reader (α : Type) := List Char → Except ReadFault (α × List Char)

def isDigit (c : Char) : Bool := '0' ≤ c && c ≤ '9'

def hexDigit? (c : Char) : Option Nat :=
  if isDigit c then some (c.toNat - 48)
  else if 'a' ≤ c && c ≤ 'f' then some (c.toNat - 87)
  else if 'A' ≤ c && c ≤ 'F' then some (c.toNat - 55)
  else none

def takeHex (value : Nat) : Nat → List Char → Option (Nat × List Char)
  | 0, s => some (value, s)
  | _ + 1, [] => none
  | n + 1, c :: rest => (hexDigit? c).bind fun d => takeHex (value * 16 + d) n rest

def valueInBase (base : Nat) (digits : List Char) : Nat :=
  digits.foldl (fun n c => n * base + (hexDigit? c).getD 0) 0

def isCharacterCode (n : Nat) : Bool := n < 0xd800 || (0xe000 ≤ n && n < 0x110000)

/-- A library that reads YAML: all documents of a text, or its only one, which may be missing.  A file
is decoded piece by piece while its only document is read, so the bytes of a file that is no text may
have a fault that is met before this is noticed. -/
structure YamlLibrary where
  readAll : List Char → Except ReadFault (List Root)
  readOnly : List Char → Except ReadFault (Option Root)
  earlyFault? : List UInt8 → Option ReadFault := fun _ => none

/-- A library for YAML, and how deep collections may be nested in JSON and in TOML before the
interpreter runs out of stack. -/
structure Readers where
  yaml : YamlLibrary
  jsonDepth : Nat := 980
  tomlDepth : Nat := 480

end FileQuery.Document
