import FileQuery.Document.Reader

/-!
Texts in TOML: in single quotes they are taken as they are, in double quotes they have escapes, and
in three quotes they may hold line breaks.
-/

namespace FileQuery.Document.Toml

def isBlank (c : Char) : Bool := c == ' ' || c == '\t'

def isSpace (c : Char) : Bool := isBlank c || c == '\n'

def isPlain (c : Char) : Bool := c == '\t' || (32 ≤ c.toNat && c.toNat != 127)

def isAllowed (multiline : Bool) (c : Char) : Bool := isPlain c || (multiline && c == '\n')

def skipBlanks (s : List Char) : List Char := s.dropWhile isBlank

def skipComment (s : List Char) : Except ReadFault (List Char) :=
  match s with
  | '#' :: rest =>
    if (rest.takeWhile (· != '\n')).all isPlain then .ok (rest.dropWhile (· != '\n'))
    else .error .malformed
  | s => .ok s

def shortEscape? : Char → Option Char
  | 'b' => some '\x08'
  | 't' => some '\t'
  | 'n' => some '\n'
  | 'f' => some '\x0c'
  | 'r' => some '\r'
  | '"' => some '"'
  | '\\' => some '\\'
  | _ => none

def readCode (digits : Nat) : Reader (List Char) := fun s =>
  match takeHex 0 digits s with
  | some (code, rest) =>
    if isCharacterCode code then .ok ([Char.ofNat code], rest) else .error .malformed
  | none => .error .malformed

def readLineEnd : Reader (List Char) := fun s =>
  match skipBlanks s with
  | [] => .ok ([], [])
  | '\n' :: rest => .ok ([], rest.dropWhile isSpace)
  | _ => .error .malformed

def readEscape (multiline : Bool) : Reader (List Char)
  | [] => .error .malformed
  | 'u' :: rest => readCode 4 rest
  | 'U' :: rest => readCode 8 rest
  | c :: rest =>
    if multiline && isSpace c then readLineEnd (c :: rest)
    else
      match shortEscape? c with
      | some d => .ok ([d], rest)
      | none => .error .malformed

/-- Reads a text in double quotes after the opening ones; `done` holds its characters so far in
reverse.  There are no more characters than `size`. -/
def readBasic (multiline : Bool) (done : List Char) : Nat → Reader (List Char)
  | 0, _ => .error .malformed
  | _, [] => .error .malformed
  | size + 1, c :: rest =>
    if c == '"' then
      if !multiline then .ok (done.reverse, rest)
      else
        match rest with
        | '"' :: '"' :: rest => .ok (done.reverse, rest)
        | rest => readBasic multiline ('"' :: done) size rest
    else if c == '\\' then
      match readEscape multiline rest with
      | .ok (cs, rest) => readBasic multiline (cs.reverse ++ done) size rest
      | .error e => .error e
    else if isAllowed multiline c then readBasic multiline (c :: done) size rest
    else .error .malformed

def readLines (done : List Char) : Reader (List Char)
  | [] => .error .malformed
  | '\'' :: '\'' :: '\'' :: rest => .ok (done.reverse, rest)
  | c :: rest => if isAllowed true c then readLines (c :: done) rest else .error .malformed

def readLiteral : Reader (List Char) := fun s =>
  let text := s.takeWhile (· != '\'')
  match s.drop text.length with
  | _ :: rest => if text.all isPlain then .ok (text, rest) else .error .malformed
  | [] => .error .malformed

/-- Up to two quotes before the closing three belong to the text. -/
def takeQuotes (quote : Char) (text : List Char) : Reader (List Char) := fun s =>
  let extra := (s.take 2).takeWhile (· == quote)
  .ok (text ++ extra, s.drop extra.length)

def skipFirstBreak : List Char → List Char
  | '\n' :: rest => rest
  | s => s

def readLine (size : Nat) : Reader String := fun s =>
  let text := match s with
    | '"' :: rest => readBasic false [] size rest
    | '\'' :: rest => readLiteral rest
    | _ => .error .malformed
  text.map fun (cs, rest) => (String.ofList cs, rest)

def readText (size : Nat) : Reader String := fun s =>
  match s with
  | '"' :: '"' :: '"' :: rest => do
    let (text, rest) ← readBasic true [] size (skipFirstBreak rest)
    let (text, rest) ← takeQuotes '"' text rest
    return (String.ofList text, rest)
  | '\'' :: '\'' :: '\'' :: rest => do
    let (text, rest) ← readLines [] (skipFirstBreak rest)
    let (text, rest) ← takeQuotes '\'' text rest
    return (String.ofList text, rest)
  | s => readLine size s

end FileQuery.Document.Toml
