import FileQuery.Document.Reader
import FileQuery.Document.Yaml.Graph

/-!
Reading YAML.  A text can hold several documents; each is finished before the next one is begun.
-/

namespace FileQuery.Document.Yaml

/-- The lexer before a text, if all its characters are allowed. -/
def begin (s : List Char) : Except ReadFault Composer :=
  if s.all isPrintable then .ok ⟨Lexer.start s, #[], [], []⟩ else .error .malformed

/-- How deep collections may be nested before the interpreter runs out of stack, and the order in which
it goes through a set. -/
structure Interpreter where
  depth : Nat := 480
  setOrder : List Scalar → List Scalar := id

variable (interpreter : Interpreter)

def readNext (isFirst : Bool) (c : Composer) : Except ReadFault (Option Root × Composer) := do
  match ← (Compose.root interpreter.depth isFirst).run c with
  | (none, c) => return (none, c)
  | (some root, c) => return (some (← toDocument interpreter.setOrder c.nodes root), c)

def readRest (done : List Root) (c : Composer) : Nat → Except ReadFault (List Root)
  | 0 => .error .malformed
  | fuel + 1 => do
    match ← readNext interpreter done.isEmpty c with
    | (none, _) => return done.reverse
    | (some root, c) => readRest (root :: done) c fuel

def read (s : List Char) : Except ReadFault (List Root) := do
  let c ← begin s
  readRest interpreter [] c c.lexer.spot.fuel

/-- Reads a text of at most one document; an empty text is none. -/
def readSingle (s : List Char) : Except ReadFault (Option Root) := do
  match ← (Compose.root interpreter.depth true).run (← begin s) with
  | (none, _) => return none
  | (some root, c) =>
    let (isFinished, c) ← Compose.isFinished.run c
    if isFinished then return some (← toDocument interpreter.setOrder c.nodes root)
    else throw .malformed

/-- The reader as a library, which decodes a file as a whole. -/
def library : YamlLibrary where
  readAll := read interpreter
  readOnly := readSingle interpreter

end FileQuery.Document.Yaml
