import FileQuery.Content.Matcher
import FileQuery.Text.Search

/-!
Looking for conditions in a text that comes in pieces.  A scanner holds no more of the text than it
needs: the end of what it has seen, the unfinished line, or what is still expected.
-/

namespace FileQuery.Content

/-- How much of a line is searched at once, and by how much two searched parts of a longer line
overlap. -/
structure LineLimits where
  length : Nat := 1024 * 1024
  overlap : Nat := 4096

/-- What a scanner remembers of the text so far: the end of it, for a text that occurs anywhere; the
unfinished line, with the number of characters at its front that are there only as context, and
whether nothing has come yet; or the rest of the expected text. -/
inductive Progress where
  | contains (needle tail : List Char)
  | line (p : Pattern) (buffer : List Char) (skip : Nat) (isFresh : Bool)
  | equals (rest : List Char)
deriving DecidableEq, Repr

/-- A condition that is being looked for, with its answer as soon as that is known. -/
structure Scanner where
  progress : Progress
  result : Option Bool
deriving DecidableEq, Repr

def lastOf {α : Type} (n : Nat) (xs : List α) : List α := xs.drop (xs.length - n)

/-- Splits at line feeds; `done` holds the lines so far and `line` the characters of the current one,
both in reverse. -/
def splitFrom (done : List (List Char)) (line : List Char) : List Char → List (List Char)
  | [] => (line.reverse :: done).reverse
  | c :: rest =>
    if c == '\n' then splitFrom (line.reverse :: done) [] rest else splitFrom done (c :: line) rest

/-- The lines of a text; after a final line feed there is an empty one. -/
def splitLines (text : List Char) : List (List Char) := splitFrom [] [] text

/-- Whether a pattern is found in a line, from a place on. -/
def isIn (p : Pattern) (skip : Nat) (line : List Char) : Bool := (p.search skip line).isSome

/-- Whether a pattern is found in one of several lines; in the first, only from a place on. -/
def isInLines (p : Pattern) (skip : Nat) : List (List Char) → Bool
  | [] => false
  | line :: rest => isIn p skip line || rest.any (isIn p 0)

/-- Whether a pattern is found in an unfinished line.  A match that reaches its end does not count,
because it may depend on what follows. -/
def isInside (p : Pattern) (skip : Nat) (line : List Char) : Bool :=
  match p.search skip line with
  | some m => !m.stop.after.isEmpty
  | none => false

namespace Progress

def start : Matcher → Progress
  | .contains needle => .contains needle.toList []
  | .line p => .line p [] 0 true
  | .equals expected => .equals expected.toList

/-- What the unfinished line becomes; a line that is too long is searched and cut. -/
def keepLine (limits : LineLimits) (p : Pattern) (skip : Nat) (line : List Char) : Scanner :=
  if line.length ≤ limits.length then ⟨.line p line skip false, none⟩
  else if isInside p skip line then ⟨.line p line skip false, some true⟩
  else ⟨.line p (lastOf (limits.overlap + 1) line) 1 false, none⟩

def feed (limits : LineLimits) (text : List Char) : Progress → Scanner
  | .contains needle tail =>
    let seen := tail ++ text
    if Text.occursIn needle seen then ⟨.contains needle tail, some true⟩
    else ⟨.contains needle (lastOf (needle.length - 1) seen), none⟩
  | .line p buffer skip _ =>
    let lines := splitLines (buffer ++ text)
    match lines.dropLast with
    | [] => keepLine limits p skip (lines.getLast?.getD [])
    | finished =>
      if isInLines p skip finished then ⟨.line p buffer skip false, some true⟩
      else keepLine limits p 0 (lines.getLast?.getD [])
  | .equals rest =>
    if text.isPrefixOf rest then ⟨.equals (rest.drop text.length), none⟩
    else ⟨.equals rest, some false⟩

/-- The answer when no text is left.  After a final line feed there is no further line. -/
def finish : Progress → Bool
  | .contains needle tail => Text.occursIn needle tail
  | .line p buffer skip isFresh => (!buffer.isEmpty || isFresh) && isIn p skip buffer
  | .equals rest => rest.isEmpty

end Progress

namespace Scanner

def start (m : Matcher) : Scanner := ⟨.start m, none⟩

def isDecided (s : Scanner) : Bool := s.result.isSome

def feed (limits : LineLimits) (text : List Char) (s : Scanner) : Scanner :=
  if s.isDecided || text.isEmpty then s else s.progress.feed limits text

def finish (s : Scanner) : Bool := s.result.getD s.progress.finish

/-- Gives up: what is not known is false. -/
def abort (s : Scanner) : Scanner := { s with result := some (s.result.getD false) }

end Scanner

end FileQuery.Content
