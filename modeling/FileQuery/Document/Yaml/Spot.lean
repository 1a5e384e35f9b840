import FileQuery.Document.Reader

/-!
Positions in a YAML text, and the classes of its characters.
-/

namespace FileQuery.Document.Yaml

def isPrintable (c : Char) : Bool :=
  let n := c.toNat
  c == '\t' || c == '\n' || c == '\r' || (0x20 ≤ n && n ≤ 0x7e) || n == 0x85 ||
    (0xa0 ≤ n && n ≤ 0xd7ff) || (0xe000 ≤ n && n ≤ 0xfffd) || 0x10000 ≤ n

def isBreak (c : Char) : Bool :=
  c == '\n' || c == '\r' || c == '\x85' || c == '\u2028' || c == '\u2029'

/-- A position: the text from there on, the number of characters before, the line and the column in
it, and the number of all characters. -/
structure Spot where
  rest : List Char
  index : Nat
  line : Nat
  column : Nat
  size : Nat

namespace Spot

def start (s : List Char) : Spot := ⟨s, 0, 0, 0, s.length⟩

/-- More steps than reading on from a position can take. -/
def fuel (p : Spot) : Nat := p.size + 3

def char? (p : Spot) : Option Char := p.rest.head?

def peek? (p : Spot) (n : Nat) : Option Char := p.rest[n]?

/-- The position after the next character.  A byte order mark takes no column, and a carriage return
before a line feed does not end the line. -/
def next (p : Spot) : Spot :=
  match p.rest with
  | [] => p
  | c :: rest =>
    if isBreak c && !(c == '\r' && rest.head? == some '\n') then
      ⟨rest, p.index + 1, p.line + 1, 0, p.size⟩
    else ⟨rest, p.index + 1, p.line, if c == '\ufeff' then p.column else p.column + 1, p.size⟩

def skip (p : Spot) : Nat → Spot
  | 0 => p
  | n + 1 => p.next.skip n

def span (p : Spot) (isMember : Char → Bool) : List Char := p.rest.takeWhile isMember

def after (p : Spot) (isMember : Char → Bool) : Spot := p.skip (p.span isMember).length

def skipSpaces (p : Spot) : Spot := p.after (· == ' ')

def atBreak (p : Spot) : Bool := p.char?.any isBreak

def atLineEnd (p : Spot) : Bool := p.char?.all isBreak

def isGapAt (p : Spot) (n : Nat) : Bool :=
  (p.peek? n).all fun c => c == ' ' || c == '\t' || isBreak c

/-- The line break at a position, as it counts in texts, and the position after it.  Most breaks
count as a line feed. -/
def takeBreak (p : Spot) : List Char × Spot :=
  match p.rest with
  | '\r' :: '\n' :: _ => (['\n'], p.skip 2)
  | c :: _ =>
    if c == '\u2028' || c == '\u2029' then ([c], p.next)
    else if isBreak c then (['\n'], p.next)
    else ([], p)
  | [] => ([], p)

def atSeparator (p : Spot) : Bool :=
  match p.rest with
  | '-' :: '-' :: '-' :: _ => p.isGapAt 3
  | '.' :: '.' :: '.' :: _ => p.isGapAt 3
  | _ => false

def skipComment (p : Spot) : Spot :=
  if p.char? == some '#' then p.after (!isBreak ·) else p

/-- The position after blanks, a comment and a line break; none if anything else is in the line. -/
def finishLine? (p : Spot) : Option Spot :=
  let p := p.skipSpaces.skipComment
  if p.atLineEnd then some p.takeBreak.2 else none

end Spot

end FileQuery.Document.Yaml
