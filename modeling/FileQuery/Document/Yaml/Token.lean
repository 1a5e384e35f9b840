import FileQuery.Document.Yaml.Token.Block
import FileQuery.Document.Yaml.Token.Property
import FileQuery.Document.Yaml.Token.Quoted

/-!
Tokens of YAML, which are taken from a text one after the other.  Whether a token is a key is known
only when the colon after it is met; until then the tokens from there on are held back, and where
the colon comes, a mark is put in front of them.
-/

namespace FileQuery.Document.Yaml

inductive Token where
  | streamEnd
  | directive (d : Directive)
  | documentStart
  | documentEnd
  | blockSequence
  | blockMapping
  | blockEnd
  | flowSequence
  | flowSequenceEnd
  | flowMapping
  | flowMappingEnd
  | blockEntry
  | flowEntry
  | key
  | value
  | alias (name : String)
  | anchor (name : String)
  | tag (handle : Option String) (text : String)
  | scalar (text : String) (isPlain : Bool)
deriving DecidableEq, Repr

structure PossibleKey where
  number : Nat
  isRequired : Bool
  index : Nat
  line : Nat
  column : Nat

/-- How far a key can stand before its colon. -/
def keyDistance : Nat := 1024

/-- The state of the lexer: the position, whether the text is used up, how many flow collections are
open, the tokens held back and the number of those handed out, the column of the innermost block
collection and those of the ones around it, whether a key can begin here, and the possible keys by
the number of open flow collections. -/
structure Lexer where
  spot : Spot
  isDone : Bool
  flow : Int
  tokens : List Token
  taken : Nat
  indent : Int
  indents : List Int
  admitsKey : Bool
  keys : List (Int × PossibleKey)

namespace Lexer

def start (s : List Char) : Lexer :=
  ⟨Spot.start s, false, 0, [], 0, -1, [], true, []⟩

def inFlow (l : Lexer) : Bool := l.flow != 0

def moveTo (l : Lexer) (p : Spot) : Lexer := { l with spot := p }

def push (l : Lexer) (t : Token) : Lexer := { l with tokens := l.tokens ++ [t] }

def insert (l : Lexer) (number : Nat) (t : Token) : Lexer :=
  let (before, behind) := l.tokens.splitAt (number - l.taken)
  { l with tokens := before ++ t :: behind }

def unwind (l : Lexer) (column : Int) : Lexer :=
  if l.inFlow then l
  else
    let rec go (tokens : List Token) (indent : Int) : List Int → List Token × Int × List Int
      | [] => (tokens, indent, [])
      | outer :: rest =>
        if column < indent then go (tokens ++ [.blockEnd]) outer rest
        else (tokens, indent, outer :: rest)
    let (tokens, indent, indents) := go l.tokens l.indent l.indents
    { l with tokens, indent, indents }

def enter? (l : Lexer) (column : Nat) : Option Lexer :=
  if l.indent < column then some { l with indents := l.indent :: l.indents, indent := column }
  else none

def dropKeys (l : Lexer) (isDropped : Int → PossibleKey → Bool) : Except ReadFault Lexer :=
  if l.keys.any fun (level, k) => isDropped level k && k.isRequired then .error .malformed
  else .ok { l with keys := l.keys.filter fun (level, k) => !isDropped level k }

/-- Drops the possible keys whose colon would come too late. -/
def dropStale (l : Lexer) : Except ReadFault Lexer :=
  l.dropKeys fun _ k => k.line != l.spot.line || keyDistance < l.spot.index - k.index

/-- Drops the possible key of the current flow collection. -/
def dropKey (l : Lexer) : Except ReadFault Lexer :=
  l.dropKeys fun level _ => level == l.flow

/-- The next token is a possible key, if a key can begin here. -/
def noteKey (l : Lexer) : Except ReadFault Lexer :=
  if l.admitsKey then do
    let p := l.spot
    let isRequired := !l.inFlow && l.indent == p.column
    let l ← l.dropKey
    let k : PossibleKey := ⟨l.taken + l.tokens.length, isRequired, p.index, p.line, p.column⟩
    return { l with keys := (l.flow, k) :: l.keys }
  else .ok l

/-- Moves to the next token; a key can begin in a new line. -/
def skipToToken (l : Lexer) : Nat → Lexer
  | 0 => l
  | fuel + 1 =>
    let p := l.spot.skipSpaces.skipComment
    if p.atBreak then
      let l := { l with spot := p.takeBreak.2, admitsKey := l.admitsKey || !l.inFlow }
      l.skipToToken fuel
    else l.moveTo p

def takeEnd (l : Lexer) : Except ReadFault Lexer := do
  let l ← (l.unwind (-1)).dropKey
  return { l.push .streamEnd with admitsKey := false, keys := [], isDone := true }

def lexDirective (l : Lexer) : Except ReadFault Lexer := do
  let l ← (l.unwind (-1)).dropKey
  let (d, p) ← takeDirective l.spot.next
  return { (l.moveTo p).push (.directive d) with admitsKey := false }

def lexSeparator (t : Token) (l : Lexer) : Except ReadFault Lexer := do
  let l ← (l.unwind (-1)).dropKey
  return { (l.moveTo (l.spot.skip 3)).push t with admitsKey := false }

def lexOpening (t : Token) (l : Lexer) : Except ReadFault Lexer := do
  let l ← l.noteKey
  return { (l.moveTo l.spot.next).push t with flow := l.flow + 1, admitsKey := true }

def lexClosing (t : Token) (l : Lexer) : Except ReadFault Lexer := do
  let l ← l.dropKey
  return { (l.moveTo l.spot.next).push t with flow := l.flow - 1, admitsKey := false }

def lexFlowEntry (l : Lexer) : Except ReadFault Lexer := do
  let l ← l.dropKey
  return { (l.moveTo l.spot.next).push .flowEntry with admitsKey := true }

def begin (l : Lexer) (t : Token) : Lexer :=
  match l.enter? l.spot.column with
  | some l => l.push t
  | none => l

/-- Takes a hyphen. -/
def lexBlockEntry (l : Lexer) : Except ReadFault Lexer := do
  if !l.inFlow && !l.admitsKey then throw .malformed
  let l := if l.inFlow then l else l.begin .blockSequence
  let l ← l.dropKey
  return { (l.moveTo l.spot.next).push .blockEntry with admitsKey := true }

/-- Takes a question mark. -/
def lexKey (l : Lexer) : Except ReadFault Lexer := do
  if !l.inFlow && !l.admitsKey then throw .malformed
  let l := if l.inFlow then l else l.begin .blockMapping
  let l ← { l with admitsKey := !l.inFlow }.dropKey
  return (l.moveTo l.spot.next).push .key

/-- Takes a colon, which may turn a token into a key. -/
def lexValue (l : Lexer) : Except ReadFault Lexer := do
  match l.keys.lookup l.flow with
  | some k =>
    let l := { l with keys := l.keys.filter (·.1 != l.flow) }.insert k.number .key
    let l := if l.inFlow then l else
      match l.enter? k.column with
      | some l => l.insert k.number .blockMapping
      | none => l
    return { (l.moveTo l.spot.next).push .value with admitsKey := false }
  | none =>
    if !l.inFlow && !l.admitsKey then throw .malformed
    let l := if l.inFlow then l else l.begin .blockMapping
    let l ← { l with admitsKey := !l.inFlow }.dropKey
    return (l.moveTo l.spot.next).push .value

/-- Takes a token that can be a key, or that stands before one. -/
def lexNamed (take : Spot → Except ReadFault (Token × Spot)) (l : Lexer) :
    Except ReadFault Lexer := do
  let l ← l.noteKey
  let (t, p) ← take l.spot
  return { (l.moveTo p).push t with admitsKey := false }

def lexBlock (folded : Bool) (l : Lexer) : Except ReadFault Lexer := do
  let l ← { l with admitsKey := true }.dropKey
  let (text, p) ← takeBlock folded l.indent l.spot
  return (l.moveTo p).push (.scalar text false)

def lexPlain (l : Lexer) : Except ReadFault Lexer := do
  let l ← l.noteKey
  let plain := takePlain l.inFlow (l.indent + 1) l.spot
  return { (l.moveTo plain.spot).push (.scalar plain.text true) with admitsKey := plain.isAfterBreak }

def startsPlain (l : Lexer) (c : Char) : Bool :=
  !(c == ' ' || c == '\t' || isBreak c || "-?:,[]\x7b\x7d#&*!|>'\"%@\x60".toList.contains c) ||
    (!l.spot.isGapAt 1 && (c == '-' || (!l.inFlow && (c == '?' || c == ':'))))

def lexFrom (l : Lexer) (c : Char) : Except ReadFault Lexer :=
  let isFirst := l.spot.column == 0
  let isGap := l.spot.isGapAt 1
  if c == '%' && isFirst then l.lexDirective
  else if c == '-' && isFirst && l.spot.atSeparator then l.lexSeparator .documentStart
  else if c == '.' && isFirst && l.spot.atSeparator then l.lexSeparator .documentEnd
  else if c == '[' then l.lexOpening .flowSequence
  else if c == '\x7b' then l.lexOpening .flowMapping
  else if c == ']' then l.lexClosing .flowSequenceEnd
  else if c == '\x7d' then l.lexClosing .flowMappingEnd
  else if c == ',' then l.lexFlowEntry
  else if c == '-' && isGap then l.lexBlockEntry
  else if c == '?' && (l.inFlow || isGap) then l.lexKey
  else if c == ':' && (l.inFlow || isGap) then l.lexValue
  else if c == '*' then
    l.lexNamed fun p => do let (name, p) ← takeName p.next; return (.alias name, p)
  else if c == '&' then
    l.lexNamed fun p => do let (name, p) ← takeName p.next; return (.anchor name, p)
  else if c == '!' then
    l.lexNamed fun p => do let ((handle, text), p) ← takeTag p; return (.tag handle text, p)
  else if c == '|' && !l.inFlow then l.lexBlock false
  else if c == '>' && !l.inFlow then l.lexBlock true
  else if c == '\'' || c == '"' then
    l.lexNamed fun p => do let (text, p) ← takeQuoted p; return (.scalar text false, p)
  else if l.startsPlain c then l.lexPlain
  else .error .malformed

/-- Takes one more token from the text, with the marks that come before it.  A byte order mark at the
start does not count. -/
def fetch (l : Lexer) : Except ReadFault Lexer := do
  let p := l.spot
  let l := if p.index == 0 && p.char? == some '\ufeff' then l.moveTo p.next else l
  let l ← (l.skipToToken p.fuel).dropStale
  let l := l.unwind l.spot.column
  match l.spot.char? with
  | none => l.takeEnd
  | some c => l.lexFrom c

def firstKey? (l : Lexer) : Option Nat := (l.keys.map (·.2.number)).min?

/-- Takes tokens until it is known whether the first one is a key. -/
def fill (l : Lexer) : Nat → Except ReadFault Lexer
  | 0 => .error .malformed
  | fuel + 1 =>
    if l.isDone then .ok l
    else if l.tokens.isEmpty then
      match l.fetch with
      | .ok l => l.fill fuel
      | .error e => .error e
    else
      match l.dropStale with
      | .error e => .error e
      | .ok l =>
        if l.firstKey? == some l.taken then
          match l.fetch with
          | .ok l => l.fill fuel
          | .error e => .error e
        else .ok l

def peek (l : Lexer) : Except ReadFault (Token × Lexer) := do
  let l ← l.fill l.spot.fuel
  return (l.tokens.head?.getD .streamEnd, l)

def advance (l : Lexer) : Lexer := { l with tokens := l.tokens.drop 1, taken := l.taken + 1 }

end Lexer

end FileQuery.Document.Yaml
