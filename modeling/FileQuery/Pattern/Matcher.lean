import FileQuery.Pattern.Regex
import FileQuery.Text.Alphanumeric
import FileQuery.Text.Blank
import FileQuery.Text.Case
import FileQuery.Text.Digit

/-!
Matching.  A matcher tries its possibilities in order and hands each to the rest of the match, as a
continuation; the first one with which the rest succeeds is taken.
-/

namespace FileQuery.Pattern

/-- How letters that differ in case are told apart: all of them, all but ASCII, or none. -/
inductive Folding where
  | exact
  | ascii
  | unicode
deriving DecidableEq, Repr

def Folding.apply (f : Folding) (c : Char) : Char :=
  match f with
  | .exact => c
  | .ascii => c.toLower
  | .unicode => Text.lowerChar c

def Folding.fellows (f : Folding) (c : Char) : List Char :=
  match f with
  | .unicode => Text.fellowsOf c
  | _ => []

/-- The code points that a folding turns into a folded character. -/
def Folding.sources (f : Folding) (c : Char) : List Nat :=
  match f with
  | .exact => [c.toNat]
  | .ascii => [c.toNat, c.toUpper.toNat]
  | .unicode =>
    [c.toNat, c.toUpper.toNat] ++
      Text.lowerRuns.toList.filterMap fun (first, last, step, delta) =>
        let n := ((c.toNat : Int) - delta).toNat
        if first ≤ n && n ≤ last && (n - first) % step == 0 then some n else none

def CharClass.holds (ascii : Bool) (k : CharClass) (c : Char) : Bool :=
  match k with
  | .digit => if ascii then c.isDigit else Text.isDecimal c
  | .space =>
    if ascii then c == ' ' || (9 ≤ c.toNat && c.toNat ≤ 13) else Text.isBlank c
  | .word => (if ascii then c.isAlphanum else Text.isAlphanumeric c) || c == '_'

/-- The last code point of the basic plane. -/
def basicPlaneEnd : Nat := 0xffff

def codeHolds (f : Folding) (n : Nat) (c : Char) : Bool :=
  let low := (f.apply (Char.ofNat n)).toNat
  if f ≠ .exact && basicPlaneEnd < low then n = c.toNat
  else if n.isValidChar then low = c.toNat || (f.fellows c).any (·.toNat == low)
  else false

def rangeHolds (f : Folding) (first last : Nat) (c : Char) : Bool :=
  let within (n : Nat) : Bool := first ≤ n && n ≤ last
  match f with
  | .exact => within c.toNat
  | _ => within c.toNat || (f.sources c).any within || (f.fellows c).any fun d =>
      (f.sources d).any within

def SetItem.holds (f : Folding) (ascii : Bool) (c : Char) : SetItem → Bool
  | .code n => codeHolds f n c
  | .range first last => rangeHolds f first last c
  | .class negated k => k.holds ascii c != negated

inductive CharTest where
  | any
  | notNewline
  | set (negated : Bool) (items : List SetItem) (folding : Folding) (ascii : Bool)
deriving DecidableEq, Repr

def CharTest.holds : CharTest → Char → Bool
  | .any, _ => true
  | .notNewline, c => c != '\n'
  | .set negated items folding ascii, c =>
    items.any (SetItem.holds folding ascii (folding.apply c)) != negated

/-- A place in a text: what stands before it, last character first, and what stands after. -/
structure Cursor where
  before : List Char
  position : Nat
  after : List Char
deriving DecidableEq, Repr

namespace Cursor

def start (s : List Char) : Cursor := ⟨[], 0, s⟩

def step? (t : CharTest) (c : Cursor) : Option Cursor :=
  match c.after with
  | d :: rest => if t.holds d then some ⟨d :: c.before, c.position + 1, rest⟩ else none
  | [] => none

/-- Moves back over characters; none if there are too few. -/
def back? : Nat → Cursor → Option Cursor
  | 0, c => some c
  | n + 1, ⟨d :: before, position, after⟩ => back? n ⟨before, position - 1, d :: after⟩
  | _ + 1, ⟨[], _, _⟩ => none

def atBoundary (ascii : Bool) (c : Cursor) : Bool :=
  let isWord (s : List Char) : Bool := s.head?.any (CharClass.word.holds ascii)
  isWord c.before != isWord c.after

def isEmptyText (c : Cursor) : Bool := c.before.isEmpty && c.after.isEmpty

end Cursor

structure PlaceTest where
  anchor : Anchor
  multiline : Bool
  ascii : Bool
deriving DecidableEq, Repr

/-- Whether a place meets a condition.  In an empty text there is neither a word boundary nor a place
that is none. -/
def PlaceTest.holds (t : PlaceTest) (c : Cursor) : Bool :=
  match t.anchor with
  | .textStart => c.before.isEmpty
  | .textEnd => c.after.isEmpty
  | .lineStart => c.before.isEmpty || (t.multiline && c.before.head? == some '\n')
  | .lineEnd =>
    c.after.isEmpty || c.after == ['\n'] || (t.multiline && c.after.head? == some '\n')
  | .boundary => !c.isEmptyText && c.atBoundary t.ascii
  | .noBoundary => !c.isEmptyText && !c.atBoundary t.ascii

/-- What the groups have matched, the latest first. -/
abbrev Captures := List (Nat × List Char)

/-- Where a match ends, and what its groups hold. -/
structure Match where
  stop : Cursor
  captures : Captures

abbrev Continuation := Cursor → Captures → Option Match

/-- A way to match the next part of a text. -/
abbrev Matcher := Cursor → Captures → Continuation → Option Match

inductive Node where
  | empty
  | test (t : CharTest)
  | place (t : PlaceTest)
  | seq (first second : Node)
  | alt (first second : Node)
  | capture (number : Nat) (body : Node)
  | backref (number : Nat) (folding : Folding)
  | cond (number : Nat) (yes no : Node)
  | look (back : Nat) (negated : Bool) (body : Node)
  | atomic (body : Node)
  | run (greed : Greed) (min : Nat) (max : Option Nat) (t : CharTest)
  | loop (greed : Greed) (min : Nat) (max : Option Nat) (body : Node)
deriving DecidableEq, Repr

/-- Whether one more round is allowed after `count`. -/
def allowsMore (max : Option Nat) (count : Nat) : Bool :=
  match max with
  | none => true
  | some n => count < n

namespace Matcher

def finish : Continuation := fun c g => some ⟨c, g⟩

def skipRun (t : CharTest) : Nat → Nat → Cursor → Nat × Cursor
  | 0, count, c => (count, c)
  | room + 1, count, c =>
    match c.step? t with
    | some c => skipRun t room (count + 1) c
    | none => (count, c)

def giveBack (k : Continuation) (g : Captures) : Nat → Cursor → Option Match
  | 0, c => k c g
  | spare + 1, c =>
    match k c g with
    | some m => some m
    | none =>
      match c.back? 1 with
      | some c => giveBack k g spare c
      | none => none

def takeMore (t : CharTest) (k : Continuation) (g : Captures) : Nat → Cursor → Option Match
  | 0, c => k c g
  | room + 1, c =>
    match k c g with
    | some m => some m
    | none =>
      match c.step? t with
      | some c => takeMore t k g room c
      | none => none

def run (greed : Greed) (min : Nat) (max : Option Nat) (t : CharTest) : Matcher := fun c g k =>
  let room := c.after.length
  let most := match max with
    | none => room
    | some n => Nat.min n room
  match greed with
  | .greedy =>
    let (count, c) := skipRun t most 0 c
    if count < min then none else giveBack k g (count - min) c
  | .possessive =>
    let (count, c) := skipRun t most 0 c
    if count < min then none else k c g
  | .lazy =>
    let (count, c) := skipRun t (Nat.min min most) 0 c
    if count < min then none else takeMore t k g (most - count) c

/-- Matches rounds of `body`, as many as possible first.  `last` is where the round before last
began: a round that matches nothing is not followed by another. -/
def greedyLoop (body : Matcher) (min : Nat) (max : Option Nat) (k : Continuation) :
    Nat → Nat → Option Nat → Continuation
  | 0, _, _ => k
  | fuel + 1, count, last => fun c g =>
    if count < min then body c g (greedyLoop body min max k fuel (count + 1) last)
    else if allowsMore max count && last != some c.position then
      match body c g (greedyLoop body min max k fuel (count + 1) (some c.position)) with
      | some m => some m
      | none => k c g
    else k c g

/-- Matches rounds of `body`, as few as possible first. -/
def lazyLoop (body : Matcher) (min : Nat) (max : Option Nat) (k : Continuation) :
    Nat → Nat → Option Nat → Continuation
  | 0, _, _ => k
  | fuel + 1, count, last => fun c g =>
    if count < min then body c g (lazyLoop body min max k fuel (count + 1) last)
    else
      match k c g with
      | some m => some m
      | none =>
        if allowsMore max count && last != some c.position then
          body c g (lazyLoop body min max k fuel (count + 1) (some c.position))
        else none

/-- Matches rounds of `body`, as many as possible, and never fewer. -/
def possessiveLoop (body : Matcher) (min : Nat) (max : Option Nat) (k : Continuation) :
    Nat → Nat → Option Nat → Continuation
  | 0, _, _ => k
  | fuel + 1, count, last => fun c g =>
    if count < min then
      match body c g finish with
      | some m => possessiveLoop body min max k fuel (count + 1) last m.stop m.captures
      | none => none
    else if allowsMore max count && last != some c.position then
      match body c g finish with
      | some m =>
        possessiveLoop body min max k fuel (count + 1) (some c.position) m.stop m.captures
      | none => k c g
    else k c g

/-- Matches rounds of `body`.  The rounds that match something are at most as many as the characters
left. -/
def loop (greed : Greed) (min : Nat) (max : Option Nat) (body : Matcher) : Matcher := fun c g k =>
  let fuel := min + c.after.length + 2
  match greed with
  | .greedy => greedyLoop body min max k fuel 0 none c g
  | .lazy => lazyLoop body min max k fuel 0 none c g
  | .possessive => possessiveLoop body min max k fuel 0 none c g

end Matcher

def Cursor.follow? (f : Folding) : List Char → Cursor → Option Cursor
  | [], c => some c
  | d :: text, ⟨before, position, e :: after⟩ =>
    if f.apply d == f.apply e then Cursor.follow? f text ⟨e :: before, position + 1, after⟩
    else none
  | _ :: _, ⟨_, _, []⟩ => none

def Node.matcher : Node → Matcher
  | .empty => fun c g k => k c g
  | .test t => fun c g k =>
    match c.step? t with
    | some c => k c g
    | none => none
  | .place t => fun c g k => if t.holds c then k c g else none
  | .seq a b => fun c g k => a.matcher c g fun c g => b.matcher c g k
  | .alt a b => fun c g k =>
    match a.matcher c g k with
    | some m => some m
    | none => b.matcher c g k
  | .capture n body => fun c g k =>
    body.matcher c g fun d g => k d ((n, c.after.take (d.position - c.position)) :: g)
  | .backref n f => fun c g k =>
    match g.lookup n with
    | none => none
    | some text =>
      match c.follow? f text with
      | some c => k c g
      | none => none
  | .cond n yes no => fun c g k =>
    if (g.lookup n).isSome then yes.matcher c g k else no.matcher c g k
  | .look back negated body => fun c g k =>
    match c.back? back with
    | none => if negated then k c g else none
    | some start =>
      match body.matcher start g Matcher.finish with
      | some m => if negated then none else k c m.captures
      | none => if negated then k c g else none
  | .atomic body => fun c g k =>
    match body.matcher c g Matcher.finish with
    | some m => k m.stop m.captures
    | none => none
  | .run greed min max t => Matcher.run greed min max t
  | .loop greed min max body => Matcher.loop greed min max body.matcher

def Node.matchAt (node : Node) (c : Cursor) : Option Match :=
  node.matcher c [] Matcher.finish

def Node.searchFrom (node : Node) (before : List Char) (position : Nat) : List Char → Option Match
  | [] => node.matchAt ⟨before, position, []⟩
  | d :: after =>
    match node.matchAt ⟨before, position, d :: after⟩ with
    | some m => some m
    | none => node.searchFrom (d :: before) (position + 1) after

def Node.search (node : Node) (skip : Nat) (s : List Char) : Option Match :=
  node.searchFrom (s.take skip).reverse skip (s.drop skip)

end FileQuery.Pattern
