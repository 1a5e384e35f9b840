import FileQuery.Pattern.Fault

/-!
Regular expressions as trees, and how wide a text they match.
-/

namespace FileQuery.Pattern

structure Flags where
  ignoreCase : Bool
  multiline : Bool
  dotAll : Bool
  verbose : Bool
  ascii : Bool
  unicode : Bool
  template : Bool
deriving DecidableEq, Repr

namespace Flags

def none : Flags := ⟨false, false, false, false, false, false, false⟩

def union (x y : Flags) : Flags :=
  ⟨x.ignoreCase || y.ignoreCase, x.multiline || y.multiline, x.dotAll || y.dotAll,
    x.verbose || y.verbose, x.ascii || y.ascii, x.unicode || y.unicode, x.template || y.template⟩

def without (x y : Flags) : Flags :=
  ⟨x.ignoreCase && !y.ignoreCase, x.multiline && !y.multiline, x.dotAll && !y.dotAll,
    x.verbose && !y.verbose, x.ascii && !y.ascii, x.unicode && !y.unicode,
    x.template && !y.template⟩

def meets (x y : Flags) : Bool :=
  x.ignoreCase && y.ignoreCase || x.multiline && y.multiline || x.dotAll && y.dotAll ||
    x.verbose && y.verbose || x.ascii && y.ascii || x.unicode && y.unicode ||
    x.template && y.template

def switch (flags add del : Flags) : Flags :=
  let flags :=
    if add.ascii || add.unicode then { flags with ascii := false, unicode := false } else flags
  (flags.union add).without del

end Flags

inductive CharClass where
  | digit
  | space
  | word
deriving DecidableEq, Repr

/-- A member of a bracketed set; code points rather than characters, because an escape can name a
code point that is no character. -/
inductive SetItem where
  | code (n : Nat)
  | range (first last : Nat)
  | class (negated : Bool) (c : CharClass)
deriving DecidableEq, Repr

inductive Anchor where
  | lineStart
  | lineEnd
  | textStart
  | textEnd
  | boundary
  | noBoundary
deriving DecidableEq, Repr

inductive Regex where
  | empty
  | code (negated : Bool) (n : Nat)
  | set (negated : Bool) (items : List SetItem)
  | any
  | anchor (a : Anchor)
  | seq (first second : Regex)
  | alt (first second : Regex)
  | capture (number : Nat) (body : Regex)
  | scoped (add del : Flags) (body : Regex)
  | backref (number : Nat)
  | cond (number : Nat) (yes no : Regex)
  | look (behind negated : Bool) (body : Regex)
  | atomic (body : Regex)
  | repeat (greed : Greed) (min : Nat) (max : Option Nat) (body : Regex)
deriving DecidableEq, Repr

/-- The least and the greatest length of a matched text, both cut off at `widthLimit`. -/
structure Width where
  least : Nat
  greatest : Nat
deriving DecidableEq, Repr

/-- Greater widths are not told apart. -/
def widthLimit : Nat := Nat.pow 2 64

namespace Width

def cut (least greatest : Nat) : Width := ⟨min least widthLimit, min greatest widthLimit⟩

def add (x y : Width) : Width := cut (x.least + y.least) (x.greatest + y.greatest)

def join (x y : Width) : Width := ⟨min x.least y.least, max x.greatest y.greatest⟩

end Width

/-- The widths of the groups closed so far, by number. -/
abbrev GroupWidths := List (Nat × Width)

def Regex.width (groups : GroupWidths) : Regex → Width
  | .empty => ⟨0, 0⟩
  | .code .. => ⟨1, 1⟩
  | .set .. => ⟨1, 1⟩
  | .any => ⟨1, 1⟩
  | .anchor _ => ⟨0, 0⟩
  | .seq a b => (a.width groups).add (b.width groups)
  | .alt a b => (a.width groups).join (b.width groups)
  | .capture _ body => body.width groups
  | .scoped _ _ body => body.width groups
  | .backref n => (groups.lookup n).getD ⟨0, 0⟩
  | .cond _ yes no => (yes.width groups).join (no.width groups)
  | .look .. => ⟨0, 0⟩
  | .atomic body => body.width groups
  | .repeat _ least greatest body =>
    let w := body.width groups
    match greatest with
    | none => Width.cut (w.least * least) (if w.greatest = 0 then 0 else widthLimit)
    | some n => Width.cut (w.least * least) (w.greatest * n)

end FileQuery.Pattern
