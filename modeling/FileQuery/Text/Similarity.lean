/-!
How alike two words are: the share of characters in common blocks.  The longest common block is
taken first, then the blocks to its left and to its right are looked for in the same way.
-/

namespace FileQuery.Text

structure Block where
  left : Nat
  right : Nat
  size : Nat

/-- Lengths of the common runs that end at the character `c` and at each character of a text, from
the lengths for the character before; `ends` says at which characters a run may end. -/
def nextRuns (ends : Char → Bool) (c : Char) (diagonal : Nat) : List Nat → List Char → List Nat
  | _, [] => []
  | runs, d :: rest =>
    (if c == d && ends d then diagonal + 1 else 0) ::
      nextRuns ends c (runs.headD 0) runs.tail rest

/-- The first of the longest runs in a row, if it is longer than the best block so far. -/
def betterBlock (i : Nat) (best : Block) (j : Nat) : List Nat → Block
  | [] => best
  | k :: runs =>
    betterBlock i (if best.size < k then ⟨i + 1 - k, j + 1 - k, k⟩ else best) (j + 1) runs

def longestRun (ends : Char → Bool) (b : List Char) (i : Nat) (best : Block) (runs : List Nat) :
    List Char → Block
  | [] => best
  | c :: a =>
    let runs := nextRuns ends c 0 runs b
    longestRun ends b (i + 1) (betterBlock i best 0 runs) runs a

def commonFront : List Char → List Char → Nat
  | c :: a, d :: b => if c == d then commonFront a b + 1 else 0
  | _, _ => 0

def longestBlock (ends : Char → Bool) (a b : List Char) : Block :=
  let run := longestRun ends b 0 ⟨0, 0, 0⟩ [] a
  let before := commonFront (a.take run.left).reverse (b.take run.right).reverse
  let after := commonFront (a.drop (run.left + run.size)) (b.drop (run.right + run.size))
  ⟨run.left - before, run.right - before, before + run.size + after⟩

def commonSize (ends : Char → Bool) (a b : List Char) : Nat :=
  match longestBlock ends a b with
  | ⟨left, right, size⟩ =>
    if _h : 0 < size ∧ left < a.length then
      size + commonSize ends (a.take left) (b.take right) +
        commonSize ends (a.drop (left + size)) (b.drop (right + size))
    else 0
termination_by a.length
decreasing_by
  · simp only [List.length_take]
    omega
  · simp only [List.length_drop]
    omega

/-- Whether a character is so frequent in a long word that runs are not looked for at it. -/
def isFrequent (word : List Char) (c : Char) : Bool :=
  200 ≤ word.length && word.length / 100 + 1 < word.count c

/-- A share in common, `num` of `den` characters. -/
structure Share where
  num : Nat
  den : Nat

/-- Compares shares; two empty texts have everything in common. -/
def Share.compare (x y : Share) : Ordering :=
  Ord.compare (x.num * y.den) (y.num * x.den)

def share (candidate word : List Char) : Share :=
  let total := candidate.length + word.length
  if total = 0 then ⟨1, 1⟩
  else
    let frequent := (word.eraseDups).filter (isFrequent word)
    ⟨2 * commonSize (fun c => !frequent.contains c) candidate word, total⟩

/-- Whether a candidate is near enough to be proposed: three fifths in common. -/
def Share.isClose (x : Share) : Bool := 3 * x.den ≤ 5 * x.num

/-- Up to three of the candidates nearest to a word: the larger share first, of equal shares the
later word in code point order. -/
def closest (word : String) (candidates : List String) : List String :=
  let scored := candidates.map fun c => (share c.toList word.toList, c)
  let near := scored.filter (·.1.isClose)
  let sorted := near.mergeSort fun x y =>
    match x.1.compare y.1 with
    | .gt => true
    | .lt => false
    | .eq => decide (y.2 ≤ x.2)
  (sorted.take 3).map (·.2)

end FileQuery.Text
