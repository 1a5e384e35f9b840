import FileQuery.Pattern.Matcher

/-!
Shell wildcards.  `*` stands for any text, `?` for any character, and brackets for one character of a
set, or outside of it after `!`; a bracket that is not closed stands for itself.
-/

namespace FileQuery.Pattern

inductive GlobItem where
  | star
  | one (t : CharTest)
deriving DecidableEq, Repr

def noChar : CharTest := .set false [] .exact false

def onlyChar (c : Char) : CharTest := .set false [.code c.toNat] .exact false

/-- Splits the inside of brackets at the hyphens that make ranges.  The first two characters, and
after a range the two characters that follow its hyphen, are not looked at. -/
def rangeChunks (chunk : List Char) (skip : Nat) : List Char → List (List Char)
  | [] => [chunk.reverse]
  | c :: rest =>
    if skip = 0 && c == '-' then chunk.reverse :: rangeChunks [] 2 rest
    else rangeChunks (c :: chunk) (skip - 1) rest

/-- A hyphen at the end makes no range. -/
def keepLastHyphen : List (List Char) → List (List Char)
  | [chunk, []] => [chunk ++ ['-']]
  | chunk :: rest => chunk :: keepLastHyphen rest
  | [] => []

/-- Removes ranges that run backwards, from the last to the first. -/
def dropEmptyRanges : List (List Char) → List (List Char)
  | [] => []
  | chunk :: rest =>
    match dropEmptyRanges rest with
    | [] => [chunk]
    | next :: rest =>
      match chunk.getLast?, next with
      | some last, first :: tail =>
        if first < last then (chunk.dropLast ++ tail) :: rest else chunk :: next :: rest
      | _, _ => chunk :: next :: rest

/-- The members of a set: all characters of the chunks, and the ranges between neighbours. -/
def chunkItems : List (List Char) → List SetItem
  | [] => []
  | [chunk] => chunk.map fun c => .code c.toNat
  | chunk :: next :: rest =>
    let range := match chunk.getLast?, next.head? with
      | some first, some last => [SetItem.range first.toNat last.toNat]
      | _, _ => []
    chunk.map (fun c => .code c.toNat) ++ range ++ chunkItems (next :: rest)

def bracketTest (inside : List Char) : CharTest :=
  let negated := inside.head? == some '!'
  let members := if negated then inside.tail else inside
  -- the hyphen that makes a range is looked for from the second member on
  let chunks := dropEmptyRanges (keepLastHyphen (rangeChunks [] 1 members))
  match negated, chunkItems chunks with
  | false, [] => noChar
  | true, [] => .any
  | negated, items => .set negated items .exact false

def takeBracket (s : List Char) : Option (List Char × List Char) :=
  let (mark, s) := if s.head? == some '!' then (['!'], s.tail) else ([], s)
  let (first, s) := if s.head? == some ']' then ([']'], s.tail) else ([], s)
  match s.dropWhile (· != ']') with
  | [] => none
  | _ :: rest => some (mark ++ first ++ s.takeWhile (· != ']'), rest)

theorem length_takeBracket {s inside rest : List Char} (h : takeBracket s = some (inside, rest)) :
    rest.length < s.length := by
  have key : ∀ t : List Char, t.length ≤ s.length → ∀ mark first : List Char,
      (match t.dropWhile (· != ']') with
        | [] => none
        | _ :: rest => some (mark ++ first ++ t.takeWhile (· != ']'), rest)) = some (inside, rest) →
      rest.length < s.length := by
    intro t ht mark first h
    have hd : (t.dropWhile (· != ']')).length ≤ t.length :=
      (List.dropWhile_sublist (· != ']')).length_le
    split at h
    · simp at h
    · next heq =>
      cases h
      rw [heq] at hd
      simp only [List.length_cons] at hd
      omega
  -- what is taken before the search for the end is at most two characters
  unfold takeBracket at h
  by_cases h1 : s.head? == some '!' <;> simp only [h1, if_true, if_false, Bool.false_eq_true] at h
  · by_cases h2 : s.tail.head? == some ']' <;>
      simp only [h2, if_true, if_false, Bool.false_eq_true] at h
    · exact key _ (by simp only [List.length_tail]; omega) _ _ h
    · exact key _ (by simp only [List.length_tail]; omega) _ _ h
  · by_cases h2 : s.head? == some ']' <;>
      simp only [h2, if_true, if_false, Bool.false_eq_true] at h
    · exact key _ (by simp only [List.length_tail]; omega) _ _ h
    · exact key _ (Nat.le_refl _) _ _ h

/-- The items of a wildcard pattern; stars in a row are one. -/
def globItems (s : List Char) : List GlobItem :=
  match s with
  | [] => []
  | '*' :: rest =>
    match globItems rest with
    | .star :: items => .star :: items
    | items => .star :: items
  | '?' :: rest => .one .any :: globItems rest
  | '[' :: rest =>
    match _h : takeBracket rest with
    | some (inside, rest) => .one (bracketTest inside) :: globItems rest
    | none => .one (onlyChar '[') :: globItems rest
  | c :: rest => .one (onlyChar c) :: globItems rest
termination_by s.length
decreasing_by
  all_goals simp only [List.length_cons]
  all_goals try omega
  have := length_takeBracket _h
  omega

/-- Splits items after the run of single characters at the front. -/
def splitFixed : List GlobItem → List CharTest × List GlobItem
  | .one t :: rest =>
    let (fixed, rest) := splitFixed rest
    (t :: fixed, rest)
  | rest => ([], rest)

theorem length_splitFixed (items : List GlobItem) :
    (splitFixed items).2.length ≤ items.length := by
  fun_induction splitFixed items with
  | case1 t rest fixed rest' h ih =>
    rw [h] at ih
    simp only [List.length_cons]
    exact Nat.le_succ_of_le ih
  | case2 => exact Nat.le_refl _

def testsNode : List CharTest → Node
  | [] => .empty
  | [t] => .test t
  | t :: rest => .seq (.test t) (testsNode rest)

def endNode : Node := .place ⟨.textEnd, false, false⟩

/-- The matcher for items that start with a star or are empty.  The text for a star with another
star after it is as short as possible, once and for all. -/
def starsNode (items : List GlobItem) : Node :=
  match items with
  | [] => endNode
  | _ :: rest =>
    match _h : splitFixed rest with
    | (fixed, []) => .seq (.run .greedy 0 none .any) (.seq (testsNode fixed) endNode)
    | (fixed, next :: more) =>
      .seq (.atomic (.seq (.run .lazy 0 none .any) (testsNode fixed))) (starsNode (next :: more))
termination_by items.length
decreasing_by
  have h := length_splitFixed rest
  rw [_h] at h
  simp only [List.length_cons] at h ⊢
  omega

def Node.ofGlob (source : String) : Node :=
  let (fixed, items) := splitFixed (globItems source.toList)
  .seq (testsNode fixed) (starsNode items)

end FileQuery.Pattern
