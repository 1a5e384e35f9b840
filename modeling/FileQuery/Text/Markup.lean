import FileQuery.Text.Emoji

/-!
Texts with tags in square brackets, such as `[dim]`, which mark how the text between them looks.  Only
the text is shown here.  A backslash before a tag takes its meaning away.  Names of emoji between colons
stand for the emoji.
-/

namespace FileQuery.Text.Markup

def isTagStart (c : Char) : Bool := ('a' ≤ c && c ≤ 'z') || c == '#' || c == '/' || c == '@'

def takeTag (done : List Char) : List Char → Option (List Char × List Char)
  | [] => none
  | c :: rest =>
    if c == ']' then some ((c :: done).reverse, rest)
    else if c == '[' then none
    else takeTag (c :: done) rest

def tagAt? : List Char → Option (List Char × List Char)
  | '[' :: c :: rest => if isTagStart c then takeTag [c, '['] rest else none
  | _ => none

inductive Piece where
  | tag (backslashes : Nat) (text : List Char)
  | char (c : Char)
deriving DecidableEq, Repr

def piecesFrom (done : List Piece) (s : List Char) : Nat → List Piece
  | 0 => done.reverse
  | fuel + 1 =>
    let backslashes := (s.takeWhile (· == '\\')).length
    match tagAt? (s.drop backslashes) with
    | some (tag, rest) => piecesFrom (.tag backslashes tag :: done) rest fuel
    | none =>
      match s with
      | [] => done.reverse
      | c :: rest => piecesFrom (.char c :: done) rest fuel

def pieces (s : List Char) : List Piece := piecesFrom [] s (s.length + 1)

/-- Takes the meaning of the tags in a text away.  A single backslash at the end is doubled, because a
tag may come after it. -/
def escape (s : String) : String :=
  let escaped := (pieces s.toList).flatMap fun
    | .tag n text => List.replicate (2 * n + 1) '\\' ++ text
    | .char c => [c]
  match escaped.reverse with
  | '\\' :: '\\' :: _ => String.ofList escaped
  | '\\' :: _ => String.ofList (escaped ++ ['\\'])
  | _ => String.ofList escaped

def dropBackslashes : List Char → List Char
  | '\\' :: '[' :: rest => '[' :: dropBackslashes rest
  | c :: rest => c :: dropBackslashes rest
  | [] => []

def shownPlain (s : List Char) : List Char := Emoji.showNames (dropBackslashes s)

def shownFrom (plain : List Char) : List Piece → List Char
  | [] => shownPlain plain.reverse
  | .char c :: rest => shownFrom (c :: plain) rest
  | .tag n text :: rest =>
    shownPlain plain.reverse ++ List.replicate (n / 2) '\\' ++
      (if n % 2 = 1 then shownPlain text else []) ++ shownFrom [] rest

def shown (s : String) : String := String.ofList (shownFrom [] (pieces s.toList))

end FileQuery.Text.Markup
