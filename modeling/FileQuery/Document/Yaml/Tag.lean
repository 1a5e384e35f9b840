import FileQuery.Document.Yaml.Timestamp

/-!
Tags: the kinds of nodes.  A plain scalar has the kind that its text is spelled like.
-/

namespace FileQuery.Document.Yaml

/-- The kinds of nodes.  A merge key stands for the members of other maps, and a value key for the
map that it is in. -/
inductive Tag where
  | null
  | bool
  | int
  | float
  | binary
  | timestamp
  | str
  | seq
  | map
  | set
  | omap
  | pairs
  | merge
  | value
  | other
deriving DecidableEq, Repr

def knownLead : String := "tag:yaml.org,2002:"

def tagNames : List (String × Tag) :=
  [("null", .null), ("bool", .bool), ("int", .int), ("float", .float), ("binary", .binary),
    ("timestamp", .timestamp), ("str", .str), ("seq", .seq), ("map", .map), ("set", .set),
    ("omap", .omap), ("pairs", .pairs), ("merge", .merge), ("value", .value)]

def Tag.ofText (text : String) : Tag :=
  ((tagNames.find? fun (name, _) => knownLead ++ name == text).map (·.2)).getD .other

def isDigitOrJoint (c : Char) : Bool := isDigit c || c == '_'

def isAll (isMember : Char → Bool) (s : List Char) : Bool := !s.isEmpty && s.all isMember

def dropSign : List Char → List Char
  | '-' :: rest => rest
  | '+' :: rest => rest
  | s => s

def skipSixties : List Char → Option (List Char)
  | ':' :: c :: d :: rest =>
    if isDigit d && '0' ≤ c && c ≤ '5' then
      match rest with
      | ':' :: _ => skipSixties rest
      | _ => some rest
    else if isDigit c then
      if d == ':' then skipSixties (d :: rest) else some (d :: rest)
    else none
  | [':', c] => if isDigit c then some [] else none
  | _ => none

def isInt (s : List Char) : Bool :=
  match dropSign s with
  | '0' :: 'b' :: rest => isAll (fun c => c == '0' || c == '1' || c == '_') rest
  | '0' :: 'x' :: rest => isAll (fun c => (hexDigit? c).isSome || c == '_') rest
  | '0' :: rest => rest.all fun c => ('0' ≤ c && c ≤ '7') || c == '_'
  | c :: rest =>
    isDigit c &&
      match rest.dropWhile isDigitOrJoint with
      | [] => true
      | rest => (skipSixties rest).any List.isEmpty
  | [] => false

/-- Whether a text is an exponent, which has to have a sign, or empty. -/
def isExponent (s : List Char) : Bool :=
  match s with
  | [] => true
  | e :: sign :: digits =>
    (e == 'e' || e == 'E') && (sign == '+' || sign == '-') && isAll isDigit digits
  | _ => false

/-- Whether a text is spelled like a floating-point number: it has to have a point. -/
def isFloat (s : List Char) : Bool :=
  match s with
  | ['.', 'n', 'a', 'n'] | ['.', 'N', 'a', 'N'] | ['.', 'N', 'A', 'N'] => true
  | '.' :: c :: rest =>
    (isDigit c && isExponent (rest.dropWhile isDigitOrJoint)) || isInfinity ('.' :: c :: rest)
  | s =>
    let t := dropSign s
    isInfinity t ||
      match t with
      | c :: rest =>
        isDigit c &&
          match rest.dropWhile isDigitOrJoint with
          | '.' :: rest => isExponent (rest.dropWhile isDigitOrJoint)
          | rest =>
            match skipSixties rest with
            | some ('.' :: rest) => rest.all isDigitOrJoint
            | _ => false
      | [] => false
where
  /-- The spellings of infinity. -/
  isInfinity : List Char → Bool
    | ['.', 'i', 'n', 'f'] | ['.', 'I', 'n', 'f'] | ['.', 'I', 'N', 'F'] => true
    | _ => false

def isTimestamp (s : List Char) : Bool :=
  (readTimestamp? s).any fun w => w.isPadded || w.time.isSome

def truthWords : List String :=
  ["yes", "Yes", "YES", "no", "No", "NO", "true", "True", "TRUE", "false", "False", "FALSE",
    "on", "On", "ON", "off", "Off", "OFF"]

def nullWords : List String := ["~", "null", "Null", "NULL"]

def Tag.ofPlain (text : String) : Tag :=
  if text.isEmpty then .null
  else
    let s := dropFinalBreak text.toList
    let word := String.ofList s
    if truthWords.contains word then .bool
    else if isFloat s then .float
    else if isInt s then .int
    else if word == "<<" then .merge
    else if nullWords.contains word then .null
    else if isTimestamp s then .timestamp
    else if word == "=" then .value
    else if word == "!" || word == "&" || word == "*" then .other
    else .str

end FileQuery.Document.Yaml
