import FileQuery.Text.CharacterName.Aliases
import FileQuery.Text.CharacterName.Alphabets
import FileQuery.Text.CharacterName.Supplement
import FileQuery.Text.CharacterName.Symbols

/-!
Characters by the names that Unicode 14 gives them.  Letter case does not matter, but for names that are
put together by a rule.
-/

namespace FileQuery.Text

def initialLetters : List String :=
  ["G", "GG", "N", "D", "DD", "R", "M", "B", "BB", "S", "SS", "", "J", "JJ", "C", "K", "T", "P",
    "H"]

def vowelLetters : List String :=
  ["A", "AE", "YA", "YAE", "EO", "E", "YEO", "YE", "O", "WA", "WAE", "OE", "YO", "U", "WEO", "WE",
    "WI", "YU", "EU", "YI", "I"]

def finalLetters : List String :=
  ["", "G", "GG", "GS", "N", "NJ", "NH", "D", "L", "LG", "LM", "LB", "LS", "LT", "LP", "LH", "M",
    "B", "BS", "S", "SS", "NG", "J", "C", "K", "T", "P", "H"]

/-- The place of the longest letter at the front of a text, and what follows it; `place` is that of the
first of the letters to look at. -/
def takeLetter (s : List Char) (place : Nat) (best : Option (Nat × Nat)) :
    List String → Option (Nat × List Char)
  | [] => best.map fun (place, length) => (place, s.drop length)
  | letter :: rest =>
    let isBetter := letter.toList.isPrefixOf s && best.all (·.2 < letter.length)
    takeLetter s (place + 1) (if isBetter then some (place, letter.length) else best) rest

def syllableOf? (letters : List Char) : Option Nat := do
  let (first, rest) ← takeLetter letters 0 none initialLetters
  let (vowel, rest) ← takeLetter rest 0 none vowelLetters
  let (last, rest) ← takeLetter rest 0 none finalLetters
  if !rest.isEmpty then failure
  return 0xac00 + (first * vowelLetters.length + vowel) * finalLetters.length + last

/-- The words of a name that shares words with the one before; how many is its first character. -/
def wordsAfter (before : List String) (entry : String) : List String :=
  match entry.toList with
  | digit :: rest =>
    before.take (digit.toNat - '0'.toNat) ++
      if rest.isEmpty then [] else (String.ofList rest).splitOn " "
  | [] => []

def codeIn (wanted : List String) (code : Nat) (before : List String) : List String → Option Nat
  | [] => none
  | entry :: rest =>
    let words := wordsAfter before entry
    if words = wanted then some code else codeIn wanted (code + 1) words rest

def codeInRuns (wanted : List String) (runs : List (Nat × String)) : Option Nat :=
  runs.findSome? fun (start, names) =>
    codeIn wanted start [] ((names.splitOn "\n").flatMap (·.splitOn ";"))

def capitalHex? (value : Nat) : List Char → Option Nat
  | [] => some value
  | c :: rest =>
    if c.isDigit then capitalHex? (value * 16 + (c.toNat - 0x30)) rest
    else if 'A' ≤ c && c ≤ 'F' then capitalHex? (value * 16 + (c.toNat - 0x37)) rest
    else none

def ideographRanges : List (Nat × Nat) :=
  [(0x3400, 0x4dbf), (0x4e00, 0x9fff), (0x20000, 0x2a6df), (0x2a700, 0x2b738), (0x2b740, 0x2b81d),
    (0x2b820, 0x2cea1), (0x2ceb0, 0x2ebe0), (0x30000, 0x3134a)]

/-- Characters whose names end in their code points, by the beginning of the name. -/
def numberedRanges : List (String × List (Nat × Nat)) :=
  [("CJK COMPATIBILITY IDEOGRAPH-", [(0xf900, 0xfa6d), (0xfa70, 0xfad9), (0x2f800, 0x2fa1d)]),
    ("NUSHU CHARACTER-", [(0x1b170, 0x1b2fb)]),
    ("KHITAN SMALL SCRIPT CHARACTER-", [(0x18b00, 0x18cd5)])]

def isInRanges (ranges : List (Nat × Nat)) (code : Nat) : Bool :=
  ranges.any fun (first, last) => first ≤ code && code ≤ last

/-- What follows the beginning of a text, if it begins so. -/
def after? (start : String) (s : List Char) : Option (List Char) :=
  if start.toList.isPrefixOf s then some (s.drop start.length) else none

def ideographOf? (digits : List Char) : Option Nat :=
  if digits.length = 4 || digits.length = 5 then
    (capitalHex? 0 digits).filter (isInRanges ideographRanges)
  else none

def numberedOf? (name : List Char) : Option Nat :=
  numberedRanges.findSome? fun (start, ranges) => do
    let digits ← after? start name
    if digits.length < 4 || (4 < digits.length && digits.head? = some '0') then failure
    (capitalHex? 0 digits).filter (isInRanges ranges)

def selectorOf? (digits : List Char) : Option Nat := do
  let n ← (String.ofList digits).toNat?
  if digits.head? = some '0' || n < 1 || 256 < n || !digits.all Char.isDigit then failure
  return if n ≤ 16 then 0xfe00 + (n - 1) else 0xe0100 + (n - 17)

/-- The code point of a name in capitals that no rule puts together. -/
def listedCode? (name : String) : Option Nat :=
  let words := name.splitOn " "
  (aliasTable.lookup name).or <|
    (numberedOf? name.toList).or <|
      ((after? "VS" name.toList).bind selectorOf?).or <|
        (codeInRuns words alphabetNames).or <|
          (codeInRuns words symbolNames).or (codeInRuns words supplementNames)

def codeNamed? (name : String) : Option Nat :=
  match after? "HANGUL SYLLABLE " name.toList with
  | some letters => syllableOf? letters
  | none =>
    match after? "CJK UNIFIED IDEOGRAPH-" name.toList with
    | some digits => ideographOf? digits
    | none => listedCode? name.toUpper

def characterNamed? (name : String) : Option Char := (codeNamed? name).map Char.ofNat

end FileQuery.Text
