import FileQuery.Text.Blank
import FileQuery.Text.Case
import FileQuery.Text.Emoji.Names

/-!
Emoji in a text by their short names, as in `:warning:`.  A name can be followed by `-text` or by
`-emoji`, which asks for one of the two looks of a character.
-/

namespace FileQuery.Text

structure Emoji where
  name : String
  characters : List Char
  hasTones : Bool
deriving DecidableEq, Repr

namespace Emoji

def readCode (digits : String) : Nat :=
  digits.toList.foldl (fun n c => n * 16 + (if c.isDigit then c.toNat - 48 else c.toNat - 87)) 0

def ofEntry (entry : String) : Emoji :=
  let words := entry.splitOn " "
  let codes := words.tail.filter (· != "+")
  ⟨words.headD "", codes.map fun code => Char.ofNat (readCode code), words.contains "+"⟩

def listed : List Emoji := (emojiNames.splitOn "\n").flatMap fun line => (line.splitOn ";").map ofEntry

def tones : List (String × Char) :=
  [("_light_skin_tone", Char.ofNat 0x1f3fb), ("_medium-light_skin_tone", Char.ofNat 0x1f3fc),
    ("_medium_skin_tone", Char.ofNat 0x1f3fd), ("_medium-dark_skin_tone", Char.ofNat 0x1f3fe),
    ("_dark_skin_tone", Char.ofNat 0x1f3ff)]

def pictureMark : Char := '\ufe0f'

def letterMark : Char := '\ufe0e'

def inTone (e : Emoji) (tone : Char) : List Char :=
  match e.characters with
  | first :: mark :: rest =>
    first :: tone :: if mark == pictureMark then rest else mark :: rest
  | cs => cs ++ [tone]

def named? (name : String) : Option (List Char) :=
  match listed.find? (·.name == name) with
  | some e => some e.characters
  | none => tones.findSome? fun (suffix, tone) => do
    if !name.endsWith suffix then failure
    let base := String.ofList (name.toList.take (name.length - suffix.length))
    return (← listed.find? fun e => e.name == base && e.hasTones).inTone tone

def dropEnding? (ending word : List Char) : Option (List Char) :=
  if ending.isSuffixOf word then some (word.take (word.length - ending.length)) else none

def ofWord? (word : List Char) : Option (List Char) :=
  let (name, mark) :=
    match dropEnding? "-emoji".toList word, dropEnding? "-text".toList word with
    | some name, _ => (name, [pictureMark])
    | none, some name => (name, [letterMark])
    | none, none => (word, [])
  (named? (lower (String.ofList name))).map (· ++ mark)

/-- Puts emoji in the place of their names; `done` holds the text before in reverse.  A colon that
closes a word does not open the next one, be the word a name or not. -/
def showFrom (done : List Char) (s : List Char) : Nat → List Char
  | 0 => done.reverse ++ s
  | fuel + 1 =>
    match s with
    | [] => done.reverse
    | ':' :: rest =>
      let word := rest.takeWhile fun c => c != ':' && !isBlank c
      match rest.drop word.length with
      | ':' :: rest =>
        let shown := (ofWord? word).getD (':' :: word ++ [':'])
        showFrom (shown.reverse ++ done) rest fuel
      | _ => showFrom (':' :: done) rest fuel
    | c :: rest => showFrom (c :: done) rest fuel

def showNames (s : List Char) : List Char := showFrom [] s (s.length + 1)

end Emoji

end FileQuery.Text
