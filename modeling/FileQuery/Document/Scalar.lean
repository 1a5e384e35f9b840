import FileQuery.Calendar.Moment
import FileQuery.Number.FloatText
import FileQuery.Number.Shortest
import FileQuery.Text.Quoted

/-!
The scalars of documents and of literals, when two of them are equal, and their texts.
-/

namespace FileQuery.Document

/-- A value without parts. -/
inductive Scalar where
  | null
  | bool (b : Bool)
  | int (i : Int)
  | float (x : Number.Binary64)
  | str (s : String)
  | date (d : Calendar.Date)
  | time (c : Calendar.Clock)
  | dateTime (d : Calendar.DateTime)
  | bytes (b : List UInt8)
deriving DecidableEq, Repr

inductive Numeric where
  | int (i : Int)
  | float (x : Number.Binary64)
deriving DecidableEq, Repr

def Numeric.compare? : Numeric → Numeric → Option Ordering
  | .int i, .int j => some (compare i j)
  | .int i, .float y => Number.Binary64.compareInt? i y
  | .float x, .int j => (Number.Binary64.compareInt? j x).map Ordering.swap
  | .float x, .float y => x.compare? y

def Numeric.same (x y : Numeric) : Bool := x.compare? y == some .eq

/-- Why a value cannot be compared: its text would be too long, a number in it has too many digits, a
pair contains itself, or it spells a number with white space around it that cannot stand there; or,
inside a pair, a key is of a kind that cannot be one there, or collections are nested too deeply. -/
inductive TextFault where
  | tooLong (limit : Nat)
  | integerTooLong
  | circular
  | notFloat (text : String)
  | foreignKey (kind : String)
  | tooDeep
deriving DecidableEq, Repr

def TextFault.message : TextFault → String
  | .tooLong limit => "value renders to more than " ++ toString limit ++ " characters"
  | .integerTooLong =>
    "Exceeds the limit (" ++ toString Number.digitLimit ++
      " digits) for integer string conversion; use sys.set_int_max_str_digits() to increase the limit"
  | .circular => "Circular reference detected"
  | .notFloat text => "could not convert string to float: " ++ Text.quoted text
  | .foreignKey kind => "keys must be str, int, float, bool or None, not " ++ kind
  | .tooDeep => "maximum recursion depth exceeded while encoding a JSON object"

/-- Whether comparisons foresee the fault. -/
def TextFault.isForeseen : TextFault → Bool
  | .foreignKey _ | .tooDeep => false
  | _ => true

namespace Scalar

/-- A number; truth values are none. -/
def numeric? : Scalar → Option Numeric
  | .int i => some (.int i)
  | .float x => some (.float x)
  | _ => none

/-- The number nearest to what a text spells, white space around it apart.  All white space is passed
over to see whether a number is spelled, but not all of it is where the number is read. -/
def spelledNumber (s : String) : Except TextFault (Option Number.Binary64) :=
  match Number.readFloat (Text.trim s.toList) with
  | none => .ok none
  | some _ =>
    match Number.readFloat (Text.trimNumber s.toList) with
    | some w => .ok (some w.value)
    | none => .error (.notFloat s)

/-- The number that a scalar is or spells. -/
def asNumber : Scalar → Except TextFault (Option Numeric)
  | .str s => (spelledNumber s).map (·.map .float)
  | x => .ok x.numeric?

/-- Keys are the same if they are equal values; a truth value is the number 0 or 1, and not being a
number is equal to nothing. -/
def sameKey : Scalar → Scalar → Bool
  | .null, .null => true
  | .str s, .str t => s == t
  | .date d, .date e => d == e
  | .time c, .time d => c == d
  | .bytes b, .bytes c => b == c
  | .dateTime d, .dateTime e =>
    match d.offset?, e.offset? with
    | none, none => d.reading == e.reading
    | some x, some y => (d.reading : Int) - x == (e.reading : Int) - y
    | _, _ => false
  | x, y =>
    match asKeyNumber x, asKeyNumber y with
    | some m, some n => m.same n
    | _, _ => false
where
  /-- A truth value as a number. -/
  asKeyNumber : Scalar → Option Numeric
    | .bool b => some (.int (if b then 1 else 0))
    | x => x.numeric?

end Scalar

/-- Reads a bare literal: an integer, a number, a truth value or null where it spells one, and a text
otherwise. -/
def readLiteral (text : String) : Except Number.IntegerFault Scalar :=
  let s := text.toList
  let digits := (Number.takeSign s).2
  if !digits.isEmpty && digits.all Text.isDecimal then
    (Number.readInteger text s).map .int
  else
    let line := if s.getLast? == some '\n' then s.dropLast else s
    match Number.readFloat line with
    | some w => .ok (.float w.value)
    | none =>
      match text with
      | "true" => .ok (.bool true)
      | "false" => .ok (.bool false)
      | "null" => .ok .null
      | _ => .ok (.str text)

def jsonChar (c : Char) : List Char :=
  match c with
  | '"' => ['\\', '"']
  | '\\' => ['\\', '\\']
  | '\n' => ['\\', 'n']
  | '\r' => ['\\', 'r']
  | '\t' => ['\\', 't']
  | '\x08' => ['\\', 'b']
  | '\x0c' => ['\\', 'f']
  | c => if c.toNat < 32 then '\\' :: 'u' :: Text.hexDigits 4 c.toNat else [c]

def jsonString (s : String) : String :=
  String.ofList ('"' :: s.toList.flatMap jsonChar ++ ['"'])

theorem toList_jsonString (s : String) :
    (jsonString s).toList = '"' :: (s.toList.flatMap jsonChar ++ ['"']) := by
  rw [jsonString, String.toList_ofList]
  rfl

theorem length_le_flatMap_jsonChar (s : List Char) : s.length ≤ (s.flatMap jsonChar).length := by
  have hchar : ∀ c, 1 ≤ (jsonChar c).length := by
    intro c
    unfold jsonChar
    split
    case h_8 => split <;> exact Nat.le_add_left _ _
    all_goals decide
  induction s with
  | nil => exact Nat.le_refl _
  | cons c s ih =>
    have hc := hchar c
    rw [List.flatMap_cons, List.length_append, List.length_cons]
    omega

def byteChars (quote : Char) (b : UInt8) : List Char :=
  let c := Char.ofNat b.toNat
  if c == quote || c == '\\' then ['\\', c]
  else if c == '\n' then ['\\', 'n']
  else if c == '\r' then ['\\', 'r']
  else if c == '\t' then ['\\', 't']
  else if 32 ≤ b.toNat && b.toNat < 127 then [c]
  else '\\' :: 'x' :: Text.hexDigits 2 b.toNat

def bytesText (bytes : List UInt8) : String :=
  let quote := Text.quoteFor (bytes.map fun b => Char.ofNat b.toNat)
  String.ofList ('b' :: quote :: bytes.flatMap (byteChars quote) ++ [quote])

def integerText (i : Int) : Except TextFault String :=
  if Number.isWritable i then .ok (toString i) else .error .integerTooLong

def boolText (b : Bool) : String := if b then "true" else "false"

def Scalar.innerText : Scalar → Except TextFault String
  | .null => .ok "null"
  | .bool b => .ok (boolText b)
  | .int i => integerText i
  | .float .nan => .ok "NaN"
  | .float (.infinite negative) => .ok (if negative then "-Infinity" else "Infinity")
  | .float x => .ok x.text
  | .str s => .ok (jsonString s)
  | .date d => .ok (jsonString d.iso)
  | .time c => .ok (jsonString c.iso)
  | .dateTime d => .ok (jsonString (d.text " "))
  | .bytes b => .ok (jsonString (bytesText b))

def Scalar.text (limit : Nat) : Scalar → Except TextFault String
  | .str s => .ok s
  | .float x => .ok x.text
  | .date d => .ok d.iso
  | .time c => .ok c.iso
  | .dateTime d => .ok (d.text "T")
  | .bytes b =>
    let text := jsonString (bytesText b)
    if limit < text.length then .error (.tooLong limit) else .ok text
  | s => s.innerText

/-- The text of a key: a quoted text, whatever the key is. -/
def Scalar.keyText (limit : Nat) (key : Scalar) : Except TextFault String :=
  (key.text limit).map jsonString

end FileQuery.Document
