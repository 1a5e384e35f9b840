/-!
UTF-8, decoded one byte at a time.  Between two bytes it is known how many are missing from the
character that was begun, and in which range the next one has to lie, so bytes that no text contains
are refused as early as possible, and how the bytes are cut into pieces makes no difference.
-/

namespace FileQuery.Text

/-- Where decoding stands: between two characters, or inside one, with the bytes and the bits read of
it, the number of its missing bytes and the range of the next one.  No byte lies in the range after
the first two bytes of what would be a surrogate; they are refused when another byte comes. -/
inductive Utf8State where
  | between
  | inside (seen : List UInt8) (bits missing low high : Nat)
deriving DecidableEq, Repr

inductive Utf8Step where
  | char (c : Char)
  | more (state : Utf8State)
  | bad
deriving DecidableEq, Repr

def firstByte (byte : UInt8) : Utf8Step :=
  let b := byte.toNat
  if b < 0x80 then .char (Char.ofNat b)
  else if b < 0xc2 then .bad
  else if b < 0xe0 then .more (.inside [byte] (b - 0xc0) 1 0x80 0xbf)
  else if b < 0xf0 then
    .more (.inside [byte] (b - 0xe0) 2 (if b = 0xe0 then 0xa0 else 0x80) 0xbf)
  else if b < 0xf5 then
    .more (.inside [byte] (b - 0xf0) 3 (if b = 0xf0 then 0x90 else 0x80)
      (if b = 0xf4 then 0x8f else 0xbf))
  else .bad

def isSurrogate (bits missing : Nat) : Bool := missing = 1 && 0x360 ≤ bits && bits ≤ 0x37f

def Utf8State.step (state : Utf8State) (byte : UInt8) : Utf8Step :=
  match state with
  | .between => firstByte byte
  | .inside seen bits missing low high =>
    let b := byte.toNat
    if b < low || high < b then .bad
    else
      let bits := bits * 64 + (b - 0x80)
      if missing ≤ 1 then .char (Char.ofNat bits)
      else
        .more (.inside (seen ++ [byte]) bits (missing - 1) 0x80
          (if isSurrogate bits (missing - 1) then 0x7f else 0xbf))

/-- What is wrong with bytes that are no text: no character starts so, the bytes do not go on as the
character they begin, or they end inside it. -/
inductive Utf8Reason where
  | start
  | continuation
  | ending
deriving DecidableEq, Repr

def Utf8Reason.message : Utf8Reason → String
  | .start => "invalid start byte"
  | .continuation => "invalid continuation byte"
  | .ending => "unexpected end of data"

structure Utf8Fault where
  bytes : List UInt8
  position : Nat
  reason : Utf8Reason
deriving DecidableEq, Repr

def hexDigit (n : Nat) : Char := Char.ofNat (if n < 10 then 0x30 + n else 0x57 + n)

def hexByte (b : UInt8) : String := String.ofList [hexDigit (b.toNat / 16), hexDigit (b.toNat % 16)]

def Utf8Fault.message (fault : Utf8Fault) : String :=
  let place :=
    match fault.bytes with
    | [b] => "byte 0x" ++ hexByte b ++ " in position " ++ toString fault.position
    | bytes =>
      "bytes in position " ++ toString fault.position ++ "-" ++
        toString (fault.position + bytes.length - 1)
  "'utf-8' codec can't decode " ++ place ++ ": " ++ fault.reason.message

def Utf8State.seen : Utf8State → List UInt8
  | .between => []
  | .inside seen .. => seen

/-- The bytes that are to blame when a character is not completed: those that began it, but of a
surrogate only the first. -/
def Utf8State.blamed : Utf8State → List UInt8
  | .between => []
  | .inside seen bits missing _ _ => if isSurrogate bits missing then seen.take 1 else seen

/-- The fault that a byte is, where `count` bytes are before it. -/
def Utf8State.faultOf (state : Utf8State) (count : Nat) (byte : UInt8) : Utf8Fault :=
  match state with
  | .between => ⟨[byte], count, .start⟩
  | .inside seen .. => ⟨state.blamed, count - seen.length, .continuation⟩

def Utf8State.faultAtEnd? (state : Utf8State) (count : Nat) : Option Utf8Fault :=
  match state with
  | .between => none
  | .inside seen bits missing _ _ =>
    some ⟨state.blamed, count - seen.length,
      if isSurrogate bits missing then .continuation else .ending⟩

/-- Decodes bytes; `done` holds the characters before them in reverse, and `count` is the number of
bytes before them. -/
def decodeFrom (done : List Char) (state : Utf8State) (count : Nat) :
    List UInt8 → List Char × Except Utf8Fault Utf8State
  | [] => (done.reverse, .ok state)
  | b :: rest =>
    match state.step b with
    | .char c => decodeFrom (c :: done) .between (count + 1) rest
    | .more state => decodeFrom done state (count + 1) rest
    | .bad => (done.reverse, .error (state.faultOf count b))

def decode (state : Utf8State) (bytes : List UInt8) : List Char × Except Utf8Fault Utf8State :=
  decodeFrom [] state state.seen.length bytes

def readUtf8 (bytes : List UInt8) : Except Utf8Fault (List Char) :=
  match decode .between bytes with
  | (_, .error fault) => .error fault
  | (text, .ok state) =>
    match state.faultAtEnd? bytes.length with
    | some fault => .error fault
    | none => .ok text

end FileQuery.Text
