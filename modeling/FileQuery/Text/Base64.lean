/-!
Bytes written in base 64.  Characters that are no digits are passed over, and a full group of padding
ends the text.
-/

namespace FileQuery.Text

def base64Digits : List Char :=
  "ABCDEFGHIJKLMNOPQRSTUVWXYZabcdefghijklmnopqrstuvwxyz0123456789+/".toList

def base64Value? (c : Char) : Option Nat :=
  let n := base64Digits.idxOf c
  if n < 64 then some n else none

/-- Reads digits in groups of four.  `position` is the place in the group, `left` holds the bits of
its last digit that belong to the next byte, and `pads` counts padding in a row; `done` holds the
bytes so far in reverse. -/
def readBase64From (done : List UInt8) (position left pads : Nat) :
    List Char → Option (List UInt8)
  | [] => if position = 0 then some done.reverse else none
  | c :: rest =>
    if c == '=' then
      if 2 ≤ position && 4 ≤ position + (pads + 1) then some done.reverse
      else readBase64From done position left (if 2 ≤ position then pads + 1 else pads) rest
    else
      match base64Value? c with
      | none => readBase64From done position left pads rest
      | some v =>
        match position with
        | 0 => readBase64From done 1 v 0 rest
        | 1 => readBase64From ((left * 4 + v / 16).toUInt8 :: done) 2 (v % 16) 0 rest
        | 2 => readBase64From ((left * 16 + v / 4).toUInt8 :: done) 3 (v % 4) 0 rest
        | _ => readBase64From ((left * 64 + v).toUInt8 :: done) 0 0 0 rest

def readBase64 (s : List Char) : Option (List UInt8) := readBase64From [] 0 0 0 s

end FileQuery.Text
