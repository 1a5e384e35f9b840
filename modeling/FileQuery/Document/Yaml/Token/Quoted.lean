import FileQuery.Document.Yaml.Token.Plain

/-!
Scalars in single and in double quotes.
-/

namespace FileQuery.Document.Yaml

/-- Reads blanks and line breaks inside quotes; `breaks` holds the line breaks so far in reverse.  A
document cannot end there. -/
def takeQuotedBreaks (breaks : List Char) (p : Spot) :
    Nat → Except ReadFault (List Char × Spot)
  | 0 => .error .malformed
  | fuel + 1 =>
    if p.atSeparator then .error .malformed
    else
      let p := p.after fun c => c == ' ' || c == '\t'
      if p.atBreak then
        let (b, p) := p.takeBreak
        takeQuotedBreaks (b.reverse ++ breaks) p fuel
      else .ok (breaks.reverse, p)

def takeQuotedBetween (p : Spot) : Except ReadFault (List Char × Spot) :=
  let blanks := p.span fun c => c == ' ' || c == '\t'
  let p := p.skip blanks.length
  if p.atBreak then
    let (first, p) := p.takeBreak
    match takeQuotedBreaks [] p p.fuel with
    | .ok (breaks, p) => .ok (foldBreak first breaks, p)
    | .error e => .error e
  else .ok (blanks, p)

def shortEscape? : Char → Option Char
  | '0' => some '\x00'
  | 'a' => some '\x07'
  | 'b' => some '\x08'
  | 't' => some '\t'
  | '\t' => some '\t'
  | 'n' => some '\n'
  | 'v' => some '\x0b'
  | 'f' => some '\x0c'
  | 'r' => some '\r'
  | 'e' => some '\x1b'
  | ' ' => some ' '
  | '"' => some '"'
  | '\\' => some '\\'
  | '/' => some '/'
  | 'N' => some '\x85'
  | '_' => some '\xa0'
  | 'L' => some '\u2028'
  | 'P' => some '\u2029'
  | _ => none

/-- The number of digits of a code, by the letter that marks it. -/
def codeLength? : Char → Option Nat
  | 'x' => some 2
  | 'u' => some 4
  | 'U' => some 8
  | _ => none

/-- The first number that is too great to be looked at as a code of a character. -/
def codeLimit : Nat := Nat.pow 2 31

def charOfCode (code : Nat) : Except ReadFault Char :=
  if isCharacterCode code then .ok (Char.ofNat code)
  else if code < 0xe000 then .ok '\ufffd'
  else .error (.badValue (if code < codeLimit then .character else .hugeCharacter))

def takeEscape (p : Spot) : Except ReadFault (List Char × Spot) :=
  match p.char? with
  | none => .error .malformed
  | some c =>
    match shortEscape? c, codeLength? c with
    | some d, _ => .ok ([d], p.next)
    | none, some n =>
      match takeHex 0 n p.next.rest with
      | some (code, _) => (charOfCode code).map fun d => ([d], p.next.skip n)
      | none => .error .malformed
    | none, none =>
      if isBreak c then
        let p := p.takeBreak.2
        takeQuotedBreaks [] p p.fuel
      else .error .malformed

def takeQuotedFrom (quote : Char) (done : List Char) (p : Spot) :
    Nat → Except ReadFault (String × Spot)
  | 0 => .error .malformed
  | fuel + 1 =>
    match p.char? with
    | none => .error .malformed
    | some c =>
      if c == quote then
        if quote == '\'' && p.peek? 1 == some '\'' then
          takeQuotedFrom quote ('\'' :: done) (p.skip 2) fuel
        else .ok (String.ofList done.reverse, p.next)
      else if c == '\\' && quote == '"' then
        match takeEscape p.next with
        | .ok (text, p) => takeQuotedFrom quote (text.reverse ++ done) p fuel
        | .error e => .error e
      else if c == ' ' || c == '\t' || isBreak c then
        match takeQuotedBetween p with
        | .ok (text, p) => takeQuotedFrom quote (text.reverse ++ done) p fuel
        | .error e => .error e
      else takeQuotedFrom quote (c :: done) p.next fuel

def takeQuoted (p : Spot) : Except ReadFault (String × Spot) :=
  takeQuotedFrom (p.char?.getD '"') [] p.next p.fuel

end FileQuery.Document.Yaml
