import FileQuery.Number.Integer
import FileQuery.Pattern.Regex
import FileQuery.Text.CharacterName
import FileQuery.Text.Letter

/-!
Reading regular expressions.  The text is taken in pieces, a character or a backslash with the
character after it.  The piece after the current one is always looked at, so a lone backslash at the
end is noticed before any fault in the piece in front of it.
-/

namespace FileQuery.Pattern

/-- A character, or a backslash and a character. -/
inductive Piece where
  | plain (c : Char)
  | escape (c : Char)
deriving DecidableEq, Repr

def Piece.chars : Piece → List Char
  | .plain c => [c]
  | .escape c => ['\\', c]

def Piece.text (p : Piece) : String := String.ofList p.chars

structure Progress where
  position : Nat
  rest : List Char
  /-- Number of the next group. -/
  nextGroup : Nat
  widths : GroupWidths
  names : List (String × Nat)
  /-- In a lookbehind: the groups from this number on belong to it. -/
  lookbehind : Option Nat
  /-- Group numbers that conditions mention, with the position of the first mention of each. -/
  mentioned : List (Nat × Nat)
  flags : Flags

abbrev Reader := StateT Progress (Except Fault)

namespace Reader

/-- Refuses the expression, `back` characters before the next piece. -/
def fail {α : Type} (cause : Cause) (back : Nat := 0) : Reader α := do
  throw (.refused cause (some ((← get).position - back)))

def peek : Reader (Option Piece) := do
  match (← get).rest with
  | [] => return none
  | '\\' :: c :: _ => return some (.escape c)
  | c :: _ => return some (.plain c)

def checkEnd (position : Nat) (rest : List Char) : Reader Unit :=
  match rest with
  | ['\\'] => throw (.refused .escapeAtEnd (some position))
  | _ => return

def take : Reader (Option Piece) := do
  let piece ← peek
  match piece with
  | none => return none
  | some p =>
    let n := p.chars.length
    let s ← get
    checkEnd (s.position + n) (s.rest.drop n)
    set { s with position := s.position + n, rest := s.rest.drop n }
    return some p

def accept (c : Char) : Reader Bool := do
  if (← peek) == some (.plain c) then
    let _ ← take
    return true
  else return false

def takeWhile (holds : Char → Bool) : Nat → Reader (List Char)
  | 0 => return []
  | n + 1 => do
    match ← peek with
    | some (.plain c) =>
      if holds c then
        let _ ← take
        return c :: (← takeWhile holds n)
      else return []
    | _ => return []

def takeUntil (terminator : Char) (what : String) (taken : List Char) : Nat → Reader (List Char)
  | 0 => fail .unexpectedEnd
  | fuel + 1 => do
    match ← take with
    | none =>
      if taken.isEmpty then fail (.missingName what)
      else fail (.unterminatedName terminator) taken.length
    | some p =>
      if p == .plain terminator then
        if taken.isEmpty then fail (.missingName what) 1 else return taken
      else takeUntil terminator what (taken ++ p.chars) fuel

def takeName (terminator : Char) (what : String) : Reader (List Char) := do
  takeUntil terminator what [] ((← get).rest.length + 1)

end Reader

open Reader

def isOctal (c : Char) : Bool := '0' ≤ c && c ≤ '7'

def isHex (c : Char) : Bool :=
  c.isDigit || ('a' ≤ c && c ≤ 'f') || ('A' ≤ c && c ≤ 'F')

def valueIn (base : Nat) (digits : List Char) : Nat :=
  digits.foldl (fun n c =>
    base * n + if c.isDigit then c.toNat - '0'.toNat else (c.toLower.toNat - 'a'.toNat) + 10) 0

def controlEscape? : Char → Option Nat
  | 'a' => some 7
  | 'b' => some 8
  | 'f' => some 12
  | 'n' => some 10
  | 'r' => some 13
  | 't' => some 9
  | 'v' => some 11
  | '\\' => some 92
  | _ => none

def classEscape? : Char → Option SetItem
  | 'd' => some (.class false .digit)
  | 'D' => some (.class true .digit)
  | 's' => some (.class false .space)
  | 'S' => some (.class true .space)
  | 'w' => some (.class false .word)
  | 'W' => some (.class true .word)
  | _ => none

def placeEscape? : Char → Option Anchor
  | 'A' => some .textStart
  | 'b' => some .boundary
  | 'B' => some .noBoundary
  | 'Z' => some .textEnd
  | _ => none

def readHexEscape (letter : Char) (n : Nat) : Reader Nat := do
  let digits ← Reader.takeWhile isHex n
  let text := '\\' :: letter :: digits
  if digits.length ≠ n then fail (.incompleteEscape (String.ofList text)) text.length
  let value := valueIn 16 digits
  if 0x110000 ≤ value then fail (.badEscape (String.ofList text)) text.length
  return value

def readNamedEscape : Reader Nat := do
  if !(← accept '\x7b') then fail .missingBrace
  let name ← takeName '\x7d' "character name"
  match Text.characterNamed? (String.ofList name) with
  | some c => return c.toNat
  | none => fail (.undefinedCharacter (String.ofList name)) (name.length + 4)

def readCodeEscape (c : Char) : Reader Nat :=
  match c with
  | 'x' => readHexEscape c 2
  | 'u' => readHexEscape c 4
  | 'U' => readHexEscape c 8
  | 'N' => readNamedEscape
  | _ =>
    if c.isAlphanum then fail (.badEscape (String.ofList ['\\', c])) 2 else return c.toNat

/-- The value of an octal escape, which has to fit into a byte. -/
def octalValue (digits : List Char) : Reader Nat := do
  let value := valueIn 8 digits
  if 0o377 < value then
    fail (.octalTooLarge (String.ofList ('\\' :: digits))) (digits.length + 1)
  return value

def readSetEscape (c : Char) : Reader SetItem := do
  match controlEscape? c, classEscape? c with
  | some n, _ => return .code n
  | _, some item => return item
  | none, none =>
    if isOctal c then
      return .code (← octalValue (c :: (← Reader.takeWhile isOctal 2)))
    else return .code (← readCodeEscape c)

def isClosed (n : Nat) : Reader Bool := return ((← get).widths.lookup n).isSome

/-- Refuses mention of a group of the lookbehind that is being read. -/
def checkLookbehind (n : Nat) : Reader Unit := do
  match (← get).lookbehind with
  | none => return
  | some first =>
    if !(← isClosed n) then fail .openGroup
    if first ≤ n then fail .lookbehindGroup

/-- Refers back to a group, whose mention takes `back` characters. -/
def backrefTo (n back : Nat) : Reader Regex := do
  if !(← isClosed n) then fail .openGroup back
  checkLookbehind n
  return .backref n

/-- Reads an escape that starts with a digit other than zero: three octal digits, or the number of a
group. -/
def readDigitEscape (c : Char) : Reader Regex := do
  let second ← Reader.takeWhile Char.isDigit 1
  match second with
  | [d] =>
    if isOctal c && isOctal d then
      let third ← Reader.takeWhile isOctal 1
      if !third.isEmpty then return .code false (← octalValue (c :: d :: third))
  | _ => pure ()
  let digits := c :: second
  let n := valueIn 10 digits
  if n < (← get).nextGroup then backrefTo n (digits.length + 1)
  else fail (.unknownGroup n) digits.length

def readEscape (c : Char) : Reader Regex := do
  match classEscape? c, placeEscape? c, controlEscape? c with
  | some item, _, _ => return .set false [item]
  | _, some a, _ => return .anchor a
  | _, _, some n => return .code false n
  | none, none, none =>
    if c == '0' then
      return .code false (valueIn 8 (← Reader.takeWhile isOctal 2))
    else if c.isDigit then readDigitEscape c
    else return .code false (← readCodeEscape c)

def readSetItem : Piece → Reader SetItem
  | .plain c => return .code c.toNat
  | .escape c => readSetEscape c

def readSetItems (start : Nat) (items : List SetItem) : Nat → Reader (List SetItem)
  | 0 => fail .unterminatedSet
  | fuel + 1 => do
    let unterminated {α : Type} : Reader α := do
      fail .unterminatedSet ((← get).position - start)
    match ← take with
    | none => unterminated
    | some first =>
      if first == .plain ']' && !items.isEmpty then return items.reverse
      let item ← readSetItem first
      if ← accept '-' then
        match ← take with
        | none => unterminated
        | some (.plain ']') => return (.code '-'.toNat :: item :: items).reverse
        | some last =>
          let lastItem ← readSetItem last
          let bad {α : Type} : Reader α :=
            fail (.badRange first.text last.text) (first.chars.length + 1 + last.chars.length)
          match item, lastItem with
          | .code lo, .code hi =>
            if hi < lo then bad else readSetItems start (.range lo hi :: items) fuel
          | _, _ => bad
      else readSetItems start (item :: items) fuel

def readSet : Reader Regex := do
  let start := (← get).position - 1
  let negated ← accept '^'
  let items := (← readSetItems start [] ((← get).rest.length + 1)).eraseDups
  match items with
  | [.code n] => return .code negated n
  | items => return .set negated items

/-- The least number of rounds that is too large to be written. -/
def repeatLimit : Nat := 4294967295

def readRounds (digits : List Char) : Reader Nat := do
  match Number.readDigits "" digits with
  | .error _ => throw (.repeatUnreadable digits.length)
  | .ok n => if repeatLimit ≤ n then throw .repeatTooLarge else return n

/-- Reads the numbers of a repetition in braces, after the opening brace; none if it is not one, and
then nothing is taken. -/
def readBounds : Reader (Option (Nat × Option Nat)) := do
  let start ← get
  let room := start.rest.length
  let low ← Reader.takeWhile Char.isDigit room
  let comma ← accept ','
  let high ← if comma then Reader.takeWhile Char.isDigit room else pure low
  if !(← accept '\x7d') || start.rest.head? == some '\x7d' then
    set start
    return none
  let least ← if low.isEmpty then pure 0 else readRounds low
  if high.isEmpty then return some (least, none)
  let greatest ← readRounds high
  if greatest < least then fail .repeatBounds ((← get).position - start.position)
  return some (least, some greatest)

def flagOf? : Char → Option Flags
  | 'i' => some { Flags.none with ignoreCase := true }
  | 'm' => some { Flags.none with multiline := true }
  | 's' => some { Flags.none with dotAll := true }
  | 'x' => some { Flags.none with verbose := true }
  | 'a' => some { Flags.none with ascii := true }
  | 't' => some { Flags.none with template := true }
  | 'u' => some { Flags.none with unicode := true }
  | _ => none

def isFlag (c : Char) : Bool := c == 'L' || (flagOf? c).isSome

def badFlag {α : Type} (p : Piece) (otherwise : Cause) : Reader α :=
  match p with
  | .plain c => fail (if Text.isLetter c then .unknownFlag else otherwise) 1
  | .escape _ => fail otherwise 2

def readFlagsOn (flags : Flags) (c : Char) : Nat → Reader (Flags × Char)
  | 0 => fail .missingFlagEnd
  | fuel + 1 => do
    match flagOf? c with
    | none => fail .localeFlag
    | some f =>
      let flags := flags.union f
      if (f.ascii || f.unicode) && flags.ascii && flags.unicode then fail .incompatibleFlags
      match ← take with
      | none => fail .missingFlagEnd
      | some p =>
        match p with
        | .plain d =>
          if d == ')' || d == '-' || d == ':' then return (flags, d)
          else if isFlag d then readFlagsOn flags d fuel
          else badFlag p .missingFlagEnd
        | _ => badFlag p .missingFlagEnd

/-- Reads the settings to switch off, up to a colon. -/
def readFlagsOff (flags : Flags) (c : Char) : Nat → Reader Flags
  | 0 => fail .missingColon
  | fuel + 1 => do
    match flagOf? c with
    | none => fail .typeFlagOff
    | some f =>
      if f.ascii || f.unicode then fail .typeFlagOff
      let flags := flags.union f
      match ← take with
      | none => fail .missingColon
      | some p =>
        match p with
        | .plain d =>
          if d == ':' then return flags
          else if isFlag d then readFlagsOff flags d fuel
          else badFlag p .missingColon
        | _ => badFlag p .missingColon

/-- Reads the settings at the start of a group, of which `c` is the first or the minus sign.  None if
they are meant for the whole expression. -/
def readFlags (c : Char) : Reader (Option (Flags × Flags)) := do
  let fuel := (← get).rest.length + 1
  let (on, ending) ← if c == '-' then pure (Flags.none, '-') else readFlagsOn Flags.none c fuel
  if ending == ')' then
    modify fun s => { s with flags := s.flags.union on }
    return none
  if on.template then fail .globalFlagOn 1
  if ending == ':' then return some (on, Flags.none)
  match ← take with
  | none => fail .missingFlag
  | some p =>
    match p with
    | .plain d =>
      if isFlag d then
        let off ← readFlagsOff Flags.none d fuel
        if off.template then fail .globalFlagOff 1
        if on.meets off then fail .flagOnAndOff 1
        return some (on, off)
      else badFlag p .missingFlag
    | _ => badFlag p .missingFlag

/-- An item of a sequence: an expression, and what a repetition sign after it would do. -/
structure Item where
  regex : Regex
  isPlace : Bool
  isRepeat : Bool

def Item.plain (r : Regex) : Item := ⟨r, false, false⟩

def sequenceOf (items : List Item) : Regex :=
  items.foldl (fun rest item =>
    match rest with
    | .empty => item.regex
    | rest => .seq item.regex rest) .empty

def readConditionGroup (name : List Char) : Reader Nat := do
  let shown := String.ofList name
  let back := name.length + 1
  if Text.isIdentifier name then
    match (← get).names.lookup shown with
    | some n => return n
    | none => fail (.unknownGroupName shown) back
  else
    match Number.readLooseInteger name with
    | some (.ofNat 0) => fail .badGroupNumber back
    | some (.ofNat n) =>
      if 1073741823 ≤ n then fail (.unknownGroup n) back
      modify fun s =>
        if (s.mentioned.lookup n).isSome then s
        else { s with mentioned := s.mentioned ++ [(n, s.position - back)] }
      return n
    | _ => fail (.badGroupName shown) back

def skipComment (start : Nat) : Nat → Reader Unit
  | 0 => fail .unterminatedComment
  | fuel + 1 => do
    match ← peek with
    | none => fail .unterminatedComment ((← get).position - start)
    | some p =>
      let _ ← take
      if p == .plain ')' then return
      skipComment start fuel

def skipLine : Nat → Reader Unit
  | 0 => return
  | fuel + 1 => do
    match ← take with
    | none => return
    | some p => if p == .plain '\n' then return else skipLine fuel

def isVerboseBlank (c : Char) : Bool := c == ' ' || (9 ≤ c.toNat && c.toNat ≤ 13)

/-- Takes a closing parenthesis; the opening one stands at `start`. -/
def closeGroup (start : Nat) : Reader Unit := do
  if !(← accept ')') then fail .unterminatedGroup ((← get).position - start)

inductive Opening where
  | capture (name : Option (List Char))
  | plain (add del : Flags)
  | atomic
  | look (behind negated : Bool)
  | condition (number : Nat)
  | backref (r : Regex)
  | comment
  | flags

def readOpening (start : Nat) : Reader Opening := do
  if !(← accept '?') then return .capture none
  match ← take with
  | none => fail .unexpectedEnd
  | some p =>
    match p with
    | .plain 'P' =>
      if ← accept '<' then
        let name ← takeName '>' "group name"
        if !Text.isIdentifier name then
          fail (.badGroupName (String.ofList name)) (name.length + 1)
        return .capture (some name)
      else if ← accept '=' then
        let name ← takeName ')' "group name"
        let back := name.length + 1
        if !Text.isIdentifier name then fail (.badGroupName (String.ofList name)) back
        match (← get).names.lookup (String.ofList name) with
        | none => fail (.unknownGroupName (String.ofList name)) back
        | some n => return .backref (← backrefTo n back)
      else
        match ← take with
        | none => fail .unexpectedEnd
        | some q => fail (.unknownExtension (String.ofList ('P' :: q.chars))) (q.chars.length + 2)
    | .plain ':' => return .plain Flags.none Flags.none
    | .plain '#' =>
      skipComment start ((← get).rest.length + 1)
      return .comment
    | .plain '=' => return .look false false
    | .plain '!' => return .look false true
    | .plain '<' =>
      match ← take with
      | none => fail .unexpectedEnd
      | some (.plain '=') => return .look true false
      | some (.plain '!') => return .look true true
      | some q => fail (.unknownExtension (String.ofList ('<' :: q.chars))) (q.chars.length + 2)
    | .plain '(' =>
      let n ← readConditionGroup (← takeName ')' "group name")
      checkLookbehind n
      return .condition n
    | .plain '>' => return .atomic
    | .plain c =>
      if c == '-' || isFlag c then
        match ← readFlags c with
        | none => return .flags
        | some (add, del) => return .plain add del
      else fail (.unknownExtension p.text) 2
    | .escape _ => fail (.unknownExtension p.text) 3

def openCapture (name : Option (List Char)) : Reader Nat := do
  let s ← get
  let n := s.nextGroup
  match name with
  | none =>
    set { s with nextGroup := n + 1 }
    return n
  | some name =>
    let shown := String.ofList name
    match s.names.lookup shown with
    | some earlier => fail (.groupRedefined shown n earlier) (name.length + 1)
    | none =>
      set { s with nextGroup := n + 1, names := (shown, n) :: s.names }
      return n

def readGreed : Reader Greed := do
  if ← accept '?' then return .lazy
  if ← accept '+' then return .possessive
  return .greedy

def repeatLast (items : List Item) (least : Nat) (greatest : Option Nat) (back : Nat) :
    Reader (List Item) := do
  match items with
  | [] => fail .nothingToRepeat back
  | item :: items =>
    if item.isPlace then fail .nothingToRepeat back
    if item.isRepeat then fail .multipleRepeat back
    return ⟨.repeat (← readGreed) least greatest item.regex, false, true⟩ :: items

mutual
def readAlternatives (verbose nested first : Bool) : Nat → Reader Regex
  | 0 => fail .unexpectedEnd
  | fuel + 1 => do
    let r ← readSequence verbose nested first [] fuel
    if ← accept '|' then
      let whole := (← get).flags.verbose
      let verbose := if nested then verbose else whole
      return .alt r (← readAlternatives verbose nested false fuel)
    else return r

/-- Reads a sequence up to a bar, a closing parenthesis or the end; `items` holds the items so far,
last first, and `first` tells whether the sequence starts the whole expression. -/
def readSequence (verbose nested first : Bool) (items : List Item) : Nat → Reader Regex
  | 0 => fail .unexpectedEnd
  | fuel + 1 => do
    match ← peek with
    | none => return sequenceOf items
    | some p =>
      let continueWith (items : List Item) : Reader Regex :=
        readSequence verbose nested first items fuel
      let start := (← get).position
      match p with
      | .escape c =>
        let _ ← take
        let r ← readEscape c
        let isPlace := match r with
          | .anchor _ => true
          | _ => false
        continueWith (⟨r, isPlace, false⟩ :: items)
      | .plain c =>
        if c == '|' || c == ')' then return sequenceOf items
        let _ ← take
        if verbose && isVerboseBlank c then continueWith items
        else if verbose && c == '#' then
          skipLine ((← get).rest.length + 1)
          continueWith items
        else
          match c with
          | '[' => continueWith (.plain (← readSet) :: items)
          | '?' => continueWith (← repeatLast items 0 (some 1) 1)
          | '*' => continueWith (← repeatLast items 0 none 1)
          | '+' => continueWith (← repeatLast items 1 none 1)
          | '\x7b' =>
            match ← readBounds with
            | none => continueWith (.plain (.code false c.toNat) :: items)
            | some (least, greatest) =>
              continueWith (← repeatLast items least greatest ((← get).position - start))
          | '.' => continueWith (.plain .any :: items)
          | '^' => continueWith (⟨.anchor .lineStart, true, false⟩ :: items)
          | '$' => continueWith (⟨.anchor .lineEnd, true, false⟩ :: items)
          | '(' =>
            match ← readOpening start with
            | .comment => continueWith items
            | .backref r => continueWith (.plain r :: items)
            | .flags =>
              if !first || !items.isEmpty then fail .lateFlags ((← get).position - start)
              readSequence (← get).flags.verbose nested first items fuel
            | .look behind negated =>
              let outer := (← get).lookbehind
              if behind && outer.isNone then
                modify fun s => { s with lookbehind := some s.nextGroup }
              let body ← readAlternatives verbose true false fuel
              if behind then modify fun s => { s with lookbehind := outer }
              closeGroup start
              continueWith (.plain (.look behind negated body) :: items)
            | .condition n =>
              let yes ← readSequence verbose true false [] fuel
              let no ←
                if ← accept '|' then
                  let no ← readSequence verbose true false [] fuel
                  if (← peek) == some (.plain '|') then fail .manyBranches
                  pure no
                else pure .empty
              closeGroup start
              continueWith (.plain (.cond n yes no) :: items)
            | .atomic =>
              let body ← readAlternatives verbose true false fuel
              closeGroup start
              continueWith (.plain (.atomic body) :: items)
            | .plain add del =>
              let inner := (verbose || add.verbose) && !del.verbose
              let body ← readAlternatives inner true false fuel
              closeGroup start
              let r := if add = Flags.none && del = Flags.none then body else .scoped add del body
              continueWith (.plain r :: items)
            | .capture name =>
              let n ← openCapture name
              let body ← readAlternatives verbose true false fuel
              closeGroup start
              modify fun s => { s with widths := (n, body.width s.widths) :: s.widths }
              continueWith (.plain (.capture n body) :: items)
          | c => continueWith (.plain (.code false c.toNat) :: items)
end

structure Expression where
  regex : Regex
  flags : Flags
  widths : GroupWidths

def readExpression : Reader Expression := do
  let s ← get
  checkEnd s.position s.rest
  let regex ← readAlternatives false false true (3 * s.rest.length + 3)
  let s ← get
  if s.flags.ascii && s.flags.unicode then throw .asciiAndUnicode
  if (← peek).isSome then fail .unbalancedClose
  match s.mentioned.find? fun (n, _) => s.nextGroup ≤ n with
  | some (n, position) => throw (.refused (.unknownGroup n) (some position))
  | none =>
    let flags := if s.flags.ascii then s.flags else { s.flags with unicode := true }
    return ⟨regex, flags, s.widths⟩

def Expression.read (source : String) : Except Fault Expression :=
  (readExpression.run ⟨0, source.toList, 1, [], [], none, [], Flags.none⟩).map (·.1)

end FileQuery.Pattern
