import FileQuery.Text.Digit
import FileQuery.Text.Quoted

/-!
Reading the words of a command line.  A query is required and may be followed by the directory to
search.  Long options may be cut short as long as it is clear which one is meant.
-/

namespace FileQuery.CommandLine

inductive Switch where
  | help
  | check
  | config
  | followSymlinks
  | git
  | includeHidden
  | maxDocumentSize
  | verbose
deriving DecidableEq, Repr

namespace Switch

def spellings : List (String × Switch) :=
  [("-h", .help), ("--help", .help), ("--check", .check), ("--config", .config),
    ("--follow-symlinks", .followSymlinks), ("--git", .git),
    ("--include-hidden", .includeHidden), ("--max-structured-size", .maxDocumentSize),
    ("-v", .verbose), ("--verbose", .verbose)]

def takesValue : Switch → Bool
  | .config | .git | .maxDocumentSize => true
  | _ => false

def name (s : Switch) : String :=
  String.intercalate "/" ((spellings.filter (·.2 = s)).map (·.1))

end Switch

structure Options where
  query : String := ""
  root : String := "."
  isCheck : Bool := false
  config : Option String := none
  followsSymlinks : Bool := false
  git : Option String := none
  includesHidden : Bool := false
  maxDocumentSize : Option String := none
  isVerbose : Bool := false
deriving DecidableEq, Repr

inductive UsageFault where
  | ambiguous (word : String) (candidates : List String)
  | missingValue (s : Switch)
  | needlessValue (s : Switch) (value : String)
  | missingQuery
  | unrecognized (words : List String)
  | helpWanted
deriving DecidableEq, Repr

def UsageFault.message : UsageFault → String
  | .ambiguous word candidates =>
    "ambiguous option: " ++ word ++ " could match " ++ String.intercalate ", " candidates
  | .missingValue s => "argument " ++ s.name ++ ": expected one argument"
  | .needlessValue s value =>
    "argument " ++ s.name ++ ": ignored explicit argument " ++ Text.quoted value
  | .missingQuery => "the following arguments are required: expr"
  | .unrecognized words => "unrecognized arguments: " ++ String.intercalate " " words
  | .helpWanted => ""

/-- What is written in the same word after an option, with or without an equals sign before it. -/
structure Tail where
  hasEquals : Bool
  text : String
deriving DecidableEq, Repr

/-- What a word is: one that belongs to the query and the directory, the mark after which all are
such, or an option.  An option may be unknown. -/
inductive Word where
  | operand (text : String)
  | separator
  | option (text : String) (s : Option Switch) (isShort : Bool) (tail : Option Tail)
deriving DecidableEq, Repr

def splitEquals (word : String) : String × Option String :=
  let front := word.toList.takeWhile (· != '=')
  match word.toList.drop front.length with
  | _ :: value => (String.ofList front, some (String.ofList value))
  | [] => (word, none)

def isNegativeNumber (word : String) : Bool :=
  match word.toList with
  | '-' :: rest =>
    let rest := if rest.getLast? = some '\n' then rest.dropLast else rest
    let whole := rest.takeWhile Text.isDecimal
    match rest.drop whole.length with
    | [] => !whole.isEmpty
    | '.' :: fraction => !fraction.isEmpty && fraction.all Text.isDecimal
    | _ => false
  | _ => false

/-- The options that a word may be short for, with their spellings and what follows them in the
word. -/
def candidates (word : String) : List (String × Switch × Option Tail) :=
  if word.startsWith "--" then
    let (front, value) := splitEquals word
    (Switch.spellings.filter fun (spelling, _) => spelling.startsWith front).map
      fun (spelling, s) => (spelling, s, value.map (⟨true, ·⟩))
  else
    Switch.spellings.filterMap fun (spelling, s) =>
      if spelling = String.ofList (word.toList.take 2) then
        some (spelling, s, some ⟨false, String.ofList (word.toList.drop 2)⟩)
      else none

def isShortSpelling (spelling : String) : Bool := !spelling.startsWith "--"

def Word.ofSwitch (word spelling : String) (s : Switch) (tail : Option Tail) : Word :=
  .option word (some s) (isShortSpelling spelling) tail

def classify (word : String) : Except UsageFault Word :=
  let (front, value) := splitEquals word
  if !word.startsWith "-" then .ok (.operand word)
  else if let some s := Switch.spellings.lookup word then .ok (.ofSwitch word word s none)
  else if word.length = 1 then .ok (.operand word)
  else if let (some s, some value) := (Switch.spellings.lookup front, value) then
    .ok (.ofSwitch word front s (some ⟨true, value⟩))
  else
    match candidates word with
    | [(spelling, s, tail)] => .ok (.ofSwitch word spelling s tail)
    | [] =>
      if isNegativeNumber word || word.contains ' ' then .ok (.operand word)
      else .ok (.option word none false none)
    | several => .error (.ambiguous word (several.map (·.1)))

def classifyAll : List String → Except UsageFault (List Word)
  | [] => .ok []
  | word :: rest =>
    if word = "--" then .ok (.separator :: rest.map .operand)
    else do return (← classify word) :: (← classifyAll rest)

def Word.text : Word → String
  | .operand text => text
  | .separator => "--"
  | .option text .. => text

def Word.isOption : Word → Bool
  | .option .. => true
  | _ => false

def dropSeparator : List Word → List Word
  | .separator :: rest => rest
  | words => words

/-- Takes an operand at the front, with the separators around it. -/
def takeOperand (words : List Word) : Option (String × List Word) :=
  match dropSeparator words with
  | .operand text :: rest => some (text, dropSeparator rest)
  | _ => none

/-- The options read so far, whether the query and the directory are among them, and the words that are
not understood, in reverse. -/
structure Progress where
  options : Options := {}
  isComplete : Bool := false
  extras : List String := []
deriving Repr

/-- Takes the query and, if it follows at once, the directory. -/
def Progress.takeOperands (p : Progress) (words : List Word) : Progress × List Word :=
  if p.isComplete then (p, words)
  else
    match takeOperand words with
    | none => (p, words)
    | some (query, rest) =>
      match takeOperand rest with
      | some (root, rest) =>
        ({ p with options := { p.options with query, root }, isComplete := true }, rest)
      | none =>
        ({ p with options := { p.options with query }, isComplete := true }, dropSeparator rest)

def setFlag (s : Switch) (o : Options) : Except UsageFault Options :=
  match s with
  | .help => .error .helpWanted
  | .check => .ok { o with isCheck := true }
  | .followSymlinks => .ok { o with followsSymlinks := true }
  | .includeHidden => .ok { o with includesHidden := true }
  | .verbose => .ok { o with isVerbose := true }
  | _ => .ok o

def setValue (s : Switch) (value : String) (o : Options) : Options :=
  match s with
  | .config => { o with config := some value }
  | .git => { o with git := some value }
  | .maxDocumentSize => { o with maxDocumentSize := some value }
  | _ => o

/-- Reads short options that are written together: what follows an option that takes no value.  All of
them are understood before any takes effect; `flags` holds those so far in reverse.  From the first
that is unknown on the word is not understood. -/
def takeTogether (flags : List Switch) (s : Switch) (hasEquals : Bool) (rest : List Char) :
    Except UsageFault (List Switch × Option String) :=
  match rest with
  | [] => .error (.needlessValue s "")
  | c :: after =>
    if hasEquals || c == '-' then .error (.needlessValue s (String.ofList rest))
    else
      match Switch.spellings.lookup (String.ofList ['-', c]), after with
      | none, _ => .ok ((s :: flags).reverse, some (String.ofList ('-' :: rest)))
      | some next, [] => .ok ((next :: s :: flags).reverse, none)
      | some next, '=' :: value => takeTogether (s :: flags) next true value
      | some next, d :: value => takeTogether (s :: flags) next false (d :: value)
termination_by rest.length

def Progress.takeFlags (p : Progress) (flags : List Switch) : Except UsageFault Progress := do
  return { p with options := ← flags.foldlM (fun o s => setFlag s o) p.options }

def Progress.takeOption (p : Progress) (word : Word) (rest : List Word) :
    Except UsageFault (Progress × List Word) :=
  match word with
  | .option _ (some s) isShort tail =>
    if s.takesValue then
      match tail, rest with
      | some tail, _ => .ok ({ p with options := setValue s tail.text p.options }, rest)
      | none, .operand value :: rest =>
        .ok ({ p with options := setValue s value p.options }, rest)
      | none, _ => .error (.missingValue s)
    else
      match tail with
      | none => do return (← p.takeFlags [s], rest)
      | some tail =>
        if isShort then do
          let (flags, extra) ← takeTogether [] s tail.hasEquals tail.text.toList
          let p := { p with extras := extra.toList ++ p.extras }
          return (← p.takeFlags flags, rest)
        else .error (.needlessValue s tail.text)
  | word => .ok ({ p with extras := word.text :: p.extras }, rest)

def Progress.read (p : Progress) (words : List Word) : Nat → Except UsageFault Progress
  | 0 => .ok p
  | fuel + 1 =>
    if words.any Word.isOption then
      let (q, rest) := p.takeOperands words
      if rest.length < words.length then q.read rest fuel
      else
        let front := words.takeWhile (!·.isOption)
        let p := { p with extras := front.reverse.map Word.text ++ p.extras }
        match words.drop front.length with
        | [] => .ok p
        | word :: rest => do
          let (p, rest) ← p.takeOption word rest
          p.read rest fuel
    else
      let (p, rest) := p.takeOperands words
      .ok { p with extras := rest.reverse.map Word.text ++ p.extras }

def Options.ofWords (words : List String) : Except UsageFault Options := do
  let words ← classifyAll words
  let p ← Progress.read {} words (2 * words.length + 1)
  if !p.isComplete then throw .missingQuery
  if !p.extras.isEmpty then throw (.unrecognized p.extras.reverse)
  return p.options

end FileQuery.CommandLine
