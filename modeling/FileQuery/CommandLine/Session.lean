import FileQuery.Config.Load
import FileQuery.Evaluate.Verdict
import FileQuery.Git.Entity
import FileQuery.Message
import FileQuery.Query.Check
import FileQuery.Tree.Entity

/-!
What a run of the program writes, and what it may break off with.
-/

namespace FileQuery.CommandLine

/-- A library that shows texts on a screen: what becomes of a text, of a text with tags, and how a text
is written for the latter if it is to have none. -/
structure Console where
  plain : String → String
  markup : String → String
  escape : String → String

/-- What a run finds around it: the directory tree and the repositories that can be searched, the
configuration file that the environment names and the home directory, the clock, the stack for patterns,
the libraries for documents and for the screen, the limits for texts and lines, and after how many
lines nobody reads the output any more. -/
structure Surroundings where
  tree : Tree := {}
  repository : String → Git.Repository
  namedConfig : Option String := none
  home : String := "/"
  clock : Query.Clock
  stack : Pattern.Stack
  readers : Document.Readers
  console : Console
  textLimit : Document.TextLimit := {}
  lines : Content.LineLimits := {}
  outputLimit : Option Nat := none

/-- What a run breaks off with: nobody reads the output, the configuration or a level of messages
cannot be used, a size is out of all bounds, a query breaks down or cannot be written, an evaluation
has no verdict, or a list of git is none. -/
inductive Stop where
  | brokenPipe
  | config (fault : Config.Fault)
  | level (name : String)
  | size (fault : Query.LiteralFault)
  | query (b : Query.Breakdown)
  | canonical (fault : Document.TextFault)
  | evaluation (fault : Query.EvaluationFault)
  | record (fault : Git.RecordFault)

/-- What was written so far, the last first, to the output and to the error output, and the least level
of the messages that are shown; before that is settled, only warnings are, as bare texts. -/
structure Transcript where
  printed : List String := []
  reported : List String := []
  level : Option Level := none

abbrev Session (α : Type) := ExceptT Stop (StateM Transcript) α

def print (around : Surroundings) (line : String) : Session Unit := do
  let printed := (← get).printed
  if around.outputLimit.any (· ≤ printed.length) then throw .brokenPipe
  modify ({ · with printed := line :: printed })

def report (line : String) : Session Unit :=
  modify fun t => { t with reported := line :: t.reported }

def reportMarkup (around : Surroundings) (text : String) : Session Unit :=
  report (around.console.markup text)

def isShown (level : Level) : Session Bool := do
  return ((← get).level.getD .warning).rank ≤ level.rank

/-- Tells a message, if its level is shown. -/
def tell (m : Message) : Session Unit := do
  if ← isShown m.level then report (if (← get).level.isSome then m.line else m.text)

def reportError (around : Surroundings) (message : String) : Session Unit :=
  reportMarkup around ("[bold red]error:[/bold red] " ++ around.console.escape message)

def reportQueryError (around : Surroundings) (query : String) (position : Nat)
    (message help : String) : Session Unit := do
  reportError around message
  report (around.console.plain ("  " ++ query))
  report ("  " ++ String.ofList (List.replicate position ' ') ++ "^")
  if !help.isEmpty then reportMarkup around help

def expectedLine (console : Console) (e : Query.SyntaxError) : String :=
  match e.spellings with
  | [] => ""
  | names =>
    "[dim]expected one of: " ++ console.escape (String.intercalate ", " names) ++ "[/dim]"

def helpLine (console : Console) (e : Query.TypeError) : String :=
  let suggestion := e.cause.suggestion
  if suggestion.isEmpty then ""
  else "[dim]help: " ++ console.escape suggestion ++ "[/dim]"

end FileQuery.CommandLine
