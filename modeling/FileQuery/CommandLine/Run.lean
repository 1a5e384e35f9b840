import FileQuery.CommandLine.Options
import FileQuery.CommandLine.Session
import FileQuery.Tree.Walk

/-!
A run of the program.  It ends with 0 if the search was done, with 1 if there is nothing to search, and
with 2 if the command line or the query is not accepted.
-/

namespace FileQuery.CommandLine

inductive ExitCode where
  | done
  | noRoot
  | refused
deriving DecidableEq, Repr

def ExitCode.number : ExitCode → Nat
  | .done => 0
  | .noRoot => 1
  | .refused => 2

/-- Reads the configuration file at a path.  No file is no fault. -/
def readConfig (around : Surroundings) (path : String) : Session Config :=
  if (around.tree.locate true path).isOk then
    match around.tree.contentAt path with
    | .error e => do
      tell ((Config.Remark.unreadable (e.message path)).message path)
      return {}
    | .ok bytes =>
      match Config.ofBytes around.readers.yaml bytes with
      | .error fault => throw (.config fault)
      | .ok (config, remarks) => do
        remarks.forM fun r => tell (r.message path)
        return config
  else return {}

def configPath (around : Surroundings) (options : Options) : String :=
  match options.config with
  | some path => if path.isEmpty then Config.path around.namedConfig around.home else path
  | none => Config.path around.namedConfig around.home

def override (options : Options) (config : Config) : Except Query.LiteralFault Config := do
  let config := { config with
    includeHidden := options.includesHidden || config.includeHidden
    followSymlinks := options.followsSymlinks || config.followSymlinks
    logLevel := if options.isVerbose then "DEBUG" else config.logLevel }
  match options.maxDocumentSize with
  | some size => return { config with maxDocumentSize := ← Query.readSize size }
  | none => return config

/-- A letter in capitals, where these are among A to Z. -/
def capital (c : Char) : Char :=
  if c == 'ı' then 'I' else if c == 'ſ' then 'S' else c.toUpper

/-- The level that a name means; letter case does not matter. -/
def levelNamed? (name : String) : Option Level :=
  Level.table.lookup (String.ofList (name.toList.map capital))

/-- Reads the query; an error is reported and gives none. -/
def readQuery (around : Surroundings) (query : String) : Session (Option Query.Expr) :=
  match Query.parse around.stack around.clock query with
  | .ok e => return some e
  | .error (.malformed e) => do
    reportQueryError around query e.position (e.message query) (expectedLine around.console e)
    return none
  | .error (.illTyped e) => do
    reportQueryError around query e.position (e.message query) (helpLine around.console e)
    return none
  | .error (.brokenDown b) => throw (.query b)

def canonicalText (e : Query.Expr) : Session String :=
  match e.canonical with
  | .ok text => return text
  | .error fault => throw (.canonical fault)

inductive Finding where
  | entity (shownPath : String) (e : Entity)
  | message (m : Message)

def findings (around : Surroundings) (options : Options) (config : Config) :
    Except String (List Finding × Option Git.RecordFault) :=
  match options.git.filter (!·.isEmpty) with
  | some revision => do
    let repository := around.repository options.root
    let (entries, fault) := Git.readListing (← repository.listing revision)
    let first : Finding := .message
      (.debug "detect.entity.git" ("Listing git tree of " ++ revision ++ " in " ++ options.root))
    let found := entries.map fun e => .entity e.shownPath (e.entity repository around.readers)
    return (first :: found, fault)
  | none =>
    match around.tree.walk config options.root with
    | .error fault => .error fault.message
    | .ok steps =>
      .ok (steps.map fun
        | .entry path =>
          .entity path (around.tree.entity around.readers around.clock.zone options.root path)
        | .skipped path fault => .message (Tree.skipMessage path fault), none)

/-- Decides whether an entity is accepted, and tells of it. -/
def isAccepted (setting : Query.Setting) (e : Query.Expr) (shownPath : String) (entity : Entity) :
    Session Bool := do
  let (answer, frame) := e.evaluate setting entity
  frame.remarks.reverse.forM fun r => tell (r.message shownPath)
  match answer with
  | .ok resolution => return resolution.verdict = .accepted
  | .error fault => throw (.evaluation fault)

def printAccepted (around : Surroundings) (setting : Query.Setting) (e : Query.Expr) (count : Nat) :
    List Finding → Session Nat
  | [] => return count
  | .message m :: rest => do
    tell m
    printAccepted around setting e count rest
  | .entity shownPath entity :: rest => do
    if ← isAccepted setting e shownPath entity then
      print around shownPath
      printAccepted around setting e (count + 1) rest
    else printAccepted around setting e count rest

def search (around : Surroundings) (options : Options) (config : Config) (e : Query.Expr) :
    Session ExitCode :=
  match findings around options config with
  | .error message => do
    reportError around message
    return .noRoot
  | .ok (findings, fault) => do
    let setting : Query.Setting := ⟨config, around.textLimit, around.lines, around.clock.zone⟩
    let count ← printAccepted around setting e 0 findings
    if let some fault := fault then throw (.record fault)
    tell ⟨.info, "detect.main", toString count ++ " matching entities"⟩
    return .done

def searchQuietly (around : Surroundings) (options : Options) (config : Config) (e : Query.Expr) :
    Session ExitCode :=
  tryCatch (search around options config e) fun
    | .brokenPipe => return .done
    | stop => throw stop

def runWith (around : Surroundings) (options : Options) (config : Config) : Session ExitCode := do
  match levelNamed? config.logLevel with
  | none => throw (.level config.logLevel)
  | some level => modify ({ · with level := some level })
  match ← readQuery around options.query with
  | none => return .refused
  | some e =>
    if ← isShown .debug then
      tell (.debug "detect.query.typechecker"
        ("Parsed query " ++ Text.quoted options.query ++ " as " ++ (← canonicalText e)))
    if options.isCheck then
      print around (← canonicalText e)
      return .done
    searchQuietly around options config e

def helpText : String :=
  "usage: detect [-h] [--check] [--config CONFIG] [--follow-symlinks] [--git REV] " ++
    "[--include-hidden] [--max-structured-size SIZE] [-v] expr [root]"

def session (around : Surroundings) (words : List String) : Session ExitCode :=
  match Options.ofWords words with
  | .error .helpWanted => do
    print around helpText
    return .done
  | .error fault => do
    report ("detect: error: " ++ fault.message)
    return .refused
  | .ok options => do
    let config ← readConfig around (configPath around options)
    match override options config with
    | .error fault =>
      if !fault.isInvalidValue then throw (.size fault)
      reportError around fault.message
      return .refused
    | .ok config => runWith around options config

def run (around : Surroundings) (words : List String) : Except Stop ExitCode × Transcript :=
  (session around words).run {}

end FileQuery.CommandLine
