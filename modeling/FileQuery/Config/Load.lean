import FileQuery.Config
import FileQuery.Document.Reader
import FileQuery.Document.Shown
import FileQuery.Message
import FileQuery.Text.Utf8

/-!
Settings from a configuration file.  The file is a YAML map; its member `detect` is a map that holds
settings.  What is missing or has the wrong kind keeps its default, and does not disturb the rest.
-/

namespace FileQuery

namespace Config

def defaultPath : String := "~/.config/detect/detect.yml"

/-- Puts the home directory in the place of a leading tilde. -/
def expandHome (home path : String) : String :=
  match path.toList with
  | '~' :: rest =>
    if rest.head?.all (· == '/') then
      let whole := (home.toList.reverse.dropWhile (· == '/')).reverse ++ rest
      if whole.isEmpty then "/" else String.ofList whole
    else path
  | _ => path

def path (named : Option String) (home : String) : String :=
  match named with
  | some path => expandHome home (if path.isEmpty then defaultPath else path)
  | none => expandHome home defaultPath

/-- What is told of a configuration file: it cannot be read, its section is no map, or it has a key
that is unknown or whose value has the wrong kind. -/
inductive Remark where
  | unreadable (reason : String)
  | noSection
  | unknownKey (key : String)
  | wrongKind (key expected actual : String)
deriving DecidableEq, Repr

def Remark.message (path : String) : Remark → Message
  | .unreadable reason =>
    ⟨.warning, "detect.config", "Ignoring unreadable config file " ++ path ++ ": " ++ reason⟩
  | .noSection =>
    ⟨.warning, "detect.config", "Ignoring 'detect' section of " ++ path ++ ": not a mapping"⟩
  | .unknownKey key =>
    .debug "detect.config" ("Ignoring unknown config key " ++ key ++ " in " ++ path)
  | .wrongKind key expected actual =>
    ⟨.warning, "detect.config", "Ignoring config key " ++ key ++ " in " ++ path ++ ": expected " ++
      expected ++ ", got " ++ actual⟩

inductive Fault where
  | notUtf8 (fault : Text.Utf8Fault)
  | tooDeep
  | badValue (v : Document.BadValue)
  | key (fault : Document.TextFault)
deriving DecidableEq, Repr

/-- A setting: its key, the name of the kind that its value has, and how the value is taken over if it
has this kind. -/
structure Field where
  key : String
  kind : String
  set? : Document.Scalar → Config → Option Config

def integerField (key : String) (set : Int → Config → Config) : Field :=
  ⟨key, "int", fun
    | .int n, config => some (set n config)
    | _, _ => none⟩

def truthField (key : String) (set : Bool → Config → Config) : Field :=
  ⟨key, "bool", fun
    | .bool b, config => some (set b config)
    | _, _ => none⟩

def fields : List Field :=
  [integerField "max_structured_size" fun n config => { config with maxDocumentSize := n },
    integerField "content_chunk_size" fun n config => { config with chunkSize := n },
    truthField "include_hidden" fun b config => { config with includeHidden := b },
    truthField "follow_symlinks" fun b config => { config with followSymlinks := b },
    ⟨"log_level", "str", fun
      | .str s, config => some { config with logLevel := s }
      | _, _ => none⟩]

def Field.take (store : Document.Store) (field : Field) (value : Document.Value) (config : Config) :
    Config × List Remark :=
  let wrong := (config, [.wrongKind (Text.quoted field.key) field.kind (value.kindName store)])
  match value with
  | .scalar s =>
    match field.set? s config with
    | some config => (config, [])
    | none => wrong
  | .node _ => wrong

def takeMembers (store : Document.Store) (config : Config) :
    List (Document.Scalar × Document.Value) → Except Fault (Config × List Remark)
  | [] => .ok (config, [])
  | (key, value) :: rest =>
    match fields.find? fun field => key == .str field.key with
    | some field => do
      let (config, remarks) := field.take store value config
      let (config, more) ← takeMembers store config rest
      return (config, remarks ++ more)
    | none => do
      let shown ← key.shown.mapError .key
      let (config, more) ← takeMembers store config rest
      return (config, .unknownKey shown :: more)

def ofDocument (root : Document.Root) : Except Fault (Config × List Remark) :=
  match (root.store.entries? root.value).bind (·.get? "detect") with
  | none => .ok ({}, [])
  | some part =>
    match root.store.entries? part with
    | some entries => takeMembers root.store {} entries.members
    | none => .ok ({}, [.noSection])

def ofReading : Except Document.ReadFault (Option Document.Root) → Except Fault (Config × List Remark)
  | .ok none => .ok ({}, [])
  | .ok (some root) => ofDocument root
  | .error .malformed => .ok ({}, [.unreadable "parse error"])
  | .error .tooDeep => .error .tooDeep
  | .error (.badValue v) => .error (.badValue v)

/-- The settings in the bytes of a configuration file.  Bytes that are no text are only noticed if there
is no other fault before. -/
def ofBytes (yaml : Document.YamlLibrary) (bytes : List UInt8) : Except Fault (Config × List Remark) :=
  match Text.readUtf8 bytes, yaml.earlyFault? bytes with
  | .ok text, _ => ofReading (yaml.readOnly text)
  | .error _, some early => ofReading (.error early)
  | .error fault, none => .error (.notUtf8 fault)

end Config

end FileQuery
