import FileQuery.CommandLine.Session
import FileQuery.Document.Json

/-!
A description of what a run finds around it, as a JSON object.  Its members, all of which may be
missing, are `now`, a date and time; `zone`, the minutes by which the local zone lies east; `config`,
the configuration file that the environment names; `home`, the home directory; `tree`, an object that
gives for every path the text of a file, `null` for a directory or the target of a link in a list;
`revisions`, the lists of the trees in a repository by revision; and `blobs`, their texts by id.
-/

namespace FileQuery.CommandLine

/-- A JSON value with the collections that it refers to. -/
abbrev Description := Document.Root

namespace Description

def members (d : Description) : List (String × Description) :=
  (((d.store.entries? d.value).map (·.members)).getD []).filterMap fun
    | (.str key, value) => some (key, ⟨d.store, value⟩)
    | _ => none

def member? (d : Description) (key : String) : Option Description := d.members.lookup key

def text? (d : Description) : Option String :=
  match d.value with
  | .scalar (.str s) => some s
  | _ => none

def integer? (d : Description) : Option Int :=
  match d.value with
  | .scalar (.int n) => some n
  | _ => none

def bytes? (d : Description) (key : String) : Option (List UInt8) :=
  ((d.member? key).bind text?).map fun s => s.toUTF8.toList

def node (d : Description) : Node :=
  match d.text?, (d.store.items? d.value).bind List.head? with
  | some s, _ => .file s.toUTF8.toList
  | none, some target => .link ((text? ⟨d.store, target⟩).getD "")
  | none, none => .directory

def clock (d : Description) : Query.Clock :=
  let ahead := ((d.member? "zone").bind integer?).getD 0 * 60
  let zone := if h : ahead.natAbs < Calendar.daySeconds.natAbs then .fixed ahead h else .fixed 0
  let read := (((d.member? "now").bind text?).map String.toList).bind Calendar.readDateTime
  let now := read.bind fun t =>
    Calendar.Reference.fixed? t.reading (t.offset?.getD (ahead * Calendar.second))
  ⟨now.getD (.fixed Calendar.epoch 0), zone⟩

def tree (d : Description) : Tree :=
  let now := d.clock.now.moment.instant
  let way : Item := ⟨.directory, true, now, now, now⟩
  (((d.member? "tree").map members).getD []).foldl (fun tree (path, part) =>
    tree.plant way path { way with node := part.node }) {}

def outcome (d : Description) (key name : String) : Git.Outcome :=
  match (d.member? key).bind (bytes? · name) with
  | some output => .finished 0 output []
  | none => .finished 128 [] []

def repository (d : Description) (directory : String) : Git.Repository where
  directory
  run
    | .listTree revision => d.outcome "revisions" revision
    | .readBlob id => d.outcome "blobs" id

def surroundings (d : Description) (stack : Pattern.Stack) (readers : Document.Readers)
    (console : Console) : Surroundings where
  tree := d.tree
  repository := d.repository
  namedConfig := (d.member? "config").bind text?
  home := ((d.member? "home").bind text?).getD "/"
  clock := d.clock
  stack
  readers
  console

end Description

/-- Reads a description; a text that is none describes nothing. -/
def readDescription (readers : Document.Readers) (text : String) : Description :=
  match Document.Json.read readers.jsonDepth text.toList with
  | .ok t => t.toRoot
  | .error _ => ⟨#[], .scalar .null⟩

end FileQuery.CommandLine
