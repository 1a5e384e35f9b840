import FileQuery.CommandLine.Run
import FileQuery.CommandLine.Screen
import FileQuery.CommandLine.Snapshot
import FileQuery.Document.Yaml

/-!
The program.  It is given the words of a command line, and on the standard input a description of what
is to be searched.
-/

namespace FileQuery

partial def readToEnd (stream : IO.FS.Stream) (done : ByteArray) : IO ByteArray := do
  let bytes ← stream.read 65536
  if bytes.isEmpty then return done
  readToEnd stream (done ++ bytes)

def writeLines (stream : IO.FS.Stream) (lines : List String) : IO Unit :=
  lines.forM stream.putStrLn

def readers : Document.Readers := { yaml := Document.Yaml.library {} }

/-- The nesting of groups in patterns that the stack is enough for. -/
def stack : Pattern.Stack := .ofDepth 480

end FileQuery

/-- Runs the program; the exit code tells what came of it. -/
def main (words : List String) : IO UInt32 := do
  let input ← FileQuery.readToEnd (← IO.getStdin) .empty
  let description :=
    FileQuery.CommandLine.readDescription FileQuery.readers ((String.fromUTF8? input).getD "")
  let around :=
    description.surroundings FileQuery.stack FileQuery.readers FileQuery.CommandLine.screen
  let (answer, transcript) := FileQuery.CommandLine.run around words
  FileQuery.writeLines (← IO.getStdout) transcript.printed.reverse
  FileQuery.writeLines (← IO.getStderr) transcript.reported.reverse
  match answer with
  | .ok code => return code.number.toUInt32
  | .error _ => return 70
