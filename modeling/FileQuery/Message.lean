/-!
Messages about what a search does.
-/

namespace FileQuery

inductive Level where
  | debug
  | info
  | warning
  | error
  | critical
deriving DecidableEq, Repr

namespace Level

def name : Level → String
  | .debug => "DEBUG"
  | .info => "INFO"
  | .warning => "WARNING"
  | .error => "ERROR"
  | .critical => "CRITICAL"

/-- The place of a level, from what matters least. -/
def rank : Level → Nat
  | .debug => 1
  | .info => 2
  | .warning => 3
  | .error => 4
  | .critical => 5

def table : List (String × Level) :=
  [("CRITICAL", .critical), ("FATAL", .critical), ("ERROR", .error), ("WARN", .warning),
    ("WARNING", .warning), ("INFO", .info), ("DEBUG", .debug), ("NOTSET", .debug)]

end Level

structure Message where
  level : Level
  source : String
  text : String
deriving DecidableEq, Repr

namespace Message

/-- A message for those who look for faults. -/
def debug (source text : String) : Message := ⟨.debug, source, text⟩

def line (m : Message) : String := m.level.name ++ " " ++ m.source ++ ": " ++ m.text

end Message

end FileQuery
