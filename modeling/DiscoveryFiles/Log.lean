/-!
# Log entries

What happens on the way to a report is noted in a log.  Which notes are shown is decided when they
are written out, so that the log has no influence on the report.
-/

namespace DiscoveryFiles

/-- How important a note is. -/
inductive Level where
  /-- Of use for finding faults. -/
  | debug
  /-- Of interest. -/
  | info
  /-- A sign of trouble. -/
  | warning
  deriving DecidableEq, Repr

namespace Level

/-- The rank of a level among all levels that a threshold can name. -/
def rank : Level → Nat
  | debug => 10
  | info => 20
  | warning => 30

/-- The name of a level. -/
def name : Level → String
  | debug => "DEBUG"
  | info => "INFO"
  | warning => "WARNING"

/-- The thresholds that can be set, by name. -/
def thresholds : List (String × Nat) :=
  [("CRITICAL", 50), ("FATAL", 50), ("ERROR", 40), ("WARN", 30), ("WARNING", 30), ("INFO", 20),
    ("DEBUG", 10), ("NOTSET", 0)]

/-- The threshold with a name, if there is one. -/
def threshold? (name : String) : Option Nat :=
  thresholds.lookup name

end Level

/-- The part of the program that makes a note. -/
inductive LogSource where
  /-- The checks of files and directories. -/
  | validation
  /-- The store of schemas. -/
  | schemas
  deriving DecidableEq, Repr

/-- The name that a source is logged under. -/
def LogSource.name : LogSource → String
  | validation => "adfvalidator.services.validation"
  | schemas => "adfvalidator.storage.schemas"

/-- A note in the log. -/
structure LogEntry where
  /-- How important it is. -/
  level : Level
  /-- Who made it. -/
  source : LogSource
  /-- What it says. -/
  message : String
  deriving DecidableEq, Repr

/-- The line of a note. -/
def LogEntry.line (entry : LogEntry) : String :=
  entry.level.name ++ " " ++ entry.source.name ++ ": " ++ entry.message ++ "\n"

/-- The text of the notes that reach a threshold. -/
def renderLog (threshold : Nat) (log : List LogEntry) : String :=
  String.join ((log.filter fun entry => threshold ≤ entry.level.rank).map LogEntry.line)

end DiscoveryFiles
