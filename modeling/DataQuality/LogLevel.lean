/-!
# Levels of log lines

Log lines have a level; a run shows those of a chosen level and above.
-/

namespace DataQuality

/-- How much is logged. -/
inductive LogLevel where
  | debug
  | info
  | warn
  | error
  deriving DecidableEq, Repr

namespace LogLevel

/-- The word for a level in documents and log lines. -/
def name : LogLevel → String
  | .debug => "DEBUG"
  | .info => "INFO"
  | .warn => "WARN"
  | .error => "ERROR"

/-- The word that selects a level and all levels above it. -/
def filter : LogLevel → String
  | .debug => "debug"
  | .info => "info"
  | .warn => "warn"
  | .error => "error"

/-- The levels that are shown when one is chosen: that one and all above it. -/
def shown : LogLevel → List LogLevel
  | .debug => [debug, info, warn, error]
  | .info => [info, warn, error]
  | .warn => [warn, error]
  | .error => [error]

def ofName? (word : String) : Option LogLevel :=
  [debug, info, warn, error].find? fun level => level.name == word

end LogLevel

end DataQuality
