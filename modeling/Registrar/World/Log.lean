/-!
# Log lines

What a run reports beside its result: a text with its severity.
-/

namespace Registrar

/-- How much a log line matters. -/
inductive Level where
  | error | warn | info | debug
  deriving DecidableEq

/-- The word in front of a log line. -/
def Level.word : Level → String
  | error => "ERROR"
  | warn => "WARN"
  | info => "INFO"
  | debug => "DEBUG"

/-- One line of the log. -/
structure LogLine where
  level : Level
  text : String
  deriving DecidableEq

namespace LogLine

/-- A line about something that went wrong. -/
def error (text : String) : LogLine := ⟨.error, text⟩

/-- A line about something to look at. -/
def warn (text : String) : LogLine := ⟨.warn, text⟩

/-- A line about progress. -/
def info (text : String) : LogLine := ⟨.info, text⟩

/-- A line about details. -/
def debug (text : String) : LogLine := ⟨.debug, text⟩

/-- The line as it is shown. -/
def shown (line : LogLine) : String := line.level.word ++ " " ++ line.text

end LogLine

end Registrar
