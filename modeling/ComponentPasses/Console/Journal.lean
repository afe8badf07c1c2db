/-!
# Log records

What a run tells its user as it goes: notes, successes, warnings and errors, each a line of console
markup that starts with the sign of its level.
-/

namespace ComponentPasses.Console

/-- How much a log record matters. -/
inductive Level
  | info
  | success
  | warning
  | error
deriving DecidableEq, Repr

/-- The name of a level. -/
def Level.name : Level → String
  | .info => "INFO"
  | .success => "SUCCESS"
  | .warning => "WARNING"
  | .error => "ERROR"

/-- The sign in front of a record of the level, with the blanks after it. -/
def Level.sign : Level → String
  | .info => "\u2139\ufe0f  "
  | .success => "\u2705 "
  | .warning => "\u26a0\ufe0f  "
  | .error => "\u274c "

/-- One line of a log. -/
structure LogRecord where
  level : Level
  text : String
deriving DecidableEq, Repr

/-- The record as it is handed to the console. -/
def LogRecord.message (record : LogRecord) : String :=
  record.level.sign ++ record.text

end ComponentPasses.Console
