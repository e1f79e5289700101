/-!
# Log messages

A log message has a level, the part of the library that it comes from, a text, and named fields
whose values are plain text.
-/

set_option autoImplicit false

namespace ScopedBinding

/-- How serious a log message is. -/
inductive Level where
  | trace
  | debug
  | warn
  | error
  deriving DecidableEq

/-- The name of a level. -/
def Level.word : Level → String
  | .trace => "TRACE"
  | .debug => "DEBUG"
  | .warn => "WARN"
  | .error => "ERROR"

/-- One log message. -/
structure LogMessage where
  level : Level
  source : String
  text : String
  fields : List (String × String)
  deriving DecidableEq

end ScopedBinding
