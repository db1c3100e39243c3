import ProseCompiler.Fault
import ProseCompiler.Json.Value

/-!
# Log entries

What the parts of the compiler report while they work.  They only make entries; where an entry is
written, and how, is decided by whoever collects the journal.
-/

namespace ProseCompiler

/-- How much an entry matters. -/
inductive Level where
  | debug
  | info
  | warning
  | error
  | critical
deriving DecidableEq, Repr

namespace Level

/-- The number that orders the levels. -/
def number : Level → Int
  | .debug => 10
  | .info => 20
  | .warning => 30
  | .error => 40
  | .critical => 50

def name : Level → Text
  | .debug => "DEBUG"
  | .info => "INFO"
  | .warning => "WARNING"
  | .error => "ERROR"
  | .critical => "CRITICAL"

end Level

/-- One report: its level, the logger it goes through, the document that was being compiled, the
message, values that belong to it, and the fault that it is about. -/
structure Entry where
  level : Level
  logger : Text
  document : Text
  message : Text
  extra : List (Text × Json) := []
  fault : Option Fault := none

/-- Entries in the order in which they were made. -/
abbrev Journal := List Entry

end ProseCompiler
