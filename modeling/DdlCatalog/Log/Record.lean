/-!
Log records. The analysis and the command line note what they do as records with a level, a
message and named values; whoever runs them decides which levels are shown and how.
-/

namespace DdlCatalog.Log

/-- How much a record matters, from the least. -/
inductive Level where
  | debug
  | info
  | warn
  | error
deriving Repr, DecidableEq, Inhabited

namespace Level

/-- The level's rank: a record is shown when its rank reaches the threshold's. -/
def rank : Level → Nat
  | .debug => 0
  | .info => 1
  | .warn => 2
  | .error => 3

/-- The level as a log line writes it. -/
def name : Level → String
  | .debug => "DEBUG"
  | .info => "INFO"
  | .warn => "WARN"
  | .error => "ERROR"

end Level

/-- A value attached to a record. -/
inductive Value where
  | text (s : String)
  | count (n : Int)
  | flag (b : Bool)
deriving Repr, Inhabited

/-- One log record. -/
structure Record where
  level : Level
  message : String
  attrs : List (String × Value) := []
deriving Repr, Inhabited

end DdlCatalog.Log
