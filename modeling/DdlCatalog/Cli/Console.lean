import DdlCatalog.Cli.Host
import DdlCatalog.Log.Line
import DdlCatalog.Render.Output
import DdlCatalog.Config.Run
/-!
A command in progress: the text it has written so far, on standard output and standard error,
and a way to stop with an error message. The text written before an error stays.

Log lines go to standard error. Their threshold is `WARN`, or `DEBUG` when the settings are
verbose. A log line carries the time the host gives.
-/

namespace DdlCatalog.Cli

open DdlCatalog.Render

/-- A command in progress over the host monad `m`. -/
abbrev Console (m : Type → Type) := ExceptT String (StateT Screen m)

section

variable {m : Type → Type} [Monad m]

/-- Writes text. -/
def write (s : Screen) : Console m Unit := modify (· ++ s)

/-- Writes to standard output. -/
def writeOut (s : String) : Console m Unit := write (.stdout s)

/-- Writes to standard error. -/
def writeErr (s : String) : Console m Unit := write (.stderr s)

/-- Runs a host operation. -/
def lift {α : Type} (x : m α) : Console m α := ExceptT.lift (StateT.lift x)

/-- Stops on an error from a host operation. -/
def orStop {α : Type} : Except String α → Console m α
  | .ok a => pure a
  | .error e => throw e

/-- Hands the text written so far to the host, so that it shows before the run waits. -/
def flush (host : Host m) : Console m Unit := do
  let s ← get
  set ({} : Screen)
  lift (host.emit s)

/-- Runs a command to its end inside the host: what it writes is shown, and an error it stops
with is written as the renderer writes errors. -/
def settle (host : Host m) (r : Renderer) (act : Console m Unit) : m Unit := do
  let (res, screen) ← (act.run).run {}
  host.emit screen
  if let .error e := res then host.emit (r.error e)

end

/-- Where log lines go: the level they must reach, and the host clock. -/
structure Logger (m : Type → Type) where
  threshold : Log.Level
  clock : m String

/-- The logger of a run: `DEBUG` when verbose, else `WARN`. -/
def Logger.ofVerbose {m : Type → Type} (verbose : Bool) (clock : m String) : Logger m :=
  { threshold := if verbose then .debug else .warn, clock }

section

variable {m : Type → Type} [Monad m]

/-- Writes one log record if it reaches the threshold. -/
def Logger.record (lg : Logger m) (r : Log.Record) : Console m Unit := do
  if lg.threshold.rank ≤ r.level.rank then
    let time ← lift lg.clock
    writeErr (r.line time ++ "\n")

/-- Writes log records in order. -/
def Logger.records (lg : Logger m) (rs : List Log.Record) : Console m Unit :=
  rs.forM lg.record

/-- Logs a message with attributes. -/
def Logger.note (lg : Logger m) (level : Log.Level) (message : String)
    (attrs : List (String × Log.Value)) : Console m Unit :=
  lg.record { level, message, attrs }

end

/-- What a command runs with: the host, the settings, the logger and the renderer. -/
structure CommandContext (m : Type → Type) where
  host : Host m
  settings : Config.RunSettings
  logger : Logger m
  renderer : Renderer

end DdlCatalog.Cli
