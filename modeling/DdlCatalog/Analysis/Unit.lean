import DdlCatalog.Syntax.Parse.Script
import DdlCatalog.Analysis.Resolve
/-!
Analysis units. A unit applies one script, or a sequence of scripts and statements, to one
catalog and resolves them together. Statements that fail to parse are recorded and skipped;
statement kinds the analysis does not follow are passed over. `finish` runs the resolution pass
over the references recorded since the last pass and reports the unit so far; it may be called
again after more statements.
-/

namespace DdlCatalog.Analysis

open DdlCatalog.Sql
open DdlCatalog.Syntax
open DdlCatalog.Catalog

/-- An analysis unit. -/
structure AnalysisUnit where
  /-- The unit's identifier, shown in its error report. -/
  id : String
  state : Analyzer
  /-- The number of statements analysed. -/
  statements : Nat := 0
  parseErrors : Array ParseError := #[]
  /-- The unresolved references of every pass so far. -/
  unresolved : Array ResolutionError := #[]
deriving Repr, Inhabited

/-- What a unit found: statements analysed, parse errors, diagnostics and unresolved
references. -/
structure Report where
  unitId : String
  statements : Nat
  parseErrors : List ParseError
  diagnostics : List Diagnostic
  unresolved : List ResolutionError
deriving Repr, Inhabited

/-- Whether the report holds a parse error, an error diagnostic or an unresolved reference. -/
def Report.hasErrors (r : Report) : Bool :=
  !r.parseErrors.isEmpty || !r.unresolved.isEmpty || r.diagnostics.any (·.severity == .error)

/-- Every error of the report on one line each, after `unit <id>: `; `none` when there is
none. -/
def Report.errorText (r : Report) : Option String :=
  let lines := r.parseErrors.map ParseError.render ++
    (r.diagnostics.filter (·.severity == .error)).map Diagnostic.text ++
    r.unresolved.map ResolutionError.text
  if lines.isEmpty then none else some ("unit " ++ r.unitId ++ ": " ++ "\n".intercalate lines)

/-- How a statement kind is applied; `none` for kinds the analysis passes over. -/
def statementAction (stmt : Node) : Option (Analyze Unit) :=
  match stmt.kind? with
  | some .createDatabase => some (Analyze.createDatabase stmt)
  | some .useStatement => some (Analyze.useStatement stmt)
  | some .createTable => some (Analyze.createTable stmt)
  | some .alterTable => some (Analyze.alterTable stmt)
  | some .createIndex => some (Analyze.createIndex stmt)
  | some .createProcedure => some (Analyze.createRoutine stmt .procedure)
  | some .createFunction => some (Analyze.createRoutine stmt .function)
  | some .createUdf => some (Analyze.createRoutine stmt .loadable)
  | some .createTrigger => some (Analyze.createTrigger stmt)
  | some .createView => some (Analyze.createView stmt)
  | some .createServer => some (Analyze.createServer stmt)
  | some .createTablespace => some (Analyze.createTablespace stmt)
  | some .createLogfileGroup => some (Analyze.createLogfileGroup stmt)
  | some .createEvent => some (Analyze.createEvent stmt)
  | _ => none

namespace AnalysisUnit

/-- A unit over a catalog. Its log records name the unit first. -/
def new (id : String) (c : Catalog) (o : Options) : AnalysisUnit :=
  { id := id, state := { Analyzer.new c o with logContext := [("unit", .text id)] } }

/-- The catalog being populated. -/
def catalog (u : AnalysisUnit) : Catalog := u.state.catalog

/-- The effective settings. -/
def options (u : AnalysisUnit) : Options := u.state.options

/-- The lexer settings of the unit's scripts. -/
def lexOptions (u : AnalysisUnit) : LexOptions := { serverVersion := u.options.serverVersion.number }

/-- Applies one statement. -/
def applyStatement (u : AnalysisUnit) (stmt : Node) : AnalysisUnit :=
  match statementAction stmt with
  | some act =>
    let run : Analyze Unit := do
      Analyze.debug "applying statement"
        [("kind", .text ((stmt.kind?.map NodeKind.name).getD "")), ("line", .count stmt.start.line)]
      act
    { u with statements := u.statements + 1, state := (run.run u.state).2 }
  | none => u

/-- Applies a statement, or every statement of a script. -/
def apply (u : AnalysisUnit) (root : Node) : AnalysisUnit :=
  if root.isStatement then u.applyStatement root
  else root.children.foldl (fun u s => if s.isStatement then u.applyStatement s else u) u

/-- Parses a script and applies every statement; returns the parse errors too. -/
def applySQL (u : AnalysisUnit) (sql : String) : AnalysisUnit × List ParseError :=
  let (root, errs) := parse sql u.lexOptions
  let noted := (errs.foldlM (fun _ e =>
    Analyze.note .warn "parse error" [("error", .text e.render)]) ()).run u.state
  ({ u with parseErrors := u.parseErrors ++ errs.toArray, state := noted.2 }.apply root, errs)

/-- The log records written since they were last taken, and the unit without them. -/
def takeLog (u : AnalysisUnit) : List Log.Record × AnalysisUnit :=
  (u.state.log.toList, { u with state := { u.state with log := #[] } })

/-- The diagnostics recorded so far. -/
def diagnostics (u : AnalysisUnit) : List Diagnostic := u.state.diagnostics.toList

/-- The number of references recorded for the next resolution pass. -/
def pendingReferences (u : AnalysisUnit) : Nat := u.state.refs.size

/-- The schema unqualified names bind to, created on first use. -/
def currentSchema (u : AnalysisUnit) : Schema × AnalysisUnit :=
  let (s, st) := Analyze.currentSchema.run u.state
  (s, { u with state := st })

/-- Switches the schema unqualified names bind to, creating it when needed. -/
def useSchema (u : AnalysisUnit) (name : String) : AnalysisUnit :=
  { u with state := ((Analyze.useSchema name).run u.state).2 }

/-- Runs the resolution pass and reports the unit so far. -/
def finish (u : AnalysisUnit) : AnalysisUnit × Report :=
  let (errs, st) := Analyze.resolve.run u.state
  let u := { u with state := st, unresolved := u.unresolved ++ errs.toArray }
  (u, { unitId := u.id, statements := u.statements, parseErrors := u.parseErrors.toList,
        diagnostics := u.state.diagnostics.toList, unresolved := u.unresolved.toList })

end AnalysisUnit

end DdlCatalog.Analysis
