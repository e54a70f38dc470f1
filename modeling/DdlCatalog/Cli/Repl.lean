import DdlCatalog.Cli.Commands
import DdlCatalog.Cli.LineEditor
/-!
The interactive session: statements typed line by line go into one analysis unit, so later
statements see earlier ones.

A statement may span lines; it ends with a line ending in the delimiter, `;` unless a
`DELIMITER` line changed it. A line starting with `.` between statements is a command of the
session (`.help` lists them). Parse errors are written as errors, and the diagnostics a
statement adds are shown after it. References are resolved on `.resolve`, and before `.report`,
`.catalog` and `.describe`; each pass shows the unresolved references not shown before.
-/

namespace DdlCatalog.Cli

open DdlCatalog.Analysis DdlCatalog.Render DdlCatalog.Catalog

/-- What `.help` prints. -/
def sessionHelp : String :=
  "\nCommands:\n" ++
  "  .help              Show this help message\n" ++
  "  .schemas           List schemas\n" ++
  "  .tables [schema]   List tables of a schema (default: current)\n" ++
  "  .describe <table>  Show columns, indexes and foreign keys of a table\n" ++
  "  .use <schema>      Change the current schema\n" ++
  "  .resolve           Resolve pending references\n" ++
  "  .report            Show every problem found so far\n" ++
  "  .catalog           Show the whole catalog\n" ++
  "  .reset             Discard the catalog and start again\n" ++
  "  .quit / .exit      Exit the REPL\n" ++
  "\n" ++
  "Tips:\n" ++
  "  - Statements end with the current delimiter (; by default)\n" ++
  "  - DELIMITER $$ changes it, for routine and trigger bodies\n" ++
  "  - Tab completion works for dot-commands and table names\n" ++
  "\n"

/-- The state of a session. -/
structure Session where
  unit : AnalysisUnit
  /-- The lines of the statement being typed. -/
  pending : String := ""
  delimiter : String := ";"
  /-- How many diagnostics and unresolved references have been shown. -/
  shownDiagnostics : Nat := 0
  shownUnresolved : Nat := 0

namespace Session

/-- The qualified names of the unit's tables, sorted. -/
def tableNames (s : Session) : List String :=
  let names := s.unit.catalog.schemas.flatMap fun sc => sc.tables.map fun t => sc.name ++ "." ++ t.name
  (names.toArray.qsort (· < ·)).toList

/-- The names of the unit's schemas, in catalog order. -/
def schemaNames (s : Session) : List String := s.unit.catalog.schemas.map (·.name)

/-- What Tab completes in a session: the commands, and after some of them a table or a
schema. -/
def completion (s : Session) : List CompletionTree :=
  let schemas := CompletionTree.computed s.schemaNames
  let tables := CompletionTree.computed s.tableNames
  [.word ".help" [], .word ".schemas" [], .word ".tables" [schemas], .word ".describe" [tables],
   .word ".use" [schemas], .word ".resolve" [], .word ".report" [], .word ".catalog" [],
   .word ".reset" [], .word ".quit" [], .word ".exit" []]

/-- The candidates for the text before the cursor. -/
def candidates (s : Session) (text : List Char) : List (List Char) × Nat :=
  completeLine (text.length + 2) s.completion text

end Session

section

variable {m : Type → Type} [Monad m]

/-- Takes the unit's log records to the logger. -/
def Session.drain (ctx : CommandContext m) (s : Session) : Console m Session := do
  let u ← ctx.drain s.unit
  return { s with unit := u }

/-- Shows the diagnostics not shown before. -/
def Session.showDiagnostics (ctx : CommandContext m) (s : Session) : Console m Session := do
  let ds := s.unit.diagnostics
  if ds.length > s.shownDiagnostics then
    write (diagnosticsView ctx.renderer (ds.drop s.shownDiagnostics))
    return { s with shownDiagnostics := ds.length }
  return s

/-- Parses a script and applies it: parse errors are written as errors, then the new
diagnostics are shown. -/
def Session.apply (ctx : CommandContext m) (s : Session) (text : String) : Console m Session := do
  let (root, errs) := Syntax.parse text s.unit.lexOptions
  for e in errs do write (ctx.renderer.error e.render)
  let s ← Session.drain ctx { s with unit := s.unit.apply root }
  Session.showDiagnostics ctx s

/-- Runs a resolution pass, then shows the new diagnostics and unresolved references. -/
def Session.resolve (ctx : CommandContext m) (s : Session) : Console m (Session × Report) := do
  let (u, rep) := s.unit.finish
  let s ← Session.drain ctx { s with unit := u }
  let s ← Session.showDiagnostics ctx s
  if rep.unresolved.length > s.shownUnresolved then
    write (unresolvedView ctx.renderer (rep.unresolved.drop s.shownUnresolved))
    return ({ s with shownUnresolved := rep.unresolved.length }, rep)
  return (s, rep)

/-- The schema unqualified names bind to, created on first use. -/
def Session.currentSchema (ctx : CommandContext m) (s : Session) : Console m (Schema × Session) := do
  let (schema, u) := s.unit.currentSchema
  let s ← Session.drain ctx { s with unit := u }
  return (schema, s)

/-- Runs a session command. Returns the session after it, and whether the session ends. -/
def Session.command (ctx : CommandContext m) (s : Session) (line : String) :
    Console m (Session × Bool) := do
  let r := ctx.renderer
  let parts := Text.fields line
  let command := Text.lower (parts.headD "")
  let arg := parts[1]?
  let cs := ctx.settings.analysis.caseSensitive
  match command with
  | ".quit" | ".exit" => return (s, true)
  | ".help" =>
    writeOut sessionHelp
    return (s, false)
  | ".schemas" =>
    for name in s.schemaNames do write (r.line name)
    return (s, false)
  | ".tables" =>
    let (current, s) ← Session.currentSchema ctx s
    let chosen := match arg with
      | some name => s.unit.catalog.findSchema cs name
      | none => some current
    match chosen, arg with
    | some schema, _ => for t in schema.tables do write (r.line t.name)
    | none, some name => write (r.error ("unknown schema " ++ name))
    | none, none => pure ()
    return (s, false)
  | ".describe" =>
    match arg with
    | none =>
      write (r.error "Usage: .describe <table>")
      return (s, false)
    | some name =>
      let (s, _) ← Session.resolve ctx s
      let (current, s) ← Session.currentSchema ctx s
      match lookupTable s.unit.catalog current.name name cs with
      | some (q, t) => write (tableView r t q)
      | none => write (r.error ("table " ++ name ++ " not found"))
      return (s, false)
  | ".resolve" =>
    let pending := s.unit.pendingReferences
    let (s, rep) ← Session.resolve ctx s
    write (r.muted ("resolved " ++ countOf pending "reference" "references" ++ ", " ++
      countOf rep.unresolved.length "reference" "references" ++ " failed overall"))
    return (s, false)
  | ".report" =>
    let (u, rep) := s.unit.finish
    let s ← Session.drain ctx { s with unit := u }
    write (reportView r "" rep)
    return (s, false)
  | ".catalog" =>
    let (s, _) ← Session.resolve ctx s
    write (catalogView r s.unit.catalog)
    return (s, false)
  | ".use" =>
    match arg with
    | none =>
      write (r.error "Usage: .use <schema>")
      return (s, false)
    | some name => return (← Session.drain ctx { s with unit := s.unit.useSchema name }, false)
  | ".reset" =>
    let u ← ctx.newUnit
    write (r.muted "started a new unit")
    return ({ s with unit := u, shownDiagnostics := 0, shownUnresolved := 0, delimiter := ";" }, false)
  | _ =>
    write (r.error ("Unknown command: " ++ command ++ " (type .help for commands)"))
    return (s, false)

/-- Takes one line. Returns the session after it, and whether the session ends. -/
def Session.feed (ctx : CommandContext m) (s : Session) (line : String) :
    Console m (Session × Bool) := do
  let trimmed := Text.trimBlank line
  if s.pending.isEmpty then
    if trimmed.isEmpty then return (s, false)
    if trimmed.startsWith "." then return ← Session.command ctx s trimmed
    match Text.fields trimmed with
    | first :: second :: _ =>
      if Text.fold first == Text.fold "DELIMITER" then return ({ s with delimiter := second }, false)
    | _ => pure ()
  let s := { s with pending := s.pending ++ line ++ "\n" }
  if !trimmed.endsWith s.delimiter then return (s, false)
  let text := if s.delimiter != ";" then "DELIMITER " ++ s.delimiter ++ "\n" ++ s.pending else s.pending
  let s ← Session.apply ctx { s with pending := "" } text
  return (s, false)

/-- Reads keys and runs lines until the input ends, `.quit` or `.exit`, or `fuel` keys have
been read. Text written so far is shown before each key is read. -/
def sessionLoop (ctx : CommandContext m) : Nat → Session → LineEditor → KeyDecoder → Console m Unit
  | 0, _, _, _ => pure ()
  | fuel + 1, s, editor, decoder => do
    flush ctx.host
    let complete := s.candidates
    let (editor, decoder, events) := match ← lift ctx.host.readKey with
      | none =>
        let (e, ev) := editor.finish complete
        (e, KeyDecoder.plain, ev.toList)
      | some k =>
        let (keys, decoder) := decoder.feed k
        let step := fun (acc : LineEditor × List LineEvent) (key : Char) =>
          let (e, ev) := if key == '\x00' then acc.1.finish complete else acc.1.press complete key
          (e, acc.2 ++ ev.toList)
        let (e, evs) := keys.foldl step (editor, [])
        (e, decoder, evs)
    let mut s := s
    for ev in events do
      match ev with
      | .finished => return
      | .interrupted => s := { s with pending := "" }
      | .line text =>
        let (s', quit) ← Session.feed ctx s text
        if quit then return
        s := s'
    sessionLoop ctx fuel s editor decoder

/-- The `repl` command: applies the scripts the arguments name, prints the banner, and runs
the session on at most `fuel` keys. -/
def CommandContext.repl (ctx : CommandContext m) (init : List String) (fuel : Nat) :
    Console m Unit := do
  let mut s : Session := { unit := ← ctx.newUnit }
  if !init.isEmpty then
    let sources ← ctx.readInputs init
    for src in sources do s ← Session.apply ctx s src.sql
  let a := ctx.settings.analysis
  let version := if a.serverVersion.render.isEmpty then "latest" else a.serverVersion.render
  writeOut (programName ++ " REPL (server " ++ version ++ ", schema " ++ a.defaultSchema ++ ")\n")
  writeOut "Type .help for commands, .quit to exit\n\n"
  sessionLoop ctx fuel s {} .plain

end

end DdlCatalog.Cli
