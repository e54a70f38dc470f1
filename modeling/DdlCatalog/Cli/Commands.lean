import DdlCatalog.Cli.Analyse
import DdlCatalog.Cli.Command
import DdlCatalog.Render.Views
/-!
The commands that analyse scripts and print what they found.

* `parse` prints the catalog and the report of each unit, or one table of them.
* `check` prints the reports and fails when a unit has an error, or with `strict` a warning.
* `deps` prints the creation order of the tables, or what one table reaches.
* `version` prints the release and the defaults it was built with.

A table is named `schema.table` or `table`; the schema is what comes before the last dot, and a
name without a dot is in the default schema.
-/

namespace DdlCatalog.Cli

open DdlCatalog.Catalog DdlCatalog.Analysis DdlCatalog.Render DdlCatalog.Graph

/-- A table name split at its last dot into schema and table; without a dot the schema is
`defaultSchema`. -/
def splitQualified (defaultSchema name : String) : String × String :=
  let parts := name.splitOn "."
  match parts.dropLast with
  | [] => (defaultSchema, name)
  | init => (".".intercalate init, parts.getLastD name)

/-- The table a name denotes in a catalog, with its identifier `schema.table` as stored. -/
def lookupTable (c : Catalog) (defaultSchema name : String) (cs : Bool) :
    Option (String × Table) := do
  let (schema, table) := splitQualified defaultSchema name
  let s ← c.findSchema cs schema
  let t ← s.findTable cs table
  return (s.name ++ "." ++ t.name, t)

/-- Whether a report fails a check: it has an error, or under `strict` a warning. -/
def checkFails (rep : Report) (strict : Bool) : Bool :=
  rep.hasErrors || (strict && rep.diagnostics.any (·.severity != .info))

/-- The document `parse` writes for one unit: its catalog and its report. -/
def parseDoc (res : UnitResult) (yaml : Bool) : Json :=
  .obj [("catalog", res.catalog.toJson), ("report", reportDoc res.source res.report yaml)]

section

variable {m : Type → Type} [Monad m]

/-- The scripts the arguments name, read. -/
def CommandContext.readInputs (ctx : CommandContext m) (args : List String) :
    Console m (List Source) := do
  let files ← orStop (← lift (collectFiles ctx.host args))
  orStop (← lift (readSources ctx.host files))

/-- What `parse` prints: one table if `table` is not empty, else every unit's catalog and
report, as one document in the structured modes. -/
def CommandContext.renderParse (ctx : CommandContext m) (results : List UnitResult)
    (table : String) : Console m Unit := do
  let r := ctx.renderer
  let a := ctx.settings.analysis
  if !table.isEmpty then
    match results.findSome? (fun res => lookupTable res.catalog a.defaultSchema table a.caseSensitive) with
    | some (q, t) => write (tableView r t q)
    | none => throw ("table " ++ table ++ " not found")
  else
    let docs := fun yaml => match results with
      | [res] => parseDoc res yaml
      | _ => .arr (results.map (parseDoc · yaml))
    match r.structured docs with
    | some s => write s
    | none =>
      for res in results do
        if results.length > 1 then write (r.header 1 res.source)
        write (catalogView r res.catalog)
        write (reportView r res.source res.report)

/-- The `parse` command over its arguments. With `watch` it then runs again whenever one of
its files changes; standard input cannot be watched. -/
def CommandContext.parse (ctx : CommandContext m) (separate watch : Bool) (table : String)
    (args : List String) : Console m Unit := do
  let files ← orStop (← lift (collectFiles ctx.host args))
  let once : Console m Unit := do
    let sources ← orStop (← lift (readSources ctx.host files))
    let results ← ctx.analyse sources separate
    ctx.renderParse results table
  once
  if watch then
    if files.contains stdinPath then throw "--watch cannot be used with standard input"
    let watched := files.eraseDups
    write (ctx.renderer.muted ("Watching " ++ countOf watched.length "file" "files" ++
      " for changes. Press Ctrl+C to stop."))
    flush ctx.host
    let changed := fun (file : String) => settle ctx.host ctx.renderer
      (ctx.logger.note .debug "change detected" [("file", .text file)])
    lift (ctx.host.watch watched changed (settle ctx.host ctx.renderer once))

/-- The `check` command: the reports, then a failure naming how many units have problems. -/
def CommandContext.check (ctx : CommandContext m) (separate strict : Bool) (args : List String) :
    Console m Unit := do
  let sources ← ctx.readInputs args
  let results ← ctx.analyse sources separate
  let r := ctx.renderer
  match r.structured (fun yaml => .arr (results.map fun res => reportDoc res.source res.report yaml)) with
  | some s => write s
  | none => for res in results do write (reportView r res.source res.report)
  let failed := (results.filter (checkFails ·.report strict)).length
  if failed > 0 then
    throw ("check failed: " ++ countOf failed "unit" "units" ++ " with problems")

/-- The `deps` command: the tables reaching or reached from one table when `dependents` or
`dependencies` names it, else the creation order of all tables. -/
def CommandContext.deps (ctx : CommandContext m) (dependents dependencies : String)
    (args : List String) : Console m Unit := do
  let sources ← ctx.readInputs args
  let results ← ctx.analyse sources false
  let some res := results.head? | return
  let g := DependencyGraph.build res.catalog
  ctx.logger.note .debug "dependency graph built"
    [("tables", .count g.size), ("references", .count g.edgeCount)]
  let r := ctx.renderer
  let name := dependents ++ dependencies
  if !name.isEmpty then
    let a := ctx.settings.analysis
    match lookupTable res.catalog a.defaultSchema name a.caseSensitive with
    | none => throw ("table " ++ name ++ " not found")
    | some (id, _) =>
      if !dependents.isEmpty then write (tableListView r ("Tables referencing " ++ id) (g.dependents id))
      else write (tableListView r ("Tables referenced by " ++ id) (g.dependencies id))
  else write (dependenciesView r (DependencyOutput.ofGraph g))

end

/-- What `version` prints, given the toolchain that built the program. -/
def versionReport (toolchain : String) : String :=
  programName ++ " v" ++ release ++ "\n" ++
  "Semantic analyser for MySQL DDL\n" ++
  "  commit:          unknown\n" ++
  "  built:           unknown\n" ++
  "  go:              " ++ toolchain ++ "\n" ++
  "  default server:  MySQL " ++ Config.fallbackServerVersion ++ "\n"

end DdlCatalog.Cli
