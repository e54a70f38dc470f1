import DdlCatalog.Cli.Console
import DdlCatalog.Analysis.Unit
/-!
Running scripts through analysis units. By default every script goes into one unit, in
order, so a script may refer to objects of an earlier or a later one. With `separate` each
script gets a unit and catalog of its own.

A unit's own log records go to the command's logger as the unit writes them. The shared run
also logs each script it applies and, at the end, the size of its report.
-/

namespace DdlCatalog.Cli

open DdlCatalog.Catalog DdlCatalog.Analysis

/-- What one unit produced: the name of its input, its catalog and its report. -/
structure UnitResult where
  source : String
  catalog : Catalog
  report : Report

section

variable {m : Type → Type} [Monad m]

/-- A fresh unit under the command's settings. -/
def CommandContext.newUnit (ctx : CommandContext m) : Console m AnalysisUnit := do
  let id ← lift ctx.host.newUnitId
  let a := ctx.settings.analysis
  return AnalysisUnit.new id a.newCatalog a.options

/-- Passes the records a unit has logged to the command's logger. -/
def CommandContext.drain (ctx : CommandContext m) (u : AnalysisUnit) :
    Console m AnalysisUnit := do
  let (records, u) := u.takeLog
  ctx.logger.records records
  return u

/-- Every script in one unit, in order. The result is named by the scripts' names. -/
def CommandContext.analyseTogether (ctx : CommandContext m) (sources : List Source) :
    Console m UnitResult := do
  let mut u ← ctx.newUnit
  for src in sources do
    ctx.logger.note .debug "applying script" [("source", .text src.name), ("unit", .text u.id)]
    u ← ctx.drain (u.applySQL src.sql).1
  let (finished, rep) := u.finish
  u ← ctx.drain finished
  ctx.logger.note .info "analysis finished"
    [("unit", .text u.id), ("statements", .count rep.statements),
     ("diagnostics", .count rep.diagnostics.length), ("unresolved", .count rep.unresolved.length)]
  return ⟨", ".intercalate (sources.map (·.name)), u.catalog, rep⟩

/-- One script in a unit of its own. -/
def CommandContext.analyseAlone (ctx : CommandContext m) (src : Source) :
    Console m UnitResult := do
  let u ← ctx.newUnit
  let (u, rep) := (u.applySQL src.sql).1.finish
  let u ← ctx.drain u
  return ⟨src.name, u.catalog, rep⟩

/-- The scripts in one shared unit, or with `separate` and at least two scripts, one unit
each. -/
def CommandContext.analyse (ctx : CommandContext m) (sources : List Source) (separate : Bool) :
    Console m (List UnitResult) :=
  if !separate || sources.length < 2 then (fun r => [r]) <$> ctx.analyseTogether sources
  else sources.mapM ctx.analyseAlone

end

end DdlCatalog.Cli
