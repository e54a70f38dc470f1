import DdlCatalog.Syntax.Node
import DdlCatalog.Catalog.Store
import DdlCatalog.Analysis.Diagnostic
import DdlCatalog.Analysis.Options
import DdlCatalog.Analysis.Reference
import DdlCatalog.Log.Record
/-!
The state shared by everything that applies statements to a catalog: the catalog, the
effective settings, the deferred references waiting for the resolution pass, the current
schema and the diagnostics recorded so far. Applying a statement is a computation in the state
monad `Analyze`.
-/

namespace DdlCatalog.Analysis

open DdlCatalog.Sql
open DdlCatalog.Syntax
open DdlCatalog.Catalog

/-- The state of an analysis unit. -/
structure Analyzer where
  catalog : Catalog
  options : Options
  /-- The deferred references, in the order they were recorded. -/
  refs : Array Reference := #[]
  /-- The schema unqualified names bind to; set on first use. -/
  current : Option Nat := none
  diagnostics : Array Diagnostic := #[]
  /-- The values every log record of this state starts with. -/
  logContext : List (String × Log.Value) := []
  /-- The log records not yet taken by whoever runs the analysis. -/
  log : Array Log.Record := #[]
deriving Repr, Inhabited

/-- A fresh state over a catalog; unset settings come from the catalog. -/
def Analyzer.new (c : Catalog) (o : Options) : Analyzer :=
  { catalog := c, options := o.withDefaults c }

/-- Computations that apply statements. -/
abbrev Analyze := StateM Analyzer

namespace Analyze

/-- The case policy for names. -/
def caseSensitive : Analyze Bool := return (← get).options.caseSensitive

/-- The effective settings. -/
def options : Analyze Options := return (← get).options

/-- The catalog as it stands. -/
def catalog : Analyze Catalog := return (← get).catalog

/-- Changes the catalog. -/
def modifyCatalog (f : Catalog → Catalog) : Analyze Unit :=
  modify fun a => { a with catalog := f a.catalog }

/-- Adds a log record. -/
def note (level : Log.Level) (message : String) (attrs : List (String × Log.Value)) :
    Analyze Unit :=
  modify fun a => { a with log := a.log.push ⟨level, message, a.logContext ++ attrs⟩ }

/-- Adds a debug record. -/
def debug (message : String) (attrs : List (String × Log.Value)) : Analyze Unit :=
  note .debug message attrs

/-- Records a diagnostic and logs it: informational ones at debug level, the others as
warnings. -/
def report (severity : Severity) (code : Code) (object : String) (pos : Position)
    (message : String) : Analyze Unit := do
  modify fun a => { a with diagnostics := a.diagnostics.push ⟨severity, code, object, message, pos⟩ }
  note (if severity == .info then .debug else .warn) "diagnostic"
    [("code", .text code.name), ("object", .text object), ("message", .text message)]

/-- Records a rejected duplicate definition; `IF NOT EXISTS` makes it informational. -/
def duplicate (kind : ObjectKind) (object : String) (pos : Position) (ifNotExists : Bool) :
    Analyze Unit :=
  report (if ifNotExists then .info else .error) .duplicate object pos
    s!"{kind.name} {object} already exists"

/-- Issues a handle for a new object. -/
def issue (kind : ObjectKind) (name : String) : Analyze Nat :=
  modifyGet fun a =>
    let (id, c) := a.catalog.issue kind name
    (id, { a with catalog := c })

/-- Releases the handle of a discarded object. -/
def release (id : Nat) : Analyze Unit := modifyCatalog (·.release id)

/-- Records a new name for an object. -/
def rename (id : Nat) (name : String) : Analyze Unit := modifyCatalog (·.rename id name)

/-- Releases the handles of a discarded table and everything it owns. -/
def releaseTable (t : Table) : Analyze Unit := do
  for c in t.columns do release c.id
  for i in t.indexes do release i.id
  for fk in t.foreignKeys do release fk.id
  for tr in t.triggers do release tr.id
  release t.id

/-- Records deferred references. -/
def pushRefs (rs : List Reference) : Analyze Unit :=
  modify fun a => { a with refs := a.refs ++ rs.toArray }

/-- The schema with the given name, created and marked implicit when there is none. -/
def ensureSchema (name : String) : Analyze Schema := do
  let a ← get
  match a.catalog.findSchema a.options.caseSensitive name with
  | some s => pure s
  | none =>
    let id ← issue .schema name
    let s : Schema := { id := id, name := name, charset := a.options.defaultCharset,
                        collation := a.options.defaultCollation, implicit := true }
    modifyCatalog fun c => { c with schemas := c.schemas ++ [s] }
    debug "created schema" [("schema", .text name)]
    pure s

/-- The schema with the given handle, as it stands. -/
def schemaById (id : Nat) : Analyze (Option Schema) := return (← catalog).schemaById id

/-- The schema unqualified names bind to, created on first use. -/
def currentSchema : Analyze Schema := do
  let a ← get
  let found := a.current.bind a.catalog.schemaById
  match found with
  | some s => pure s
  | none =>
    let s ← ensureSchema a.options.defaultSchema
    modify fun a => { a with current := some s.id }
    pure s

/-- Switches the current schema, creating it when needed. -/
def useSchema (name : String) : Analyze Schema := do
  let s ← ensureSchema name
  modify fun a => { a with current := some s.id }
  pure s

/-- The named schema, created when needed, or the current one for an empty name. -/
def schemaFor (name : String) : Analyze Schema :=
  if name.isEmpty then currentSchema else ensureSchema name

/-- The named schema without creating it, or the current one for an empty name. -/
def lookupSchema (name : String) : Analyze (Option Schema) := do
  if name.isEmpty then return some (← currentSchema)
  return (← catalog).findSchema (← caseSensitive) name

end Analyze

end DdlCatalog.Analysis
