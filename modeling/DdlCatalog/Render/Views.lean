import DdlCatalog.Analysis.Unit
import DdlCatalog.Graph.Dependencies
import DdlCatalog.Json.Catalog
import DdlCatalog.Numeric.Humanize
import DdlCatalog.Render.Output
/-!
What the commands show: a catalog as one table of objects per schema, one table with its
columns, indexes and foreign keys, the report of an analysis, a creation order, and a list of
table names. Each view is also a JSON or YAML document, used when that is the format in effect.
-/

namespace DdlCatalog.Render

open DdlCatalog.Catalog
open DdlCatalog.Analysis
open DdlCatalog.Graph
open DdlCatalog.Numeric

/-- A count with the noun in the singular or the plural. -/
def countOf (n : Nat) (singular plural : String) : String :=
  if n == 1 then "1 " ++ singular else groupThousands n ++ " " ++ plural

/-- An empty table cell shown as a dash. -/
def orDash (s : String) : String := if s.isEmpty then "-" else s

/-- The parts that are not blank, joined by commas. -/
def joinNonEmpty (parts : List String) : String :=
  ", ".intercalate (parts.filter fun p => !(Text.trimBlank p).isEmpty)

/-- A byte count in binary units, a dash for zero. -/
def sizeText (n : Nat) : String := if n == 0 then "-" else binaryBytes n

/-! ### The catalog -/

/-- One line of an object listing: name, kind and details. -/
structure ObjectRow where
  name : String
  kind : String
  details : String := ""

/-- What a table holds, in brief. -/
def tableDetails (t : Table) : String :=
  ", ".intercalate ([countOf t.columns.length "column" "columns"] ++
    (if t.indexes.isEmpty then [] else [countOf t.indexes.length "index" "indexes"]) ++
    (if t.foreignKeys.isEmpty then [] else [countOf t.foreignKeys.length "foreign key" "foreign keys"]) ++
    (match t.partitioning with
      | some p => ["partitioned by " ++ p.type]
      | none => []) ++
    (if t.temporary then ["temporary"] else []) ++
    (if t.isStub then ["stub"] else []))

/-- What a routine takes or returns, in brief. -/
def routineDetails (r : Routine) : String :=
  if r.type == .loadable then joinNonEmpty ["RETURNS " ++ r.udfReturn, "SONAME " ++ r.soname]
  else match r.returnType with
    | some t => "RETURNS " ++ t.render
    | none => countOf r.params.length "parameter" "parameters"

/-- When an event runs and whether it is enabled. -/
def eventDetails (e : Event) : String :=
  let schedule := if e.every.isEmpty then "AT " ++ e.executeAt
    else "EVERY " ++ e.every ++ " " ++ e.intervalUnit
  joinNonEmpty [schedule, if e.enabled then "enabled" else "disabled"]

/-- The objects of a schema: tables, views, routines, the triggers of each table, events. -/
def schemaObjects (s : Schema) : List ObjectRow :=
  s.tables.map (fun t => { name := t.name, kind := "table", details := tableDetails t }) ++
  s.views.map (fun v =>
    { name := v.name, kind := "view",
      details := joinNonEmpty [v.algorithm,
        if v.security.isEmpty then "" else "SQL SECURITY " ++ v.security, v.checkOption] }) ++
  s.routines.map (fun r =>
    { name := r.name, kind := Text.lower r.type.name, details := routineDetails r }) ++
  s.tables.flatMap (fun t => t.triggers.map fun tr =>
    { name := tr.name, kind := "trigger", details := tr.describe ++ " ON " ++ t.name }) ++
  s.events.map (fun e => { name := e.name, kind := "event", details := eventDetails e })

/-- The objects outside schemas: servers, tablespaces, logfile groups and users. -/
def globalObjects (c : Catalog) : List ObjectRow :=
  c.servers.map (fun s =>
    { name := s.name, kind := "server", details := joinNonEmpty [s.wrapper, s.host, s.database] }) ++
  c.tablespaces.map (fun ts =>
    { name := ts.name, kind := "tablespace",
      details := joinNonEmpty ([ts.dataFile] ++ (if ts.undo then ["undo"] else []) ++
        (if ts.initialSize > 0 then ["initial " ++ sizeText ts.initialSize] else []) ++
        (if ts.logfileGroupName.isEmpty then [] else ["logfile group " ++ ts.logfileGroupName]) ++
        [ts.engine]) }) ++
  c.logfileGroups.map (fun g =>
    { name := g.name, kind := "logfile group",
      details := joinNonEmpty ([g.undoFile] ++
        (if g.initialSize > 0 then ["initial " ++ sizeText g.initialSize] else []) ++
        (if g.undoBufferSize > 0 then ["undo buffer " ++ sizeText g.undoBufferSize] else []) ++
        [g.engine]) }) ++
  c.users.map (fun u => { name := u.account, kind := "user" })

/-- An object listing as a table. -/
def objectGrid (rows : List ObjectRow) : Grid :=
  { header := ["Name", "Kind", "Details"],
    rows := rows.map fun r => [.text r.name, .text r.kind, .text (orDash r.details)] }

/-- The catalog: its settings, one object table per schema, then the objects outside
schemas. -/
def catalogView (r : Renderer) (c : Catalog) : Screen :=
  match r.structured fun _ => c.toJson with
  | some s => s
  | none =>
    let version := if c.version.render.isEmpty then "latest" else c.version.render
    let settings := if r.effective == .markdown then
        r.line ("- **Server version:** " ++ version) ++
        r.line ("- **Default charset:** " ++ c.defaultCharset) ++
        r.line ("- **Default collation:** " ++ c.defaultCollation) ++ r.line ""
      else r.muted ("server " ++ version ++ ", " ++ c.defaultCharset ++ " / " ++ c.defaultCollation)
    let schemas := c.schemas.map fun s =>
      let title := "Schema " ++ s.name ++ (if s.implicit then " (implicit)" else "")
      let rows := schemaObjects s
      r.header 2 title ++ (if rows.isEmpty then r.muted "(empty)" else r.table (objectGrid rows))
    let globals := globalObjects c
    r.header 1 "Catalog" ++ settings ++ schemas.foldl (· ++ ·) {} ++
      (if globals.isEmpty then {} else r.header 2 "Server objects" ++ r.table (objectGrid globals))

/-! ### One table -/

/-- The key marker of a column, as `SHOW COLUMNS` gives it: `PRI` for the primary key, `UNI`
for the only column of a unique key, `MUL` for the first column of another key, else empty. -/
def columnKey (t : Table) (column : String) : String :=
  let primary := match t.primaryKey with
    | some id => (t.indexes.find? (fun (i : Index) => i.id == id)).map Index.columnNames
    | none => none
  if (primary.getD []).any (nameEqual false · column) then "PRI"
  else
    let step (acc : Option String × String) (i : Index) : Option String × String :=
      match acc with
      | (some done, k) => (some done, k)
      | (none, key) =>
        match i.columns.head? with
        | none => (none, key)
        | some first =>
          if !nameEqual false first.name column then (none, key)
          else if i.type == IndexType.primary then (some "PRI", key)
          else if i.type == IndexType.unique && i.columns.length == 1 then (none, "UNI")
          else (none, if key.isEmpty then "MUL" else key)
    match t.indexes.foldl step (none, "") with
    | (some k, _) => k
    | (none, key) => key

/-- The extra properties of a column. -/
def columnExtra (c : Column) : String :=
  " ".intercalate ((if c.autoIncrement then ["auto_increment"] else []) ++
    (if c.generated then
      [Text.upper (if c.generatedStorage.isEmpty then "VIRTUAL" else c.generatedStorage) ++ " GENERATED"]
     else []) ++
    (if c.onUpdate.isEmpty then [] else ["on update " ++ c.onUpdate]) ++
    (if c.invisible then ["INVISIBLE"] else []))

/-- A table: its columns, then its indexes and its foreign keys when it has any. `qualified`
is its name with its schema. -/
def tableView (r : Renderer) (t : Table) (qualified : String) : Screen :=
  match r.structured fun _ => t.toJson with
  | some s => s
  | none =>
    let columns : Grid :=
      { header := ["Column", "Type", "Null", "Key", "Default", "Extra"],
        rows := t.columns.map fun c =>
          [.text c.name, .text c.dataType.render, .text (if c.notNull then "NO" else "YES"),
           .text (orDash (columnKey t c.name)), .text (if c.hasDefault then c.default else "-"),
           .text (orDash (columnExtra c))] }
    let indexes : Grid :=
      { header := ["Index", "Type", "Columns"],
        rows := t.indexes.map fun i =>
          [.text i.name, .text i.type.name, .text (", ".intercalate i.columnNames)] }
    let fks : Grid :=
      { header := ["Foreign key", "Columns", "References", "On delete", "On update"],
        rows := t.foreignKeys.map fun fk =>
          [.text fk.name, .text (", ".intercalate fk.columnNames),
           .text (fk.referencedTableName ++ " (" ++ ", ".intercalate fk.referencedColumnNames ++ ")"),
           .text (orDash fk.onDelete), .text (orDash fk.onUpdate)] }
    r.header 2 ("Table " ++ qualified) ++ r.table columns ++
      (if t.indexes.isEmpty then {} else r.table indexes) ++
      (if t.foreignKeys.isEmpty then {} else r.table fks)

/-! ### Reports -/

/-- The problem counts of a report. -/
structure Summary where
  parseErrors : Nat
  errors : Nat
  warnings : Nat
  infos : Nat
  unresolved : Nat
  ok : Bool

/-- Counts the problems of a report. -/
def summarize (rep : Report) : Summary :=
  { parseErrors := rep.parseErrors.length,
    errors := (rep.diagnostics.filter (·.severity == .error)).length,
    warnings := (rep.diagnostics.filter (·.severity == .warning)).length,
    infos := (rep.diagnostics.filter (·.severity == .info)).length,
    unresolved := rep.unresolved.length,
    ok := !rep.hasErrors }

/-- The summary on one line. -/
def Summary.text (s : Summary) : String :=
  ", ".intercalate [countOf s.parseErrors "parse error" "parse errors",
    countOf s.errors "error" "errors", countOf s.warnings "warning" "warnings",
    countOf s.unresolved "unresolved reference" "unresolved references"]

/-- The summary as a document. -/
def Summary.toJson (s : Summary) : Json :=
  .obj [("parse_errors", .num s.parseErrors), ("errors", .num s.errors),
        ("warnings", .num s.warnings), ("infos", .num s.infos),
        ("unresolved", .num s.unresolved), ("ok", .bool s.ok)]

/-- A diagnostic as a document; the position's member names differ between JSON and YAML. -/
def diagnosticDoc (yaml : Bool) (d : Diagnostic) : Json :=
  let (line, column, offset) := if yaml then ("line", "column", "offset") else ("Line", "Column", "Offset")
  .obj ([("severity", .str d.severity.name), ("code", .str d.code.name)] ++ Json.optStr "object" d.object ++
    [("message", .str d.message),
     ("pos", .obj [(line, .num d.pos.line), (column, .num d.pos.column), (offset, .num d.pos.offset)])])

/-- An unresolved reference as a document. -/
def unresolvedDoc (e : ResolutionError) : Json :=
  .obj ([("kind", .str e.kind.name), ("owner_id", .num e.ownerId), ("owner", .str e.owner)] ++
    Json.optStr "object" e.object ++
    [("target", .str e.target.name), ("names", Json.listOrNull (e.names.map .str))])

/-- A report as a document, naming the analysed input when `source` is not empty. -/
def reportDoc (source : String) (rep : Report) (yaml : Bool) : Json :=
  .obj (Json.optStr "source" source ++
    [("unit_id", .str rep.unitId), ("statements", .num rep.statements)] ++
    Json.optList "parse_errors" (rep.parseErrors.map fun e => .str e.render) ++
    Json.optList "diagnostics" (rep.diagnostics.map (diagnosticDoc yaml)) ++
    Json.optList "unresolved" (rep.unresolved.map unresolvedDoc) ++
    [("summary", (summarize rep).toJson)])

/-- Diagnostics as a table. -/
def diagnosticsView (r : Renderer) (ds : List Diagnostic) : Screen :=
  r.table { header := ["Severity", "Code", "Location", "Object", "Message"],
            rows := ds.map fun d =>
              let place := if 0 < d.pos.line then s!"{d.pos.line}:{d.pos.column}" else "-"
              let sev := if r.effective == .text then styleText r.styled d.severity.name
                else d.severity.name
              [.text sev, .text d.code.name, .text place, .text (orDash d.object), .text d.message] }

/-- Unresolved references as a table. -/
def unresolvedView (r : Renderer) (es : List ResolutionError) : Screen :=
  r.table { header := ["Reference", "Owner", "Object", "Target", "Names"],
            rows := es.map fun e =>
              [.text e.kind.name, .text e.owner, .text (orDash e.object), .text e.target.name,
               .text (", ".intercalate e.names)] }

/-- A report: the statement count and summary, then the parse errors, diagnostics and
unresolved references it has, and on a terminal a closing summary line. -/
def reportView (r : Renderer) (source : String) (rep : Report) : Screen :=
  match r.structured (reportDoc source rep) with
  | some s => s
  | none =>
    let summary := summarize rep
    let md := r.effective == .markdown
    let head := if md then
        r.line ("- **Statements:** " ++ toString rep.statements) ++
        r.line ("- **Summary:** " ++ summary.text) ++ r.line ""
      else r.muted (countOf rep.statements "statement" "statements" ++ " analysed")
    let parseErrors := if rep.parseErrors.isEmpty then {} else
      r.header 2 "Parse errors" ++
        r.table { header := ["Location", "Message"],
                  rows := rep.parseErrors.map fun e =>
                    [.text s!"{e.pos.line}:{e.pos.column}", .text e.message] }
    let diagnostics := if rep.diagnostics.isEmpty then {} else
      r.header 2 "Diagnostics" ++ diagnosticsView r rep.diagnostics
    let unresolved := if rep.unresolved.isEmpty then {} else
      r.header 2 "Unresolved references" ++ unresolvedView r rep.unresolved
    let closing := if md then {} else
      if summary.ok then r.success summary.text else r.warning summary.text
    r.header 1 ("Report" ++ (if source.isEmpty then "" else ": " ++ source)) ++ head ++
      parseErrors ++ diagnostics ++ unresolved ++ closing

/-! ### Dependencies -/

/-- A table of a creation order with the tables it references. -/
structure OrderRow where
  table : String
  references : List String

/-- What the dependency view shows: a creation order with its levels, or a cycle; and the
tables that reference themselves. -/
structure DependencyOutput where
  order : List OrderRow := []
  levels : List (List String) := []
  cycle : List String := []
  selfReferencing : List String := []

/-- The dependency output as a document. -/
def DependencyOutput.toJson (d : DependencyOutput) : Json :=
  .obj (Json.optList "order" (d.order.map fun o =>
      .obj ([("table", .str o.table)] ++ Json.optList "references" (o.references.map .str))) ++
    Json.optList "levels" (d.levels.map Json.strs) ++
    Json.optList "cycle" (d.cycle.map .str) ++
    Json.optList "self_referencing" (d.selfReferencing.map .str))

/-- The creation order of a graph, or its cycle. -/
def DependencyOutput.ofGraph (g : DependencyGraph) : DependencyOutput :=
  let base : DependencyOutput := { selfReferencing := g.selfReferencing }
  match g.cycle with
  | some path => { base with cycle := path }
  | none =>
    match g.creationOrder, g.levels with
    | .ok order, .ok levels =>
      { base with order := order.map fun id => ⟨id, g.references id⟩, levels := levels }
    | _, _ => base

/-- A creation order as a numbered table with the levels below it, or the cycle that
prevents one. -/
def dependenciesView (r : Renderer) (d : DependencyOutput) : Screen :=
  match r.structured fun _ => d.toJson with
  | some s => s
  | none =>
    let head := r.header 1 "Creation order"
    if !d.cycle.isEmpty then
      head ++ r.warning ("foreign key cycle: " ++ " -> ".intercalate d.cycle) ++
        r.muted "no order exists; create the tables first and add the foreign keys with ALTER TABLE"
    else
      let grid : Grid :=
        { header := ["#", "Table", "References"],
          rows := d.order.zipIdx.map fun (o, i) =>
            [.number (i + 1), .text o.table, .text (orDash (", ".intercalate o.references))] }
      let levels := if d.levels.length > 1 then
          r.header 2 "Levels" ++
            (d.levels.zipIdx.map fun (l, i) => r.line (toString i ++ ". " ++ ", ".intercalate l)).foldl (· ++ ·) {} ++
            r.line ""
        else {}
      let selfRefs := if d.selfReferencing.isEmpty then {} else
        r.muted ("self-referencing: " ++ ", ".intercalate d.selfReferencing)
      head ++ r.table grid ++ levels ++ selfRefs

/-- A titled list of table names. -/
def tableListView (r : Renderer) (title : String) (names : List String) : Screen :=
  match r.structured fun _ => Json.strs names with
  | some s => s
  | none =>
    r.header 1 title ++
      if names.isEmpty then r.muted "(none)"
      else (names.map fun n => r.line (if r.effective == .markdown then "- " ++ n else n)).foldl (· ++ ·) {}

end DdlCatalog.Render
