import DdlCatalog.Proofs.Steps
import DdlCatalog.Proofs.UniqueNames.Catalog
/-!
Deferred statements. `CREATE INDEX` always waits for the resolution pass, and `ALTER TABLE` on a
table not known yet waits for it too; whatever the statements after them did to the table in
the meantime, the deferred change is made after them. Within one `CREATE TABLE`, the supporting
indexes of the foreign keys wait for the end of the statement and are made one key after another.
-/

namespace DdlCatalog.Analysis

open DdlCatalog.Catalog
open DdlCatalog.Syntax

namespace AnalysisUnit

/-- The statements of a script, applied together and resolved once at the end. -/
def batch (u : AnalysisUnit) (sql : String) : List Step :=
  ((parse sql u.lexOptions).1.children.filter (·.isStatement)).map .statement ++ [.finish]

/-- The statements of a script, each applied on its own and resolved at once. -/
def stepwise (u : AnalysisUnit) (sql : String) : List Step :=
  ((parse sql u.lexOptions).1.children.filter (·.isStatement)).flatMap fun n => [.statement n, .finish]

end AnalysisUnit

/-- An `ALTER TABLE` before the table's `CREATE TABLE` is replayed after every later statement:
moving the `CREATE TABLE` up changes the columns and the diagnostics. -/
theorem declaration_order_changes_columns :
    let u := AnalysisUnit.new "u" (Catalog.new {}) {}
    let late := u.run [.script
      "ALTER TABLE t ADD COLUMN c INT;\nCREATE TABLE t (id INT);\nALTER TABLE t DROP COLUMN c;", .finish]
    let early := u.run [.script
      "CREATE TABLE t (id INT);\nALTER TABLE t ADD COLUMN c INT;\nALTER TABLE t DROP COLUMN c;", .finish]
    late.catalog.tables.map (fun t => t.columns.map (·.name)) = [["id", "c"]] ∧
      late.diagnostics.length = 1 ∧
      early.catalog.tables.map (fun t => t.columns.map (·.name)) = [["id"]] ∧
      early.diagnostics.length = 0 := by
  set_option maxRecDepth 100000 in decide +kernel

/-- `CREATE INDEX` waits for the resolution pass even when its table is known, so a later
`DROP INDEX` in the same pass does not find the index, and the index is added after it. -/
theorem deferred_index_outlives_drop :
    let u := AnalysisUnit.new "u" (Catalog.new {}) {}
    let sql := "CREATE TABLE t (x INT);\nCREATE INDEX i ON t (x);\nALTER TABLE t DROP INDEX i;"
    (u.run (u.batch sql)).catalog.tables.map (fun t => t.indexes.map (·.name)) = [["i"]] ∧
      (u.run (u.batch sql)).diagnostics.length = 1 ∧
      (u.run (u.stepwise sql)).catalog.tables.map (fun t => t.indexes.map (·.name)) = [[]] ∧
      (u.run (u.stepwise sql)).diagnostics.length = 0 := by
  set_option maxRecDepth 100000 in decide +kernel

/-- The supporting indexes of a table's foreign keys are made when its `CREATE TABLE` ends, in the
order the keys were declared, and an index made for one key serves every later key whose columns
lead it: declaring the key on `(a, b)` first leaves the key on `a` without an index of its own. -/
theorem supporting_indexes_follow_declaration_order :
    let u := AnalysisUnit.new "u" (Catalog.new {}) {}
    let parents := "CREATE TABLE p (id INT PRIMARY KEY);\nCREATE TABLE q (x INT, y INT, PRIMARY KEY (x, y));\n"
    let shortFirst := u.run [.script (parents ++
      "CREATE TABLE t (a INT, b INT, FOREIGN KEY (a) REFERENCES p (id), FOREIGN KEY (a, b) REFERENCES q (x, y));"), .finish]
    let longFirst := u.run [.script (parents ++
      "CREATE TABLE t (a INT, b INT, FOREIGN KEY (a, b) REFERENCES q (x, y), FOREIGN KEY (a) REFERENCES p (id));"), .finish]
    shortFirst.catalog.tables.map (fun t => (t.name, t.indexes.map (·.name))) =
        [("p", ["PRIMARY"]), ("q", ["PRIMARY"]), ("t", ["fk_t_p", "fk_t_q"])] ∧
      longFirst.catalog.tables.map (fun t => (t.name, t.indexes.map (·.name))) =
        [("p", ["PRIMARY"]), ("q", ["PRIMARY"]), ("t", ["fk_t_q"])] ∧
      shortFirst.diagnostics.length = 0 ∧ longFirst.diagnostics.length = 0 := by
  set_option maxRecDepth 100000 in decide +kernel

/-- The source of `CREATE TABLE ... LIKE` is looked up, when the copy is made, in the schema of
the new table and not in the current schema: with `mydb` current, `b.t` copies nothing from
`mydb.s`, and its source is reported unresolved. -/
theorem like_source_binds_in_new_table_schema :
    let u := (AnalysisUnit.new "u" (Catalog.new {}) {}).run
      [.script "CREATE TABLE s (x INT);\nCREATE TABLE b.t LIKE s;", .finish]
    (u.state.current.bind u.catalog.schemaById).map (·.name) = some "mydb" ∧
      u.catalog.schemas.map (fun s => (s.name, s.tables.map fun t => (t.name, t.columns.map (·.name)))) =
        [("mydb", [("s", ["x"])]), ("b", [("t", [])])] ∧
      u.unresolved.toList.map (·.names) = [["s"]] := by
  set_option maxRecDepth 100000 in decide +kernel

end DdlCatalog.Analysis
