import DdlCatalog.Proofs.Steps
import DdlCatalog.Proofs.UniqueNames.Catalog
/-!
Links between the members of a table: a key part names its column, a foreign key names its local
columns and the index that supports it. The analysis resolves these links by handle, and a
change to the table must keep them pointing into it; the resolution pass is to bind every key
part that a column of its table is named for.
-/

namespace DdlCatalog.Catalog

namespace Table

/-- Every link a member of the table holds points into the table: a key part's column is a
column of the part's name, a foreign key's column is a column named like the name at its
position, and a foreign key's index is an index of the table. -/
structure LinksInside (cs : Bool) (t : Table) : Prop where
  keyParts : ∀ i ∈ t.indexes, ∀ ic ∈ i.columns, ∀ id, ic.column = some id →
    ∃ c ∈ t.columns, c.id = id ∧ nameEqual cs c.name ic.name = true
  foreignKeyColumns : ∀ fk ∈ t.foreignKeys, ∀ (k id : Nat), fk.columns[k]? = some (some id) →
    ∃ c ∈ t.columns, c.id = id ∧ ∃ name, fk.columnNames[k]? = some name ∧
      nameEqual cs c.name name = true
  foreignKeyIndex : ∀ fk ∈ t.foreignKeys, ∀ id, fk.index = some id → ∃ i ∈ t.indexes, i.id = id

/-- The supporting index of every foreign key serves its columns: it is an index of the table,
neither `FULLTEXT` nor `SPATIAL`, whose leading key parts are the foreign key's columns, in order
and without prefix lengths. -/
def SupportsForeignKeys (cs : Bool) (t : Table) : Prop :=
  ∀ fk ∈ t.foreignKeys, ∀ id, fk.index = some id → ∃ i ∈ t.indexes, i.id = id ∧
    i.type ≠ .fulltext ∧ i.type ≠ .spatial ∧ fk.columnNames.length ≤ i.columns.length ∧
    ∀ (k : Nat) (name : String), fk.columnNames[k]? = some name →
      ∃ ic, i.columns[k]? = some ic ∧ ic.length = 0 ∧ nameEqual cs ic.name name = true

/-- Every key part that the table can bind is bound: a named key part for which the table has a
column of that name links to a column. -/
def KeyPartsBound (cs : Bool) (t : Table) : Prop :=
  ∀ i ∈ t.indexes, ∀ ic ∈ i.columns, ic.name ≠ "" → ∀ c ∈ t.columns,
    nameEqual cs c.name ic.name = true → ic.column.isSome

end Table

end DdlCatalog.Catalog

namespace DdlCatalog.Analysis

open DdlCatalog.Catalog

/-- Dropping the column of a resolved foreign key drops its supporting index with it, yet the
foreign key still names the index. -/
theorem dropped_column_keeps_index_link :
    ¬ ∀ t ∈ ((AnalysisUnit.new "u" (Catalog.new {}) {}).run
        [.script "CREATE TABLE p (id INT PRIMARY KEY);\nCREATE TABLE c (a INT, b INT, FOREIGN KEY (a) REFERENCES p (id));",
         .finish, .script "ALTER TABLE c DROP COLUMN a;"]).catalog.tables, t.LinksInside false := by
  intro inside
  have dangling : ∃ t ∈ ((AnalysisUnit.new "u" (Catalog.new {}) {}).run
      [.script "CREATE TABLE p (id INT PRIMARY KEY);\nCREATE TABLE c (a INT, b INT, FOREIGN KEY (a) REFERENCES p (id));",
       .finish, .script "ALTER TABLE c DROP COLUMN a;"]).catalog.tables,
      ∃ fk ∈ t.foreignKeys, fk.index.isSome ∧ ∀ i ∈ t.indexes, fk.index ≠ some i.id := by
    set_option maxRecDepth 100000 in decide +kernel
  obtain ⟨t, table, fk, key, linked, gone⟩ := dangling
  obtain ⟨id, link⟩ := Option.isSome_iff_exists.mp linked
  obtain ⟨i, index, same⟩ := (inside t table).foreignKeyIndex fk key id link
  exact gone i index (by rw [link, same])

/-- A foreign key without a covering index takes the index of its own name, whatever that index
covers: the foreign key `k` on `a` is supported by the index `k` on `b`. -/
theorem supporting_index_taken_by_name :
    ¬ ∀ t ∈ ((AnalysisUnit.new "u" (Catalog.new {}) {}).run
        [.script "CREATE TABLE p (id INT PRIMARY KEY);\nCREATE TABLE c (a INT, b INT, KEY k (b), CONSTRAINT k FOREIGN KEY (a) REFERENCES p (id));",
         .finish]).catalog.tables, t.SupportsForeignKeys false := by
  intro supported
  have misplaced : ∃ t ∈ ((AnalysisUnit.new "u" (Catalog.new {}) {}).run
      [.script "CREATE TABLE p (id INT PRIMARY KEY);\nCREATE TABLE c (a INT, b INT, KEY k (b), CONSTRAINT k FOREIGN KEY (a) REFERENCES p (id));",
       .finish]).catalog.tables, ∃ fk ∈ t.foreignKeys, ∃ id, fk.index = some id ∧
        fk.columnNames = ["a"] ∧ ∀ i ∈ t.indexes, i.id = id → i.columnNames = ["b"] := by
    set_option maxRecDepth 100000 in decide +kernel
  obtain ⟨t, table, fk, key, id, link, columns, other⟩ := misplaced
  obtain ⟨i, index, same, -, -, -, leading⟩ := supported t table fk key id link
  obtain ⟨ic, first, -, named⟩ := leading 0 "a" (by rw [columns]; rfl)
  have part : ic.name = "b" := by
    have names := congrArg (·[0]?) (other i index same)
    simpa [Index.columnNames, first] using names
  rw [part] at named
  exact Bool.false_ne_true named

/-- The resolution pass plans every reference before it writes any back, so a stub column that
one reference adds to a stub table comes too late for the key parts planned against the table
without it: the key part `y` of index `i` stays unbound although `p` gains a column `y`. -/
theorem stub_column_leaves_key_part_unbound :
    ¬ ∀ t ∈ ((AnalysisUnit.new "u" (Catalog.new {}) { stubUnresolved := true }).run
        [.script "CREATE TABLE c (a INT, FOREIGN KEY (a) REFERENCES p (x));", .finish,
         .script "ALTER TABLE p ADD INDEX i (y);\nCREATE TABLE d (b INT, FOREIGN KEY (b) REFERENCES p (y));",
         .finish]).catalog.tables, t.KeyPartsBound false := by
  intro bound
  have stale : ∃ t ∈ ((AnalysisUnit.new "u" (Catalog.new {}) { stubUnresolved := true }).run
      [.script "CREATE TABLE c (a INT, FOREIGN KEY (a) REFERENCES p (x));", .finish,
       .script "ALTER TABLE p ADD INDEX i (y);\nCREATE TABLE d (b INT, FOREIGN KEY (b) REFERENCES p (y));",
       .finish]).catalog.tables, ∃ i ∈ t.indexes, ∃ ic ∈ i.columns, ic.name ≠ "" ∧
        ∃ c ∈ t.columns, nameEqual false c.name ic.name = true ∧ ic.column = none := by
    set_option maxRecDepth 100000 in decide +kernel
  obtain ⟨t, table, i, index, ic, part, named, c, column, same, unbound⟩ := stale
  have linked := bound t table i index ic part named c column same
  rw [unbound] at linked
  exact Bool.false_ne_true linked

/-- A key part of the empty name stands for an expression and binds no column, in a copy made by
`LIKE` as anywhere: `t`, copied from `r`, keeps the key part on the column of the empty name
unbound, although `r` has a column of that name. -/
theorem like_copy_leaves_empty_key_part_unbound :
    ∃ t ∈ ((AnalysisUnit.new "u" (Catalog.new {}) {}).run
        [.script "CREATE TABLE r (`` INT, KEY k (``));\nCREATE TABLE t LIKE r;", .finish]).catalog.tables,
      t.name = "t" ∧ ∃ r ∈ ((AnalysisUnit.new "u" (Catalog.new {}) {}).run
        [.script "CREATE TABLE r (`` INT, KEY k (``));\nCREATE TABLE t LIKE r;", .finish]).catalog.tables,
      r.name = "r" ∧ ∃ i ∈ t.indexes, ∃ ic ∈ i.columns, ic.column = none ∧
        ∃ c ∈ r.columns, nameEqual false c.name ic.name = true := by
  set_option maxRecDepth 100000 in decide +kernel

end DdlCatalog.Analysis
