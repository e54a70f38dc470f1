import DdlCatalog.Proofs.Spec
import DdlCatalog.Proofs.UniqueNames.Catalog
/-!
What the analysis keeps between its steps, and what a table builder keeps while it works.

The names stay apart for runs whose statements are *admissible* for a list `views` of view names:
`CREATE VIEW` takes its name from `views`, no table is created or renamed under a name of
`views`, `CREATE TABLE` copies no definition (`LIKE`) and holds no other `CREATE TABLE` (as the
parser builds it), `ALTER TABLE` renames a table only within its schema and changes a column
only with a column definition (without one, a change of an existing column faults and abandons
the statement before its primary key columns are made `NOT NULL`), and a trigger's name is
qualified by its table's schema if at all. Stub tables are never made (`stubUnresolved` off).

A builder works on a copy of its table. When attached, the copy is the table of the catalog and
the primary key columns of that one table may wait for `NOT NULL` until `finish`; when detached,
the table is not in the catalog except as an earlier copy of itself under the same name.
-/

namespace DdlCatalog.Analysis

open DdlCatalog.Catalog
open DdlCatalog.Syntax

/-! Admissible statements. -/

/-- The schema and name a name node gives. -/
def nameOf (n : Option Node) : String × String := splitQualified (identifierParts n)

/-- The `ALTER TABLE` items of `stmt` rename a table only within its schema, never after a view,
and change a column only with a column definition. -/
def AltersApart (cs : Bool) (views : List String) (stmt : Node) : Prop :=
  ∀ n, Visit.exit n ∈ stmt.walk → n.isKind .alterListItem = true →
    (nameOf (n.child .tableName)).1 = "" ∧
      (∀ v ∈ views, nameEqual cs (nameOf (n.child .tableName)).2 v = false) ∧
      (n.firstKeyword = "CHANGE" ∨ n.firstKeyword = "MODIFY" → (n.child .columnDefinition).isSome = true)

/-- A production left during the walk of `CREATE TABLE` names no table after a view and copies
no definition. -/
def CreatesApart (cs : Bool) (views : List String) (n : Node) : Prop :=
  (n.isKind .tableName = true → ∀ v ∈ views, nameEqual cs (nameOf (some n)).2 v = false) ∧
    (n.isKind .tableCreationSource = true → n.hasKeyword "LIKE" = false)

/-- Every production left during the walk of a `CREATE TABLE` statement is apart, and none
below the statement is another `CREATE TABLE`. -/
def CreatesAllApart (cs : Bool) (views : List String) (stmt : Node) : Prop :=
  (∀ n, Visit.exit n ∈ stmt.walk → CreatesApart cs views n) ∧
    ∀ n, Visit.exit n ∈ Node.walkAll stmt.children → n.isKind .createTable = false

/-- A trigger's name is qualified by its table's schema, if at all. -/
def TriggerInTableSchema (stmt : Node) : Prop :=
  (nameOf (stmt.child .qualifiedIdentifier)).1 = "" ∨
    (nameOf (stmt.child .qualifiedIdentifier)).1 = (nameOf (stmt.child .tableRef)).1

/-- A statement the analysis keeps the names for. -/
def Admissible (cs : Bool) (views : List String) (stmt : Node) : Prop :=
  (stmt.isKind .createTable = true → CreatesAllApart cs views stmt) ∧
    (stmt.isKind .alterTable = true → AltersApart cs views stmt) ∧
    (stmt.isKind .createTrigger = true → TriggerInTableSchema stmt) ∧
    (stmt.isKind .createView = true → (nameOf (stmt.child .tableName)).2 ∈ views)

/-- Holds of the production a visit leaves. -/
def Visit.Leaves (P : Node → Prop) : Visit → Prop
  | .exit n => P n
  | .enter _ => True

instance Visit.decidableLeaves {P : Node → Prop} [DecidablePred P] : DecidablePred (Visit.Leaves P)
  | .exit n => inferInstanceAs (Decidable (P n))
  | .enter _ => inferInstanceAs (Decidable True)

instance decidableExits {P : Node → Prop} [DecidablePred P] (visits : List Visit) :
    Decidable (∀ n, Visit.exit n ∈ visits → P n) :=
  decidable_of_iff (∀ v ∈ visits, Visit.Leaves P v) ⟨fun each n mem => each _ mem, fun each v mem => by
    cases v with
    | exit n => exact each n mem
    | enter _ => trivial⟩

instance (cs : Bool) (views : List String) (stmt : Node) : Decidable (AltersApart cs views stmt) :=
  decidableExits stmt.walk

instance (cs : Bool) (views : List String) (n : Node) : Decidable (CreatesApart cs views n) :=
  instDecidableAnd

instance (cs : Bool) (views : List String) (stmt : Node) : Decidable (CreatesAllApart cs views stmt) :=
  instDecidableAnd

instance (stmt : Node) : Decidable (TriggerInTableSchema stmt) := instDecidableOr

instance (cs : Bool) (views : List String) (stmt : Node) : Decidable (Admissible cs views stmt) :=
  instDecidableAnd

/-- What a deferred reference will carry out keeps the names: it copies no definition, and an
`ALTER TABLE` it replays renames apart. -/
def Reference.Admissible (cs : Bool) (views : List String) : Reference → Prop
  | .object r =>
    match r.binding with
    | .copyDefinition => False
    | .replayAlter stmt => AltersApart cs views stmt
    | _ => True
  | _ => True

/-! The state between steps. -/

/-- Names compare under `cs`, the catalog is kept, stubs are never made, and the deferred
references are admissible. -/
structure Analyzer.Kept (cs : Bool) (views : List String) (ex : Option Nat) (a : Analyzer) : Prop where
  caseSensitive : a.options.caseSensitive = cs
  catalog : a.catalog.Kept a.options.caseSensitive views ex
  noStubs : a.options.stubUnresolved = false
  refs : ∀ r ∈ a.refs.toList, r.Admissible a.options.caseSensitive views

theorem Analyzer.Kept.records {cs : Bool} {views : List String} {ex : Option Nat} {a b : Analyzer}
    (kept : a.Kept cs views ex) (records : Records a b) : b.Kept cs views ex := by
  have catalog := kept.catalog.mono_handles records.schemas records.servers records.tablespaces
    records.logfileGroups records.handles
  rw [← records.options] at catalog
  exact ⟨records.options ▸ kept.caseSensitive, catalog, records.options ▸ kept.noStubs, by
    rw [records.refs, records.options]; exact kept.refs⟩

/-! The builder. -/

namespace TableBuilder

/-- Where the builder's table stands: attached, in its schema; detached, only as an earlier copy
of itself, in its schema and under its name, and without triggers. -/
def Placed (cs : Bool) (c : Catalog) (b : TableBuilder) : Prop :=
  if b.attached then c.Holds b.schema b.table
  else b.table.triggers = [] ∧ ∀ s ∈ c.schemas, ∀ u ∈ s.tables, u.id = b.table.id →
    s.id = b.schema ∧ nameEqual cs u.name b.table.name = true

/-- The builder's table keeps its keys and handles, is no stub, and fits beside the other tables
of its schema; its schema exists; and the references it buffers are admissible. -/
structure Sound (views : List String) (a : Analyzer) (b : TableBuilder) : Prop where
  keys : b.table.Keys a.options.caseSensitive
  handles : b.table.Handles a.catalog.handles.size
  real : b.table.isStub = false
  beside : b.table.Beside a.options.caseSensitive (a.catalog.others b.schema b.table.id)
  schema : ∃ s ∈ a.catalog.schemas, s.id = b.schema
  placed : b.Placed a.options.caseSensitive a.catalog
  refs : ∀ r ∈ b.refs, r.Admissible a.options.caseSensitive views

/-- The table whose primary key may be waiting for `NOT NULL`: the builder's, when attached. -/
def exempt (b : TableBuilder) : Option Nat := if b.attached then some b.table.id else none

/-- The state is kept, save the builder's own table, and the builder is sound. -/
def Consistent (cs : Bool) (views : List String) (b : TableBuilder) (a : Analyzer) : Prop :=
  a.Kept cs views b.exempt ∧ b.Sound views a

/-- A table `t` can take the builder's place: same handle, name and triggers, and `t` keeps its
keys and handles and fits beside the other tables of the schema. -/
structure Fits (a : Analyzer) (b : TableBuilder) (t : Table) : Prop where
  id : t.id = b.table.id
  name : t.name = b.table.name
  triggers : t.triggers = b.table.triggers
  keys : t.Keys a.options.caseSensitive
  handles : t.Handles a.catalog.handles.size
  real : t.isStub = false
  beside : t.Beside a.options.caseSensitive (a.catalog.others b.schema b.table.id)

variable {cs : Bool} {views : List String}

theorem Sound.records {a a' : Analyzer} {b : TableBuilder} (sound : b.Sound views a)
    (records : Records a a') : b.Sound views a' := by
  have others : a'.catalog.others b.schema b.table.id = a.catalog.others b.schema b.table.id := by
    simp only [Catalog.others, Catalog.schemaById, records.schemas]
  have placed : b.Placed a'.options.caseSensitive a'.catalog = b.Placed a.options.caseSensitive a.catalog := by
    simp only [Placed, Catalog.Holds, records.schemas, records.options]
  refine ⟨records.options ▸ sound.keys, sound.handles.mono records.handles, sound.real, ?_, ?_,
    placed ▸ sound.placed, records.options ▸ sound.refs⟩
  · rw [others, records.options]; exact sound.beside
  · rw [records.schemas]; exact sound.schema

theorem Consistent.records {a a' : Analyzer} {b : TableBuilder} (consistent : b.Consistent cs views a)
    (records : Records a a') : b.Consistent cs views a' :=
  ⟨consistent.1.records records, consistent.2.records records⟩

/-- A step that only records keeps a builder consistent. -/
theorem consistent_recording {α : Type} {m : Analyze α} (recording : Recording m) (b : TableBuilder) :
    Spec (b.Consistent cs views) m fun _ => b.Consistent cs views :=
  recording.spec fun _ _ consistent records => consistent.records records

/-- The table of a sound builder fits in its place. -/
theorem Sound.fits {a : Analyzer} {b : TableBuilder} (sound : b.Sound views a) : b.Fits a b.table :=
  ⟨rfl, rfl, rfl, sound.keys, sound.handles, sound.real, sound.beside⟩

end TableBuilder

namespace Analyze

open TableBuilder

variable {cs : Bool} {views : List String}

theorem update_run (b : TableBuilder) (f : Table → Table) (a : Analyzer) :
    (update b f).run a = ({ b with table := f b.table },
      if b.attached then { a with catalog := a.catalog.putTable (f b.table) } else a) := by
  unfold update
  cases b.attached <;> rfl

/-- Writing a table that fits into the builder keeps it consistent. -/
theorem update_spec (b : TableBuilder) (f : Table → Table) :
    Spec (fun a => b.Consistent cs views a ∧ b.Fits a (f b.table)) (update b f)
      fun b' a => b' = { b with table := f b.table } ∧ b'.Consistent cs views a := by
  rintro a ⟨⟨kept, sound⟩, fits⟩
  rw [update_run]
  refine ⟨rfl, ?_⟩
  by_cases attached : b.attached = true
  · have holds : a.catalog.Holds b.schema b.table := by
      simpa only [Placed, attached, if_true] using sound.placed
    have exempted : b.exempt = some b.table.id := by simp [exempt, attached]
    have putKept := kept.catalog.putTable holds fits.id fits.name fits.beside fits.keys
      (fun other => absurd exempted other) fits.handles fits.real
    rw [exempted] at putKept
    have others := Catalog.others_putTable (c := a.catalog) b.schema (f b.table)
    rw [fits.id] at others
    simp only [attached, if_true]
    refine ⟨⟨kept.caseSensitive, ?_, kept.noStubs, kept.refs⟩, fits.keys, fits.handles, fits.real, ?_, ?_, ?_,
      sound.refs⟩
    · simpa [exempt, attached, fits.id] using putKept
    · simpa [fits.id, others] using fits.beside
    · obtain ⟨s, schema, same⟩ := sound.schema
      exact ⟨_, List.mem_map_of_mem schema, same⟩
    · simpa [Placed, attached] using Catalog.holds_putTable holds fits.id
  · have detached : b.attached = false := by simpa using attached
    simp only [detached]
    refine ⟨by simpa [exempt, detached] using kept, fits.keys, fits.handles, fits.real,
      fits.id ▸ fits.beside, sound.schema, ?_, sound.refs⟩
    have placed := sound.placed
    simp only [Placed, detached] at placed ⊢
    exact ⟨fits.triggers.trans placed.1, by simpa [fits.id, fits.name] using placed.2⟩

end Analyze

end DdlCatalog.Analysis
