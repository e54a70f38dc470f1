import DdlCatalog.Proofs.UniqueNames.Objects
/-!
`CREATE TABLE`, `ALTER TABLE` and `CREATE INDEX` keep the names apart. A table is built apart
from the catalog and joins its schema only under a name no table or view of the schema has;
`ALTER TABLE` and `CREATE INDEX` work on the table in place through an attached builder, and a
statement about a table not known yet waits, admissible, for the resolution pass.

Between statements no table's primary key waits for `NOT NULL`: the attached builder's table
is the only one exempt, and `finish` marks its key columns before the statement ends.
-/

namespace DdlCatalog.Syntax

namespace Node

/-! Where the walk of a statement goes. -/

theorem exit_mem_walk {n : Node} {k : NodeKind} (kind : n.isKind k = true) : Visit.exit n ∈ n.walk := by
  cases n with
  | terminal _ => simp [isKind, kind?] at kind
  | branch k' start stop cs => simp [walk]

theorem mem_walkAll {c : Node} {cs : List Node} (mem : c ∈ cs) {v : Visit} (visited : v ∈ c.walk) :
    v ∈ walkAll cs := by
  induction cs with
  | nil => cases mem
  | cons d rest ih =>
    rw [walkAll, List.mem_append]
    rcases List.mem_cons.mp mem with rfl | later
    · exact .inl visited
    · exact .inr (ih later)

/-- The walk of a production passes through the walks of its children. -/
theorem mem_walk_of_child {n c : Node} (child : c ∈ n.children) {v : Visit} (visited : v ∈ c.walk) :
    v ∈ n.walk := by
  cases n with
  | terminal _ => cases child
  | branch k start stop cs =>
    rw [walk]
    exact List.mem_cons_of_mem _ (List.mem_append_left _ (mem_walkAll child visited))

theorem walk_of_kind {n : Node} {k : NodeKind} (kind : n.isKind k = true) :
    n.walk = Visit.enter n :: walkAll n.children ++ [Visit.exit n] := by
  cases n with
  | terminal _ => simp [isKind, kind?] at kind
  | branch k' start stop cs => rw [walk]; rfl

end Node

end DdlCatalog.Syntax

namespace DdlCatalog.Analysis

open DdlCatalog.Catalog
open DdlCatalog.Syntax

variable {cs : Bool} {views : List String} {ex : Option Nat}

theorem Analyzer.Kept.exempting {a : Analyzer} (kept : a.Kept cs views none) (id : Nat) :
    a.Kept cs views (some id) :=
  ⟨kept.caseSensitive, kept.catalog.exempting id, kept.noStubs, kept.refs⟩

/-- An attached builder whose primary key is `NOT NULL` leaves no table exempt. -/
theorem TableBuilder.Consistent.released {a : Analyzer} {b : TableBuilder}
    (consistent : b.Consistent cs views a) (attached : b.attached = true)
    (notNull : b.table.PrimaryNotNull a.options.caseSensitive) : a.Kept cs views none := by
  obtain ⟨kept, sound⟩ := consistent
  have exempted : b.exempt = some b.table.id := by simp [TableBuilder.exempt, attached]
  have holds : a.catalog.Holds b.schema b.table := by
    simpa only [TableBuilder.Placed, attached, if_true] using sound.placed
  rw [exempted] at kept
  obtain ⟨s, schema, _, table⟩ := holds
  refine ⟨kept.caseSensitive, kept.catalog.released fun t mem same => ?_, kept.noStubs, kept.refs⟩
  rw [kept.catalog.table_unique mem (Catalog.mem_tables schema table) same]
  exact notNull

/-- An empty table under a fresh handle, in a schema of the catalog, makes a consistent
detached builder. -/
theorem TableBuilder.Consistent.empty_table {a : Analyzer} (kept : a.Kept cs views none) {s : Schema}
    (schema : s ∈ a.catalog.schemas) {id : Nat} (fresh : FreshHandle a.catalog id)
    (issued : id ≤ a.catalog.handles.size) (name : String) (temporary : Bool) :
    ({ table := { id := id, name := name, temporary := temporary }, schema := s.id, attached := false } :
      TableBuilder).Consistent cs views a := by
  refine ⟨kept, ⟨by simp, by simp, rfl⟩, ⟨issued, by simp, by simp, by simp, by simp, by simp, by simp⟩,
    rfl, ⟨by simp [Table.triggerNames], by simp [Table.foreignKeyNames], by simp [Table.triggerNames],
      by simp [Table.foreignKeyNames]⟩, ⟨s, schema, rfl⟩, ⟨rfl, fun s' schema' u table same => ?_⟩,
    fun r mem => nomatch mem⟩
  exact absurd same (Nat.ne_of_lt ((fresh s' schema').2.1 u table))

/-- A detached builder takes any table of the same shape. -/
theorem TableBuilder.Consistent.detached_shape {a : Analyzer} {b : TableBuilder} (consistent : b.Consistent cs views a)
    (detached : b.attached = false) {t : Table} (same : t.shape = b.table.shape) :
    { b with table := t }.Consistent cs views a := by
  have step := Analyze.update_spec b (fun _ => t) a ⟨consistent, consistent.2.fits.of_shape same⟩
  rw [Analyze.update_run] at step
  simpa only [detached, Bool.false_eq_true, if_false] using step.2

/-- A detached builder whose name is free in its schema puts its table there, attached. -/
theorem TableBuilder.Consistent.appended {a : Analyzer} {b : TableBuilder}
    (consistent : b.Consistent cs views a) (detached : b.attached = false)
    (apart : ∀ v ∈ views, nameEqual cs b.table.name v = false) {s : Schema}
    (found : a.catalog.schemaById b.schema = some s)
    (absent : s.findTable a.options.caseSensitive b.table.name = none) :
    { b with attached := true }.Consistent cs views
      { a with catalog := a.catalog.appendTable s.id b.table } := by
  obtain ⟨kept, sound⟩ := consistent
  have exempt : b.exempt = none := by simp [TableBuilder.exempt, detached]
  rw [exempt] at kept
  obtain ⟨schema, sameId⟩ := Catalog.schemaById_some found
  have placed := sound.placed
  simp only [TableBuilder.Placed, detached, Bool.false_eq_true, if_false] at placed
  -- a table with the builder's handle would stand in its schema under its name
  have fresh : ∀ u ∈ a.catalog.tables, u.id ≠ b.table.id := by
    intro u table same
    obtain ⟨s', schema', inSchema⟩ := List.mem_flatMap.mp table
    obtain ⟨inPlace, named⟩ := placed.2 s' schema' u inSchema same
    cases kept.catalog.schema_unique schema' schema (inPlace.trans sameId.symm)
    rw [(findNamed_eq_none_iff _ _ _ _).mp absent u inSchema] at named
    exact Bool.false_ne_true named
  have others : a.catalog.others b.schema b.table.id = s.tables := by
    simp only [Catalog.others, found, Option.map_some, Option.getD_some]
    exact List.filter_eq_self.mpr fun u inSchema => by
      simpa using fresh u (Catalog.mem_tables schema inSchema)
  have nameApart : ∀ u ∈ s.tables, nameEqual a.options.caseSensitive b.table.name u.name = false :=
    fun u inSchema => by
      rw [nameEqual_comm]
      exact (findNamed_eq_none_iff _ _ _ _).mp absent u inSchema
  have viewsApart : ∀ v ∈ s.views, nameEqual a.options.caseSensitive b.table.name v.name = false :=
    fun v view => by
      rw [kept.caseSensitive]
      exact apart v.name ((kept.catalog.each s schema).named v view)
  have appended := (kept.catalog.exempting b.table.id).appendTable schema fresh nameApart viewsApart
    (others ▸ sound.beside) sound.keys (fun other => absurd rfl other) sound.handles sound.real
  have joined := kept.catalog.mem_appendTable (t := b.table) schema
  -- beside the new table stand the tables that stood in the schema before
  have besideNew : (a.catalog.appendTable s.id b.table).others s.id b.table.id = s.tables := by
    rw [appended.others_split joined (rfl : (_ : Schema).tables = s.tables ++ [b.table])
      fun u mem => fresh u (Catalog.mem_tables schema (by simpa using mem))]
    simp
  refine ⟨⟨kept.caseSensitive, appended, kept.noStubs, kept.refs⟩, sound.keys, sound.handles, sound.real,
    ?_, ⟨_, joined, sameId⟩, ?_, sound.refs⟩
  · show b.table.Beside _ ((a.catalog.appendTable s.id b.table).others b.schema b.table.id)
    rw [← sameId, besideNew, ← others]
    exact sound.beside
  · show (a.catalog.appendTable s.id b.table).Holds b.schema b.table
    rw [← sameId]
    exact kept.catalog.holds_appendTable schema

namespace Analyze

open TableBuilder

/-- The table a name denotes is a table of the catalog. -/
theorem findTable_spec (parts : List String) :
    Spec (·.Kept cs views ex) (findTable parts)
      fun r a => a.Kept cs views ex ∧ ∀ t ∈ r, t ∈ a.catalog.tables := by
  unfold findTable
  simp only []
  refine Spec.bind (lookupSchema_spec _) fun found => ?_
  split
  · rename_i s
    exact Spec.bind caseSensitive_spec fun cs' => Spec.of_pure fun a ⟨⟨kept, schemas⟩, _⟩ =>
      ⟨kept, fun t found => Catalog.mem_tables (schemas s rfl) (findNamed_mem _ _ _ found).1⟩
  · exact Spec.of_pure fun a ⟨kept, _⟩ => ⟨kept, fun t found => nomatch found⟩

/-- A builder for a table of the catalog is attached to it and consistent. -/
theorem attachedBuilder_spec (t : Table) :
    Spec (fun a => a.Kept cs views none ∧ t ∈ a.catalog.tables) (attachedBuilder t)
      fun b a => (b.attached = true ∧ b.faulted = false ∧ b.table = t) ∧ b.Consistent cs views a := by
  unfold attachedBuilder
  refine Spec.bind catalog_spec fun c => Spec.of_pure fun a ⟨⟨kept, table⟩, same⟩ => ?_
  obtain ⟨s, schema, inSchema⟩ := List.mem_flatMap.mp table
  rw [same, kept.catalog.locateTable_eq schema inSchema]
  have holds : a.catalog.Holds s.id t := ⟨s, schema, rfl, inSchema⟩
  have ⟨beside, keys, handles, real, _⟩ := kept.catalog.facts_of_holds holds
  exact ⟨⟨rfl, rfl, rfl⟩, kept.exempting t.id, keys, handles, real, beside, ⟨s, schema, rfl⟩, holds,
    fun r mem => nomatch mem⟩

/-- Finishing an attached builder leaves no table exempt. -/
theorem finish_releases (b : TableBuilder) :
    Spec (fun a => b.attached = true ∧ b.Consistent cs views a) (finish b)
      fun _ a => a.Kept cs views none :=
  Spec.of_pre_fact (fun _ start => start.1) fun attached =>
    Spec.conseq (finish_spec b) (fun _ start => start.2) fun _ _ ⟨next, consistent, notNull⟩ =>
      consistent.released (next.attached.trans attached) notNull

/-- Between the items of `ALTER TABLE`: an attached builder on the table that has not faulted,
or, for a table not known, the state as kept. -/
def Altering (cs : Bool) (views : List String) : Option TableBuilder → Analyzer → Prop
  | some b, a => b.attached = true ∧ b.faulted = false ∧ b.Consistent cs views a
  | none, a => a.Kept cs views none

theorem alterTable_keeps (stmt : Node) (renames : AltersApart cs views stmt) :
    Spec (·.Kept cs views none) (alterTable stmt) fun _ a => a.Kept cs views none := by
  unfold alterTable
  simp only []
  refine Spec.bind (lookupSchema_spec _) fun schema => ?_
  refine Spec.bind (Spec.conseq (findTable_spec _) (fun _ start => start.1) fun _ _ done => done)
    fun start => ?_
  -- the builder starts on the table found; without one the walk leaves the state alone
  split
  on_goal 1 =>
    rename_i t
    refine Spec.bind (Spec.conseq (attachedBuilder_spec t) (fun _ ⟨kept, found⟩ => ⟨kept, found t rfl⟩)
      fun _ _ done => done) fun b => ?_
    rw [pure_bind]
    refine Spec.conseq (?_ : Spec (Altering cs views (some b)) _ _)
      (fun _ start => ⟨start.1.1, start.1.2.1, start.2⟩) fun _ _ done => done
  on_goal 2 =>
    rw [pure_bind]
    refine Spec.conseq (?_ : Spec (Altering cs views none) _ _) (fun _ start => start.1)
      fun _ _ done => done
  all_goals
    refine Spec.bind (Spec.forIn (Altering cs views) fun v visited acc => ?_) fun b? => ?_
    · split
      · rename_i n
        split
        · rename_i item
          split
          · rename_i b
            -- the builder has not faulted, and the item, being apart, does not fault it
            refine Spec.of_pre_fact (fun _ start => start.1) fun attached => ?_
            refine Spec.of_pre_fact (fun _ start => start.2.1) fun unfaulted => ?_
            rw [unfaulted]
            exact Spec.bind (Spec.conseq (alterItem_spec b n attached (renames n visited item))
              (fun _ start => start.2.2) fun _ _ ⟨attached', faulted, consistent⟩ =>
                ⟨attached', faulted.trans unfaulted, consistent⟩) fun _ => Spec.of_pure fun _ done => done
          · exact Spec.pure_keep
        · exact Spec.pure_keep
      · exact Spec.pure_keep
    · split
      · rename_i b
        refine Spec.of_pre_fact (fun _ start => start.1) fun attached => ?_
        refine Spec.of_pre_fact (fun _ start => start.2.1) fun unfaulted => ?_
        rw [unfaulted]
        refine Spec.conseq (?_ : Spec (fun a => b.attached = true ∧ b.Consistent cs views a) _ _)
          (fun _ start => ⟨start.1, start.2.2⟩) fun _ _ done => done
        have stable : Stable fun a => b.attached = true ∧ b.Consistent cs views a :=
          (Stable.const _).and (Consistent.stable b)
        split
        · rename_i faulted
          exact absurd faulted Bool.false_ne_true
        split
        · refine Spec.bind (Recording.spec (qualified_recording _) stable) fun _ => ?_
          refine Spec.bind (Recording.spec (partitioning_recording _ _) stable) fun _ => ?_
          refine Spec.bind (Spec.conseq (update_shape b _ rfl) (fun _ start => start.2)
            fun b' a ⟨next, consistent⟩ => (⟨next.attached.trans attached, consistent⟩ :
              b'.attached = true ∧ b'.Consistent cs views a)) fun b' => ?_
          exact Spec.bind (finish_releases b') fun _ => Spec.pure_keep
        · exact Spec.bind (finish_releases b) fun _ => Spec.pure_keep
      · -- the statement waits for the resolution pass
        refine Spec.bind (Recording.spec (debug_recording _ _) Analyzer.Kept.stable) fun _ =>
          Spec.of_modify fun a kept => kept.push fun r mem => ?_
        rw [List.mem_singleton.mp mem]
        exact renames

/-- The items of an `ALTER TABLE` statement are left during its walk. -/
theorem alterItems_visited {stmt item : Node}
    (mem : item ∈ ((stmt.child .alterList).map (·.childrenOf .alterListItem)).getD []) :
    Visit.exit item ∈ stmt.walk ∧ item.isKind .alterListItem = true := by
  cases list : stmt.child .alterList with
  | none => simp [list] at mem
  | some l =>
    simp only [list, Option.map_some, Option.getD_some, Node.childrenOf, List.mem_filter] at mem
    exact ⟨Node.mem_walk_of_child (List.mem_of_find?_eq_some list)
      (Node.mem_walk_of_child mem.1 (Node.exit_mem_walk mem.2)), mem.2⟩

theorem replayAlter_keeps (stmt : Node) (t : Table) (renames : AltersApart cs views stmt) :
    Spec (fun a => a.Kept cs views none ∧ t ∈ a.catalog.tables) (replayAlter stmt t)
      fun _ a => a.Kept cs views none := by
  unfold replayAlter
  simp only []
  refine Spec.bind (Spec.conseq (attachedBuilder_spec t) (fun _ start => start)
    fun (b : TableBuilder) a done => (⟨done.1.1, done.2⟩ : b.attached = true ∧ b.Consistent cs views a))
    fun b => ?_
  refine Spec.bind (Spec.forIn (fun (b : TableBuilder) a => b.attached = true ∧ b.Consistent cs views a)
    fun item listed acc => ?_) fun b => ?_
  · have ⟨visited, kind⟩ := alterItems_visited listed
    refine Spec.of_pre_fact (fun _ start => start.1) fun attached => ?_
    exact Spec.bind (Spec.conseq (alterItem_spec acc item attached (renames item visited kind))
      (fun _ start => start.2) fun _ _ done => ⟨done.1, done.2.2⟩) fun _ => Spec.of_pure fun _ done => done
  refine Spec.of_pre_fact (fun _ start => start.1) fun attached => ?_
  have stable : Stable fun a => b.attached = true ∧ b.Consistent cs views a :=
    (Stable.const _).and (Consistent.stable b)
  split
  · refine Spec.bind (Recording.spec (qualified_recording _) stable) fun _ => ?_
    refine Spec.bind (Recording.spec (partitioning_recording _ _) stable) fun _ => ?_
    refine Spec.bind (Spec.conseq (update_shape b _ rfl) (fun _ start => start.2)
      fun b' a ⟨next, consistent⟩ => (⟨next.attached.trans attached, consistent⟩ :
        b'.attached = true ∧ b'.Consistent cs views a)) fun b' => ?_
    exact Spec.bind (finish_releases b') fun _ => Spec.pure_keep
  · exact Spec.bind (finish_releases b) fun _ => Spec.pure_keep

/-! `CREATE INDEX` waits for the resolution pass, which adds the index in place. -/

theorem createIndex_keeps (stmt : Node) :
    Spec (·.Kept cs views ex) (createIndex stmt) fun _ a => a.Kept cs views ex := by
  unfold createIndex
  refine Spec.bind (lookupSchema_spec _) fun _ => Spec.of_modify fun a ⟨kept, _⟩ => kept.push fun r mem => ?_
  rw [List.mem_singleton.mp mem]
  trivial

theorem bindIndex_keeps (stmt : Node) (name : String) (type : IndexType) (t : Table) :
    Spec (fun a => a.Kept cs views none ∧ t ∈ a.catalog.tables) (bindIndex stmt name type t)
      fun _ a => a.Kept cs views none := by
  unfold bindIndex
  refine Spec.bind (attachedBuilder_spec t) fun b => ?_
  refine Spec.of_pre_fact (fun _ start => start.1.1) fun attached => ?_
  -- the index takes a handle above those of the table, and keeps it while it is read
  refine Spec.bind (Spec.conseq (issue_fresh (Consistent.stable b) (fun _ consistent => consistent.2.handles) _ _)
    (fun _ start => start.2) fun _ _ done => done) fun id => ?_
  have stable : Stable fun a => b.Consistent cs views a ∧ b.Fresh id a :=
    (Consistent.stable b).and (Fresh.stable b id)
  refine Spec.bind (indexDetails_id stable b _ stmt) fun idx => Spec.conseq
    (?_ : Spec (fun a => b.Consistent cs views a ∧ b.Fresh idx.id a) _ _)
    (fun _ ⟨held, same⟩ => ⟨held.1, by rw [same]; exact held.2⟩) fun _ _ done => done
  refine Spec.bind (Recording.spec (keyParts_recording _ _) ((Consistent.stable b).and (Fresh.stable b _)))
    fun cols => ?_
  simp only []
  -- the online options leave the handle alone
  split <;> split
  all_goals
    refine Spec.bind (Spec.conseq (addIndex_spec b _ _) (fun _ start => start) fun _ _ done => done)
      fun r => ?_
    obtain ⟨_, b'⟩ := r
    exact Spec.bind (Spec.conseq (finish_releases b') (fun _ ⟨next, consistent⟩ =>
      ⟨next.attached.trans attached, consistent⟩) fun _ _ done => done) fun _ => Spec.pure_keep

/-! `CREATE TABLE`. -/

/-- While `CREATE TABLE` is walked: the state is kept, no definition waits to be copied, and
the table being built is detached, sound, and named apart from the views. -/
def Building (cs : Bool) (views : List String) (w : CreateTableWalk) (a : Analyzer) : Prop :=
  a.Kept cs views none ∧ w.like = none ∧ ∀ b ∈ w.builder,
    b.attached = false ∧ b.Consistent cs views a ∧ ∀ v ∈ views, nameEqual cs b.table.name v = false

theorem Building.stable (w : CreateTableWalk) : Stable (Building cs views w) :=
  fun _ _ ⟨kept, noLike, built⟩ records => ⟨kept.records records, noLike, fun b found =>
    have ⟨detached, consistent, apart⟩ := built b found
    ⟨detached, consistent.records records, apart⟩⟩

/-- A step on the builder keeps the walk going. -/
theorem building_step {w : CreateTableWalk} {b : TableBuilder} {m : Analyze TableBuilder}
    (found : w.builder = some b)
    (step : Spec (b.Consistent cs views) m fun b' a => b'.Continues b ∧ b'.Consistent cs views a) :
    Spec (Building cs views w) m fun b' a => Building cs views { w with builder := some b' } a := by
  refine Spec.of_pre_fact (p := w.like = none ∧ b.attached = false ∧
      ∀ v ∈ views, nameEqual cs b.table.name v = false)
    (fun _ ⟨_, noLike, built⟩ => ⟨noLike, (built b found).1, (built b found).2.2⟩)
    fun ⟨noLike, detached, apart⟩ => ?_
  refine Spec.conseq step (fun _ ⟨_, _, built⟩ => (built b found).2.1) fun b' a ⟨next, consistent⟩ => ?_
  have detached' : b'.attached = false := next.attached.trans detached
  have exempt : b'.exempt = none := by simp [exempt, detached']
  refine ⟨exempt ▸ consistent.1, noLike, fun b'' found' => ?_⟩
  cases Option.some.inj found'
  exact ⟨detached', consistent, next.name ▸ apart⟩

/-- A detached builder whose table changes outside its shape keeps the walk going. -/
theorem Building.restyle {w : CreateTableWalk} {b : TableBuilder} {a : Analyzer}
    (building : Building cs views w a) (found : w.builder = some b) {t : Table}
    (same : t.shape = b.table.shape) :
    Building cs views { w with builder := some { b with table := t } } a := by
  obtain ⟨kept, noLike, built⟩ := building
  obtain ⟨detached, consistent, apart⟩ := built b found
  refine ⟨kept, noLike, fun b' found' => ?_⟩
  cases Option.some.inj found'
  have name : t.name = b.table.name := congrArg (·.2.1) same
  exact ⟨detached, consistent.detached_shape detached same, name ▸ apart⟩

/-- Completing `CREATE TABLE` attaches the table built, or refuses it for a name taken, and
leaves no table exempt. -/
theorem completeCreateTable_keeps (stmt : Node) (w : CreateTableWalk) :
    Spec (Building cs views w) (completeCreateTable stmt w) fun _ a => a.Kept cs views none := by
  unfold completeCreateTable
  split
  case h_2 => exact Spec.of_pure fun _ building => building.1
  rename_i b found
  refine Spec.of_pre_fact (p := w.like = none ∧ b.attached = false ∧
      ∀ v ∈ views, nameEqual cs b.table.name v = false)
    (fun _ building => ⟨building.2.1, (building.2.2 b found).1, (building.2.2 b found).2.2⟩)
    fun facts => ?_
  obtain ⟨noLike, detached, apart⟩ := facts
  refine Spec.conseq (?_ : Spec (b.Consistent cs views) _ _)
    (fun _ building => (building.2.2 b found).2.1) fun _ _ done => done
  have kept : ∀ a, b.Consistent cs views a → a.Kept cs views none := fun a consistent => by
    simpa [TableBuilder.exempt, detached] using consistent.1
  refine Spec.bind caseSensitive_spec fun cs' => Spec.bind schemaById_spec fun found' => ?_
  simp only []
  split
  case h_2 => exact Spec.of_pure fun a pre => kept a pre.1.1
  rename_i schema
  split
  · -- a table of that name is there, and no stub: the new one is refused
    rename_i existing named
    refine Spec.of_pre_fact (p := existing.isStub = false) (fun a pre => ?_)
      fun real => ?_
    · obtain ⟨⟨consistent, -⟩, same⟩ := pre
      obtain ⟨schema', _⟩ := Catalog.schemaById_some same.symm
      exact ((kept a consistent).catalog.each schema schema').real existing (findNamed_mem _ _ _ named).1
    rw [if_pos (by simp [real])]
    exact Recording.result ((duplicate_recording _ _ _ _).bind fun _ =>
        (releaseTable_recording _).bind fun _ => Recording.pure _) (fun _ => rfl)
      fun a _ start records => kept _ (start.1.1.records records)
  · -- the name is free: the table joins its schema and is finished there
    rename_i absent
    refine Spec.modify_bind (fun a => { b with attached := true }.Consistent cs views a)
      (fun a pre => pre.1.1.appended detached apart pre.2.symm (by rw [pre.1.2]; exact absent)) ?_
    refine Spec.bind (Spec.conseq (finish_releases _) (fun _ consistent => ⟨rfl, consistent⟩)
      fun _ _ done => done) fun _ => ?_
    simp only [noLike]
    exact Spec.bind (Recording.spec catalog_recording Analyzer.Kept.stable) fun _ =>
      Recording.spec (debug_recording _ _) Analyzer.Kept.stable

/-- A production left during the walk, other than the statement's own, keeps it building. -/
theorem createTableExit_spec (stmt : Node) (w : CreateTableWalk) (n : Node)
    (apart : CreatesApart cs views n) (inner : n.isKind .createTable = false) :
    Spec (Building cs views w) (createTableExit stmt w n) fun w' a => Building cs views w' a := by
  unfold createTableExit
  split
  case h_1 =>
    -- the table's name: an empty table under a fresh handle, in the schema named
    rename_i kind
    have viewsApart := apart.1 (by simp [Node.isKind, kind])
    unfold nameOf at viewsApart
    generalize splitQualified (identifierParts (some n)) = parts at viewsApart ⊢
    obtain ⟨schemaName, name⟩ := parts
    refine Spec.of_pre_fact (fun _ building => building.2.1) fun noLike => ?_
    refine Spec.bind (Spec.conseq (schemaFor_spec schemaName) (fun _ building => building.1)
      fun _ _ done => done) fun schema => ?_
    refine Spec.bind (issue_below (Analyzer.Kept.stable.and (Stable.schemas fun schemas _ => schema ∈ schemas))
      (fun _ start => start.1) _ _) fun id => ?_
    exact Spec.of_pure fun a ⟨⟨kept, inCatalog⟩, fresh, issued⟩ => ⟨kept, noLike, fun b found => by
      cases Option.some.inj found
      exact ⟨rfl, Consistent.empty_table kept inCatalog fresh issued _ _, viewsApart⟩⟩
  case h_2 b _ found =>
    exact Spec.bind (building_step found (insertColumn_spec b n none)) fun _ => Spec.of_pure fun _ done => done
  case h_3 b _ found =>
    exact Spec.bind (building_step found (addConstraint_spec b n)) fun _ => Spec.of_pure fun _ done => done
  case h_4 b _ found =>
    exact Spec.bind (building_step found (option_spec b n)) fun _ => Spec.of_pure fun _ done => done
  case h_5 b _ found =>
    refine Spec.bind (Recording.spec (qualified_recording _) (Building.stable w)) fun _ => ?_
    refine Spec.bind (Recording.spec (partitioning_recording _ _) (Building.stable w)) fun _ => ?_
    exact Spec.of_pure fun _ building => building.restyle found rfl
  case h_6 b kind found =>
    -- no definition is copied
    rw [if_neg (by simp [apart.2 (by simp [Node.isKind, kind])])]
    exact Spec.of_pure fun _ building => building.restyle found rfl
  case h_7 kind => simp [Node.isKind, kind] at inner
  case h_8 => exact Spec.pure_keep

/-- The statement's own production completes it. -/
theorem createTableExit_completes (stmt : Node) (w : CreateTableWalk) (n : Node)
    (own : n.isKind .createTable = true) :
    Spec (Building cs views w) (createTableExit stmt w n) fun _ a => a.Kept cs views none := by
  have kind : n.kind? = some .createTable := by simpa [Node.isKind] using own
  unfold createTableExit
  simp only [kind]
  exact Spec.bind (completeCreateTable_keeps stmt w) fun _ => Spec.pure_keep

/-- A visit of a walk that the children's walks never make is its last. -/
theorem walk_rest_nil {n : Node} {k : NodeKind} (kind : n.isKind k = true) {pre post : List Visit}
    {v : Visit} (split : n.walk = pre ++ v :: post) (entered : v ≠ Visit.enter n)
    (outside : v ∉ Node.walkAll n.children) : post = [] := by
  rw [Node.walk_of_kind kind] at split
  rcases List.eq_nil_or_concat post with empty | ⟨init, last, rfl⟩
  · exact empty
  -- otherwise `v` stands before the last visit, in the walk of the children or as the entry
  have reshaped : (Visit.enter n :: Node.walkAll n.children) ++ [Visit.exit n] =
      (pre ++ v :: init) ++ [last] := by
    simpa only [List.concat_eq_append, List.append_assoc, List.cons_append] using split
  have visited : v ∈ Visit.enter n :: Node.walkAll n.children := (List.append_inj' reshaped rfl).1 ▸ by simp
  rcases List.mem_cons.mp visited with entry | inner
  · exact absurd entry entered
  · exact absurd inner outside

theorem createTable_keeps (stmt : Node) (kind : stmt.isKind .createTable = true)
    (apart : ∀ n, Visit.exit n ∈ stmt.walk → CreatesApart cs views n)
    (single : ∀ n, Visit.exit n ∈ Node.walkAll stmt.children → n.isKind .createTable = false) :
    Spec (·.Kept cs views none) (createTable stmt) fun _ a => a.Kept cs views none := by
  unfold createTable
  -- before the statement's own production the walk is building; after it, the table is done
  refine Spec.bind (Spec.conseq (Spec.forIn_prefix
    (fun pre w a => (pre = stmt.walk ∧ a.Kept cs views none) ∨ Building cs views w a)
    fun pre v post split w => ?_) (fun _ kept => .inr ⟨kept, rfl, fun _ found => nomatch found⟩)
    fun _ _ done => done.elim (·.2) (·.1)) fun _ => Spec.pure_keep
  have shorter : pre ≠ stmt.walk := fun same => by
    rw [same] at split
    simpa using congrArg List.length split
  refine Spec.conseq (?_ : Spec (Building cs views w) _ _)
    (fun _ start => start.elim (fun done => absurd done.1 shorter) id) fun _ _ done => done
  split
  · rename_i n
    have visited : Visit.exit n ∈ stmt.walk := by simp [split]
    by_cases own : n.isKind .createTable = true
    · have last : post = [] := walk_rest_nil kind split (by simp)
        fun inner => by simp [single n inner] at own
      refine Spec.bind (createTableExit_completes stmt w n own) fun _ => Spec.of_pure fun _ kept =>
        .inl ⟨by rw [split, last], kept⟩
    · refine Spec.bind (createTableExit_spec stmt w n (apart n visited) (by simpa using own))
        fun _ => Spec.of_pure fun _ building => .inr building
  · exact Spec.of_pure fun _ building => .inr building

end Analyze

end DdlCatalog.Analysis
