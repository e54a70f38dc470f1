import DdlCatalog.Proofs.UniqueNames.Resolve
/-!
How the column phase of a resolution pass changes the catalog. It writes resolved handles into
indexes and foreign keys, adds schemas and stub tables under fresh handles, and appends columns
to stubs. No table is removed, renamed or moved, and a table that is no stub keeps its columns.

`Catalog.Grows` says this in terms of what lookups see: a handle or a name that found a table
still finds it, grown, and a name that found nothing finds at most a new stub. Each change the
phase makes grows the catalog, so the whole phase does. `Catalog.WellFormed` is what the changes
rely on: handles of schemas and tables are unique and issued, and the columns of a stub have
distinct names.
-/

set_option linter.dupNamespace false

namespace DdlCatalog.Catalog

open DdlCatalog.Analysis

section Lookup

variable {α : Type} (nameOf : α → String) (cs : Bool) (key : String)

/-- A lookup that finds a member of a list finds the same one in any extension of the list. -/
theorem findNamed_append_of_some {xs : List α} {x : α} (found : findNamed nameOf cs key xs = some x)
    (more : List α) : findNamed nameOf cs key (xs ++ more) = some x := by
  induction xs with
  | nil => simp [findNamed] at found
  | cons y rest ih =>
    by_cases hit : nameEqual cs (nameOf y) key = true
    · simpa [findNamed, hit] using found
    · simp only [findNamed, hit, Bool.false_eq_true, if_false, List.cons_append] at found ⊢
      exact ih found

/-- Changing members without renaming them changes what a lookup finds the same way. -/
theorem findNamed_map {f : α → α} (names : ∀ x, nameOf (f x) = nameOf x) (xs : List α) :
    findNamed nameOf cs key (xs.map f) = (findNamed nameOf cs key xs).map f := by
  induction xs with
  | nil => rfl
  | cons y rest ih =>
    by_cases hit : nameEqual cs (nameOf y) key = true
    · simp [findNamed, names, hit]
    · simp [findNamed, names, hit, ih]

end Lookup

namespace Table

/-- `u` is `t` after the column phase: the same handle, name, kind and primary key columns, with
columns appended only when `t` is a stub. -/
structure Grows (t u : Table) : Prop where
  id : u.id = t.id
  name : u.name = t.name
  isStub : u.isStub = t.isStub
  columns : t.columns <+: u.columns
  real : t.isStub = false → u.columns = t.columns
  primaryNames : u.primaryIndex.map Index.columnNames = t.primaryIndex.map Index.columnNames

namespace Grows

theorem refl (t : Table) : t.Grows t :=
  ⟨rfl, rfl, rfl, List.prefix_refl _, fun _ => rfl, rfl⟩

theorem trans {t u v : Table} (first : t.Grows u) (second : u.Grows v) : t.Grows v :=
  ⟨second.id.trans first.id, second.name.trans first.name, second.isStub.trans first.isStub,
    first.columns.trans second.columns,
    fun real => (second.real (first.isStub.trans real)).trans (first.real real),
    second.primaryNames.trans first.primaryNames⟩

/-- Writing a foreign key changes no column, name or index. -/
theorem setForeignKey (t : Table) (g : ForeignKey) : t.Grows (t.setForeignKey g) :=
  ⟨rfl, rfl, rfl, List.prefix_refl _, fun _ => rfl, rfl⟩

/-- Writing an index over the column names it had keeps the primary key columns. -/
theorem setIndex {t : Table} {i j : Index} (found : t.indexes.find? (·.id == i.id) = some j)
    (names : i.columnNames = j.columnNames) : t.Grows (t.setIndex i) := by
  refine ⟨rfl, rfl, rfl, List.prefix_refl _, fun _ => rfl, ?_⟩
  have ids : ∀ k : Index, (if k.id == i.id then i else k).id = k.id := fun k => by
    by_cases hit : k.id = i.id <;> simp [hit]
  unfold Table.primaryIndex Table.setIndex
  cases t.primaryKey with
  | none => rfl
  | some pk =>
    simp only [Option.bind_some, List.find?_map, Function.comp_def, ids, Option.map_map]
    cases hit : t.indexes.find? (·.id == pk) with
    | none => rfl
    | some k =>
      by_cases same : k.id = i.id
      · -- the primary key is the index written: the first of its handle, so the one replaced
        have key : pk = i.id := by
          have named := List.find?_some hit
          simp only [beq_iff_eq] at named
          exact named.symm.trans same
        subst key
        obtain rfl : k = j := Option.some.inj (hit.symm.trans found)
        simp [same, names]
      · simp [same]

/-- A column a table had is still the one its name finds. -/
theorem findColumn {t u : Table} (grows : t.Grows u) {cs : Bool} {n : String} {col : Column}
    (found : t.findColumn cs n = some col) : u.findColumn cs n = some col := by
  obtain ⟨more, extended⟩ := grows.columns
  rw [Table.findColumn, ← extended]
  exact findNamed_append_of_some _ _ _ found more

end Grows

end Table

/-- A lookup in two lists takes the first list's member, else the second's. -/
theorem findNamed_append {α : Type} (nameOf : α → String) (cs : Bool) (key : String)
    (xs ys : List α) :
    findNamed nameOf cs key (xs ++ ys) = (findNamed nameOf cs key xs).or (findNamed nameOf cs key ys) := by
  induction xs with
  | nil => rfl
  | cons y rest ih =>
    by_cases hit : nameEqual cs (nameOf y) key = true
    · simp [findNamed, hit]
    · simp [findNamed, hit, ih]

/-- A search whose every probe is another search's probe, transformed, finds the transformed
result. -/
theorem findSome?_eq_map_of {α β γ : Type} {F : α → Option β} {G : α → Option γ} {P : β → γ}
    (each : ∀ a, G a = (F a).map P) (l : List α) : l.findSome? G = (l.findSome? F).map P := by
  induction l with
  | nil => rfl
  | cons a rest ih =>
    rw [List.findSome?_cons, List.findSome?_cons, each a]
    cases F a <;> simp [ih]

namespace Schema

/-- `s'` is `s` after the column phase: the same handle and name; a name that found a table finds
it grown, and a name that found none finds at most a stub with a handle above `n`. -/
structure Grows (cs : Bool) (n : Nat) (s s' : Schema) : Prop where
  id : s'.id = s.id
  name : s'.name = s.name
  found : ∀ key t, s.findTable cs key = some t → ∃ u, s'.findTable cs key = some u ∧ t.Grows u
  added : ∀ key u, s.findTable cs key = none → s'.findTable cs key = some u →
    u.isStub = true ∧ n < u.id

namespace Grows

variable {cs : Bool} {n : Nat}

theorem refl (s : Schema) : s.Grows cs n s :=
  ⟨rfl, rfl, fun _ t found => ⟨t, found, .refl t⟩, fun _ _ absent found => by simp [absent] at found⟩

theorem trans {s s' s'' : Schema} (first : s.Grows cs n s') (second : s'.Grows cs n s'') :
    s.Grows cs n s'' := by
  refine ⟨second.id.trans first.id, second.name.trans first.name, fun key t found => ?_,
    fun key u absent found => ?_⟩
  · obtain ⟨u, middle, grows⟩ := first.found key t found
    obtain ⟨v, last, grows'⟩ := second.found key u middle
    exact ⟨v, last, grows.trans grows'⟩
  · cases middle : s'.findTable cs key with
    | none => exact second.added key u middle found
    | some v =>
      obtain ⟨stub, fresh⟩ := first.added key v absent middle
      obtain ⟨w, last, grows⟩ := second.found key v middle
      obtain rfl : w = u := Option.some.inj (last.symm.trans found)
      exact ⟨grows.isStub.trans stub, grows.id ▸ fresh⟩

/-- Changing the tables of a schema without renaming them, each growing. -/
theorem of_map {s : Schema} {h : Table → Table} (names : ∀ u, (h u).name = u.name)
    (grows : ∀ u ∈ s.tables, u.Grows (h u)) : s.Grows cs n { s with tables := s.tables.map h } := by
  have lookup : ∀ key, ({ s with tables := s.tables.map h } : Schema).findTable cs key =
      (s.findTable cs key).map h := fun key => findNamed_map _ _ _ names _
  refine ⟨rfl, rfl, fun key t found => ?_, fun key u absent found => ?_⟩
  · exact ⟨h t, by rw [lookup, found]; rfl, grows t (findNamed_mem _ _ _ found).1⟩
  · rw [lookup, absent] at found
    cases found

/-- Appending new stubs to a schema. -/
theorem of_append {s : Schema} {more : List Table} (stubs : ∀ u ∈ more, u.isStub = true ∧ n < u.id) :
    s.Grows cs n { s with tables := s.tables ++ more } := by
  have lookup : ∀ key, ({ s with tables := s.tables ++ more } : Schema).findTable cs key =
      (s.findTable cs key).or (findNamed (·.name) cs key more) := fun key => findNamed_append _ _ _ _ _
  refine ⟨rfl, rfl, fun key t found => ?_, fun key u absent found => ?_⟩
  · exact ⟨t, by rw [lookup, found]; rfl, .refl t⟩
  · rw [lookup, absent, Option.none_or] at found
    exact stubs u (findNamed_mem _ _ _ found).1

/-- A bound on the handles of new stubs can be lowered. -/
theorem mono {s s' : Schema} {n' : Nat} (grows : s.Grows cs n' s') (le : n ≤ n') : s.Grows cs n s' :=
  ⟨grows.id, grows.name, grows.found, fun key u absent found =>
    ⟨(grows.added key u absent found).1, Nat.lt_of_le_of_lt le (grows.added key u absent found).2⟩⟩

end Grows

end Schema

/-- What binding a foreign key records: the target table, its columns, and the names they were
looked up by. -/
def ForeignKey.binding (f : ForeignKey) : Option Nat × List (Option Nat) × List String :=
  (f.referencedTable, f.referencedColumns, f.referencedColumnNames)

namespace Catalog

/-- `d` is `c` after the column phase, with new stubs under handles above `n`: a table found by
its handle is found grown, in its schema grown; a schema found by name is found grown; and a
schema that no name found holds only new stubs. -/
structure Grows (cs : Bool) (n : Nat) (c d : Catalog) : Prop where
  located : ∀ x s t, c.locateTable x = some (s, t) →
    ∃ s' u, d.locateTable x = some (s', u) ∧ s.Grows cs n s' ∧ t.Grows u
  named : ∀ key s, c.findSchema cs key = some s →
    ∃ s', d.findSchema cs key = some s' ∧ s.Grows cs n s'
  created : ∀ key s', c.findSchema cs key = none → d.findSchema cs key = some s' →
    ∀ tkey u, s'.findTable cs tkey = some u → u.isStub = true ∧ n < u.id

namespace Grows

variable {cs : Bool} {n : Nat} {c d e : Catalog}

theorem refl (c : Catalog) : c.Grows cs n c :=
  ⟨fun _ s t found => ⟨s, t, found, .refl s, .refl t⟩, fun _ s found => ⟨s, found, .refl s⟩,
    fun _ _ absent found => by simp [absent] at found⟩

/-- A change that leaves the schemas alone grows the catalog. -/
theorem of_schemas (same : d.schemas = c.schemas) : c.Grows cs n d := by
  have located : d.locateTable = c.locateTable := by
    funext x
    simp only [locateTable, same]
  have named : d.findSchema cs = c.findSchema cs := by
    funext key
    simp only [findSchema, same]
  refine ⟨fun x s t found => ?_, fun key s found => ?_, fun key s' absent found => ?_⟩
  · exact ⟨s, t, located ▸ found, .refl s, .refl t⟩
  · exact ⟨s, named ▸ found, .refl s⟩
  · rw [named, absent] at found
    cases found

theorem trans (first : c.Grows cs n d) (second : d.Grows cs n e) : c.Grows cs n e := by
  refine ⟨fun x s t found => ?_, fun key s found => ?_, fun key s₂ absent found => ?_⟩
  · obtain ⟨s₁, u, middle, schema, table⟩ := first.located x s t found
    obtain ⟨s₂, v, last, schema', table'⟩ := second.located x s₁ u middle
    exact ⟨s₂, v, last, schema.trans schema', table.trans table'⟩
  · obtain ⟨s₁, middle, grows⟩ := first.named key s found
    obtain ⟨s₂, last, grows'⟩ := second.named key s₁ middle
    exact ⟨s₂, last, grows.trans grows'⟩
  · intro tkey u table
    cases middle : d.findSchema cs key with
    | none => exact second.created key s₂ middle found tkey u table
    | some s₁ =>
      obtain ⟨s₃, last, grows⟩ := second.named key s₁ middle
      obtain rfl : s₃ = s₂ := Option.some.inj (last.symm.trans found)
      cases before : s₁.findTable cs tkey with
      | none => exact grows.added tkey u before table
      | some v =>
        obtain ⟨stub, fresh⟩ := first.created key s₁ absent middle tkey v before
        obtain ⟨w, after, table'⟩ := grows.found tkey v before
        obtain rfl : w = u := Option.some.inj (after.symm.trans table)
        exact ⟨table'.isStub.trans stub, table'.id ▸ fresh⟩

/-- A bound on the handles of new stubs can be lowered. -/
theorem mono {n' : Nat} (grows : c.Grows cs n' d) (le : n ≤ n') : c.Grows cs n d := by
  refine ⟨fun x s t found => ?_, fun key s found => ?_, fun key s' absent found tkey u table => ?_⟩
  · obtain ⟨s', u, located, schema, table⟩ := grows.located x s t found
    exact ⟨s', u, located, schema.mono le, table⟩
  · obtain ⟨s', named, schema⟩ := grows.named key s found
    exact ⟨s', named, schema.mono le⟩
  · obtain ⟨stub, fresh⟩ := grows.created key s' absent found tkey u table
    exact ⟨stub, Nat.lt_of_le_of_lt le fresh⟩

/-- A table the catalog had is still there. -/
theorem locateTable_isSome (grows : c.Grows cs n d) {x : Nat} (owner : (c.locateTable x).isSome) :
    (d.locateTable x).isSome := by
  obtain ⟨⟨s, t⟩, located⟩ := Option.isSome_iff_exists.mp owner
  obtain ⟨s', u, located', -, -⟩ := grows.located x s t located
  simp [located']

end Grows

/-- The table a foreign key target names, from the table with handle `table` that owns the key:
an unqualified target is looked up in the schema of that table. -/
def referenced (c : Catalog) (cs : Bool) (table : Nat) (name : List String) : Option Table :=
  let (schemaName, tname) := splitQualified name
  let s := if schemaName.isEmpty then (c.locateTable table).map (·.1) else c.findSchema cs schemaName
  s.bind (·.findTable cs tname)

/-- The foreign key with handle `fk` of the table with handle `table`. -/
def key (c : Catalog) (table fk : Nat) : Option ForeignKey :=
  (c.tableById table).bind (·.foreignKeys.find? (·.id == fk))

/-- The schema a foreign key target is looked up in. -/
def targetSchema (c : Catalog) (cs : Bool) (table : Nat) (name : List String) : Option Schema :=
  if (splitQualified name).1.isEmpty then (c.locateTable table).map (·.1)
  else c.findSchema cs (splitQualified name).1

theorem referenced_eq (c : Catalog) (cs : Bool) (table : Nat) (name : List String) :
    c.referenced cs table name =
      (c.targetSchema cs table name).bind (·.findTable cs (splitQualified name).2) := by
  rcases split : splitQualified name with ⟨schemaName, tname⟩
  simp only [referenced, targetSchema, split]

variable {cs : Bool} {n : Nat} {c d : Catalog}

theorem targetSchema_mem {table : Nat} {name : List String} {S : Schema}
    (target : c.targetSchema cs table name = some S) : S ∈ c.schemas := by
  unfold targetSchema at target
  split at target
  · obtain ⟨⟨s, t⟩, located, rfl⟩ := Option.map_eq_some_iff.mp target
    exact (locateTable_some located).1
  · exact (findNamed_mem _ _ _ target).1

theorem referenced_mem {table : Nat} {name : List String} {T : Table}
    (found : c.referenced cs table name = some T) : T ∈ c.tables := by
  rw [referenced_eq] at found
  obtain ⟨S, target, member⟩ := Option.bind_eq_some_iff.mp found
  exact mem_tables (targetSchema_mem target) (findNamed_mem _ _ _ member).1

/-- Looking up a target from a table the catalog had: a table found is found grown, and where
nothing was found, at most a new stub is. -/
theorem Grows.referenced (grows : c.Grows cs n d) {table : Nat} (owner : (c.locateTable table).isSome)
    (name : List String) :
    (∀ t, c.referenced cs table name = some t → ∃ u, d.referenced cs table name = some u ∧ t.Grows u) ∧
      (c.referenced cs table name = none → ∀ u, d.referenced cs table name = some u →
        u.isStub = true ∧ n < u.id) := by
  rcases split : splitQualified name with ⟨schemaName, tname⟩
  simp only [Catalog.referenced, split]
  by_cases unqualified : schemaName.isEmpty = true
  · obtain ⟨⟨s, t⟩, located⟩ := Option.isSome_iff_exists.mp owner
    obtain ⟨s', u, located', schema, -⟩ := grows.located table s t located
    simp only [unqualified, if_true, located, located', Option.map_some, Option.bind_some]
    exact ⟨schema.found tname, fun absent u => schema.added tname u absent⟩
  · simp only [unqualified, Bool.false_eq_true, if_false]
    cases named : c.findSchema cs schemaName with
    | some s =>
      obtain ⟨s', named', schema⟩ := grows.named schemaName s named
      simp only [named', Option.bind_some]
      exact ⟨schema.found tname, fun absent u => schema.added tname u absent⟩
    | none =>
      refine ⟨fun t absent => by simp at absent, fun _ u found => ?_⟩
      cases named' : d.findSchema cs schemaName with
      | none => simp [named'] at found
      | some s' =>
        simp only [named', Option.bind_some] at found
        exact grows.created schemaName s' named named' tname u found

/-- What the column phase relies on: handles of schemas and of tables are unique and issued, and
the columns of a stub have distinct names. -/
structure WellFormed (cs : Bool) (c : Catalog) : Prop where
  schemaIds : (c.schemas.map (·.id)).Nodup
  tableIds : (c.tables.map (·.id)).Nodup
  schemasIssued : ∀ s ∈ c.schemas, s.id ≤ c.handles.size
  tablesIssued : ∀ t ∈ c.tables, t.id ≤ c.handles.size
  stubColumns : ∀ t ∈ c.tables, t.isStub = true → NamesDistinct cs (t.columns.map (·.name))

/-- A table of the catalog is the one its handle finds. -/
theorem WellFormed.tableById_eq (wf : c.WellFormed cs) {t : Table} (mem : t ∈ c.tables) :
    c.tableById t.id = some t := by
  cases found : c.tableById t.id with
  | none =>
    obtain ⟨s, schema, table⟩ := List.mem_flatMap.mp mem
    have absent := locateTable_none (Option.map_eq_none_iff.mp found) s schema t table
    exact absurd rfl absent
  | some u =>
    obtain ⟨s, schema, table, same⟩ := tableById_some found
    rw [List.inj_on_of_nodup_map wf.tableIds (mem_tables schema table) mem same]

theorem WellFormed.of_schemas (wf : c.WellFormed cs) (same : d.schemas = c.schemas)
    (more : c.handles.size ≤ d.handles.size) : d.WellFormed cs := by
  have tables : d.tables = c.tables := by simp only [Catalog.tables, same]
  refine ⟨same ▸ wf.schemaIds, tables ▸ wf.tableIds, fun s mem => ?_, fun t mem => ?_,
    tables ▸ wf.stubColumns⟩
  · exact Nat.le_trans (wf.schemasIssued s (same ▸ mem)) more
  · exact Nat.le_trans (wf.tablesIssued t (tables ▸ mem)) more

theorem key_owner {table fk : Nat} {f : ForeignKey} (found : c.key table fk = some f) :
    (c.locateTable table).isSome := by
  obtain ⟨t, located, -⟩ := Option.bind_eq_some_iff.mp found
  obtain ⟨p, hit, -⟩ := Option.map_eq_some_iff.mp located
  simp [hit]

theorem key_id {table fk : Nat} {f : ForeignKey} (found : c.key table fk = some f) : f.id = fk := by
  obtain ⟨t, -, hit⟩ := Option.bind_eq_some_iff.mp found
  simpa using List.find?_some hit

/-- The table a handle finds is the only one of that handle. -/
theorem WellFormed.eq_of_tableById (wf : c.WellFormed cs) {x : Nat} {T u : Table}
    (found : c.tableById x = some T) (mem : u ∈ c.tables) (hit : u.id = x) : u = T := by
  have located := wf.tableById_eq mem
  rw [hit, found] at located
  exact (Option.some.inj located).symm

theorem key_of_schemas (same : d.schemas = c.schemas) (table fk : Nat) :
    d.key table fk = c.key table fk := by
  simp only [Catalog.key, tableById_congr same]

/-! Changing one table in place. -/

section Modify

variable {x : Nat} {g : Table → Table}

theorem locateTable_modifyTable (ids : ∀ u, (g u).id = u.id) (y : Nat) :
    (c.modifyTable x g).locateTable y = (c.locateTable y).map fun p =>
      ({ p.1 with tables := p.1.tables.map fun u => if u.id == x then g u else u },
        if p.2.id == x then g p.2 else p.2) := by
  have kept : ∀ u : Table, (if u.id == x then g u else u).id = u.id := fun u => by
    by_cases hit : u.id = x <;> simp [hit, ids]
  unfold locateTable modifyTable
  rw [List.findSome?_map]
  refine findSome?_eq_map_of (fun s => ?_) _
  simp only [Function.comp_apply, List.find?_map, Function.comp_def, kept, Option.map_map]

theorem tableById_modifyTable (ids : ∀ u, (g u).id = u.id) (y : Nat) :
    (c.modifyTable x g).tableById y = (c.tableById y).map fun u => if u.id == x then g u else u := by
  simp only [tableById, locateTable_modifyTable ids, Option.map_map]
  rfl

theorem findSchema_modifyTable (key : String) :
    (c.modifyTable x g).findSchema cs key = (c.findSchema cs key).map fun s =>
      { s with tables := s.tables.map fun u => if u.id == x then g u else u } := by
  refine findNamed_map _ _ _ (fun _ => ?_) _
  rfl

theorem tables_modifyTable :
    (c.modifyTable x g).tables = c.tables.map fun u => if u.id == x then g u else u := by
  simp [Catalog.tables, modifyTable, List.flatMap_map, List.map_flatMap]

/-- Changing a table in place, without renaming it, grows the catalog when the change does. -/
theorem Grows.modifyTable (ids : ∀ u, (g u).id = u.id) (names : ∀ u, (g u).name = u.name)
    (grows : ∀ u ∈ c.tables, u.id = x → u.Grows (g u)) : c.Grows cs n (c.modifyTable x g) := by
  have each : ∀ u ∈ c.tables, u.Grows (if u.id == x then g u else u) := fun u mem => by
    by_cases hit : u.id = x
    · simpa [hit] using grows u mem hit
    · simpa [hit] using Table.Grows.refl u
  have renamed : ∀ u : Table, (if u.id == x then g u else u).name = u.name := fun u => by
    split <;> simp [names]
  have schema : ∀ s ∈ c.schemas,
      s.Grows cs n { s with tables := s.tables.map fun u => if u.id == x then g u else u } :=
    fun s mem => Schema.Grows.of_map renamed fun u table => each u (mem_tables mem table)
  refine ⟨fun y s t found => ?_, fun key s found => ?_, fun key s' absent found => ?_⟩
  · obtain ⟨member, table, -⟩ := locateTable_some found
    exact ⟨_, _, by rw [locateTable_modifyTable ids, found]; rfl, schema s member,
      each t (mem_tables member table)⟩
  · exact ⟨_, by rw [findSchema_modifyTable, found]; rfl, schema s (findNamed_mem _ _ _ found).1⟩
  · rw [findSchema_modifyTable, absent] at found
    cases found

theorem WellFormed.modifyTable (wf : c.WellFormed cs) (ids : ∀ u, (g u).id = u.id)
    (stubs : ∀ u ∈ c.tables, u.id = x → (g u).isStub = true →
      NamesDistinct cs ((g u).columns.map (·.name))) :
    (c.modifyTable x g).WellFormed cs := by
  have kept : ∀ u : Table, (if u.id == x then g u else u).id = u.id := fun u => by
    split <;> simp [ids]
  have schemaIds : (c.modifyTable x g).schemas.map (·.id) = c.schemas.map (·.id) := by
    simp [Catalog.modifyTable, Function.comp_def]
  have tableIds : (c.modifyTable x g).tables.map (·.id) = c.tables.map (·.id) := by
    rw [tables_modifyTable, List.map_map]
    exact List.map_congr_left fun u _ => kept u
  refine ⟨schemaIds ▸ wf.schemaIds, tableIds ▸ wf.tableIds, fun s mem => ?_, fun t mem => ?_,
    fun t mem stub => ?_⟩
  · obtain ⟨s₀, mem₀, same⟩ := List.mem_map.mp (schemaIds ▸ List.mem_map_of_mem mem)
    exact same ▸ wf.schemasIssued s₀ mem₀
  · obtain ⟨t₀, mem₀, same⟩ := List.mem_map.mp (tableIds ▸ List.mem_map_of_mem mem)
    exact same ▸ wf.tablesIssued t₀ mem₀
  · rw [tables_modifyTable] at mem
    obtain ⟨u, member, rfl⟩ := List.mem_map.mp mem
    by_cases hit : u.id = x
    · simp only [hit, beq_self_eq_true, if_true] at stub ⊢
      exact stubs u member hit stub
    · simp only [hit, beq_iff_eq, if_false] at stub ⊢
      exact wf.stubColumns u member stub

theorem key_modifyTable (ids : ∀ u, (g u).id = u.id) (keys : ∀ u, (g u).foreignKeys = u.foreignKeys)
    (table fk : Nat) : (c.modifyTable x g).key table fk = c.key table fk := by
  simp only [Catalog.key, tableById_modifyTable ids]
  cases c.tableById table with
  | none => rfl
  | some u => by_cases hit : u.id = x <;> simp [hit, keys]

/-- Appending a column to a stub that has none of that name keeps the catalog well formed and
changes no foreign key. -/
theorem addStubColumn (wf : c.WellFormed cs) {T : Table} (found : c.tableById x = some T)
    (stub : T.isStub = true) (col : Column) (absent : T.findColumn cs col.name = none) :
    let d := c.modifyTable x fun t => { t with columns := t.columns ++ [col] }
    d.WellFormed cs ∧ c.Grows cs n d ∧ (∀ t fk, d.key t fk = c.key t fk) ∧
      d.tableById x = some { T with columns := T.columns ++ [col] } ∧
      T.Grows { T with columns := T.columns ++ [col] } := by
  obtain ⟨s, schema, table, same⟩ := tableById_some found
  have only : ∀ u ∈ c.tables, u.id = x → u = T := fun u mem hit => wf.eq_of_tableById found mem hit
  have grows : T.Grows { T with columns := T.columns ++ [col] } :=
    ⟨rfl, rfl, rfl, List.prefix_append _ _, fun real => by simp [stub] at real, rfl⟩
  have ids : ∀ u : Table, ({ u with columns := u.columns ++ [col] } : Table).id = u.id :=
    fun _ => rfl
  have keys : ∀ u : Table,
      ({ u with columns := u.columns ++ [col] } : Table).foreignKeys = u.foreignKeys := fun _ => rfl
  refine ⟨wf.modifyTable ids fun u mem hit _ => ?_,
    Grows.modifyTable ids (fun _ => rfl) fun u mem hit => ?_,
    fun t fk => key_modifyTable ids keys t fk, ?_, grows⟩
  · obtain rfl := only u mem hit
    rw [List.map_append, List.map_singleton, namesDistinct_append_single]
    refine ⟨wf.stubColumns u mem stub, fun nm named => ?_⟩
    obtain ⟨other, member, rfl⟩ := List.mem_map.mp named
    exact (findNamed_eq_none_iff _ _ _ _).mp absent other member
  · obtain rfl := only u mem hit
    exact grows
  · rw [tableById_modifyTable ids, found]
    simp [same]

end Modify

/-- Writing a foreign key into a table grows the catalog. -/
theorem Grows.setForeignKey (x : Nat) (f : ForeignKey) : c.Grows cs n (c.modifyTable x (·.setForeignKey f)) :=
  Grows.modifyTable (fun _ => rfl) (fun _ => rfl) fun u _ _ => .setForeignKey u f

/-- Writing a foreign key into a table changes that key of that table and no other. -/
theorem key_setForeignKey (x : Nat) (f : ForeignKey) (table fk : Nat) :
    (c.modifyTable x (·.setForeignKey f)).key table fk =
      if table = x ∧ fk = f.id then (c.key table fk).map fun _ => f else c.key table fk := by
  have ids : ∀ u : Table, (u.setForeignKey f).id = u.id := fun _ => rfl
  simp only [Catalog.key, tableById_modifyTable ids]
  cases found : c.tableById table with
  | none => simp
  | some u =>
    obtain ⟨-, -, -, same⟩ := tableById_some found
    by_cases owner : table = x
    · subst owner
      have search : ∀ g : ForeignKey, (if g.id == f.id then f else g).id = g.id := fun g => by
        by_cases hit : g.id = f.id <;> simp [hit]
      simp only [same, beq_self_eq_true, if_true, Option.map_some, Option.bind_some,
        Table.setForeignKey, List.find?_map, Function.comp_def, search, true_and]
      cases hit : u.foreignKeys.find? (·.id == fk) with
      | none => simp
      | some g =>
        have named : g.id = fk := by simpa using List.find?_some hit
        by_cases mine : fk = f.id
        · have written : g.id = f.id := named.trans mine
          simp [mine, written]
        · have other : g.id ≠ f.id := named ▸ mine
          simp [mine, other]
    · have other : u.id ≠ x := same ▸ owner
      simp [other, owner]

/-! Appending a new table to a schema. -/

section Append

variable {sid : Nat} {u : Table}

theorem locateTable_appendTable {y : Nat} (other : u.id ≠ y) :
    (c.appendTable sid u).locateTable y = (c.locateTable y).map fun p =>
      (if p.1.id == sid then { p.1 with tables := p.1.tables ++ [u] } else p.1, p.2) := by
  unfold locateTable appendTable modifySchema
  rw [List.findSome?_map]
  refine findSome?_eq_map_of (fun s => ?_) _
  by_cases hit : s.id = sid
  · have miss : [u].find? (·.id == y) = none := by simp [other]
    simp [hit, List.find?_append, miss, Option.map_map, Function.comp_def]
  · simp [hit, Option.map_map, Function.comp_def]

theorem findSchema_appendTable (key : String) :
    (c.appendTable sid u).findSchema cs key = (c.findSchema cs key).map fun s =>
      if s.id == sid then { s with tables := s.tables ++ [u] } else s := by
  refine findNamed_map _ _ _ (fun s => ?_) _
  split <;> rfl

theorem mem_tables_appendTable {v : Table} (mem : v ∈ (c.appendTable sid u).tables) :
    v ∈ c.tables ∨ v = u := by
  simp only [Catalog.tables, appendTable, modifySchema, List.mem_flatMap, List.mem_map] at mem
  obtain ⟨_, ⟨s, schema, rfl⟩, table⟩ := mem
  by_cases hit : s.id = sid
  · simp only [hit, beq_self_eq_true, if_true, List.mem_append, List.mem_singleton] at table
    rcases table with old | rfl
    · exact Or.inl (mem_tables schema old)
    · exact Or.inr rfl
  · simp only [hit, beq_iff_eq, if_false] at table
    exact Or.inl (mem_tables schema table)

/-- Appending a stub under a handle no table has, above `n`, grows the catalog. -/
theorem Grows.appendTable (fresh : ∀ t ∈ c.tables, t.id ≠ u.id) (stub : u.isStub = true)
    (bound : n < u.id) : c.Grows cs n (c.appendTable sid u) := by
  have schema : ∀ s : Schema,
      s.Grows cs n (if s.id == sid then { s with tables := s.tables ++ [u] } else s) := fun s => by
    split
    · refine Schema.Grows.of_append fun v mem => ?_
      rw [List.mem_singleton.mp mem]
      exact ⟨stub, bound⟩
    · exact Schema.Grows.refl s
  refine ⟨fun y s t found => ?_, fun key s found => ?_, fun key s' absent found => ?_⟩
  · obtain ⟨member, table, same⟩ := locateTable_some found
    have other : u.id ≠ y := fun equal => fresh t (mem_tables member table) (same.trans equal.symm)
    exact ⟨_, t, by rw [locateTable_appendTable other, found]; rfl, schema s, .refl t⟩
  · exact ⟨_, by rw [findSchema_appendTable, found]; rfl, schema s⟩
  · rw [findSchema_appendTable, absent] at found
    cases found

theorem WellFormed.appendTable (wf : c.WellFormed cs) {s : Schema} (schema : s ∈ c.schemas)
    (fresh : ∀ t ∈ c.tables, t.id ≠ u.id) (issued : u.id ≤ c.handles.size) (empty : u.columns = []) :
    (c.appendTable s.id u).WellFormed cs := by
  obtain ⟨pre, post, split⟩ := List.append_of_mem schema
  have apart : ∀ x ∈ pre ++ post, x.id ≠ s.id := by
    have ids := wf.schemaIds
    rw [split, List.map_append, List.map_cons, List.nodup_middle, List.nodup_cons,
      ← List.map_append] at ids
    intro x mem same
    exact ids.1 (same ▸ List.mem_map_of_mem mem)
  have schemas : (c.appendTable s.id u).schemas = pre ++ { s with tables := s.tables ++ [u] } :: post :=
    modifySchema_split _ split apart
  have tables : (c.appendTable s.id u).tables.Perm (c.tables ++ [u]) := by
    simp only [Catalog.tables, schemas, split, List.flatMap_append, List.flatMap_cons,
      List.append_assoc]
    exact ((List.perm_append_singleton u _).symm.append_left _).append_left _
  have schemaIds : (c.appendTable s.id u).schemas.map (·.id) = c.schemas.map (·.id) := by
    rw [schemas, split]
    simp
  have member : ∀ v ∈ (c.appendTable s.id u).tables, v ∈ c.tables ∨ v = u := fun v mem => by
    simpa using tables.subset mem
  refine ⟨schemaIds ▸ wf.schemaIds, ?_, fun x mem => ?_, fun v mem => ?_, fun v mem stub => ?_⟩
  · rw [(tables.map (·.id)).nodup_iff, List.map_append, List.map_singleton, ← List.concat_eq_append]
    refine wf.tableIds.concat fun inOld => ?_
    obtain ⟨t, table, same⟩ := List.mem_map.mp inOld
    exact fresh t table same
  · obtain ⟨x₀, mem₀, same⟩ := List.mem_map.mp (schemaIds ▸ List.mem_map_of_mem mem)
    exact same ▸ wf.schemasIssued x₀ mem₀
  · rcases member v mem with old | rfl
    · exact wf.tablesIssued v old
    · exact issued
  · rcases member v mem with old | rfl
    · exact wf.stubColumns v old stub
    · simp [empty, NamesDistinct]

theorem key_appendTable (fresh : ∀ t ∈ c.tables, t.id ≠ u.id) (noKeys : u.foreignKeys = [])
    (table fk : Nat) : (c.appendTable sid u).key table fk = c.key table fk := by
  by_cases mine : u.id = table
  · have before : c.tableById table = none := by
      cases found : c.tableById table with
      | none => rfl
      | some t =>
        obtain ⟨s, schema, member, same⟩ := tableById_some found
        exact absurd (same.trans mine.symm) (fresh t (mem_tables schema member))
    have after : ∀ v, (c.appendTable sid u).tableById table = some v → v = u := fun v found => by
      obtain ⟨s, schema, member, same⟩ := tableById_some found
      rcases mem_tables_appendTable (mem_tables schema member) with old | new
      · exact absurd (same.trans mine.symm) (fresh v old)
      · exact new
    simp only [Catalog.key, before, Option.bind_none]
    cases found : (c.appendTable sid u).tableById table with
    | none => rfl
    | some v => simp [after v found, noKeys]
  · simp only [Catalog.key, tableById, locateTable_appendTable mine, Option.map_map]
    rfl

/-- A stub appended to the schema a target is looked up in, under the target's name, is what the
target names when nothing did before. -/
theorem referenced_appendTable {table : Nat} {name : List String} {S : Schema}
    (target : c.targetSchema cs table name = some S)
    (absent : S.findTable cs (splitQualified name).2 = none) (named : u.name = (splitQualified name).2)
    (other : u.id ≠ table) : (c.appendTable S.id u).referenced cs table name = some u := by
  have schema : (c.appendTable S.id u).targetSchema cs table name =
      some { S with tables := S.tables ++ [u] } := by
    unfold targetSchema at target ⊢
    split at target
    · rw [if_pos ‹_›, locateTable_appendTable other]
      obtain ⟨p, located, rfl⟩ := Option.map_eq_some_iff.mp target
      rw [located]
      simp
    · rw [if_neg ‹_›, findSchema_appendTable, target]
      simp
  rw [referenced_eq, schema, Option.bind_some]
  exact findNamed_append_of_none _ _ _ absent (named ▸ nameEqual_refl cs u.name)

end Append

/-! Adding a schema with no tables. -/

section AddSchema

variable {S : Schema}

theorem locateTable_addSchema (empty : S.tables = []) (y : Nat) :
    ({ c with schemas := c.schemas ++ [S] } : Catalog).locateTable y = c.locateTable y := by
  simp [locateTable, List.findSome?_append, empty]

theorem findSchema_addSchema (key : String) :
    ({ c with schemas := c.schemas ++ [S] } : Catalog).findSchema cs key =
      (c.findSchema cs key).or (findNamed (·.name) cs key [S]) :=
  findNamed_append _ _ _ _ _

theorem Grows.addSchema (empty : S.tables = []) : c.Grows cs n { c with schemas := c.schemas ++ [S] } := by
  refine ⟨fun y s t found => ?_, fun key s found => ?_, fun key s' absent found => ?_⟩
  · exact ⟨s, t, by rw [locateTable_addSchema empty, found], .refl s, .refl t⟩
  · exact ⟨s, by rw [findSchema_addSchema, found]; rfl, .refl s⟩
  · rw [findSchema_addSchema, absent, Option.none_or] at found
    obtain ⟨mem, -⟩ := findNamed_mem _ _ _ found
    obtain rfl := List.mem_singleton.mp mem
    intro tkey u table
    simp [Schema.findTable, empty, findNamed] at table

theorem WellFormed.addSchema (wf : c.WellFormed cs) (empty : S.tables = [])
    (fresh : ∀ s ∈ c.schemas, s.id ≠ S.id) (issued : S.id ≤ c.handles.size) :
    ({ c with schemas := c.schemas ++ [S] } : Catalog).WellFormed cs := by
  have tables : ({ c with schemas := c.schemas ++ [S] } : Catalog).tables = c.tables := by
    simp [Catalog.tables, empty]
  refine ⟨?_, tables ▸ wf.tableIds, fun s mem => ?_, fun t mem => ?_, tables ▸ wf.stubColumns⟩
  · rw [List.map_append, List.map_singleton, ← List.concat_eq_append]
    refine wf.schemaIds.concat fun inOld => ?_
    obtain ⟨s, schema, same⟩ := List.mem_map.mp inOld
    exact fresh s schema same
  · rcases List.mem_append.mp mem with old | new
    · exact wf.schemasIssued s old
    · rw [List.mem_singleton.mp new]
      exact issued
  · exact wf.tablesIssued t (tables ▸ mem)

theorem key_addSchema (empty : S.tables = []) (table fk : Nat) :
    ({ c with schemas := c.schemas ++ [S] } : Catalog).key table fk = c.key table fk := by
  simp only [Catalog.key, tableById, locateTable_addSchema empty]

end AddSchema

/-- Adding a stub under a new handle to the schema a target is looked up in, when the target
names no table there: the target then names the stub, and nothing else changes. -/
theorem addStub (wf : c.WellFormed cs) {table : Nat} {name : List String} {S : Schema}
    (owner : (c.locateTable table).isSome) (target : c.targetSchema cs table name = some S)
    (absent : S.findTable cs (splitQualified name).2 = none) :
    let u : Table := { id := c.handles.size + 1, name := (splitQualified name).2, isStub := true }
    let d := (c.issue .table (splitQualified name).2).2.appendTable S.id u
    d.WellFormed cs ∧ c.Grows cs c.handles.size d ∧ (∀ t fk, d.key t fk = c.key t fk) ∧
      d.referenced cs table name = some u := by
  intro u d
  let c₁ := (c.issue .table (splitQualified name).2).2
  have wf₁ : c₁.WellFormed cs := wf.of_schemas rfl (by simp [c₁, issue])
  have size : c₁.handles.size = c.handles.size + 1 := by simp [c₁, issue]
  have fresh : ∀ t ∈ c₁.tables, t.id ≠ u.id := fun t mem same => by
    have issued := wf.tablesIssued t mem
    simp only [u] at same
    omega
  obtain ⟨⟨s, t⟩, located⟩ := Option.isSome_iff_exists.mp owner
  have other : u.id ≠ table := fun same => by
    obtain ⟨schema, member, rfl⟩ := locateTable_some located
    exact fresh t (mem_tables schema member) same.symm
  refine ⟨wf₁.appendTable (targetSchema_mem target) fresh size.ge rfl,
    (Grows.of_schemas rfl : c.Grows cs c.handles.size c₁).trans
      (Grows.appendTable fresh rfl (Nat.lt_succ_self _)),
    fun t fk => (key_appendTable fresh rfl t fk).trans (key_of_schemas rfl t fk),
    referenced_appendTable target absent rfl other⟩

end Catalog

end DdlCatalog.Catalog

namespace DdlCatalog.Analysis

open DdlCatalog.Catalog

/-- The handle a name resolves to among the columns of `t`; empty names resolve to none. -/
def columnHandle (cs : Bool) (t : Table) (name : String) : Option Nat :=
  if name.isEmpty then none else (t.findColumn cs name).map (·.id)

/-- The names that resolve to no column of `t`; empty names are not missing. -/
def missingNames (cs : Bool) (t : Table) (names : List String) : List String :=
  names.filter fun name => !name.isEmpty && (t.findColumn cs name).isNone

theorem matchColumns_fold (cs : Bool) (t : Table) (names : List String) (p : Plan) :
    names.foldl (fun p name =>
      if name.isEmpty then { p with columns := p.columns ++ [none] }
      else match t.findColumn cs name with
        | some c => { p with columns := p.columns ++ [some c.id] }
        | none => { p with columns := p.columns ++ [none], missing := p.missing ++ [name] }) p =
      { p with columns := p.columns ++ names.map (columnHandle cs t),
               missing := p.missing ++ missingNames cs t names } := by
  induction names generalizing p with
  | nil => simp [missingNames]
  | cons name rest ih =>
    rw [List.foldl_cons, ih]
    by_cases empty : name.isEmpty = true
    · simp [columnHandle, missingNames, empty]
    · cases found : t.findColumn cs name <;> simp [columnHandle, missingNames, empty, found]

/-- Matching names against a table resolves each of them on its own. -/
theorem matchColumns_eq (cs : Bool) (t : Table) (names : List String) :
    matchColumns cs t names =
      { columns := names.map (columnHandle cs t), missing := missingNames cs t names } := by
  have folded := matchColumns_fold cs t names {}
  simp only [List.nil_append] at folded
  exact folded

theorem missingNames_eq_nil {cs : Bool} {t : Table} {names : List String} :
    missingNames cs t names = [] ↔ ∀ n ∈ names, n ≠ "" → (t.findColumn cs n).isSome := by
  simp [missingNames, List.filter_eq_nil_iff, Option.isSome_iff_ne_none]

/-- Names a table lacked leave nothing missing once added. -/
theorem missingNames_eq_nil_of_added {cs : Bool} {t u : Table} (grows : t.Grows u) {names : List String}
    (added : ∀ n ∈ missingNames cs t names, (u.findColumn cs n).isSome) : missingNames cs u names = [] := by
  rw [missingNames_eq_nil]
  intro n mem named
  cases found : t.findColumn cs n with
  | some col =>
    rw [grows.findColumn found]
    rfl
  | none => exact added n (by simp [missingNames, mem, named, found])

/-- Names that all resolved keep resolving to the same columns as the table grows, and a table
that is no stub keeps its columns. -/
theorem columnHandle_grows {cs : Bool} {t u : Table} (grows : t.Grows u) {names : List String}
    (found : t.isStub = true → missingNames cs t names = []) :
    names.map (columnHandle cs u) = names.map (columnHandle cs t) ∧
      missingNames cs u names = missingNames cs t names := by
  cases stub : t.isStub with
  | false =>
    have same : ∀ n, u.findColumn cs n = t.findColumn cs n := fun n => by
      rw [Table.findColumn, Table.findColumn, grows.real stub]
    simp [columnHandle, missingNames, same]
  | true =>
    have all := missingNames_eq_nil.mp (found stub)
    have same : ∀ n ∈ names, n ≠ "" → u.findColumn cs n = t.findColumn cs n := fun n mem named => by
      obtain ⟨col, hit⟩ := Option.isSome_iff_exists.mp (all n mem named)
      rw [hit, grows.findColumn hit]
    constructor
    · refine List.map_congr_left fun n mem => ?_
      by_cases empty : n = ""
      · simp [columnHandle, empty]
      · simp [columnHandle, empty, same n mem empty]
    · rw [found stub, missingNames_eq_nil]
      intro n mem named
      rw [same n mem named]
      exact all n mem named

end DdlCatalog.Analysis
