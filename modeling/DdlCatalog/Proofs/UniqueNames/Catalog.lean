import DdlCatalog.Proofs.UniqueNames.Table

set_option linter.dupNamespace false

/-!
The names a catalog keeps apart, and what the analysis keeps of a catalog between its steps.

`Catalog.UniqueNames` is the promise: under the case policy no two schemas, servers,
tablespaces or logfile groups share a name; within a schema no two tables, views, routines of one
namespace, events or triggers do, no table shares one with a view, and no two foreign keys share a
non-empty one; within a table the keys hold and the primary key columns are `NOT NULL`.

`Catalog.Kept` is what a proof carries from step to step. Beside the names it keeps the handles
(unique table and schema handles, member handles below the register's size) and that there is no
stub table; one table, `ex`, may be waiting for `NOT NULL` on its primary key columns while a
statement changes it; and every view is named from a list `views` fixed in advance, so that a
table named apart from that list can never meet a view.

A table is replaced in place: with unique handles it stands at one position of its schema, and
every condition on the schema splits into one about the table and one about the rest.
-/

namespace DdlCatalog.Catalog

/-! Objects with distinct handles: each stands at one position of its list. -/

section Split

/-- An object among objects with distinct handles stands at one position; the objects around it
have other handles. -/
theorem exists_split {α : Type} {key : α → Nat} {xs : List α} {x : α} (mem : x ∈ xs)
    (ids : (xs.map key).Nodup) :
    ∃ pre post, xs = pre ++ x :: post ∧ ∀ u ∈ pre ++ post, key u ≠ key x := by
  obtain ⟨pre, post, rfl⟩ := List.append_of_mem mem
  refine ⟨pre, post, rfl, fun u mem same => ?_⟩
  rw [List.map_append, List.map_cons] at ids
  have apart := List.nodup_middle.mp ids
  simp only [List.nodup_cons, List.mem_append, List.mem_map] at apart
  rcases List.mem_append.mp mem with inPre | inPost
  · exact apart.1 (Or.inl ⟨u, inPre, same⟩)
  · exact apart.1 (Or.inr ⟨u, inPost, same⟩)

theorem filter_split {α : Type} {key : α → Nat} {pre post : List α} {t : α}
    (apart : ∀ u ∈ pre ++ post, key u ≠ key t) :
    (pre ++ t :: post).filter (fun u => key u != key t) = pre ++ post := by
  have keep : ∀ xs : List α, (∀ u ∈ xs, key u ≠ key t) → xs.filter (fun u => key u != key t) = xs :=
    fun xs others => List.filter_eq_self.mpr fun u mem => by simp [others u mem]
  rw [List.filter_append, List.filter_cons_of_neg (by simp),
    keep pre fun u mem => apart u (List.mem_append_left _ mem),
    keep post fun u mem => apart u (List.mem_append_right _ mem)]

/-- Replacing by handle, where the handle stands at one position, replaces at that position. -/
theorem map_replace_split {α : Type} {key : α → Nat} {pre post : List α} {x y : α} {k : Nat}
    (apart : ∀ u ∈ pre ++ post, key u ≠ key x) (hit : k = key x) :
    (pre ++ x :: post).map (fun u => if key u == k then y else u) = pre ++ y :: post := by
  have keep : ∀ xs : List α, (∀ u ∈ xs, key u ≠ key x) →
      xs.map (fun u => if key u == k then y else u) = xs := fun xs others => by
    conv_rhs => rw [← List.map_id xs]
    exact List.map_congr_left fun u mem => by simp [hit, others u mem]
  rw [List.map_append, List.map_cons, if_pos (by simp [hit]),
    keep pre fun u mem => apart u (List.mem_append_left _ mem),
    keep post fun u mem => apart u (List.mem_append_right _ mem)]

/-- Replacing the member with a given handle by an image of itself is replacing it by the image
of the one member with that handle. -/
theorem map_replace_self {α : Type} {key : α → Nat} {xs : List α} {x : α} (ids : (xs.map key).Nodup)
    (mem : x ∈ xs) (g : α → α) :
    xs.map (fun u => if key u == key x then g u else u) =
      xs.map (fun u => if key u == key x then g x else u) :=
  List.map_congr_left fun u inXs => by
    by_cases hit : key u = key x
    · rw [List.inj_on_of_nodup_map ids inXs mem hit]
    · simp [hit]

/-- Taking a member out by handle and putting it in front only reorders. -/
theorem perm_cons_filter {α : Type} {key : α → Nat} {xs : List α} {x : α} (mem : x ∈ xs)
    (ids : (xs.map key).Nodup) : (x :: xs.filter (fun u => key u != key x)).Perm xs := by
  obtain ⟨pre, post, split, apart⟩ := exists_split mem ids
  rw [split, filter_split apart]
  exact List.perm_middle.symm

theorem mem_split_iff {α : Type} {pre post : List α} {x u : α} :
    u ∈ pre ++ x :: post ↔ u = x ∨ u ∈ pre ++ post := by
  simp only [List.mem_append, List.mem_cons]
  tauto

/-- Replacing one member by handle keeps a symmetric relation between the members' keys when
the newcomer stands in it to every other member. Names and handles are both kept apart this
way. -/
theorem pairwise_map_replace {α β : Type} {R : β → β → Prop} (symm : ∀ {p q}, R p q → R q p)
    {f : α → β} {key : α → Nat} {xs : List α} {x y : α} (pairwise : (xs.map f).Pairwise R)
    (ids : (xs.map key).Nodup) (mem : x ∈ xs) (apart : ∀ u ∈ xs, key u ≠ key x → R (f y) (f u)) :
    ((xs.map fun u => if key u == key x then y else u).map f).Pairwise R := by
  obtain ⟨pre, post, split, others⟩ := exists_split mem ids
  rw [split, map_replace_split others rfl]
  rw [split] at pairwise
  have perm : ((pre ++ y :: post).map f).Perm (f y :: (pre ++ post).map f) := by
    simpa only [List.map_append, List.map_cons] using List.perm_middle
  rw [perm.pairwise_iff symm, List.pairwise_cons]
  refine ⟨fun p inRest => ?_, ?_⟩
  · obtain ⟨u, inU, rfl⟩ := List.mem_map.mp inRest
    exact apart u (split ▸ mem_split_iff.mpr (Or.inr inU)) (others u inU)
  · exact pairwise.sublist (((List.sublist_cons_self x post).append_left pre).map f)

end Split

namespace Table

/-- The names of the table's triggers. -/
def triggerNames (t : Table) : List String := t.triggers.map (·.name)

/-- The names of the table's foreign keys; an unnamed one clashes with none. -/
def foreignKeyNames (t : Table) : List String := (t.foreignKeys.map (·.name)).filter (!·.isEmpty)

/-- The keys of the table, and `NOT NULL` on its primary key columns. -/
structure UniqueNames (cs : Bool) (t : Table) : Prop where
  keys : t.Keys cs
  primaryNotNull : t.PrimaryNotNull cs

/-- `t` can stand beside the other tables `rest` of its schema: the names of its triggers, and
of its named foreign keys, are distinct among themselves and from those of `rest`. -/
structure Beside (cs : Bool) (rest : List Table) (t : Table) : Prop where
  triggers : NamesDistinct cs t.triggerNames
  foreignKeys : NamesDistinct cs t.foreignKeyNames
  triggersApart : ∀ u ∈ rest, ∀ a ∈ t.triggerNames, ∀ b ∈ u.triggerNames, nameEqual cs a b = false
  foreignKeysApart :
    ∀ u ∈ rest, ∀ a ∈ t.foreignKeyNames, ∀ b ∈ u.foreignKeyNames, nameEqual cs a b = false

theorem Beside.sublist {cs : Bool} {rest others : List Table} {t : Table} (beside : t.Beside cs rest)
    (sub : others.Sublist rest) : t.Beside cs others :=
  ⟨beside.triggers, beside.foreignKeys, fun u mem => beside.triggersApart u (sub.subset mem),
    fun u mem => beside.foreignKeysApart u (sub.subset mem)⟩

/-- Beside-ness reads only the names of triggers and foreign keys. -/
theorem Beside.congr {cs : Bool} {rest : List Table} {t u : Table} (beside : t.Beside cs rest)
    (triggers : u.triggerNames = t.triggerNames) (foreignKeys : u.foreignKeyNames = t.foreignKeyNames) :
    u.Beside cs rest :=
  ⟨triggers ▸ beside.triggers, foreignKeys ▸ beside.foreignKeys, triggers ▸ beside.triggersApart,
    foreignKeys ▸ beside.foreignKeysApart⟩

theorem foreignKeyNames_append (t : Table) (fk : ForeignKey) :
    { t with foreignKeys := t.foreignKeys ++ [fk] }.foreignKeyNames =
      t.foreignKeyNames ++ (if fk.name.isEmpty then [] else [fk.name]) := by
  simp only [foreignKeyNames, List.map_append, List.map_cons, List.map_nil, List.filter_append]
  by_cases empty : fk.name.isEmpty <;> simp [empty]

/-- A foreign key whose name no foreign key of the table or of the tables beside it has can
join the table; an unnamed one always can. -/
theorem Beside.append_foreignKey {cs : Bool} {rest : List Table} {t : Table} {fk : ForeignKey}
    (beside : t.Beside cs rest)
    (own : fk.name.isEmpty = false → ∀ f ∈ t.foreignKeys, nameEqual cs f.name fk.name = false)
    (others : fk.name.isEmpty = false →
      ∀ u ∈ rest, ∀ f ∈ u.foreignKeys, nameEqual cs f.name fk.name = false) :
    { t with foreignKeys := t.foreignKeys ++ [fk] }.Beside cs rest := by
  refine ⟨beside.triggers, ?_, beside.triggersApart, ?_⟩ <;> rw [foreignKeyNames_append]
  · by_cases empty : fk.name.isEmpty
    · simpa [empty] using beside.foreignKeys
    · rw [if_neg empty, namesDistinct_append_single]
      refine ⟨beside.foreignKeys, fun name mem => ?_⟩
      simp only [foreignKeyNames, List.mem_filter, List.mem_map] at mem
      obtain ⟨⟨f, member, rfl⟩, _⟩ := mem
      exact own (by simpa using empty) f member
  · intro u mem p named q inU
    rcases List.mem_append.mp named with old | new
    · exact beside.foreignKeysApart u mem p old q inU
    · by_cases empty : fk.name.isEmpty
      · simp [empty] at new
      · simp only [if_neg empty, List.mem_singleton] at new
        simp only [foreignKeyNames, List.mem_filter, List.mem_map] at inU
        obtain ⟨⟨f, member, rfl⟩, _⟩ := inU
        rw [new, nameEqual_comm]
        exact others (by simpa using empty) u mem f member

end Table

namespace Schema

/-- Within the schema no two tables, views, routines of one namespace, events or triggers share a
name, no table shares one with a view, and no two foreign keys share a non-empty one. -/
structure NamesApart (cs : Bool) (s : Schema) : Prop where
  tables : NamesDistinct cs (s.tables.map (·.name))
  views : NamesDistinct cs (s.views.map (·.name))
  tablesViews : ∀ t ∈ s.tables, ∀ v ∈ s.views, nameEqual cs t.name v.name = false
  routines : s.routines.Pairwise fun r q =>
    r.type.sameNamespace q.type = true → nameEqual cs r.name q.name = false
  events : NamesDistinct cs (s.events.map (·.name))
  triggers : NamesDistinct cs (s.tables.flatMap Table.triggerNames)
  foreignKeys : NamesDistinct cs (s.tables.flatMap Table.foreignKeyNames)

/-- The names of the schema are apart, and so are those of each of its tables. -/
structure UniqueNames (cs : Bool) (s : Schema) : Prop where
  names : s.NamesApart cs
  each : ∀ t ∈ s.tables, t.UniqueNames cs

/-- What the analysis keeps of a schema: its names; the keys and handles of its tables, none of
them a stub; `NOT NULL` primary key columns in every table but `ex`; and view names taken from
`views`. Handles are at most `n`. -/
structure Kept (cs : Bool) (views : List String) (ex : Option Nat) (n : Nat) (s : Schema) :
    Prop where
  names : s.NamesApart cs
  keys : ∀ t ∈ s.tables, t.Keys cs
  primaryNotNull : ∀ t ∈ s.tables, ex ≠ some t.id → t.PrimaryNotNull cs
  handles : ∀ t ∈ s.tables, t.Handles n
  real : ∀ t ∈ s.tables, t.isStub = false
  named : ∀ v ∈ s.views, v.name ∈ views
  viewIds : (s.views.map (·.id)).Nodup
  viewsBelow : ∀ v ∈ s.views, v.id ≤ n
  own : s.id ≤ n

end Schema

namespace Catalog

/-- No two schemas, servers, tablespaces or logfile groups share a name. -/
structure GlobalNames (cs : Bool) (c : Catalog) : Prop where
  schemas : NamesDistinct cs (c.schemas.map (·.name))
  servers : NamesDistinct cs (c.servers.map (·.name))
  tablespaces : NamesDistinct cs (c.tablespaces.map (·.name))
  logfileGroups : NamesDistinct cs (c.logfileGroups.map (·.name))

/-- Every name the catalog keeps apart is apart under the case policy `cs`. -/
structure UniqueNames (cs : Bool) (c : Catalog) : Prop where
  globals : c.GlobalNames cs
  each : ∀ s ∈ c.schemas, s.UniqueNames cs

/-- The tables of all schemas. -/
def tables (c : Catalog) : List Table := c.schemas.flatMap (·.tables)

/-- What the analysis keeps of a catalog between its steps. -/
structure Kept (cs : Bool) (views : List String) (ex : Option Nat) (c : Catalog) : Prop where
  globals : c.GlobalNames cs
  schemaIds : (c.schemas.map (·.id)).Nodup
  tableIds : (c.tables.map (·.id)).Nodup
  each : ∀ s ∈ c.schemas, s.Kept cs views ex c.handles.size

/-- The table `t` stands in the schema with handle `sid`. -/
def Holds (c : Catalog) (sid : Nat) (t : Table) : Prop := ∃ s ∈ c.schemas, s.id = sid ∧ t ∈ s.tables

/-- The tables of the schema with handle `sid` other than the one with handle `id`. -/
def others (c : Catalog) (sid id : Nat) : List Table :=
  ((c.schemaById sid).map fun s => s.tables.filter (·.id != id)).getD []

theorem Kept.uniqueNames {cs : Bool} {views : List String} {c : Catalog}
    (kept : c.Kept cs views none) : c.UniqueNames cs := by
  refine ⟨kept.globals, fun s mem => ?_⟩
  have schema := kept.each s mem
  exact ⟨schema.names, fun t held => ⟨schema.keys t held, schema.primaryNotNull t held (by simp)⟩⟩

/-! Finding tables and schemas by handle. -/

section Handles

variable {cs : Bool} {views : List String} {ex : Option Nat} {c : Catalog}

theorem mem_tables {s : Schema} {t : Table} (schema : s ∈ c.schemas) (table : t ∈ s.tables) :
    t ∈ c.tables :=
  List.mem_flatMap.mpr ⟨s, schema, table⟩

/-- Two tables of the catalog with one handle are one table. -/
theorem Kept.table_unique (kept : c.Kept cs views ex) {t u : Table} (first : t ∈ c.tables)
    (second : u ∈ c.tables) (same : t.id = u.id) : t = u :=
  List.inj_on_of_nodup_map kept.tableIds first second same

theorem Kept.schema_unique (kept : c.Kept cs views ex) {s r : Schema} (first : s ∈ c.schemas)
    (second : r ∈ c.schemas) (same : s.id = r.id) : s = r :=
  List.inj_on_of_nodup_map kept.schemaIds first second same

theorem Kept.table_ids (kept : c.Kept cs views ex) {s : Schema} (schema : s ∈ c.schemas) :
    (s.tables.map (·.id)).Nodup :=
  kept.tableIds.sublist ((List.sublist_flatten_of_mem (List.mem_map_of_mem schema)).map _)

/-- A table stands in one schema only. -/
theorem Kept.schema_of_table (kept : c.Kept cs views ex) {s r : Schema} {t : Table}
    (first : s ∈ c.schemas) (second : r ∈ c.schemas) (inFirst : t ∈ s.tables)
    (inSecond : t ∈ r.tables) : s = r := by
  have ids := kept.tableIds
  rw [tables, List.map_flatMap, List.Nodup, List.pairwise_flatMap] at ids
  have : Std.Symm fun a b : Schema => ∀ x ∈ a.tables.map (·.id), ∀ y ∈ b.tables.map (·.id), x ≠ y :=
    ⟨fun _ _ apart x inX y inY => (apart y inY x inX).symm⟩
  by_contra other
  exact ids.2.forall first second other t.id (List.mem_map_of_mem inFirst) t.id
    (List.mem_map_of_mem inSecond) rfl

theorem schemaById_some {sid : Nat} {s : Schema} (found : c.schemaById sid = some s) :
    s ∈ c.schemas ∧ s.id = sid :=
  ⟨List.mem_of_find?_eq_some found, by simpa using List.find?_some found⟩

theorem Kept.schemaById_eq (kept : c.Kept cs views ex) {s : Schema} (schema : s ∈ c.schemas) :
    c.schemaById s.id = some s := by
  cases found : c.schemaById s.id with
  | none =>
    simp only [schemaById, List.find?_eq_none, beq_iff_eq] at found
    exact absurd rfl (found s schema)
  | some r =>
    have ⟨member, same⟩ := schemaById_some found
    rw [kept.schema_unique member schema same]

theorem modifySchema_split {pre post : List Schema} {s : Schema} (f : Schema → Schema)
    (split : c.schemas = pre ++ s :: post) (apart : ∀ x ∈ pre ++ post, x.id ≠ s.id) :
    (c.modifySchema s.id f).schemas = pre ++ f s :: post := by
  have keep : ∀ xs : List Schema, (∀ x ∈ xs, x.id ≠ s.id) →
      xs.map (fun x => if x.id == s.id then f x else x) = xs := fun xs others => by
    conv_rhs => rw [← List.map_id xs]
    exact List.map_congr_left fun x mem => by simp [others x mem]
  simp only [modifySchema, split, List.map_append, List.map_cons, beq_self_eq_true, if_true]
  rw [keep pre fun x mem => apart x (List.mem_append_left _ mem),
    keep post fun x mem => apart x (List.mem_append_right _ mem)]

/-- Where a table stands, the tables beside it are `others`. -/
theorem others_congr {c' : Catalog} (schemas : c'.schemas = c.schemas) (sid id : Nat) :
    c'.others sid id = c.others sid id := by
  simp only [others, schemaById, schemas]

theorem Kept.others_split (kept : c.Kept cs views ex) {s : Schema} {pre post : List Table}
    {t : Table} (schema : s ∈ c.schemas) (split : s.tables = pre ++ t :: post)
    (apart : ∀ u ∈ pre ++ post, u.id ≠ t.id) : c.others s.id t.id = pre ++ post := by
  simp [others, kept.schemaById_eq schema, split, filter_split apart]

theorem locateTable_some {id : Nat} {s : Schema} {t : Table} (found : c.locateTable id = some (s, t)) :
    s ∈ c.schemas ∧ t ∈ s.tables ∧ t.id = id := by
  obtain ⟨s', schema, located⟩ := List.exists_of_findSome?_eq_some found
  obtain ⟨t', table, same⟩ := Option.map_eq_some_iff.mp located
  obtain ⟨rfl, rfl⟩ := Prod.mk.inj same
  exact ⟨schema, List.mem_of_find?_eq_some table, by simpa using List.find?_some table⟩

theorem locateTable_none {id : Nat} (absent : c.locateTable id = none) :
    ∀ s ∈ c.schemas, ∀ t ∈ s.tables, t.id ≠ id := by
  intro s schema t table same
  have missing := List.findSome?_eq_none_iff.mp absent s schema
  rw [Option.map_eq_none_iff, List.find?_eq_none] at missing
  exact missing t table (by simp [same])

/-- Changing a table that is not there changes nothing. -/
theorem modifyTable_absent {id : Nat} (f : Table → Table)
    (absent : ∀ s ∈ c.schemas, ∀ t ∈ s.tables, t.id ≠ id) : c.modifyTable id f = c := by
  have schemas : (c.schemas.map fun s =>
      { s with tables := s.tables.map fun u => if u.id == id then f u else u }) = c.schemas := by
    conv_rhs => rw [← List.map_id c.schemas]
    refine List.map_congr_left fun s schema => ?_
    have tables : (s.tables.map fun u => if u.id == id then f u else u) = s.tables := by
      conv_rhs => rw [← List.map_id s.tables]
      refine List.map_congr_left fun u table => ?_
      simp [absent s schema u table]
    rw [tables]
    rfl
  unfold modifyTable
  rw [schemas]

/-- A catalog where no primary key waits is kept with any table exempt. -/
theorem Kept.exempting (kept : c.Kept cs views none) (id : Nat) : c.Kept cs views (some id) :=
  ⟨kept.globals, kept.schemaIds, kept.tableIds, fun s schema =>
    { kept.each s schema with
      primaryNotNull := fun t table _ => (kept.each s schema).primaryNotNull t table (by simp) }⟩

/-- Once the exempt table's primary key is `NOT NULL`, no table is exempt. -/
theorem Kept.released {id : Nat} (kept : c.Kept cs views (some id))
    (notNull : ∀ t ∈ c.tables, t.id = id → t.PrimaryNotNull cs) : c.Kept cs views none := by
  refine ⟨kept.globals, kept.schemaIds, kept.tableIds, fun s schema =>
    { kept.each s schema with primaryNotNull := fun t table _ => ?_ }⟩
  by_cases exempt : t.id = id
  · exact notNull t (mem_tables schema table) exempt
  · exact (kept.each s schema).primaryNotNull t table fun same => exempt (Option.some.inj same).symm

theorem Kept.locateTable_eq (kept : c.Kept cs views ex) {s : Schema} {t : Table}
    (schema : s ∈ c.schemas) (table : t ∈ s.tables) : c.locateTable t.id = some (s, t) := by
  cases located : c.locateTable t.id with
  | none => exact absurd rfl (locateTable_none located s schema t table)
  | some found =>
    obtain ⟨s', t'⟩ := found
    obtain ⟨schema', table', same⟩ := locateTable_some located
    have sameTable := kept.table_unique (mem_tables schema' table') (mem_tables schema table) same
    subst sameTable
    rw [kept.schema_of_table schema' schema table' table]

end Handles

end Catalog

namespace Schema

/-! A schema with one table changed, added or put in place of another. -/

section Tables

variable {cs : Bool} {views : List String} {ex : Option Nat} {n : Nat}

theorem Kept.mono {s : Schema} (kept : s.Kept cs views ex n) {m : Nat} (grown : n ≤ m) :
    s.Kept cs views ex m :=
  { kept with handles := fun t mem => (kept.handles t mem).mono grown,
              viewsBelow := fun v mem => Nat.le_trans (kept.viewsBelow v mem) grown,
              own := Nat.le_trans kept.own grown }

/-- The tables `t :: rest`, in any order, where `rest` are old tables: the schema is kept when
`t` fits beside `rest`. -/
theorem Kept.with_tables {s : Schema} {ts rest : List Table} {t : Table}
    (kept : s.Kept cs views ex n) (perm : ts.Perm (t :: rest)) (sub : rest.Sublist s.tables)
    (nameApart : ∀ u ∈ rest, nameEqual cs t.name u.name = false)
    (viewsApart : ∀ v ∈ s.views, nameEqual cs t.name v.name = false) (beside : t.Beside cs rest)
    (keys : t.Keys cs) (notNull : ex ≠ some t.id → t.PrimaryNotNull cs) (held : t.Handles n)
    (real : t.isStub = false) : { s with tables := ts }.Kept cs views ex n := by
  have mem : ∀ u, u ∈ ts → u = t ∨ u ∈ s.tables := fun u inTs => by
    rcases List.mem_cons.mp (perm.mem_iff.mp inTs) with same | inRest
    · exact Or.inl same
    · exact Or.inr (sub.subset inRest)
  have names := kept.names
  refine ⟨⟨?_, names.views, ?_, names.routines, names.events, ?_, ?_⟩, ?_, ?_, ?_, ?_, kept.named,
    kept.viewIds, kept.viewsBelow, kept.own⟩
  · show NamesDistinct cs (ts.map (·.name))
    rw [NamesDistinct.perm (perm.map _), List.map_cons, NamesDistinct, List.pairwise_cons]
    refine ⟨fun b inB => ?_, names.tables.sublist (sub.map _)⟩
    obtain ⟨u, inRest, rfl⟩ := List.mem_map.mp inB
    exact nameApart u inRest
  · intro u inTs v inV
    rcases mem u inTs with rfl | old
    · exact viewsApart v inV
    · exact names.tablesViews u old v inV
  · show NamesDistinct cs (ts.flatMap Table.triggerNames)
    rw [NamesDistinct.perm (perm.flatMap_right _), namesDistinct_flatMap_cons]
    exact ⟨beside.triggers, names.triggers.flatMap_sublist sub, beside.triggersApart⟩
  · show NamesDistinct cs (ts.flatMap Table.foreignKeyNames)
    rw [NamesDistinct.perm (perm.flatMap_right _), namesDistinct_flatMap_cons]
    exact ⟨beside.foreignKeys, names.foreignKeys.flatMap_sublist sub, beside.foreignKeysApart⟩
  · intro u inTs
    rcases mem u inTs with rfl | old
    exacts [keys, kept.keys u old]
  · intro u inTs
    rcases mem u inTs with rfl | old
    exacts [notNull, kept.primaryNotNull u old]
  · intro u inTs
    rcases mem u inTs with rfl | old
    exacts [held, kept.handles u old]
  · intro u inTs
    rcases mem u inTs with rfl | old
    exacts [real, kept.real u old]

/-- A table of the schema is apart in name from the tables beside it and from every view. -/
theorem Kept.apart_of_split {s : Schema} {pre post : List Table} {t : Table}
    (kept : s.Kept cs views ex n) (split : s.tables = pre ++ t :: post) :
    (∀ u ∈ pre ++ post, nameEqual cs t.name u.name = false) ∧
      ∀ v ∈ s.views, nameEqual cs t.name v.name = false := by
  have tables := kept.names.tables
  rw [split, NamesDistinct.perm (List.perm_middle.map _), List.map_cons, NamesDistinct,
    List.pairwise_cons] at tables
  refine ⟨fun u mem => tables.1 u.name (List.mem_map_of_mem mem), fun v mem => ?_⟩
  exact kept.names.tablesViews t (split ▸ List.mem_append_right _ List.mem_cons_self) v mem

/-- A table put in place of another, with a name apart from the rest of the schema. -/
theorem Kept.replace {s : Schema} {pre post : List Table} {t t' : Table}
    (kept : s.Kept cs views ex n) (split : s.tables = pre ++ t :: post)
    (nameApart : ∀ u ∈ pre ++ post, nameEqual cs t'.name u.name = false)
    (viewsApart : ∀ v ∈ s.views, nameEqual cs t'.name v.name = false)
    (beside : t'.Beside cs (pre ++ post)) (keys : t'.Keys cs)
    (notNull : ex ≠ some t'.id → t'.PrimaryNotNull cs) (held : t'.Handles n)
    (real : t'.isStub = false) : { s with tables := pre ++ t' :: post }.Kept cs views ex n :=
  kept.with_tables List.perm_middle (split ▸ (List.Sublist.refl pre).append (List.sublist_cons_self t post))
    nameApart viewsApart beside keys notNull held real

/-- A table added at the end, with a name apart from the schema's tables and views. -/
theorem Kept.append {s : Schema} {t : Table} (kept : s.Kept cs views ex n)
    (nameApart : ∀ u ∈ s.tables, nameEqual cs t.name u.name = false)
    (viewsApart : ∀ v ∈ s.views, nameEqual cs t.name v.name = false) (beside : t.Beside cs s.tables)
    (keys : t.Keys cs) (notNull : ex ≠ some t.id → t.PrimaryNotNull cs) (held : t.Handles n)
    (real : t.isStub = false) : { s with tables := s.tables ++ [t] }.Kept cs views ex n :=
  kept.with_tables (List.perm_append_singleton t s.tables) (List.Sublist.refl _) nameApart viewsApart
    beside keys notNull held real

/-- What the analysis keeps of a schema reads only its tables, views, routines, events and
handle. -/
theorem Kept.congr {s s' : Schema} (kept : s.Kept cs views ex n) (id : s'.id = s.id)
    (tables : s'.tables = s.tables) (views' : s'.views = s.views)
    (routines : s'.routines = s.routines) (events : s'.events = s.events) :
    s'.Kept cs views ex n := by
  have names := kept.names
  exact ⟨⟨tables ▸ names.tables, views' ▸ names.views, tables ▸ views' ▸ names.tablesViews,
    routines ▸ names.routines, events ▸ names.events, tables ▸ names.triggers,
    tables ▸ names.foreignKeys⟩, tables ▸ kept.keys, tables ▸ kept.primaryNotNull,
    tables ▸ kept.handles, tables ▸ kept.real, views' ▸ kept.named, views' ▸ kept.viewIds,
    views' ▸ kept.viewsBelow, id ▸ kept.own⟩

theorem kept_empty {s : Schema} (tables : s.tables = []) (views' : s.views = [])
    (routines : s.routines = []) (events : s.events = []) (own : s.id ≤ n) :
    s.Kept cs views ex n := by
  refine ⟨⟨?_, ?_, ?_, ?_, ?_, ?_, ?_⟩, ?_, ?_, ?_, ?_, ?_, ?_, ?_, own⟩ <;>
    simp [tables, views', routines, events, NamesDistinct]

/-- A routine whose name is new to its namespace. -/
theorem Kept.addRoutine {s : Schema} {r : Routine} (kept : s.Kept cs views ex n)
    (fresh : s.findRoutine cs r.name r.type = none) :
    { s with routines := s.routines ++ [r] }.Kept cs views ex n := by
  refine { kept with names := { kept.names with routines := ?_ } }
  rw [findRoutine, List.find?_eq_none] at fresh
  refine List.pairwise_append.mpr ⟨kept.names.routines, List.pairwise_singleton _ _, ?_⟩
  intro q mem p single shared
  rw [List.mem_singleton.mp single] at shared ⊢
  have other := fresh q mem
  simp only [Bool.and_eq_true, not_and] at other
  cases hit : nameEqual cs q.name r.name
  · rfl
  · exact absurd hit (other shared)

/-- An event with a new name. -/
theorem Kept.addEvent {s : Schema} {e : Event} (kept : s.Kept cs views ex n)
    (fresh : s.findEvent cs e.name = none) :
    { s with events := s.events ++ [e] }.Kept cs views ex n := by
  refine { kept with names := { kept.names with events := ?_ } }
  rw [findEvent, findNamed_eq_none_iff] at fresh
  simpa [namesDistinct_append_single] using And.intro kept.names.events fresh

/-- A view with a name new among the tables and views, taken from `views`, and a new handle. -/
theorem Kept.addView {s : Schema} {v : View} (kept : s.Kept cs views ex n)
    (noTable : s.findTable cs v.name = none) (noView : s.findView cs v.name = none)
    (named : v.name ∈ views) (freshId : ∀ w ∈ s.views, w.id ≠ v.id) (below : v.id ≤ n) :
    { s with views := s.views ++ [v] }.Kept cs views ex n := by
  rw [findTable, findNamed_eq_none_iff] at noTable
  rw [findView, findNamed_eq_none_iff] at noView
  have names := kept.names
  refine ⟨⟨names.tables, ?_, ?_, names.routines, names.events, names.triggers,
    names.foreignKeys⟩, kept.keys, kept.primaryNotNull, kept.handles, kept.real, ?_, ?_, ?_,
    kept.own⟩
  · simpa [namesDistinct_append_single] using And.intro names.views noView
  · intro t table w mem
    rcases List.mem_append.mp mem with old | new
    · exact names.tablesViews t table w old
    · rw [List.mem_singleton.mp new]
      exact noTable t table
  · intro w mem
    rcases List.mem_append.mp mem with old | new
    · exact kept.named w old
    · rw [List.mem_singleton.mp new]
      exact named
  · show ((s.views ++ [v]).map (·.id)).Nodup
    rw [List.map_append, List.nodup_append]
    refine ⟨kept.viewIds, List.nodup_singleton _, fun i inOld j inNew same => ?_⟩
    obtain ⟨w, inViews, rfl⟩ := List.mem_map.mp inOld
    rw [List.map_cons, List.map_nil, List.mem_singleton] at inNew
    exact freshId w inViews (same.trans inNew)
  · intro w mem
    rcases List.mem_append.mp mem with old | new
    · exact kept.viewsBelow w old
    · rw [List.mem_singleton.mp new]
      exact below

/-- A view put in place of one with the same name under the case policy; the new view has a new
handle. -/
theorem Kept.replaceView {s : Schema} {old v : View} (kept : s.Kept cs views ex n)
    (existing : old ∈ s.views) (same : nameEqual cs old.name v.name = true)
    (noTable : s.findTable cs v.name = none) (named : v.name ∈ views)
    (freshId : ∀ w ∈ s.views, w.id ≠ v.id) (below : v.id ≤ n) :
    { s with views := s.views.map fun (w : View) => if w.id == old.id then v else w }.Kept cs views ex n := by
  rw [findTable, findNamed_eq_none_iff] at noTable
  obtain ⟨pre, post, split, apart⟩ := exists_split existing kept.viewIds
  have names := kept.names
  have distinct := names.views
  rw [split, NamesDistinct.perm (List.perm_middle.map _), List.map_cons, NamesDistinct,
    List.pairwise_cons] at distinct
  have mem : ∀ w, w ∈ pre ++ v :: post → w = v ∨ w ∈ s.views := fun w inNew => by
    rcases mem_split_iff.mp inNew with rfl | other
    · exact Or.inl rfl
    · exact Or.inr (split ▸ mem_split_iff.mpr (Or.inr other))
  show Schema.Kept cs views ex n
    { s with views := s.views.map fun (w : View) => if w.id == old.id then v else w }
  rw [split, map_replace_split apart rfl]
  refine ⟨⟨names.tables, ?_, ?_, names.routines, names.events, names.triggers,
    names.foreignKeys⟩, kept.keys, kept.primaryNotNull, kept.handles, kept.real, ?_, ?_, ?_,
    kept.own⟩
  · show NamesDistinct cs ((pre ++ v :: post).map (·.name))
    rw [NamesDistinct.perm (List.perm_middle.map _), List.map_cons, NamesDistinct,
      List.pairwise_cons]
    refine ⟨fun b inB => nameEqual_false_of_left same (distinct.1 b inB), distinct.2⟩
  · intro t table w inNew
    rcases mem w inNew with rfl | other
    · exact noTable t table
    · exact names.tablesViews t table w other
  · intro w inNew
    rcases mem w inNew with rfl | other
    exacts [named, kept.named w other]
  · show ((pre ++ v :: post).map (·.id)).Nodup
    have ids := kept.viewIds
    rw [split, List.map_append, List.map_cons] at ids
    rw [List.map_append, List.map_cons]
    have rest := (List.nodup_cons.mp (List.nodup_middle.mp ids)).2
    refine List.nodup_middle.mpr (List.nodup_cons.mpr ⟨fun inRest => ?_, rest⟩)
    rw [← List.map_append] at inRest
    obtain ⟨w, inW, same⟩ := List.mem_map.mp inRest
    exact freshId w (split ▸ mem_split_iff.mpr (Or.inr inW)) same
  · intro w inNew
    rcases mem w inNew with rfl | other
    exacts [below, kept.viewsBelow w other]

end Tables

end Schema

namespace Catalog

/-! Replacing and adding tables in the catalog. -/

section Tables

variable {cs : Bool} {views : List String} {ex : Option Nat} {c : Catalog}

theorem Kept.mono_handles (kept : c.Kept cs views ex) {c' : Catalog} (schemas : c'.schemas = c.schemas)
    (servers : c'.servers = c.servers) (tablespaces : c'.tablespaces = c.tablespaces)
    (logfileGroups : c'.logfileGroups = c.logfileGroups) (grown : c.handles.size ≤ c'.handles.size) :
    c'.Kept cs views ex := by
  have globals := kept.globals
  refine ⟨⟨?_, ?_, ?_, ?_⟩, ?_, ?_, fun s mem => ?_⟩
  · rw [schemas]; exact globals.schemas
  · rw [servers]; exact globals.servers
  · rw [tablespaces]; exact globals.tablespaces
  · rw [logfileGroups]; exact globals.logfileGroups
  · rw [schemas]; exact kept.schemaIds
  · rw [tables, schemas]; exact kept.tableIds
  · rw [schemas] at mem; exact (kept.each s mem).mono grown

/-- Replacing the table `t` keeps the catalog when the schema holding it is kept with the new
table in its place. -/
theorem Kept.putTable_of (kept : c.Kept cs views ex) {s : Schema} {t t' : Table}
    (schema : s ∈ c.schemas) (table : t ∈ s.tables) (same : t'.id = t.id)
    (fits : ∀ pre post, s.tables = pre ++ t :: post → (∀ u ∈ pre ++ post, u.id ≠ t.id) →
      { s with tables := pre ++ t' :: post }.Kept cs views ex c.handles.size) :
    (c.putTable t').Kept cs views ex := by
  have ids : ∀ u : Table, (if u.id = t'.id then t' else u).id = u.id := fun u => by
    by_cases hit : u.id = t'.id <;> simp [hit]
  have globals := kept.globals
  refine ⟨⟨?_, globals.servers, globals.tablespaces, globals.logfileGroups⟩, ?_, ?_, ?_⟩
  · simpa [putTable, List.map_map, Function.comp_def] using globals.schemas
  · simpa [putTable, List.map_map, Function.comp_def] using kept.schemaIds
  · simpa [tables, putTable, List.map_flatMap, List.flatMap_map, Function.comp_def, ids]
      using kept.tableIds
  · intro x' mem
    obtain ⟨x, inX, rfl⟩ := List.mem_map.mp mem
    by_cases hasT : t ∈ x.tables
    · obtain rfl := kept.schema_of_table schema inX table hasT
      obtain ⟨pre, post, split, apart⟩ := exists_split table (kept.table_ids schema)
      show Schema.Kept cs views ex c.handles.size
        { s with tables := s.tables.map fun u => if u.id == t'.id then t' else u }
      rw [split, map_replace_split apart same]
      exact fits pre post split apart
    · have keep : (x.tables.map fun u => if u.id == t'.id then t' else u) = x.tables := by
        conv_rhs => rw [← List.map_id x.tables]
        refine List.map_congr_left fun u inU => ?_
        have other : u.id ≠ t'.id := fun hit => hasT <| by
          rw [kept.table_unique (mem_tables schema table) (mem_tables inX inU) (same ▸ hit.symm)]
          exact inU
        simp [other]
      show Schema.Kept cs views ex c.handles.size
        { x with tables := x.tables.map fun u => if u.id == t'.id then t' else u }
      rw [keep]
      exact kept.each x inX

/-- Changing one schema keeps the catalog when the changed schema is kept, keeps its handle and
name, and gains at most the tables `extra`, with handles new to the catalog. -/
theorem Kept.modifySchema_of (kept : c.Kept cs views ex) {s : Schema} (schema : s ∈ c.schemas)
    {f : Schema → Schema} {extra : List Table} (sameId : (f s).id = s.id)
    (sameName : (f s).name = s.name) (tables : (f s).tables = s.tables ++ extra)
    (fresh : ((extra ++ c.tables).map (·.id)).Nodup) (fits : (f s).Kept cs views ex c.handles.size) :
    (c.modifySchema s.id f).Kept cs views ex := by
  obtain ⟨pre, post, split, apart⟩ := exists_split schema kept.schemaIds
  have schemas := modifySchema_split f split apart
  have globals := kept.globals
  refine ⟨⟨?_, globals.servers, globals.tablespaces, globals.logfileGroups⟩, ?_, ?_, ?_⟩
  · have names := globals.schemas
    rw [split] at names
    simpa [schemas, sameName] using names
  · have ids := kept.schemaIds
    rw [split] at ids
    simpa [schemas, sameId] using ids
  · refine (List.Perm.nodup_iff (List.perm_iff_count.mpr fun k => ?_)).mpr fresh
    simp only [Catalog.tables, schemas, split, tables, List.flatMap_append, List.flatMap_cons,
      List.map_append, List.count_append]
    omega
  · intro x mem
    rw [schemas, mem_split_iff] at mem
    rcases mem with rfl | old
    · exact fits
    · exact kept.each x (by rw [split, mem_split_iff]; exact Or.inr old)

/-- A changed schema with the same tables and handle. -/
theorem Kept.modifySchema_tables (kept : c.Kept cs views ex) {s : Schema} (schema : s ∈ c.schemas)
    {f : Schema → Schema} (sameId : (f s).id = s.id) (sameName : (f s).name = s.name)
    (tables : (f s).tables = s.tables) (fits : (f s).Kept cs views ex c.handles.size) :
    (c.modifySchema s.id f).Kept cs views ex :=
  kept.modifySchema_of schema sameId sameName (by simp [tables] : (f s).tables = s.tables ++ [])
    (by simpa using kept.tableIds) fits

/-- A table added to a schema, with a handle and a name new to it. -/
theorem Kept.appendTable (kept : c.Kept cs views ex) {s : Schema} {t : Table}
    (schema : s ∈ c.schemas) (fresh : ∀ u ∈ c.tables, u.id ≠ t.id)
    (nameApart : ∀ u ∈ s.tables, nameEqual cs t.name u.name = false)
    (viewsApart : ∀ v ∈ s.views, nameEqual cs t.name v.name = false) (beside : t.Beside cs s.tables)
    (keys : t.Keys cs) (notNull : ex ≠ some t.id → t.PrimaryNotNull cs)
    (held : t.Handles c.handles.size) (real : t.isStub = false) :
    (c.appendTable s.id t).Kept cs views ex := by
  refine kept.modifySchema_of schema rfl rfl (rfl : (_ : Schema).tables = s.tables ++ [t]) ?_
    ((kept.each s schema).append nameApart viewsApart beside keys notNull held real)
  simp only [List.singleton_append, List.map_cons, List.nodup_cons, List.mem_map, not_exists,
    not_and]
  exact ⟨fun u mem same => fresh u mem same, kept.tableIds⟩

theorem Kept.mem_appendTable (kept : c.Kept cs views ex) {s : Schema} {t : Table}
    (schema : s ∈ c.schemas) : { s with tables := s.tables ++ [t] } ∈ (c.appendTable s.id t).schemas := by
  obtain ⟨pre, post, split, apart⟩ := exists_split schema kept.schemaIds
  rw [Catalog.appendTable, modifySchema_split _ split apart]
  simp

theorem Kept.holds_appendTable (kept : c.Kept cs views ex) {s : Schema} {t : Table}
    (schema : s ∈ c.schemas) : (c.appendTable s.id t).Holds s.id t :=
  ⟨_, kept.mem_appendTable schema, rfl, by simp⟩

/-- A table put in place of the one with its handle, under a name apart from the others of its
schema and from every view. -/
theorem Kept.putTable_renamed (kept : c.Kept cs views ex) {sid : Nat} {t t' : Table}
    (holds : c.Holds sid t) (same : t'.id = t.id)
    (nameApart : ∀ u ∈ c.others sid t.id, nameEqual cs t'.name u.name = false)
    (viewsApart : ∀ v ∈ views, nameEqual cs t'.name v = false)
    (beside : t'.Beside cs (c.others sid t.id)) (keys : t'.Keys cs)
    (notNull : ex ≠ some t.id → t'.PrimaryNotNull cs) (held : t'.Handles c.handles.size)
    (real : t'.isStub = false) : (c.putTable t').Kept cs views ex := by
  obtain ⟨s, schema, rfl, table⟩ := holds
  refine kept.putTable_of schema table same fun pre post split apart => ?_
  rw [kept.others_split schema split apart] at nameApart beside
  exact (kept.each s schema).replace split nameApart
    (fun v mem => viewsApart v.name ((kept.each s schema).named v mem)) beside keys
    (same ▸ notNull) held real

/-- A table put in place of the one with its handle and name. -/
theorem Kept.putTable (kept : c.Kept cs views ex) {sid : Nat} {t t' : Table}
    (holds : c.Holds sid t) (same : t'.id = t.id) (name : t'.name = t.name)
    (beside : t'.Beside cs (c.others sid t.id)) (keys : t'.Keys cs)
    (notNull : ex ≠ some t.id → t'.PrimaryNotNull cs) (held : t'.Handles c.handles.size)
    (real : t'.isStub = false) : (c.putTable t').Kept cs views ex := by
  obtain ⟨s, schema, rfl, table⟩ := holds
  refine kept.putTable_of schema table same fun pre post split apart => ?_
  have ⟨nameApart, viewsApart⟩ := (kept.each s schema).apart_of_split split
  rw [kept.others_split schema split apart] at beside
  rw [← name] at nameApart viewsApart
  exact (kept.each s schema).replace split nameApart viewsApart beside keys (same ▸ notNull) held
    real

theorem holds_putTable {sid : Nat} {t t' : Table} (holds : c.Holds sid t) (same : t'.id = t.id) :
    (c.putTable t').Holds sid t' := by
  obtain ⟨s, schema, rfl, table⟩ := holds
  exact ⟨_, List.mem_map_of_mem schema, rfl, List.mem_map.mpr ⟨t, table, by simp [same]⟩⟩

theorem filter_map_replace (t : Table) (ts : List Table) :
    (ts.map fun u => if u.id == t.id then t else u).filter (·.id != t.id) =
      ts.filter (·.id != t.id) := by
  induction ts with
  | nil => rfl
  | cons u rest ih =>
    by_cases hit : u.id = t.id
    · have replaced : (if u.id == t.id then t else u) = t := by simp [hit]
      rw [List.map_cons, replaced, List.filter_cons_of_neg (by simp),
        List.filter_cons_of_neg (by simp [hit]), ih]
    · have kept : (if u.id == t.id then t else u) = u := by simp [hit]
      rw [List.map_cons, kept, List.filter_cons_of_pos (by simp [hit]),
        List.filter_cons_of_pos (by simp [hit]), ih]

theorem others_putTable (sid : Nat) (t : Table) :
    (c.putTable t).others sid t.id = c.others sid t.id := by
  simp only [others, schemaById, putTable, List.find?_map, Function.comp_def]
  cases c.schemas.find? (fun s => s.id == sid) with
  | none => rfl
  | some s =>
    simp only [Option.map_some, Option.getD_some]
    exact filter_map_replace t s.tables

/-- Changing the table with a handle is putting the changed table in its place. -/
theorem Kept.modifyTable_eq (kept : c.Kept cs views ex) {t : Table} (table : t ∈ c.tables)
    (f : Table → Table) (same : (f t).id = t.id) : c.modifyTable t.id f = c.putTable (f t) := by
  simp only [modifyTable]
  congr 1
  refine List.map_congr_left fun s schema => ?_
  congr 1
  refine List.map_congr_left fun u inU => ?_
  by_cases hit : u.id = t.id
  · rw [kept.table_unique (mem_tables schema inU) table hit]
    simp [same]
  · simp [hit, same]

/-- A table of the catalog fits beside the other tables of its schema. -/
theorem Kept.facts_of_holds (kept : c.Kept cs views ex) {sid : Nat} {t : Table}
    (holds : c.Holds sid t) :
    t.Beside cs (c.others sid t.id) ∧ t.Keys cs ∧ t.Handles c.handles.size ∧ t.isStub = false ∧
      (ex ≠ some t.id → t.PrimaryNotNull cs) := by
  obtain ⟨s, schema, rfl, table⟩ := holds
  have schemaKept := kept.each s schema
  obtain ⟨pre, post, split, apart⟩ := exists_split table (kept.table_ids schema)
  rw [kept.others_split schema split apart]
  have triggers := schemaKept.names.triggers
  have foreignKeys := schemaKept.names.foreignKeys
  rw [split, NamesDistinct.perm (List.perm_middle.flatMap_right _), namesDistinct_flatMap_cons]
    at triggers foreignKeys
  exact ⟨⟨triggers.1, foreignKeys.1, triggers.2.2, foreignKeys.2.2⟩, schemaKept.keys t table,
    schemaKept.handles t table, schemaKept.real t table, schemaKept.primaryNotNull t table⟩

/-- A schema with a new name and handle, and nothing in it yet. -/
theorem Kept.addSchema (kept : c.Kept cs views ex) {s : Schema}
    (fresh : c.findSchema cs s.name = none) (freshId : ∀ x ∈ c.schemas, x.id ≠ s.id)
    (empty : s.tables = [] ∧ s.views = [] ∧ s.routines = [] ∧ s.events = [])
    (own : s.id ≤ c.handles.size) : { c with schemas := c.schemas ++ [s] }.Kept cs views ex := by
  rw [findSchema, findNamed_eq_none_iff] at fresh
  have globals := kept.globals
  refine ⟨⟨?_, globals.servers, globals.tablespaces, globals.logfileGroups⟩, ?_, ?_, ?_⟩
  · simpa [namesDistinct_append_single] using And.intro globals.schemas fresh
  · show ((c.schemas ++ [s]).map (·.id)).Nodup
    rw [List.map_append, List.nodup_append]
    refine ⟨kept.schemaIds, List.nodup_singleton _, fun i inOld j inNew same => ?_⟩
    obtain ⟨x, inSchemas, rfl⟩ := List.mem_map.mp inOld
    rw [List.map_cons, List.map_nil, List.mem_singleton] at inNew
    exact freshId x inSchemas (same.trans inNew)
  · simpa [tables, empty.1] using kept.tableIds
  · intro x mem
    rcases List.mem_append.mp mem with old | new
    · exact kept.each x old
    · rw [List.mem_singleton.mp new]
      exact Schema.kept_empty empty.1 empty.2.1 empty.2.2.1 empty.2.2.2 own

theorem Kept.addServer (kept : c.Kept cs views ex) {srv : Server}
    (fresh : c.findServer cs srv.name = none) : { c with servers := c.servers ++ [srv] }.Kept cs views ex := by
  rw [findServer, findNamed_eq_none_iff] at fresh
  refine { kept with globals := { kept.globals with servers := ?_ } }
  simpa [namesDistinct_append_single] using And.intro kept.globals.servers fresh

theorem Kept.addTablespace (kept : c.Kept cs views ex) {ts : Tablespace}
    (fresh : c.findTablespace cs ts.name = none) :
    { c with tablespaces := c.tablespaces ++ [ts] }.Kept cs views ex := by
  rw [findTablespace, findNamed_eq_none_iff] at fresh
  refine { kept with globals := { kept.globals with tablespaces := ?_ } }
  simpa [namesDistinct_append_single] using And.intro kept.globals.tablespaces fresh

theorem Kept.addLogfileGroup (kept : c.Kept cs views ex) {g : LogfileGroup}
    (fresh : c.findLogfileGroup cs g.name = none) :
    { c with logfileGroups := c.logfileGroups ++ [g] }.Kept cs views ex := by
  rw [findLogfileGroup, findNamed_eq_none_iff] at fresh
  refine { kept with globals := { kept.globals with logfileGroups := ?_ } }
  simpa [namesDistinct_append_single] using And.intro kept.globals.logfileGroups fresh

/-- Tablespaces changed without a change of name. -/
theorem Kept.mapTablespaces (kept : c.Kept cs views ex) (f : Tablespace → Tablespace)
    (name : ∀ ts, (f ts).name = ts.name) :
    { c with tablespaces := c.tablespaces.map f }.Kept cs views ex := by
  refine { kept with globals := { kept.globals with tablespaces := ?_ } }
  simpa [List.map_map, Function.comp_def, name] using kept.globals.tablespaces

theorem Schema.findTrigger_eq_none_iff (s : Schema) (name : String) :
    s.findTrigger cs name = none ↔ ∀ t ∈ s.tables, ∀ tr ∈ t.triggers, nameEqual cs tr.name name = false := by
  simp only [Schema.findTrigger, List.findSome?_eq_none_iff, findNamed_eq_none_iff]

/-- A trigger whose name no trigger of the schema has, added to one of its tables. -/
theorem Kept.addTrigger (kept : c.Kept cs views ex) {s : Schema} {t : Table} (schema : s ∈ c.schemas)
    (table : t ∈ s.tables) {tr : Trigger} (fresh : s.findTrigger cs tr.name = none) :
    (c.modifyTable t.id fun t => { t with triggers := t.triggers ++ [tr] }).Kept cs views ex := by
  rw [Schema.findTrigger_eq_none_iff] at fresh
  rw [kept.modifyTable_eq (mem_tables schema table) _ rfl]
  have holds : c.Holds s.id t := ⟨s, schema, rfl, table⟩
  obtain ⟨beside, keys, held, real, notNull⟩ := kept.facts_of_holds holds
  have others : c.others s.id t.id = s.tables.filter (·.id != t.id) := by
    simp [others, kept.schemaById_eq schema]
  refine kept.putTable holds rfl rfl ⟨?_, beside.foreignKeys, ?_, beside.foreignKeysApart⟩
    ⟨keys.columns, keys.indexes, keys.primary⟩ notNull
    ⟨held.own, held.columns, held.indexes, held.foreignKeys, held.columnsBelow, held.indexesBelow,
      held.foreignKeysBelow⟩ real
  · show NamesDistinct cs ((t.triggers ++ [tr]).map (·.name))
    rw [List.map_append, List.map_singleton, namesDistinct_append_single]
    refine ⟨beside.triggers, fun n mem => ?_⟩
    obtain ⟨x, inX, rfl⟩ := List.mem_map.mp mem
    exact fresh t table x inX
  · intro u inOthers p named q inU
    rw [others, List.mem_filter] at inOthers
    simp only [Table.triggerNames, List.map_append, List.map_singleton, List.mem_append,
      List.mem_singleton] at named
    rcases named with old | rfl
    · exact beside.triggersApart u (by rw [others, List.mem_filter]; exact inOthers) p old q inU
    · obtain ⟨x, inX, rfl⟩ := List.mem_map.mp inU
      rw [nameEqual_comm]
      exact fresh u inOthers.1 x inX

end Tables

end Catalog

end DdlCatalog.Catalog
