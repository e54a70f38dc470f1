import DdlCatalog.Proofs.Recording
import DdlCatalog.Proofs.UniqueNames.State
/-!
The table builder keeps the names. Every change it makes to its table is guarded by the check
the keys need: a member is added only under a name the table does not have yet, a second primary
key is refused, a foreign key name is checked against the whole schema, and a new member gets a
handle above all handles so far. Changes that only touch what the keys do not read (options,
links between members, key part names) keep the table's *shape*.
-/

namespace DdlCatalog.Catalog.Table

/-- What the keys, the handles and the names beside other tables read of a table. -/
def shape (t : Table) :=
  (t.id, t.name, t.isStub, t.triggers, t.columns.map (fun c => (c.id, c.name)),
    t.indexes.map (fun i => (i.id, i.name, i.type)), t.primaryKey,
    t.foreignKeys.map (fun fk => (fk.id, fk.name)))

theorem primaryIds_eq (t : Table) :
    t.primaryIds = ((t.indexes.map (fun i => (i.id, i.name, i.type))).filter
      (·.2.2 == .primary)).map (·.1) := by
  simp only [primaryIds, List.filter_map, List.map_map]
  rfl

theorem foreignKeyNames_eq (t : Table) :
    t.foreignKeyNames = ((t.foreignKeys.map (fun fk => (fk.id, fk.name))).map (·.2)).filter
      (!·.isEmpty) := by
  simp only [foreignKeyNames, List.map_map]
  rfl

/-- Putting an index in place of the one with its handle keeps the shape when the two agree in
name and kind. -/
theorem setIndex_shape (t : Table) (i : Index)
    (same : ∀ j ∈ t.indexes, j.id = i.id → j.name = i.name ∧ j.type = i.type) :
    (t.setIndex i).shape = t.shape := by
  simp only [shape, setIndex, List.map_map, Prod.mk.injEq, true_and, and_true]
  refine List.map_congr_left fun j mem => ?_
  by_cases hit : j.id = i.id
  · obtain ⟨name, type⟩ := same j mem hit
    simp [hit, name, type]
  · simp [hit]

/-- Putting a foreign key in place of the one with its handle keeps the shape when the two agree
in name. -/
theorem setForeignKey_shape (t : Table) (fk : ForeignKey)
    (same : ∀ g ∈ t.foreignKeys, g.id = fk.id → g.name = fk.name) :
    (t.setForeignKey fk).shape = t.shape := by
  simp only [shape, setForeignKey, List.map_map, Prod.mk.injEq, true_and]
  refine List.map_congr_left fun g mem => ?_
  by_cases hit : g.id = fk.id
  · simp [hit, same g mem hit]
  · simp [hit]

/-- Dropping an index by handle leaves the primary key to the others, or to none when it was the
one dropped. -/
theorem Keys.primary_drop {cs : Bool} {t : Table} (keys : t.Keys cs) (x : Nat) :
    ((t.indexes.filter (·.id != x)).filter (·.type == .primary)).map (·.id) =
      (if t.primaryKey == some x then none else t.primaryKey).toList := by
  calc ((t.indexes.filter (·.id != x)).filter (·.type == .primary)).map (·.id)
      = (t.primaryIds).filter (· != x) := by
        rw [primaryIds, List.filter_map]
        simp only [List.filter_filter, Function.comp_def, Bool.and_comm]
    _ = t.primaryKey.toList.filter (· != x) := by rw [keys.primary]
    _ = _ := by
        cases pk : t.primaryKey with
        | none => simp
        | some y => by_cases same : y = x <;> simp [same]

/-- Marking `NOT NULL` the column a name finds extends `NOT NULL` from the names before to that
name. -/
theorem notNull_step {cs : Bool} {t : Table} {names : List String} {name : String} {col : Column}
    (distinct : NamesDistinct cs (t.columns.map (·.name))) (found : t.findColumn cs name = some col)
    (before : ∀ n ∈ names, ∀ c ∈ t.columns, nameEqual cs c.name n = true → c.notNull = true) :
    ∀ n ∈ names ++ [name], ∀ c ∈ t.columns.map (fun c => if c.id == col.id then { c with notNull := true } else c),
      nameEqual cs c.name n = true → c.notNull = true := by
  rw [findColumn] at found
  obtain ⟨member, named⟩ := findNamed_mem _ _ _ found
  intro n mem c inColumns same
  obtain ⟨c, inTable, rfl⟩ := List.mem_map.mp inColumns
  by_cases hit : c.id = col.id
  · simp [hit]
  simp only [hit, beq_iff_eq, if_false] at same ⊢
  rcases List.mem_append.mp mem with old | new
  · exact before n old c inTable same
  · -- the only column under `name` is the one found
    rw [List.mem_singleton.mp new] at same
    have apart := distinct.apart inTable member fun equal => hit (equal ▸ rfl)
    have other := nameEqual_false_of_left same apart
    rw [nameEqual_comm, named] at other
    exact absurd other (by simp)

/-! The keys, the handles and the names beside other tables read only the shape. -/

theorem Keys.of_shape {cs : Bool} {t t' : Table} (keys : t.Keys cs) (same : t'.shape = t.shape) :
    t'.Keys cs := by
  have columns : t'.columns.map (fun c => (c.id, c.name)) = t.columns.map (fun c => (c.id, c.name)) :=
    congrArg (·.2.2.2.2.1) same
  have indexes : t'.indexes.map (fun i => (i.id, i.name, i.type)) =
      t.indexes.map (fun i => (i.id, i.name, i.type)) := congrArg (·.2.2.2.2.2.1) same
  have columnNames := congrArg (List.map Prod.snd) columns
  have indexNames := congrArg (List.map (·.2.1)) indexes
  simp only [List.map_map, Function.comp_def] at columnNames indexNames
  refine keys.congr columnNames indexNames ?_ (congrArg (·.2.2.2.2.2.2.1) same)
  rw [primaryIds_eq, primaryIds_eq, indexes]

/-- The handles of a table, as lists of handles, are read off its shape. -/
theorem Handles.of_shape {n : Nat} {t t' : Table} (held : t.Handles n) (same : t'.shape = t.shape) :
    t'.Handles n := by
  have columns : t'.columns.map (fun c => (c.id, c.name)) = t.columns.map (fun c => (c.id, c.name)) :=
    congrArg (·.2.2.2.2.1) same
  have indexes : t'.indexes.map (fun i => (i.id, i.name, i.type)) =
      t.indexes.map (fun i => (i.id, i.name, i.type)) := congrArg (·.2.2.2.2.2.1) same
  have foreignKeys : t'.foreignKeys.map (fun fk => (fk.id, fk.name)) =
      t.foreignKeys.map (fun fk => (fk.id, fk.name)) := congrArg (·.2.2.2.2.2.2.2) same
  have columnIds := congrArg (List.map Prod.fst) columns
  have indexIds := congrArg (List.map Prod.fst) indexes
  have foreignKeyIds := congrArg (List.map Prod.fst) foreignKeys
  simp only [List.map_map, Function.comp_def] at columnIds indexIds foreignKeyIds
  have below : ∀ {α : Type} (xs ys : List α) (key : α → Nat),
      xs.map key = ys.map key → (∀ y ∈ ys, key y ≤ n) → ∀ x ∈ xs, key x ≤ n := by
    intro α xs ys key ids bounded x mem
    obtain ⟨y, inY, same⟩ := List.mem_map.mp (ids ▸ List.mem_map_of_mem mem : key x ∈ ys.map key)
    exact same ▸ bounded y inY
  have id : t'.id = t.id := congrArg (·.1) same
  exact ⟨id ▸ held.own, columnIds ▸ held.columns, indexIds ▸ held.indexes,
    foreignKeyIds ▸ held.foreignKeys, below _ _ _ columnIds held.columnsBelow,
    below _ _ _ indexIds held.indexesBelow, below _ _ _ foreignKeyIds held.foreignKeysBelow⟩

theorem Beside.of_shape {cs : Bool} {rest : List Table} {t t' : Table} (beside : t.Beside cs rest)
    (same : t'.shape = t.shape) : t'.Beside cs rest := by
  have triggers : t'.triggers = t.triggers := congrArg (·.2.2.2.1) same
  have foreignKeys : t'.foreignKeys.map (fun fk => (fk.id, fk.name)) =
      t.foreignKeys.map (fun fk => (fk.id, fk.name)) := congrArg (·.2.2.2.2.2.2.2) same
  have names : t'.foreignKeyNames = t.foreignKeyNames := by
    rw [foreignKeyNames_eq, foreignKeyNames_eq, foreignKeys]
  exact beside.congr (by rw [triggerNames, triggerNames, triggers]) names

end DdlCatalog.Catalog.Table

namespace DdlCatalog.Analysis

open DdlCatalog.Catalog
open DdlCatalog.Syntax

namespace TableBuilder

variable {cs : Bool} {views : List String}

/-- A table with the shape of one that fits fits too. -/
theorem Fits.of_shape {a : Analyzer} {b : TableBuilder} {t t' : Table} (fits : b.Fits a t)
    (same : t'.shape = t.shape) : b.Fits a t' :=
  ⟨(congrArg (·.1) same).trans fits.id, (congrArg (·.2.1) same).trans fits.name,
    (congrArg (·.2.2.2.1) same).trans fits.triggers, fits.keys.of_shape same, fits.handles.of_shape same,
    (congrArg (·.2.2.1) same).trans fits.real, fits.beside.of_shape same⟩

section Members

variable {a : Analyzer} {b : TableBuilder} {t : Table}

/-- New columns fit when their names and handles are distinct and issued. -/
theorem Fits.with_columns (fits : b.Fits a t) {cols : List Column}
    (names : NamesDistinct a.options.caseSensitive (cols.map (·.name)))
    (ids : (cols.map (·.id)).Nodup) (below : ∀ c ∈ cols, c.id ≤ a.catalog.handles.size) :
    b.Fits a { t with columns := cols } :=
  ⟨fits.id, fits.name, fits.triggers, ⟨names, fits.keys.indexes, fits.keys.primary⟩,
    ⟨fits.handles.own, ids, fits.handles.indexes, fits.handles.foreignKeys, below,
      fits.handles.indexesBelow, fits.handles.foreignKeysBelow⟩, fits.real,
    fits.beside.congr rfl rfl⟩

/-- New indexes fit when their names and handles are distinct and issued, and `pk` is their
one primary key. -/
theorem Fits.with_indexes (fits : b.Fits a t) {idxs : List Index} {pk : Option Nat}
    (names : NamesDistinct a.options.caseSensitive (idxs.map (·.name)))
    (primary : (idxs.filter (·.type == .primary)).map (·.id) = pk.toList)
    (ids : (idxs.map (·.id)).Nodup) (below : ∀ i ∈ idxs, i.id ≤ a.catalog.handles.size) :
    b.Fits a { t with indexes := idxs, primaryKey := pk } :=
  ⟨fits.id, fits.name, fits.triggers, ⟨fits.keys.columns, names, primary⟩,
    ⟨fits.handles.own, fits.handles.columns, ids, fits.handles.foreignKeys,
      fits.handles.columnsBelow, below, fits.handles.foreignKeysBelow⟩, fits.real,
    fits.beside.congr rfl rfl⟩

/-- New foreign keys fit when their names are distinct, also from those of the other tables
of the schema, and their handles are distinct and issued. -/
theorem Fits.with_foreignKeys (fits : b.Fits a t) {fks : List ForeignKey}
    (names : NamesDistinct a.options.caseSensitive { t with foreignKeys := fks }.foreignKeyNames)
    (apart : ∀ u ∈ a.catalog.others b.schema b.table.id,
      ∀ p ∈ { t with foreignKeys := fks }.foreignKeyNames, ∀ q ∈ u.foreignKeyNames,
        nameEqual a.options.caseSensitive p q = false)
    (ids : (fks.map (·.id)).Nodup) (below : ∀ fk ∈ fks, fk.id ≤ a.catalog.handles.size) :
    b.Fits a { t with foreignKeys := fks } :=
  ⟨fits.id, fits.name, fits.triggers, ⟨fits.keys.columns, fits.keys.indexes, fits.keys.primary⟩,
    ⟨fits.handles.own, fits.handles.columns, fits.handles.indexes, ids,
      fits.handles.columnsBelow, fits.handles.indexesBelow, below⟩, fits.real,
    ⟨fits.beside.triggers, names, fits.beside.triggersApart, apart⟩⟩

/-- A column placed among the columns, under a new name and a new handle, fits. -/
theorem Fits.insert_column (fits : b.Fits a t) {cols : List Column} {col : Column}
    (perm : cols.Perm (col :: t.columns))
    (fresh : ∀ c ∈ t.columns, nameEqual a.options.caseSensitive c.name col.name = false)
    (above : ∀ c ∈ t.columns, c.id < col.id) (issued : col.id ≤ a.catalog.handles.size) :
    b.Fits a { t with columns := cols } := by
  refine fits.with_columns ?_ ?_ fun c mem => ?_
  · rw [NamesDistinct.perm (perm.map _), List.map_cons, NamesDistinct, List.pairwise_cons]
    refine ⟨fun n mem => ?_, fits.keys.columns⟩
    obtain ⟨c, member, rfl⟩ := List.mem_map.mp mem
    rw [nameEqual_comm]
    exact fresh c member
  · rw [(perm.map _).nodup_iff, List.map_cons, List.nodup_cons]
    refine ⟨fun mem => ?_, fits.handles.columns⟩
    obtain ⟨c, member, same⟩ := List.mem_map.mp mem
    exact absurd same (Nat.ne_of_lt (above c member))
  · rcases List.mem_cons.mp (perm.mem_iff.mp mem) with rfl | old
    · exact issued
    · exact fits.handles.columnsBelow c old

/-- Some of the columns fit. -/
theorem Fits.sublist_columns (fits : b.Fits a t) {cols : List Column} (sub : cols.Sublist t.columns) :
    b.Fits a { t with columns := cols } :=
  fits.with_columns (fits.keys.columns.sublist (sub.map _)) (fits.handles.columns.sublist (sub.map _))
    fun c mem => fits.handles.columnsBelow c (sub.subset mem)

/-- The table without one of its indexes fits; the primary key goes with its index. -/
theorem Fits.drop_index (fits : b.Fits a t) (x : Nat) :
    b.Fits a { t with indexes := t.indexes.filter (·.id != x),
                      primaryKey := if t.primaryKey == some x then none else t.primaryKey } :=
  fits.with_indexes (fits.keys.indexes.sublist (List.filter_sublist.map _)) (fits.keys.primary_drop x)
    (fits.handles.indexes.sublist (List.filter_sublist.map _))
    fun i mem => fits.handles.indexesBelow i (List.filter_sublist.subset mem)

/-- The table without one of its foreign keys fits. -/
theorem Fits.drop_foreignKey (fits : b.Fits a t) (x : Nat) :
    b.Fits a { t with foreignKeys := t.foreignKeys.filter (·.id != x) } := by
  have sub : { t with foreignKeys := t.foreignKeys.filter (·.id != x) }.foreignKeyNames.Sublist
      t.foreignKeyNames := (List.filter_sublist.map _).filter _
  exact fits.with_foreignKeys (fits.beside.foreignKeys.sublist sub)
    (fun u mem p named => fits.beside.foreignKeysApart u mem p (sub.subset named))
    (fits.handles.foreignKeys.sublist (List.filter_sublist.map _))
    fun fk mem => fits.handles.foreignKeysBelow fk (List.filter_sublist.subset mem)

/-- An index that is not a primary key, with a new name and a new handle, fits. -/
theorem Fits.append_index (fits : b.Fits a t) {idx : Index}
    (fresh : ∀ i ∈ t.indexes, nameEqual a.options.caseSensitive i.name idx.name = false)
    (plain : idx.type ≠ .primary) (held : t.Handles (idx.id - 1)) (positive : 0 < idx.id)
    (issued : idx.id ≤ a.catalog.handles.size) :
    b.Fits a { t with indexes := t.indexes ++ [idx] } := by
  have names : NamesDistinct a.options.caseSensitive ((t.indexes ++ [idx]).map (·.name)) := by
    rw [List.map_append, List.map_singleton, namesDistinct_append_single]
    refine ⟨fits.keys.indexes, fun n mem => ?_⟩
    obtain ⟨i, member, rfl⟩ := List.mem_map.mp mem
    exact fresh i member
  have primary : ((t.indexes ++ [idx]).filter (·.type == .primary)).map (·.id) = t.primaryKey.toList := by
    have primary := fits.keys.primary
    rw [Table.primaryIds] at primary
    simpa [List.filter_append, plain] using primary
  exact fits.with_indexes names primary
    (Table.nodup_append_above held.indexes held.indexesBelow (by omega))
    fun i mem => Nat.le_trans (Table.below_append_above held.indexesBelow (by omega) i mem) issued

/-- The columns in another order fit. -/
theorem Fits.perm_columns (fits : b.Fits a t) {cols : List Column} (perm : cols.Perm t.columns) :
    b.Fits a { t with columns := cols } :=
  fits.with_columns ((NamesDistinct.perm (perm.map _)).mpr fits.keys.columns)
    ((perm.map _).nodup_iff.mpr fits.handles.columns)
    fun c mem => fits.handles.columnsBelow c (perm.mem_iff.mp mem)

/-- A column put in place of another, by handle, fits when its name is not that of any other
column and its handle is the old one or new. -/
theorem Fits.replace_column (fits : b.Fits a t) {old col : Column} (existing : old ∈ t.columns)
    (apart : ∀ c ∈ t.columns, c.id ≠ old.id →
      nameEqual a.options.caseSensitive col.name c.name = false)
    (ids : ∀ c ∈ t.columns, c.id ≠ old.id → col.id ≠ c.id) (issued : col.id ≤ a.catalog.handles.size) :
    b.Fits a { t with columns := t.columns.map fun c => if c.id == old.id then col else c } := by
  refine fits.with_columns ?_ ?_ fun c mem => ?_
  · exact pairwise_map_replace (fun apart => by rwa [nameEqual_comm]) fits.keys.columns
      fits.handles.columns existing apart
  · exact pairwise_map_replace Ne.symm fits.handles.columns fits.handles.columns existing ids
  · obtain ⟨c', member, rfl⟩ := List.mem_map.mp mem
    by_cases hit : c'.id = old.id
    · simpa [hit] using issued
    · simpa [hit] using fits.handles.columnsBelow c' member

end Members

/-! Carrying on. -/

theorem insertColumnAt_perm (cs : Bool) (cols : List Column) (col : Column) (first : Bool)
    (after : String) : (insertColumnAt cs cols col first after).Perm (col :: cols) := by
  unfold insertColumnAt
  simp only [List.append_assoc, List.singleton_append]
  exact List.perm_middle.trans (by rw [List.take_append_drop])

/-- `b'` carries on the work of `b`: the same table, by handle and name, in the same place, and
no fault since. -/
structure Continues (b' b : TableBuilder) : Prop where
  schema : b'.schema = b.schema
  attached : b'.attached = b.attached
  id : b'.table.id = b.table.id
  name : b'.table.name = b.table.name
  faulted : b'.faulted = b.faulted

@[refl] theorem Continues.refl (b : TableBuilder) : b.Continues b := ⟨rfl, rfl, rfl, rfl, rfl⟩

theorem Continues.trans {b b' b'' : TableBuilder} (second : b''.Continues b')
    (first : b'.Continues b) : b''.Continues b :=
  ⟨second.schema.trans first.schema, second.attached.trans first.attached,
    second.id.trans first.id, second.name.trans first.name, second.faulted.trans first.faulted⟩

/-- A builder that differs only in the references it buffers, all admissible, stays
consistent. -/
theorem Consistent.with_refs {a : Analyzer} {b b' : TableBuilder} (consistent : b.Consistent cs views a)
    (table : b'.table = b.table) (schema : b'.schema = b.schema) (attached : b'.attached = b.attached)
    (refs : ∀ r ∈ b'.refs, r.Admissible a.options.caseSensitive views) : b'.Consistent cs views a := by
  obtain ⟨kept, sound⟩ := consistent
  have exempt : b'.exempt = b.exempt := by simp only [exempt, table, attached]
  have placed : b'.Placed a.options.caseSensitive a.catalog = b.Placed a.options.caseSensitive a.catalog := by
    simp only [Placed, table, schema, attached]
  refine ⟨exempt ▸ kept, table ▸ sound.keys, table ▸ sound.handles, table ▸ sound.real, ?_,
    schema ▸ sound.schema, placed ▸ sound.placed, refs⟩
  rw [table, schema]
  exact sound.beside

theorem Consistent.stable (b : TableBuilder) : Stable (b.Consistent cs views) :=
  fun _ _ consistent records => consistent.records records

/-- A handle issued while a builder works lies above every handle of its table. -/
def Fresh (b : TableBuilder) (id : Nat) (a : Analyzer) : Prop :=
  b.table.Handles (id - 1) ∧ 0 < id ∧ id ≤ a.catalog.handles.size

theorem Fresh.stable (b : TableBuilder) (id : Nat) : Stable (b.Fresh id) :=
  fun _ _ fresh records => ⟨fresh.1, fresh.2.1, Nat.le_trans fresh.2.2 records.handles⟩

end TableBuilder

namespace Analyze

open TableBuilder

variable {cs : Bool} {views : List String}

theorem caseSensitive_spec {pre : Analyzer → Prop} :
    Spec pre caseSensitive fun cs a => pre a ∧ a.options.caseSensitive = cs :=
  fun _ holds => ⟨holds, rfl⟩

theorem options_spec {pre : Analyzer → Prop} : Spec pre options fun o a => pre a ∧ a.options = o :=
  fun _ holds => ⟨holds, rfl⟩

theorem schemaById_spec {pre : Analyzer → Prop} {id : Nat} :
    Spec pre (schemaById id) fun s a => pre a ∧ s = a.catalog.schemaById id :=
  fun _ holds => ⟨holds, rfl⟩

/-- The handle issued next lies above every handle of the builder's table. -/
theorem issue_fresh {pre : Analyzer → Prop} {b : TableBuilder} (stable : Stable pre)
    (held : ∀ a, pre a → b.table.Handles a.catalog.handles.size) (kind : ObjectKind) (name : String) :
    Spec pre (issue kind name) fun id a => pre a ∧ b.Fresh id a := by
  intro a start
  rw [issue_run]
  refine ⟨stable a _ start (issue_recording kind name a), ?_, Nat.succ_pos _, ?_⟩
  · simpa using held a start
  · simp [Catalog.issue]

theorem update_options (b : TableBuilder) (f : Table → Table) (a : Analyzer) :
    ((update b f).run a).2.options = a.options := by
  rw [update_run]
  split <;> rfl

/-- Writing a table that fits carries the builder on. -/
theorem update_fits {pre : Analyzer → Prop} (b : TableBuilder) (f : Table → Table)
    (id : (f b.table).id = b.table.id) (name : (f b.table).name = b.table.name)
    (fits : ∀ a, pre a → b.Consistent cs views a ∧ b.Fits a (f b.table)) :
    Spec pre (update b f) fun b' a => b'.Continues b ∧ b'.Consistent cs views a :=
  Spec.conseq (update_spec b f) fits fun _ _ ⟨same, consistent⟩ =>
    ⟨same ▸ ⟨rfl, rfl, id, name, rfl⟩, consistent⟩

/-- A step that carries a builder on carries on what the builder carried on. -/
theorem carried {m : Analyze TableBuilder} {b b' : TableBuilder}
    (step : Spec (b'.Consistent cs views) m fun b'' a => b''.Continues b' ∧ b''.Consistent cs views a) :
    Spec (fun a => b'.Continues b ∧ b'.Consistent cs views a) m
      fun b'' a => b''.Continues b ∧ b''.Consistent cs views a :=
  Spec.of_fact fun before => Spec.conseq step (fun _ start => start)
    fun _ _ ⟨next, consistent⟩ => ⟨next.trans before, consistent⟩

/-- Writing a table of the same shape carries the builder on. -/
theorem update_shape (b : TableBuilder) (f : Table → Table) (same : (f b.table).shape = b.table.shape) :
    Spec (b.Consistent cs views) (update b f) fun b' a => b'.Continues b ∧ b'.Consistent cs views a :=
  update_fits b f (congrArg (·.1) same) (congrArg (·.2.1) same)
    fun _ consistent => ⟨consistent, consistent.2.fits.of_shape same⟩

/-! Reading members. -/

@[simp] theorem columnAttribute_id (col : Column) (attr : Node) :
    (columnAttribute col attr).id = col.id := by
  unfold columnAttribute
  split <;> (try split) <;> rfl

@[simp] theorem indexOption_id (idx : Index) (opt : Node) : (indexOption idx opt).id = idx.id := by
  unfold indexOption
  split <;> (try split) <;> rfl

/-- A new column takes the handle issued for it, above every handle of the builder's table. -/
theorem newColumn_fresh {pre : Analyzer → Prop} {b : TableBuilder} (stable : Stable pre)
    (held : ∀ a, pre a → b.table.Handles a.catalog.handles.size) (defn : Node) :
    Spec pre (newColumn defn) fun col a => pre a ∧ b.Fresh col.id a := by
  unfold newColumn
  dsimp only
  refine Spec.bind (issue_fresh stable held _ _) fun id => ?_
  have still : Stable fun a => pre a ∧ b.Fresh id a := stable.and (Fresh.stable b id)
  -- the data type and the attributes leave the handle as issued
  split
  on_goal 1 => refine Spec.bind (Recording.spec (extractDataType_recording _ _ _) still) fun dt => ?_
  on_goal 2 => refine Spec.bind Spec.pure_keep fun dt => ?_
  all_goals
    split
    all_goals
      refine Spec.bind (Spec.conseq (Spec.forIn (fun col a => (pre a ∧ b.Fresh id a) ∧ col.id = id)
        fun c _ col => ?_) (fun a holds => ⟨holds, rfl⟩) fun _ _ holds => holds)
        fun col => Spec.of_pure fun a ⟨holds, same⟩ => same ▸ holds
      split <;> exact Spec.of_pure fun a ⟨holds, same⟩ => ⟨holds, by simpa using same⟩

/-- Reading the details of an index keeps its handle. -/
theorem indexDetails_id {pre : Analyzer → Prop} (stable : Stable pre) (b : TableBuilder) (idx : Index)
    (n : Node) : Spec pre (indexDetails b idx n) fun r a => pre a ∧ r.id = idx.id := by
  unfold indexDetails
  dsimp only
  refine Spec.bind (Spec.conseq (Spec.forIn (fun r a => pre a ∧ r.id = idx.id) fun c _ r => ?_)
    (fun a holds => ⟨holds, rfl⟩) fun _ _ holds => holds) fun r => Spec.of_pure fun _ holds => holds
  split
  · exact Spec.of_pure fun _ holds => holds
  · exact Spec.of_pure fun _ ⟨holds, same⟩ => ⟨holds, by simpa using same⟩
  · exact Spec.bind (Recording.spec (keyParts_recording _ _) (stable.and (Stable.const _)))
      fun _ => Spec.of_pure fun _ holds => holds
  · exact Spec.of_pure fun _ holds => holds

/-- A foreign key name found free is had by no foreign key of the table, nor of the other
tables of its schema. -/
theorem foreignKeyNameTaken_spec {pre : Analyzer → Prop} (b : TableBuilder) (name : String) :
    Spec pre (foreignKeyNameTaken b name) fun taken a => pre a ∧ (taken = false →
      b.table.findForeignKey a.options.caseSensitive name = none ∧
        ∀ u ∈ a.catalog.others b.schema b.table.id,
          u.findForeignKey a.options.caseSensitive name = none) := by
  unfold foreignKeyNameTaken
  refine Spec.bind caseSensitive_spec fun cs' => ?_
  split
  · exact Spec.of_pure fun _ ⟨holds, _⟩ => ⟨holds, fun taken => absurd taken (by simp)⟩
  rename_i own
  refine Spec.bind schemaById_spec fun found => Spec.of_pure ?_
  rintro a ⟨⟨holds, rfl⟩, rfl⟩
  refine ⟨holds, fun free => ⟨Option.not_isSome_iff_eq_none.mp own, fun u mem => ?_⟩⟩
  simp only [Catalog.others] at mem
  cases schema : a.catalog.schemaById b.schema with
  | none => simp [schema] at mem
  | some s =>
    simp only [schema, Option.map_some, Option.getD_some, List.mem_filter] at mem free
    have := List.any_eq_false.mp free u mem.1
    simpa [mem.2] using this

/-- An index joins the table unless it is a second primary key or its name is taken. -/
theorem addIndex_spec (b : TableBuilder) (idx : Index) (site? : Option Node) :
    Spec (fun a => b.Consistent cs views a ∧ b.Fresh idx.id a) (addIndex b idx site?)
      fun r a => r.2.Continues b ∧ r.2.Consistent cs views a := by
  unfold addIndex
  refine Spec.bind caseSensitive_spec fun cs' => ?_
  split
  · -- a second primary key is refused
    exact Recording.result ((memberName_recording b _).bind fun _ => (report_recording _ _ _ _ _).bind
        fun _ => (release_recording _).bind fun _ => Recording.pure _) (fun _ => rfl)
      fun _ _ start records => ⟨Continues.refl b, start.1.1.records records⟩
  split
  · -- and so is a name the table has
    exact Recording.result ((memberName_recording b _).bind fun _ => (duplicate_recording _ _ _ _).bind
        fun _ => (release_recording _).bind fun _ => Recording.pure _) (fun _ => rfl)
      fun _ _ start records => ⟨Continues.refl b, start.1.1.records records⟩
  rename_i single fresh
  refine Spec.bind (Spec.conseq (update_spec b _) (fun a start => ⟨start.1.1, ?_⟩)
    fun _ _ done => done) fun b' => Spec.of_pure ?_
  · obtain ⟨⟨⟨_, sound⟩, held, positive, issued⟩, rfl⟩ := start
    rw [Table.findIndex] at fresh
    have keys := sound.keys.append_index (findNamed_not_isSome _ _ _ fresh)
      fun primary => by simpa [primary] using single
    exact ⟨rfl, rfl, rfl, keys, (held.append_index (by omega)).mono issued, sound.real,
      sound.beside.congr rfl rfl⟩
  · rintro a ⟨rfl, consistent⟩
    exact ⟨⟨rfl, rfl, rfl, rfl, rfl⟩, consistent.with_refs rfl rfl rfl fun r mem => by
      rcases List.mem_append.mp mem with old | new
      · exact consistent.2.refs r old
      · rw [List.mem_singleton.mp new]
        trivial⟩

/-- A foreign key joins the table unless its name is taken in the schema. -/
theorem addForeignKey_spec (b : TableBuilder) (symbol indexName : String) (columns : List String)
    (refs? site? : Option Node) :
    Spec (b.Consistent cs views) (addForeignKey b symbol indexName columns refs? site?)
      fun b' a => b'.Continues b ∧ b'.Consistent cs views a := by
  unfold addForeignKey
  split
  case h_2 => exact Spec.of_pure fun _ consistent => ⟨Continues.refl b, consistent⟩
  rename_i refs
  simp only []
  refine Spec.bind (Spec.conseq options_spec (fun _ holds => holds) fun _ _ holds => holds.1)
    fun opts => ?_
  -- the name given or made up goes the same way
  refine Spec.ite_bind (?_ : Spec _ _ fun _ => b.Consistent cs views) fun name => ?_
  · split
    · exact Recording.spec (foreignKeyName_recording _ _) (Consistent.stable b)
    · exact Spec.pure_keep
  refine Spec.bind (foreignKeyNameTaken_spec b name) fun taken => ?_
  split
  · exact Recording.result ((memberName_recording _ _).bind fun _ =>
        (duplicate_recording _ _ _ _).bind fun _ => Recording.pure _) (fun _ => rfl)
      fun _ _ start records => ⟨Continues.refl b, start.1.records records⟩
  rename_i free
  let named : Analyzer → Prop := fun a => b.Consistent cs views a ∧ (taken = false →
      b.table.findForeignKey a.options.caseSensitive name = none ∧
        ∀ u ∈ a.catalog.others b.schema b.table.id,
          u.findForeignKey a.options.caseSensitive name = none)
  have stable : Stable named := by
    rintro a a' ⟨consistent, named⟩ records
    refine ⟨consistent.records records, ?_⟩
    rw [Catalog.others_congr records.schemas, records.options]
    exact named
  refine Spec.bind (issue_fresh stable (fun a start => start.1.2.handles) _ _) fun id => ?_
  refine Spec.bind (Spec.conseq (Spec.forIn (fun fk a => (named a ∧ b.Fresh id a) ∧ fk.id = id ∧ fk.name = name)
    fun opt _ fk => ?_) (fun a holds => ⟨holds, rfl, rfl⟩) fun _ _ holds => holds) fun fk => ?_
  · -- the referential actions leave the handle and the name
    split
    · split <;> exact Spec.of_pure fun _ holds => holds
    · exact Spec.of_pure fun _ holds => holds
  refine Spec.bind (Spec.conseq (update_spec b _) (fun a start => ⟨start.1.1.1, ?_⟩)
    fun _ _ done => done) fun b' => Spec.of_pure ?_
  · obtain ⟨⟨⟨⟨_, sound⟩, named⟩, held, positive, issued⟩, sameId, sameName⟩ := start
    have fresh : fk.name.isEmpty = false →
        b.table.findForeignKey a.options.caseSensitive fk.name = none ∧
          ∀ u ∈ a.catalog.others b.schema b.table.id,
            u.findForeignKey a.options.caseSensitive fk.name = none := by
      intro named'
      rw [sameName] at named' ⊢
      exact named (by simpa [named'] using free)
    refine ⟨rfl, rfl, rfl, ⟨sound.keys.columns, sound.keys.indexes, sound.keys.primary⟩,
      (held.append_foreignKey (by omega)).mono (sameId ▸ issued), sound.real,
      sound.beside.append_foreignKey (fun named' => ?_) fun named' u mem => ?_⟩
    · exact (findNamed_eq_none_iff _ _ _ _).mp (fresh named').1
    · exact (findNamed_eq_none_iff _ _ _ _).mp ((fresh named').2 u mem)
  · rintro a ⟨rfl, consistent⟩
    exact ⟨⟨rfl, rfl, rfl, rfl, rfl⟩, consistent.with_refs rfl rfl rfl fun r mem => by
      rcases List.mem_append.mp mem with old | new
      · exact consistent.2.refs r old
      · simp only [List.mem_cons, List.not_mem_nil, or_false] at new
        rcases new with rfl | rfl <;> trivial⟩

/-- The keys, references and checks written on a column keep the builder consistent. -/
theorem inlineConstraints_spec (b : TableBuilder) (col : Column) (defn : Node) :
    Spec (b.Consistent cs views) (inlineConstraints b col defn)
      fun b' a => b'.Continues b ∧ b'.Consistent cs views a := by
  unfold inlineConstraints
  simp only []
  refine Spec.bind (Spec.conseq (Spec.forIn (fun acc a => acc.1.Continues b ∧ acc.1.Consistent cs views a)
    fun c _ acc => ?_) (fun _ start => ⟨Continues.refl b, start⟩) fun _ _ done => done) fun acc => ?_
  · refine Spec.of_fact fun before => ?_
    have yield : ∀ {m : Analyze TableBuilder} {u : Bool}, Spec (acc.1.Consistent cs views) m
        (fun b' a => b'.Continues acc.1 ∧ b'.Consistent cs views a) →
        Spec (acc.1.Consistent cs views) (m >>= fun b' => pure (ForInStep.yield (b', u)))
          fun r a => r.value.1.Continues b ∧ r.value.1.Consistent cs views a :=
      fun step => Spec.bind step fun _ => Spec.of_pure fun _ ⟨next, consistent⟩ =>
        ⟨next.trans before, consistent⟩
    have primary : ∀ {m : Nat → Analyze (Bool × TableBuilder)} {u : Bool},
        (∀ id, Spec (fun a => acc.1.Consistent cs views a ∧ acc.1.Fresh id a) (m id)
          fun r a => r.2.Continues acc.1 ∧ r.2.Consistent cs views a) →
        Spec (acc.1.Consistent cs views) (issue .index "PRIMARY" >>= fun id =>
          m id >>= fun r => pure (ForInStep.yield (r.2, u)))
            fun r a => r.value.1.Continues b ∧ r.value.1.Consistent cs views a :=
      fun step => Spec.bind (issue_fresh (Consistent.stable _) (fun _ consistent => consistent.2.handles) _ _)
        fun id => Spec.bind (step id) fun _ => Spec.of_pure fun _ ⟨next, consistent⟩ =>
          ⟨next.trans before, consistent⟩
    split
    · split
      · exact primary fun _ => Spec.conseq (addIndex_spec _ _ _) (fun _ start => start) fun _ _ done => done
      · exact primary fun _ => Spec.conseq (addIndex_spec _ _ _) (fun _ start => start) fun _ _ done => done
      · exact Spec.of_pure fun _ consistent => ⟨before, consistent⟩
      · exact Spec.of_pure fun _ consistent => ⟨before, consistent⟩
      · split
        · exact yield (update_shape _ _ rfl)
        · exact Spec.of_pure fun _ consistent => ⟨before, consistent⟩
      · split
        · exact yield (update_shape _ _ rfl)
        · exact Spec.of_pure fun _ consistent => ⟨before, consistent⟩
      · exact Spec.of_pure fun _ consistent => ⟨before, consistent⟩
    · exact yield (addForeignKey_spec _ _ _ _ _ _)
    · exact Spec.of_pure fun _ consistent => ⟨before, consistent⟩
  refine Spec.of_fact fun before => ?_
  split
  · refine Spec.bind caseSensitive_spec fun cs' => ?_
    refine Spec.bind (issue_fresh ((Consistent.stable _).and (Stable.caseSensitive cs'))
      (fun _ start => start.1.2.handles) _ _) fun id => ?_
    refine Spec.bind (Spec.conseq (addIndex_spec _ _ _) (fun _ start => ⟨start.1.1, start.2⟩)
      fun _ _ done => done) fun r => Spec.of_pure fun _ ⟨next, consistent⟩ => ⟨next.trans before, consistent⟩
  · exact Spec.of_pure fun _ consistent => ⟨before, consistent⟩

/-- A column joins the table, with its keys, references and checks, unless its name is taken
or it is to follow a column that does not exist. -/
theorem insertColumn_spec (b : TableBuilder) (defn : Node) (place? : Option Node) :
    Spec (b.Consistent cs views) (insertColumn b defn place?)
      fun b' a => b'.Continues b ∧ b'.Consistent cs views a := by
  unfold insertColumn
  refine Spec.bind (newColumn_fresh (Consistent.stable b) (fun _ consistent => consistent.2.handles) defn)
    fun col => ?_
  refine Spec.bind caseSensitive_spec fun cs' => ?_
  split
  · exact Recording.result ((memberName_recording _ _).bind fun _ => (duplicate_recording _ _ _ _).bind
        fun _ => (release_recording _).bind fun _ => Recording.pure _) (fun _ => rfl)
      fun _ _ start records => ⟨Continues.refl b, start.1.1.records records⟩
  rename_i fresh
  refine Spec.bind (Recording.spec (placement_recording b place?)
    (((Consistent.stable b).and (Fresh.stable b col.id)).and (Stable.caseSensitive cs'))) fun place => ?_
  split
  · exact Recording.result ((release_recording _).bind fun _ => Recording.pure _) (fun _ => rfl)
      fun _ _ start records => ⟨Continues.refl b, start.1.1.records records⟩
  refine Spec.bind (update_fits b _ rfl rfl fun a start => ⟨start.1.1, ?_⟩) fun b' =>
    carried (inlineConstraints_spec b' col defn)
  obtain ⟨⟨⟨_, sound⟩, held, positive, issued⟩, rfl⟩ := start
  rw [Table.findColumn] at fresh
  exact sound.fits.insert_column (insertColumnAt_perm _ _ _ _ _) (findNamed_not_isSome _ _ _ fresh)
    (fun c mem => by have := held.columnsBelow c mem; omega) issued

/-- Renaming the column names in key parts and foreign keys keeps the builder consistent. -/
theorem renameColumnRefs_spec (b : TableBuilder) (old new : String) :
    Spec (b.Consistent cs views) (renameColumnRefs b old new)
      fun b' a => b'.Continues b ∧ b'.Consistent cs views a := by
  unfold renameColumnRefs
  split
  · exact Spec.of_pure fun _ consistent => ⟨Continues.refl b, consistent⟩
  · refine Spec.bind (Recording.spec caseSensitive_recording (Consistent.stable b)) fun cs' => ?_
    exact update_shape b _ (by simp only [Table.shape, List.map_map]; rfl)

/-- A column replaced by a new definition (`CHANGE`, `MODIFY`) keeps the builder consistent: the
new name is the old one or free, the new handle is new, and moving the column only reorders. -/
theorem changeColumn_spec (b : TableBuilder) (old : String) (defn : Node) (place? : Option Node) :
    Spec (b.Consistent cs views) (changeColumn b old defn place?)
      fun b' a => b'.Continues b ∧ b'.Consistent cs views a := by
  unfold changeColumn
  simp only []
  refine Spec.bind caseSensitive_spec fun cs' => ?_
  split
  case h_2 =>
    exact Recording.result ((memberName_recording _ _).bind fun _ =>
        (report_recording _ _ _ _ _).bind fun _ => Recording.pure _) (fun _ => rfl)
      fun _ _ start records => ⟨Continues.refl b, start.1.records records⟩
  rename_i existing found
  rw [Table.findColumn] at found
  have member := (findNamed_mem _ _ _ found).1
  refine Spec.bind (newColumn_fresh ((Consistent.stable b).and (Stable.caseSensitive cs'))
    (fun _ start => start.1.2.handles) defn) fun col => ?_
  split
  · exact Recording.result ((memberName_recording _ _).bind fun _ => (duplicate_recording _ _ _ _).bind
        fun _ => (release_recording _).bind fun _ => Recording.pure _) (fun _ => rfl)
      fun _ _ start records => ⟨Continues.refl b, start.1.1.records records⟩
  rename_i free
  refine Spec.bind (Spec.conseq (update_spec b _) (fun a start => ⟨start.1.1, ?_⟩)
    fun _ _ done => done) fun b₁ => ?_
  · -- the new column takes the old one's place
    obtain ⟨⟨⟨_, sound⟩, rfl⟩, held, positive, issued⟩ := start
    refine sound.fits.replace_column member (fun c mem other => ?_)
      (fun c mem _ => Nat.ne_of_gt (by have := held.columnsBelow c mem; omega)) issued
    by_cases same : nameEqual a.options.caseSensitive col.name existing.name = true
    · have apart := sound.keys.columns.apart member mem fun equal => other (equal ▸ rfl)
      exact nameEqual_false_of_left (by rwa [nameEqual_comm]) apart
    · rw [Table.findColumn] at free
      have absent : ¬(findNamed (·.name) a.options.caseSensitive col.name b.table.columns).isSome = true := by
        simpa [same] using free
      rw [nameEqual_comm]
      exact findNamed_not_isSome _ _ _ absent c mem
  refine Spec.of_fact fun placed => ?_
  have carriedOn : b₁.Continues b := placed ▸ ⟨rfl, rfl, rfl, rfl, rfl⟩
  have inPlace : col ∈ b₁.table.columns := by
    rw [placed]
    exact List.mem_map.mpr ⟨existing, member, by simp⟩
  -- the rest runs after the column is moved, or where it stands
  refine Spec.conseq (?_ : Spec (fun a => b₁.Continues b ∧ b₁.Consistent cs views a) _ _)
    (fun _ consistent => ⟨carriedOn, consistent⟩) fun _ _ done => done
  split
  · refine Spec.of_fact fun before => ?_
    refine Spec.bind (Recording.spec (placement_recording _ _) (Consistent.stable _)) fun place => ?_
    split
    · refine Spec.bind (update_fits _ _ rfl rfl fun _ consistent => ⟨consistent,
        consistent.2.fits.perm_columns ((insertColumnAt_perm _ _ _ _ _).trans
          (perm_cons_filter inPlace consistent.2.handles.columns))⟩) fun b₂ => ?_
      refine Spec.conseq (?_ : Spec (fun a => b₂.Continues b ∧ b₂.Consistent cs views a) _ _)
        (fun _ ⟨next, consistent⟩ => ⟨next.trans before, consistent⟩) fun _ _ done => done
      refine Spec.bind (carried (renameColumnRefs_spec _ _ _)) fun b₃ => ?_
      refine Spec.bind (carried (update_shape _ _ (by simp only [Table.shape, List.map_map]; rfl)))
        fun b₄ => ?_
      refine Spec.bind (Recording.spec (release_recording _) ((Stable.const _).and
        (Consistent.stable _))) fun _ => ?_
      exact carried (inlineConstraints_spec _ _ _)
    · refine Spec.conseq (?_ : Spec (fun a => b₁.Continues b ∧ b₁.Consistent cs views a) _ _)
        (fun _ consistent => ⟨before, consistent⟩) fun _ _ done => done
      refine Spec.bind (carried (renameColumnRefs_spec _ _ _)) fun b₃ => ?_
      refine Spec.bind (carried (update_shape _ _ (by simp only [Table.shape, List.map_map]; rfl)))
        fun b₄ => ?_
      refine Spec.bind (Recording.spec (release_recording _) ((Stable.const _).and
        (Consistent.stable _))) fun _ => ?_
      exact carried (inlineConstraints_spec _ _ _)
  · refine Spec.bind (carried (renameColumnRefs_spec _ _ _)) fun b₃ => ?_
    refine Spec.bind (carried (update_shape _ _ (by simp only [Table.shape, List.map_map]; rfl)))
      fun b₄ => ?_
    refine Spec.bind (Recording.spec (release_recording _) ((Stable.const _).and
      (Consistent.stable _))) fun _ => ?_
    exact carried (inlineConstraints_spec _ _ _)

/-- `MODIFY` puts the new definition in place before it reads the `AFTER` clause, where `ADD`
reads the clause first: after an `AFTER` naming no column the error is recorded and the column
has its new type all the same, while an `ADD` refused the same way leaves the columns as they
were. -/
theorem modify_after_unknown_column_changes_table :
    let u := AnalysisUnit.new "u" (Catalog.new {}) {}
    let before := (u.applySQL "CREATE TABLE t (a INT, b INT);").1
    let modified := (before.applySQL "ALTER TABLE t MODIFY a BIGINT AFTER nope;").1
    let added := (before.applySQL "ALTER TABLE t ADD c BIGINT AFTER nope;").1
    modified.diagnostics.map (·.message) = ["unknown column nope in AFTER clause"] ∧
      added.diagnostics.map (·.message) = ["unknown column nope in AFTER clause"] ∧
      before.catalog.tables.map (fun t => t.columns.map (·.dataType.name)) = [["INT", "INT"]] ∧
      modified.catalog.tables.map (fun t => t.columns.map (·.dataType.name)) = [["BIGINT", "INT"]] ∧
      added.catalog.tables.map (fun t => t.columns.map (·.dataType.name)) = [["INT", "INT"]] := by
  set_option maxRecDepth 100000 in decide +kernel

/-- Dropping a column keeps the builder consistent: the column goes, and so do its key parts and
the indexes left without any. -/
theorem dropColumn_spec (b : TableBuilder) (name : String) (site : Node) :
    Spec (b.Consistent cs views) (dropColumn b name site)
      fun b' a => b'.Continues b ∧ b'.Consistent cs views a := by
  unfold dropColumn
  simp only []
  refine Spec.bind (Recording.spec caseSensitive_recording (Consistent.stable b)) fun cs' => ?_
  split
  case h_2 =>
    exact Recording.result ((memberName_recording _ _).bind fun _ =>
        (report_recording _ _ _ _ _).bind fun _ => Recording.pure _) (fun _ => rfl)
      fun _ _ start records => ⟨Continues.refl b, start.records records⟩
  rename_i col _
  refine Spec.bind (Spec.conseq (update_spec b _) (fun _ consistent =>
    ⟨consistent, consistent.2.fits.sublist_columns List.filter_sublist⟩) fun _ _ done => done)
    fun b₁ => Spec.of_fact fun placed => ?_
  -- every index left agrees in name and kind with the index of its handle before the loop
  let Agrees (acc : TableBuilder) : Prop := (b₁.table.indexes.map (·.id)).Nodup ∧
    ∀ i ∈ acc.table.indexes, ∀ j ∈ b₁.table.indexes, i.id = j.id → i.name = j.name ∧ i.type = j.type
  refine Spec.bind (Spec.conseq (Spec.forIn (fun acc a => Agrees acc ∧ acc.Continues b ∧
    acc.Consistent cs views a) fun idx mem acc => ?_) (fun _ consistent => ⟨?_, placed ▸ ⟨rfl, rfl, rfl, rfl, rfl⟩,
      consistent⟩) fun _ _ done => done) fun acc => ?_
  · refine Spec.of_fact fun agrees => Spec.of_fact fun before => ?_
    split
    · refine Spec.bind (Spec.conseq (update_spec acc _) (fun _ consistent =>
        ⟨consistent, consistent.2.fits.drop_index idx.id⟩) fun _ _ done => done) fun b' => ?_
      refine Spec.of_fact fun same => ?_
      subst same
      refine Spec.bind (Recording.spec (release_recording _) (Consistent.stable _)) fun _ =>
        Spec.of_pure fun _ consistent => ⟨⟨agrees.1, fun i mem => agrees.2 i (List.mem_filter.mp mem).1⟩,
          ⟨before.schema, before.attached, before.id, before.name, before.faulted⟩, consistent⟩
    · -- the index keeps its name and kind, with fewer key parts
      have same : ∀ j ∈ acc.table.indexes, j.id = idx.id → j.name = idx.name ∧ j.type = idx.type :=
        fun j inAcc hit => agrees.2 j inAcc idx mem hit
      refine Spec.bind (Spec.conseq (update_spec acc _) (fun _ consistent =>
        ⟨consistent, consistent.2.fits.of_shape (Table.setIndex_shape _ _ same)⟩)
        fun _ _ done => done) fun b' => ?_
      refine Spec.of_fact fun placed' => ?_
      subst placed'
      refine Spec.of_pure fun _ consistent => ⟨⟨agrees.1, fun i inNew j inFirst sameId => ?_⟩,
        ⟨before.schema, before.attached, before.id, before.name, before.faulted⟩, consistent⟩
      obtain ⟨i', inAcc, rfl⟩ := List.mem_map.mp inNew
      by_cases hit : i'.id = idx.id
      · have : j = idx := List.inj_on_of_nodup_map agrees.1 inFirst mem (by simpa [hit] using sameId.symm)
        subst this
        simp [hit]
      · simp only [hit, beq_iff_eq, if_false] at sameId ⊢
        exact agrees.2 i' inAcc j inFirst sameId
  · have ids := consistent.2.handles.indexes
    exact ⟨ids, fun i first j second sameId => by
      rw [List.inj_on_of_nodup_map ids first second sameId]
      exact ⟨rfl, rfl⟩⟩
  · exact Spec.bind (Recording.spec (release_recording _) ((Stable.const _).and ((Stable.const _).and
      (Consistent.stable _)))) fun _ => Spec.of_pure fun _ done => done.2

/-- A table constraint keeps the builder consistent: a check is recorded, a foreign key or an
index joins the table unless refused. -/
theorem addConstraint_spec (b : TableBuilder) (defn : Node) :
    Spec (b.Consistent cs views) (addConstraint b defn)
      fun b' a => b'.Continues b ∧ b'.Consistent cs views a := by
  unfold addConstraint
  simp only []
  refine Spec.bind (Recording.spec caseSensitive_recording (Consistent.stable b)) fun cs' => ?_
  split
  · split
    · exact update_shape b _ rfl
    · exact Spec.of_pure fun _ consistent => ⟨Continues.refl b, consistent⟩
  · exact Spec.bind (Recording.spec (keyParts_recording _ _) (Consistent.stable b)) fun _ =>
      addForeignKey_spec _ _ _ _ _ _
  · split
    · exact Recording.result ((qualified_recording _).bind fun _ =>
          (report_recording _ _ _ _ _).bind fun _ => Recording.pure _) (fun _ => rfl)
        fun _ _ start records => ⟨Continues.refl b, start.records records⟩
    refine Spec.bind (issue_fresh (Consistent.stable b) (fun _ consistent => consistent.2.handles) _ _)
      fun id => ?_
    refine Spec.bind (indexDetails_id ((Consistent.stable b).and (Fresh.stable b id)) _ _ _)
      fun idx => ?_
    refine Spec.bind (Recording.spec (rename_recording _ _) (((Consistent.stable b).and
      (Fresh.stable b id)).and (Stable.const _))) fun _ => ?_
    refine Spec.bind (Spec.conseq (addIndex_spec _ _ _) (fun _ ⟨⟨consistent, fresh⟩, same⟩ =>
      ⟨consistent, by rw [same]; exact fresh⟩) fun _ _ done => done) fun r => Spec.of_pure fun _ done => done

/-- Dropping an index keeps the builder consistent; the foreign keys it supported lose their
link. -/
theorem dropIndex_spec (b : TableBuilder) (name : String) (site : Node) :
    Spec (b.Consistent cs views) (dropIndex b name site)
      fun b' a => b'.Continues b ∧ b'.Consistent cs views a := by
  unfold dropIndex
  refine Spec.bind (Recording.spec caseSensitive_recording (Consistent.stable b)) fun cs' => ?_
  split
  case h_2 =>
    exact Recording.result ((memberName_recording _ _).bind fun _ =>
        (report_recording _ _ _ _ _).bind fun _ => Recording.pure _) (fun _ => rfl)
      fun _ _ start records => ⟨Continues.refl b, start.records records⟩
  rename_i idx _
  refine Spec.bind (update_fits b _ rfl rfl fun _ consistent => ⟨consistent,
    (consistent.2.fits.drop_index idx.id).of_shape ?_⟩) fun b' => ?_
  · simp only [Table.shape, List.map_map, Prod.mk.injEq, true_and]
    refine List.map_congr_left fun fk _ => ?_
    simp only [Function.comp_apply]
    split <;> rfl
  exact Spec.bind (Recording.spec (release_recording _) ((Stable.const _).and (Consistent.stable _)))
    fun _ => Spec.of_pure fun _ done => done

/-- Dropping a foreign key keeps the builder consistent. -/
theorem dropForeignKey_spec (b : TableBuilder) (name : String) (site : Node) :
    Spec (b.Consistent cs views) (dropForeignKey b name site)
      fun b' a => b'.Continues b ∧ b'.Consistent cs views a := by
  unfold dropForeignKey
  refine Spec.bind (Recording.spec caseSensitive_recording (Consistent.stable b)) fun cs' => ?_
  split
  case h_2 =>
    exact Recording.result ((memberName_recording _ _).bind fun _ =>
        (report_recording _ _ _ _ _).bind fun _ => Recording.pure _) (fun _ => rfl)
      fun _ _ start records => ⟨Continues.refl b, start.records records⟩
  rename_i fk _
  refine Spec.bind (update_fits b _ rfl rfl fun _ consistent => ⟨consistent,
    consistent.2.fits.drop_foreignKey fk.id⟩) fun b' => ?_
  exact Spec.bind (Recording.spec (release_recording _) ((Stable.const _).and (Consistent.stable _)))
    fun _ => Spec.of_pure fun _ done => done

/-- A table option keeps the builder consistent. -/
theorem option_spec (b : TableBuilder) (opt : Node) :
    Spec (b.Consistent cs views) (option b opt) fun b' a => b'.Continues b ∧ b'.Consistent cs views a :=
  Spec.bind (Recording.spec options_recording (Consistent.stable b)) fun _ => update_shape b _ rfl

/-- Linking a foreign key to a supporting index, made when there is none, keeps the builder
consistent. -/
theorem supportingIndex_spec (b : TableBuilder) (fk : ForeignKey) (indexName : String)
    (found : fk ∈ b.table.foreignKeys) :
    Spec (b.Consistent cs views) (supportingIndex b fk indexName)
      fun b' a => b'.Continues b ∧ b'.Consistent cs views a := by
  -- the foreign key put back keeps its name: it is the only one with its handle
  have link : ∀ (b' : TableBuilder) (idx : Nat), fk ∈ b'.table.foreignKeys →
      Spec (b'.Consistent cs views) (update b' fun t => t.setForeignKey { fk with index := some idx })
        fun b'' a => b''.Continues b' ∧ b''.Consistent cs views a :=
    fun b' idx mem => update_fits b' _ rfl rfl fun _ consistent => ⟨consistent,
      consistent.2.fits.of_shape (Table.setForeignKey_shape _ _ fun g inTable same => by
        rw [List.inj_on_of_nodup_map consistent.2.handles.foreignKeys inTable mem same])⟩
  unfold supportingIndex
  simp only []
  refine Spec.bind caseSensitive_spec fun cs' => ?_
  split
  · exact Spec.conseq (link b _ found) (fun _ start => start.1) fun _ _ done => done
  split
  · exact Spec.conseq (link b _ found) (fun _ start => start.1) fun _ _ done => done
  rename_i free
  refine Spec.bind (issue_fresh ((Consistent.stable b).and (Stable.caseSensitive cs'))
    (fun _ start => start.1.2.handles) _ _) fun id => ?_
  refine Spec.bind (Spec.conseq (update_spec b _) (fun a start => ⟨start.1.1, ?_⟩)
    fun _ _ done => done) fun b₁ => ?_
  · obtain ⟨⟨⟨_, sound⟩, rfl⟩, held, positive, issued⟩ := start
    rw [Table.findIndex] at free
    exact sound.fits.append_index ((findNamed_eq_none_iff _ _ _ _).mp free) (by simp) held positive
      issued
  refine Spec.of_fact fun placed => ?_
  subst placed
  refine Spec.conseq (link _ _ found) (fun _ consistent => consistent.with_refs rfl rfl rfl
    fun r mem => ?_) fun _ _ ⟨next, consistent⟩ => ⟨⟨next.schema, next.attached, next.id, next.name, next.faulted⟩,
      consistent⟩
  rcases List.mem_append.mp mem with old | new
  · exact consistent.2.refs r old
  · rw [List.mem_singleton.mp new]
    trivial

/-- Handing the buffered references over keeps the state and the builder consistent. -/
theorem pushRefs_spec (b : TableBuilder) :
    Spec (b.Consistent cs views) (pushRefs b.refs) fun _ a => { b with refs := [] }.Consistent cs views a := by
  rintro a ⟨kept, sound⟩
  rw [pushRefs_run]
  refine ⟨⟨kept.caseSensitive, kept.catalog, kept.noStubs, fun r mem => ?_⟩,
    { sound with refs := fun r mem => absurd mem List.not_mem_nil }⟩
  simp only [Array.toList_append, List.mem_append] at mem
  rcases mem with old | new
  · exact kept.refs r old
  · exact sound.refs r new

/-- Completing a builder keeps it consistent and leaves its primary key columns `NOT NULL`. -/
theorem finish_spec (b : TableBuilder) :
    Spec (b.Consistent cs views) (finish b) fun b' a => b'.Continues b ∧ b'.Consistent cs views a ∧
      b'.table.PrimaryNotNull a.options.caseSensitive := by
  unfold finish
  simp only []
  -- supporting indexes for the foreign keys still waiting
  refine Spec.bind (Spec.conseq (Spec.forIn (fun acc a => acc.Continues b ∧ acc.Consistent cs views a)
    fun x _ acc => ?_) (fun _ consistent => ⟨Continues.refl b, consistent⟩) fun _ _ done => done)
    fun b₁ => Spec.of_fact fun before => ?_
  · refine Spec.of_fact fun before => ?_
    split
    · rename_i fk found
      split
      · exact Spec.bind (supportingIndex_spec _ _ _ (List.mem_of_find?_eq_some found)) fun _ =>
          Spec.of_pure fun _ ⟨next, consistent⟩ => ⟨next.trans before, consistent⟩
      · exact Spec.of_pure fun _ consistent => ⟨before, consistent⟩
    · exact Spec.of_pure fun _ consistent => ⟨before, consistent⟩
  refine Spec.bind caseSensitive_spec fun cs' => ?_
  split
  -- without a primary key there is nothing to mark
  on_goal 2 =>
    rename_i none
    refine Spec.conseq (?_ : Spec (fun a => ({ b₁ with pending := [] }.Continues b ∧
      b₁.table.PrimaryNotNull cs') ∧ ({ b₁ with pending := [] }.Consistent cs views a ∧
        a.options.caseSensitive = cs')) _ _) (fun _ start => ⟨⟨⟨before.schema, before.attached,
          before.id, before.name, before.faulted⟩, fun pk found => absurd found (none pk)⟩,
        by exact start.1.with_refs rfl rfl rfl start.1.2.refs, start.2⟩) fun _ _ done => done
  -- `NOT NULL` on the primary key columns, one name after the other
  on_goal 1 =>
    rename_i pk primary
    refine Spec.bind (Spec.conseq (Spec.forIn_prefix (fun done acc a =>
      (acc.table.primaryIndex = some pk ∧
        (∀ n ∈ done, ∀ c ∈ acc.table.columns, nameEqual cs' c.name n = true → c.notNull = true) ∧
        acc.Continues b) ∧ (acc.Consistent cs views a ∧ a.options.caseSensitive = cs'))
      fun done name rest _ acc => ?_) (fun _ start => ⟨⟨primary, by simp,
        ⟨before.schema, before.attached, before.id, before.name, before.faulted⟩⟩,
        by exact start.1.with_refs rfl rfl rfl start.1.2.refs, start.2⟩)
      (fun acc a done => ⟨⟨done.1.2.2, ?_⟩, done.2⟩ :
        ∀ (acc : TableBuilder) (a : Analyzer), _ → (acc.Continues b ∧
          acc.table.PrimaryNotNull cs') ∧ (acc.Consistent cs views a ∧ a.options.caseSensitive = cs')))
      fun b₂ => ?_
    · refine Spec.of_fact fun ⟨primary', upTo, before'⟩ => ?_
      split
      · rename_i col found
        refine Spec.of_pre_fact (fun a start => start.2 ▸ start.1.2.keys.columns) fun distinct => ?_
        refine Spec.bind (Spec.frame_options (Spec.conseq (update_spec _ _) (fun _ consistent =>
          ⟨consistent, consistent.2.fits.of_shape ?_⟩) fun _ _ done => done) (update_options _ _)
          (·.caseSensitive = cs')) fun b' => ?_
        · simp only [Table.shape, List.map_map, Prod.mk.injEq, true_and, and_true]
          refine List.map_congr_left fun c _ => ?_
          simp only [Function.comp_apply]
          split <;> rfl
        refine Spec.conseq (?_ : Spec (fun a => b' = _ ∧ (b'.Consistent cs views a ∧
          a.options.caseSensitive = cs')) _ _) (fun _ ⟨⟨same, consistent⟩, sameCs⟩ =>
            ⟨same, consistent, sameCs⟩) fun _ _ done => done
        refine Spec.of_fact fun same => ?_
        subst same
        exact Spec.of_pure fun _ start => ⟨⟨primary', Table.notNull_step distinct found upTo,
          ⟨before'.schema, before'.attached, before'.id, before'.name, before'.faulted⟩⟩, start⟩
      · rename_i absent
        refine Spec.of_pure fun _ start => ⟨⟨primary', fun n mem c inColumns same => ?_, before'⟩, start⟩
        rcases List.mem_append.mp mem with old | new
        · exact upTo n old c inColumns same
        · rw [List.mem_singleton.mp new] at same
          have := (findNamed_eq_none_iff _ _ _ _).mp (Option.eq_none_iff_forall_ne_some.mpr
            fun col found => absent col found) c inColumns
          rw [this] at same
          exact absurd same (by simp)
    · intro pk' found
      rw [done.1.1] at found
      cases found
      exact done.1.2.1
  -- charsets of character columns, and the references handed over
  all_goals
    refine Spec.of_fact fun facts => ?_
    refine Spec.bind (Recording.spec (schemaById_recording _)
      ((Consistent.stable _).and (Stable.caseSensitive cs'))) fun _ => ?_
    refine Spec.bind (Recording.spec options_recording
      ((Consistent.stable _).and (Stable.caseSensitive cs'))) fun _ => ?_
    refine Spec.bind (Spec.frame_options (Spec.conseq (update_spec _ _) (fun _ consistent =>
      ⟨consistent, consistent.2.fits.of_shape ?_⟩) fun _ _ done => done) (update_options _ _)
      (·.caseSensitive = cs')) fun b₃ => ?_
    · simp only [Table.shape, List.map_map, Prod.mk.injEq, true_and, and_true]
      refine List.map_congr_left fun c _ => ?_
      simp only [Function.comp_apply]
      split <;> rfl
    refine Spec.conseq (?_ : Spec (fun a => b₃ = _ ∧ (b₃.Consistent cs views a ∧
      a.options.caseSensitive = cs')) _ _) (fun _ ⟨⟨same, consistent⟩, sameCs⟩ =>
        ⟨same, consistent, sameCs⟩) fun _ _ done => done
    refine Spec.of_fact fun same => ?_
    subst same
    exact Spec.bind (Spec.frame_options (pushRefs_spec _) (fun _ => rfl) (·.caseSensitive = cs'))
      fun _ => Spec.of_pure fun _ ⟨consistent, sameCs⟩ => ⟨⟨facts.1.schema, facts.1.attached,
        facts.1.id, facts.1.name, facts.1.faulted⟩, consistent, sameCs ▸ facts.2.map_columns _
          (fun c => by split <;> rfl) fun c => by split <;> rfl⟩

end Analyze

end DdlCatalog.Analysis
