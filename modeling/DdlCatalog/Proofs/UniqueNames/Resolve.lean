import DdlCatalog.Proofs.UniqueNames.Tables
/-!
The resolution pass keeps the names apart. An object reference carries out what its statement
waited for, on a table found in the catalog: it replays `ALTER TABLE`, adds an index or a
trigger, or links a logfile group; none copies a definition, since the references recorded are
admissible. The column phase writes resolved handles into indexes and foreign keys, which
changes no name, no kind and no key column name. With `stubUnresolved` off no stub is made.
-/

set_option linter.dupNamespace false

namespace DdlCatalog.Catalog

namespace Table

theorem primaryIndex_setIndex (t : Table) (i : Index) :
    (t.setIndex i).primaryIndex = t.primaryIndex.map fun j => if j.id == i.id then i else j := by
  have ids : ∀ j : Index, (if j.id = i.id then i else j).id = j.id := fun j => by
    by_cases hit : j.id = i.id <;> simp [hit]
  cases pk : t.primaryKey with
  | none => simp [primaryIndex, setIndex, pk]
  | some k => simp [primaryIndex, setIndex, pk, List.find?_map, Function.comp_def, ids]

/-- An index put in place of the one with its handle, naming the same key columns, keeps the
primary key `NOT NULL`. -/
theorem PrimaryNotNull.setIndex {cs : Bool} {t : Table} (notNull : t.PrimaryNotNull cs) {i : Index}
    (same : ∀ j ∈ t.indexes, j.id = i.id → j.columnNames = i.columnNames) :
    (t.setIndex i).PrimaryNotNull cs := by
  intro pk found name mem c column named
  rw [primaryIndex_setIndex] at found
  obtain ⟨old, primary, rfl⟩ := Option.map_eq_some_iff.mp found
  have member : old ∈ t.indexes := by
    obtain ⟨_, _, located⟩ := Option.bind_eq_some_iff.mp primary
    exact List.mem_of_find?_eq_some located
  have names : (if old.id == i.id then i else old).columnNames = old.columnNames := by
    by_cases hit : old.id = i.id
    · simp [hit, same old member hit]
    · simp [hit]
  exact notNull old primary name (names ▸ mem) c column named

end Table

/-- Writing resolved handles into key parts keeps their names. -/
theorem resolved_names (parts : List IndexColumn) (resolved : List (Option Nat)) :
    ((parts.zip resolved).map (fun ((ic, col) : IndexColumn × Option Nat) => { ic with column := col }) ++
      parts.drop ((parts.zip resolved).map
        fun ((ic, col) : IndexColumn × Option Nat) => { ic with column := col }).length).map
        IndexColumn.name = parts.map IndexColumn.name := by
  induction parts generalizing resolved with
  | nil => simp
  | cons part rest ih =>
    cases resolved with
    | nil => simp
    | cons col more => simpa using ih more

namespace Catalog

variable {cs : Bool} {views : List String} {ex : Option Nat} {c : Catalog}

theorem tableById_congr {c' : Catalog} (schemas : c'.schemas = c.schemas) (id : Nat) :
    c'.tableById id = c.tableById id := by
  simp only [tableById, locateTable, schemas]

theorem tableById_some {id : Nat} {t : Table} (found : c.tableById id = some t) :
    ∃ s ∈ c.schemas, t ∈ s.tables ∧ t.id = id := by
  obtain ⟨⟨s, t'⟩, located, same⟩ := Option.map_eq_some_iff.mp found
  cases same
  obtain ⟨schema, table, sameId⟩ := locateTable_some located
  exact ⟨s, schema, table, sameId⟩

/-- Changing a table of the catalog without changing its shape or its primary key columns'
`NOT NULL` keeps the catalog. -/
theorem Kept.modifyTable_shape (kept : c.Kept cs views ex) {id : Nat} {t : Table}
    (found : c.tableById id = some t) {f : Table → Table} (shape : (f t).shape = t.shape)
    (notNull : t.PrimaryNotNull cs → (f t).PrimaryNotNull cs) : (c.modifyTable id f).Kept cs views ex := by
  obtain ⟨s, schema, table, rfl⟩ := tableById_some found
  have holds : c.Holds s.id t := ⟨s, schema, rfl, table⟩
  have ⟨beside, keys, held, real, waits⟩ := kept.facts_of_holds holds
  have sameId : (f t).id = t.id := congrArg (·.1) shape
  rw [kept.modifyTable_eq (mem_tables schema table) f sameId]
  exact kept.putTable holds sameId (congrArg (·.2.1) shape) (beside.of_shape shape) (keys.of_shape shape)
    (fun other => notNull (waits other)) (held.of_shape shape) ((congrArg (·.2.2.1) shape).trans real)

/-- An index found in a table, put back with the same handle, name, kind and key column names. -/
theorem Kept.setIndex_found (kept : c.Kept cs views ex) {id x : Nat} {idx : Index}
    (found : (c.tableById id).bind (·.indexes.find? (·.id == x)) = some idx) {new : Index}
    (sameId : new.id = idx.id) (name : new.name = idx.name) (type : new.type = idx.type)
    (columns : new.columnNames = idx.columnNames) : (c.modifyTable id (·.setIndex new)).Kept cs views ex := by
  obtain ⟨t, table, located⟩ := Option.bind_eq_some_iff.mp found
  obtain ⟨s, schema, inSchema, _⟩ := tableById_some table
  -- within one table index handles are distinct, so `idx` is the index replaced
  have only : ∀ j ∈ t.indexes, j.id = new.id → j = idx := fun j mem same =>
    List.inj_on_of_nodup_map ((kept.each s schema).handles t inSchema).indexes mem
      (List.mem_of_find?_eq_some located) (same.trans sameId)
  refine kept.modifyTable_shape table (Table.setIndex_shape t new fun j mem same => ?_)
    fun notNull => notNull.setIndex fun j mem same => ?_
  · rw [only j mem same]
    exact ⟨name.symm, type.symm⟩
  · rw [only j mem same]
    exact columns.symm

/-- A foreign key found in a table, put back with the same handle and name. -/
theorem Kept.setForeignKey_found (kept : c.Kept cs views ex) {id x : Nat} {fk : ForeignKey}
    (found : (c.tableById id).bind (·.foreignKeys.find? (·.id == x)) = some fk) {new : ForeignKey}
    (sameId : new.id = fk.id) (name : new.name = fk.name) :
    (c.modifyTable id (·.setForeignKey new)).Kept cs views ex := by
  obtain ⟨t, table, located⟩ := Option.bind_eq_some_iff.mp found
  obtain ⟨s, schema, inSchema, _⟩ := tableById_some table
  refine kept.modifyTable_shape table (Table.setForeignKey_shape t new fun g mem same => ?_)
    fun notNull => notNull
  rw [List.inj_on_of_nodup_map ((kept.each s schema).handles t inSchema).foreignKeys mem
    (List.mem_of_find?_eq_some located) (same.trans sameId)]
  exact name.symm

end Catalog

end DdlCatalog.Catalog

namespace DdlCatalog.Analysis

open DdlCatalog.Catalog
open DdlCatalog.Syntax

namespace Analyze

variable {cs : Bool} {views : List String}

theorem tableById_mem {a : Analyzer} {c : Catalog} (same : c = a.catalog) {id : Nat} {t : Table}
    (found : c.tableById id = some t) : t ∈ a.catalog.tables := by
  obtain ⟨s, schema, table, _⟩ := Catalog.tableById_some found
  exact same ▸ Catalog.mem_tables schema table

/-! The object references. -/

/-- Carrying out an admissible reference on the object found keeps the names apart. -/
theorem bind_keeps (r : ObjectRef) (found : Nat) (admissible : (Reference.object r).Admissible cs views) :
    Spec (·.Kept cs views none) (Analyze.bind r found) fun _ a => a.Kept cs views none := by
  unfold Analyze.bind
  refine Spec.bind catalog_spec fun c => ?_
  split
  case h_1 copy => simp [Reference.Admissible, copy] at admissible
  case h_2 stmt replay =>
    simp only [Reference.Admissible, replay] at admissible
    split
    · rename_i t table
      exact Spec.conseq (replayAlter_keeps stmt t admissible)
        (fun _ ⟨kept, same⟩ => ⟨kept, tableById_mem same table⟩) fun _ _ done => done
    · exact Spec.of_pure fun _ start => start.1
  case h_3 stmt name type _ =>
    split
    · rename_i t table
      exact Spec.conseq (bindIndex_keeps stmt name type t)
        (fun _ ⟨kept, same⟩ => ⟨kept, tableById_mem same table⟩) fun _ _ done => done
    · exact Spec.of_pure fun _ start => start.1
  case h_4 tr object stmt _ =>
    split
    · rename_i t _
      exact Spec.conseq (bindTrigger_keeps tr object stmt t) (fun _ start => start.1) fun _ _ done => done
    · exact Spec.of_pure fun _ start => start.1
  case h_5 ts _ =>
    exact Spec.of_modify fun a ⟨kept, _⟩ =>
      kept.with_catalog (kept.catalog.mapTablespaces _ fun _ => by split <;> rfl)

theorem resolveObject_keeps (r : ObjectRef) (admissible : (Reference.object r).Admissible cs views) :
    Spec (·.Kept cs views none) (resolveObject r) fun _ a => a.Kept cs views none := by
  unfold resolveObject
  refine Spec.bind (Recording.spec (lookupObject_recording r) Analyzer.Kept.stable) fun found => ?_
  split
  · exact Spec.bind (bind_keeps r _ admissible) fun _ => Spec.pure_keep
  · exact Spec.pure_keep

/-- The object references recorded are admissible. -/
theorem objectRefs_spec :
    Spec (·.Kept cs views none) objectRefs
      fun all a => a.Kept cs views none ∧ ∀ p ∈ all, (Reference.object p.2).Admissible cs views := by
  unfold objectRefs
  refine Spec.bind get_spec fun a' => Spec.of_pure fun a ⟨kept, same⟩ => ⟨kept, fun p mem => ?_⟩
  obtain ⟨⟨r, i⟩, indexed, picked⟩ := List.mem_filterMap.mp mem
  have recorded : r ∈ a.refs.toList := same ▸ List.fst_mem_of_mem_zipIdx indexed
  cases r with
  | object o =>
    cases Option.some.inj picked
    exact kept.caseSensitive ▸ kept.refs _ recorded
  | indexColumns => cases picked
  | localColumns => cases picked
  | target => cases picked

variable {all : List (Nat × ObjectRef)}

theorem objectRound_keeps (rs : List (Nat × ObjectRef))
    (admissible : ∀ p ∈ rs, (Reference.object p.2).Admissible cs views) (done : List Nat)
    (errs : List ResolutionError) :
    Spec (·.Kept cs views none) (objectRound all rs done errs) fun _ a => a.Kept cs views none := by
  induction rs generalizing done errs with
  | nil =>
    rw [objectRound]
    exact Spec.pure_keep
  | cons p rest ih =>
    obtain ⟨i, r⟩ := p
    have later : ∀ p ∈ rest, (Reference.object p.2).Admissible cs views :=
      fun p mem => admissible p (List.mem_cons_of_mem _ mem)
    rw [objectRound]
    refine Spec.bind (Recording.spec (waitsForCopy_recording _ _ _ _) Analyzer.Kept.stable) fun _ => ?_
    split
    · exact ih later done errs
    refine Spec.bind (Recording.spec catalog_recording Analyzer.Kept.stable) fun _ => ?_
    simp only []
    -- run or skipped, the reference is done and the round goes on
    split_ifs
    on_goal 2 => refine Spec.bind (resolveObject_keeps r (admissible _ List.mem_cons_self)) fun _ => ?_
    all_goals
      rw [pure_bind]
      exact Spec.bind (ih later _ _) fun _ => Spec.pure_keep

theorem objectRounds_keeps (admissible : ∀ p ∈ all, (Reference.object p.2).Admissible cs views)
    (fuel : Nat) (done : List Nat) (errs : List ResolutionError) :
    Spec (·.Kept cs views none) (objectRounds all fuel done errs) fun _ a => a.Kept cs views none := by
  induction fuel generalizing done errs with
  | zero =>
    rw [objectRounds]
    exact Spec.pure_keep
  | succ fuel ih =>
    rw [objectRounds]
    refine Spec.bind (objectRound_keeps all admissible done errs) fun x => ?_
    obtain ⟨progress, done', errs'⟩ := x
    dsimp only
    split
    · exact ih done' errs'
    · exact Spec.pure_keep

theorem resolveObjects_keeps :
    Spec (·.Kept cs views none) resolveObjects fun _ a => a.Kept cs views none := by
  unfold resolveObjects
  refine Spec.bind objectRefs_spec fun all => ?_
  refine Spec.of_pre_fact (fun _ start => start.2) fun admissible => ?_
  refine Spec.bind (Spec.conseq (objectRounds_keeps admissible _ _ _) (fun _ start => start.1)
    fun _ _ done => done) fun x => ?_
  obtain ⟨done, errs⟩ := x
  dsimp only
  -- the references left waiting in a cycle run as they stand
  refine Spec.bind (Spec.forIn (fun _ a => a.Kept cs views none) fun p listed _ => ?_) fun _ =>
    Spec.pure_keep
  obtain ⟨i, r⟩ := p
  dsimp only
  split
  · refine Spec.bind (Recording.spec (report_recording _ _ _ _ _) Analyzer.Kept.stable) fun _ => ?_
    refine Spec.bind (resolveObject_keeps r (admissible _ listed)) fun _ => ?_
    split <;> exact Spec.pure_keep
  · exact Spec.pure_keep

/-! The column references. -/

/-- Writing back the foreign key found under its handle keeps the names apart. -/
theorem setForeignKey_keeps (t x : Nat) {fk new : ForeignKey} (sameId : new.id = fk.id)
    (name : new.name = fk.name) :
    Spec (fun a => a.Kept cs views none ∧ (a.catalog.tableById t).bind (·.foreignKeys.find? (·.id == x)) = some fk)
      (modifyCatalog (·.modifyTable t (·.setForeignKey new))) fun _ a => a.Kept cs views none :=
  Spec.of_modify fun _ ⟨kept, found⟩ => kept.with_catalog (kept.catalog.setForeignKey_found found sameId name)

/-- Writing back the index found under its handle, with its key parts resolved, keeps the names
apart. -/
theorem setIndex_keeps (t x : Nat) {idx new : Index} (sameId : new.id = idx.id) (name : new.name = idx.name)
    (type : new.type = idx.type) (columns : new.columnNames = idx.columnNames) :
    Spec (fun a => a.Kept cs views none ∧ (a.catalog.tableById t).bind (·.indexes.find? (·.id == x)) = some idx)
      (modifyCatalog (·.modifyTable t (·.setIndex new))) fun _ a => a.Kept cs views none :=
  Spec.of_modify fun _ ⟨kept, found⟩ =>
    kept.with_catalog (kept.catalog.setIndex_found found sameId name type columns)

/-- What follows the write-back only reports. -/
theorem reported_keeps (missing : List String) (error : Analyze ResolutionError) (recording : Recording error) :
    Spec (·.Kept cs views none)
      (if missing.isEmpty = true then pure none else error >>= fun e => pure (some e))
      fun _ a => a.Kept cs views none := by
  split
  · exact Spec.pure_keep
  · exact Spec.bind (Recording.spec recording Analyzer.Kept.stable) fun _ => Spec.pure_keep

theorem applyPlan_keeps (r : Reference) (p : Plan) :
    Spec (·.Kept cs views none) (applyPlan r p) fun _ a => a.Kept cs views none := by
  unfold applyPlan
  refine Spec.bind catalog_spec fun c => ?_
  cases r with
  | indexColumns t i =>
    simp only []
    split
    · rename_i idx found
      refine Spec.bind (Spec.conseq (setIndex_keeps t i (by rfl) (by rfl) (by rfl) (by exact resolved_names _ _))
        (fun a ⟨kept, same⟩ => ⟨kept, same ▸ found⟩) fun _ _ done => done) fun _ => ?_
      exact reported_keeps _ _ (columnError_recording _ _ _ _ _)
    · exact Spec.of_pure fun _ start => start.1
  | localColumns t fk =>
    simp only []
    split
    · rename_i f found
      refine Spec.bind (Spec.conseq (setForeignKey_keeps t fk (by rfl) (by rfl))
        (fun a ⟨kept, same⟩ => ⟨kept, same ▸ found⟩) fun _ _ done => done) fun _ => ?_
      exact reported_keeps _ _ (columnError_recording _ _ _ _ _)
    · exact Spec.of_pure fun _ start => start.1
  | target t fk name =>
    simp only []
    split
    case h_2 => exact Spec.of_pure fun _ start => start.1
    rename_i f found
    -- the foreign key found stays in place under its handle until it is written back
    let held : Analyzer → Prop := fun a =>
      a.Kept cs views none ∧ (a.catalog.tableById t).bind (·.foreignKeys.find? (·.id == fk)) = some f
    have stable : Stable held := Analyzer.Kept.stable.and fun _ _ same records => by
      rwa [Catalog.tableById_congr records.schemas]
    refine Spec.conseq (?_ : Spec held _ _) (fun a ⟨kept, same⟩ => ⟨kept, same ▸ found⟩) fun _ _ done => done
    -- the target is looked up again, or left as planned; no stub is made
    split
    on_goal 1 =>
      refine Spec.bind (Recording.spec (referencedTable_recording t name) stable) fun _ => ?_
      split
      on_goal 1 => refine Spec.bind (Recording.spec (planRef_recording _) stable) fun _ => ?_
      on_goal 2 =>
        refine Spec.bind options_spec fun o => ?_
        refine Spec.of_pre_fact (p := o.stubUnresolved = false)
          (fun _ ⟨holds, same⟩ => same ▸ holds.1.noStubs) fun noStub => ?_
        rw [if_neg (by simp [noStub])]
        refine Spec.conseq (?_ : Spec held _ _) (fun _ start => start.1) fun _ _ done => done
    all_goals
      split
      · exact Spec.bind (setForeignKey_keeps t fk (by rfl) (by rfl)) fun _ =>
          Spec.bind (Recording.spec (columnError_recording _ _ _ _ _) Analyzer.Kept.stable) fun _ =>
            Spec.pure_keep
      refine Spec.bind catalog_spec fun c' => ?_
      -- a target in the catalog is no stub, so no column is added to it
      split
      on_goal 1 =>
        rename_i tt located
        refine Spec.of_pre_fact (p := tt.isStub = false) (fun a ⟨⟨kept, _⟩, same⟩ => ?_) fun real => ?_
        · obtain ⟨s, schema, table, _⟩ := Catalog.tableById_some (same ▸ located)
          exact (kept.catalog.each s schema).real tt table
        rw [if_neg (by simp [real])]
      all_goals
        refine Spec.conseq (?_ : Spec held _ _) (fun _ start => start.1) fun _ _ done => done
        refine Spec.bind (Recording.spec catalog_recording stable) fun _ => ?_
        refine Spec.bind catalog_spec fun c'' => ?_
        split
        · rename_i f' found'
          refine Spec.bind (Spec.conseq (setForeignKey_keeps t fk (by rfl) (by rfl))
            (fun a ⟨⟨kept, _⟩, same⟩ => ⟨kept, same ▸ found'⟩) fun _ _ done => done) fun _ => ?_
          exact reported_keeps _ _ (columnError_recording _ _ _ _ _)
        · exact Spec.of_pure fun _ start => start.1.1
  | object => exact Spec.of_pure fun _ start => start.1

/-- The resolution pass keeps the names apart, and clears the references. -/
theorem resolve_keeps : Spec (·.Kept cs views none) resolve fun _ a => a.Kept cs views none := by
  unfold resolve
  refine Spec.bind resolveObjects_keeps fun _ => ?_
  refine Spec.bind (Recording.spec catalog_recording Analyzer.Kept.stable) fun c => ?_
  refine Spec.bind (Recording.spec get_recording Analyzer.Kept.stable) fun a' => ?_
  refine Spec.bind (Recording.spec (Recording.mapM fun r _ => planRef_recording r) Analyzer.Kept.stable)
    fun plans => ?_
  refine Spec.bind (Spec.forIn (fun _ a => a.Kept cs views none) fun x _ _ => ?_) fun _ => ?_
  · obtain ⟨r, p⟩ := x
    refine Spec.bind (applyPlan_keeps r p) fun _ => ?_
    split <;> exact Spec.pure_keep
  refine Spec.bind (Recording.spec get_recording Analyzer.Kept.stable) fun _ => ?_
  refine Spec.bind (Recording.spec (note_recording _ _ _) Analyzer.Kept.stable) fun _ => ?_
  exact Spec.bind (Spec.of_modify fun a kept =>
    ⟨kept.caseSensitive, kept.catalog, kept.noStubs, fun r mem => nomatch mem⟩) fun _ => Spec.pure_keep

end Analyze

end DdlCatalog.Analysis
