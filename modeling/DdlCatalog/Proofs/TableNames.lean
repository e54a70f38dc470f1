import DdlCatalog.Proofs.ObjectPass
import DdlCatalog.Proofs.UniqueNames.Objects
/-!
Where the table names of statements that wait for the resolution pass are looked up. `ALTER TABLE`
on a table not known yet, `CREATE INDEX`, and `CREATE TRIGGER` on a table not known yet record the
name with the handle of the schema current when the statement is applied. The pass looks an
unqualified name up in that schema, whichever schema is current by then, and a qualified name
`s.t` in the schema named `s` as the catalog stands at that moment. `CREATE TABLE ... LIKE`
records the schema of the new table instead.
-/

namespace DdlCatalog.Analysis

open DdlCatalog.Catalog DdlCatalog.Syntax

/-- The table a name denotes in the catalog `c` under the case policy `cs`: `s.t` is the table `t`
of the schema named `s`, and an unqualified `t` the table `t` of the schema with the handle
`schema`. -/
def tableNamed (cs : Bool) (c : Catalog) (schema : Option Nat) (parts : List String) : Option Table :=
  let (schemaName, name) := splitQualified parts
  (if schemaName.isEmpty then schema.bind c.schemaById else c.findSchema cs schemaName).bind
    (·.findTable cs name)

/-- The current schema of the state is the schema with the handle `id`. -/
def CurrentIs (id : Nat) (x : Analyzer) : Prop := x.current = some id ∧ (x.catalog.schemaById id).isSome

theorem CurrentIs.stable (id : Nat) : Stable (CurrentIs id) := fun a b ⟨current, found⟩ records => by
  refine ⟨records.current.trans current, ?_⟩
  unfold Catalog.schemaById at found ⊢
  rwa [records.schemas]

/-- Adding a schema keeps the current one. -/
theorem CurrentIs.addSchema {id : Nat} {x : Analyzer} (cur : CurrentIs id x) (s : Schema) :
    CurrentIs id { x with catalog := { x.catalog with schemas := x.catalog.schemas ++ [s] } } := by
  obtain ⟨current, found⟩ := cur
  refine ⟨current, ?_⟩
  unfold Catalog.schemaById at found ⊢
  rw [List.find?_append]
  obtain ⟨t, byId⟩ := Option.isSome_iff_exists.mp found
  simp [byId]

namespace Analyze

/-- A reference to a table resolves to the table its name denotes, with the schema it holds for an
unqualified name. -/
theorem lookupAt_table {r : ObjectRef} (table : r.target = .table) (x : Analyzer) :
    lookupAt x r = (tableNamed x.options.caseSensitive x.catalog r.schema r.name).map (·.id) := by
  unfold lookupAt lookupObject
  rw [table]
  rfl

/-- While the current schema is set, asking for it changes nothing. -/
theorem currentSchema_run {id : Nat} {x : Analyzer} (cur : CurrentIs id x) :
    ∃ s, x.catalog.schemaById id = some s ∧ currentSchema.run x = (s, x) := by
  obtain ⟨current, found⟩ := cur
  obtain ⟨s, byId⟩ := Option.isSome_iff_exists.mp found
  refine ⟨s, byId, ?_⟩
  have read : (get : Analyze Analyzer).run x = (x, x) := rfl
  unfold currentSchema
  rw [run_bind, read]
  dsimp only
  rw [current, Option.bind_some, byId]
  rfl

/-- While the current schema is set, a table is looked up at once as the name denotes it, an
unqualified name in the current schema. -/
theorem findTable_run {id : Nat} {x : Analyzer} (cur : CurrentIs id x) (parts : List String) :
    (findTable parts).run x = (tableNamed x.options.caseSensitive x.catalog (some id) parts, x) := by
  obtain ⟨s, byId, run⟩ := currentSchema_run cur
  unfold findTable lookupSchema tableNamed
  by_cases unqualified : (splitQualified parts).1.isEmpty
  · simp [unqualified, run, byId]
    rfl
  · simp only [unqualified, Bool.false_eq_true, if_false, run_bind, catalog_run, caseSensitive_run, run_pure]
    cases x.catalog.findSchema x.options.caseSensitive (splitQualified parts).1 <;> rfl

/-- While the current schema is set, looking a schema up changes nothing, and the empty name gives
the current schema. -/
theorem lookupSchema_run {id : Nat} {x : Analyzer} (cur : CurrentIs id x) (name : String) :
    ∃ found, (lookupSchema name).run x = (found, x) ∧ (name.isEmpty = true → found.map (·.id) = some id) := by
  unfold lookupSchema
  by_cases empty : name.isEmpty
  · obtain ⟨s, byId, run⟩ := currentSchema_run cur
    refine ⟨some s, by simp [empty, run]; rfl, fun _ => ?_⟩
    rw [Option.map_some, (Catalog.schemaById_some byId).2]
  · refine ⟨x.catalog.findSchema x.options.caseSensitive name, ?_, fun holds => absurd holds empty⟩
    simp only [empty, Bool.false_eq_true, if_false, run_bind, catalog_run, caseSensitive_run, run_pure]

end Analyze

/-- The object reference `r` looks up the table that `parts` names, an unqualified name in the
schema with the handle `schema`, whatever the state it is looked up in. -/
structure ObjectRef.BindsIn (r : ObjectRef) (schema : Nat) (parts : List String) : Prop where
  name : r.name = parts
  lookup : ∀ x, Analyze.lookupAt x r = (tableNamed x.options.caseSensitive x.catalog (some schema) parts).map (·.id)

namespace Analyze

/-- A reference to a table binds in the schema it holds whenever its name is unqualified. -/
theorem bindsIn_of_schema {r : ObjectRef} {schema : Nat} (table : r.target = .table)
    (held : (splitQualified r.name).1.isEmpty = true → r.schema = some schema) : r.BindsIn schema r.name := by
  refine ⟨rfl, fun x => ?_⟩
  rw [lookupAt_table table]
  unfold tableNamed
  by_cases unqualified : (splitQualified r.name).1.isEmpty
  · simp only [unqualified, if_true, held unqualified]
  · simp only [unqualified, Bool.false_eq_true, if_false]

/-- `CREATE INDEX` records its table for the resolution pass, which binds an unqualified name in
the schema current when the statement was applied. -/
theorem createIndex_run {id : Nat} {a : Analyzer} (cur : CurrentIs id a) (stmt : Node) :
    ∃ r, ((createIndex stmt).run a).2 = { a with refs := a.refs ++ #[.object r] } ∧
      r.BindsIn id (identifierParts ((stmt.child .createIndexTarget).bind (·.child .tableRef))) := by
  obtain ⟨found, run, current⟩ :=
    lookupSchema_run cur (splitQualified (identifierParts ((stmt.child .createIndexTarget).bind (·.child .tableRef)))).1
  unfold createIndex
  simp only [run_bind, run, pushRefs_run]
  exact ⟨_, rfl, bindsIn_of_schema rfl current⟩

/-- A loop whose rounds do nothing while the accumulator is `none` does nothing from `none`. -/
theorem forIn_none {β α : Type} (xs : List β) {f : β → Option α → Analyze (ForInStep (Option α))}
    (idle : ∀ x, f x none = pure (.yield none)) (a : Analyzer) : (forIn xs none f).run a = (none, a) := by
  induction xs with
  | nil => rfl
  | cons x rest ih =>
    simp only [List.forIn_cons, idle, pure_bind]
    exact ih

/-- `ALTER TABLE` on a table the current schema does not have records the table for the resolution
pass, which binds an unqualified name in that schema. -/
theorem alterTable_run {id : Nat} {a : Analyzer} (cur : CurrentIs id a) (stmt : Node)
    (unknown : tableNamed a.options.caseSensitive a.catalog (some id) (identifierParts (stmt.child .tableRef)) = none) :
    ∃ r, ((alterTable stmt).run a).2.refs = a.refs ++ #[.object r] ∧ r.BindsIn id (identifierParts (stmt.child .tableRef)) := by
  obtain ⟨found, run, current⟩ := lookupSchema_run cur (splitQualified (identifierParts (stmt.child .tableRef))).1
  unfold alterTable
  simp only [run_bind, run, findTable_run cur, unknown, run_pure]
  -- without a table to build on, the walk over the items does nothing
  rw [forIn_none]
  · refine ⟨{ target := .table, name := identifierParts (stmt.child .tableRef), schema := found.map (·.id),
              owner := none, ownerName := ".".intercalate (identifierParts (stmt.child .tableRef)),
              binding := .replayAlter stmt }, ?_, bindsIn_of_schema rfl current⟩
    dsimp only
    rw [run_bind, pushRefs_run, (debug_recording _ _ a).refs]
  · intro v
    cases v <;> dsimp only
    split <;> rfl

/-- While the current schema is set, naming a schema keeps it current and records no reference. -/
theorem schemaFor_keeps {id : Nat} {refs : Array Reference} (name : String) :
    Spec (fun x => CurrentIs id x ∧ x.refs = refs) (schemaFor name) fun _ x => CurrentIs id x ∧ x.refs = refs := by
  have stable : Stable fun x => CurrentIs id x ∧ x.refs = refs :=
    (CurrentIs.stable id).and fun _ _ same records => records.refs.trans same
  unfold schemaFor
  split
  · intro x ⟨cur, same⟩
    obtain ⟨s, -, run⟩ := currentSchema_run cur
    rw [run]
    exact ⟨cur, same⟩
  unfold ensureSchema
  refine Spec.bind get_spec fun x' => ?_
  split
  · exact Spec.of_pure fun _ done => done.1
  refine Spec.bind (Spec.conseq (Recording.spec (issue_recording _ _) stable) (fun _ start => start.1)
    fun _ _ done => done) fun sid => ?_
  dsimp only
  refine Spec.bind (?_ : Spec (fun x => CurrentIs id x ∧ x.refs = refs) (modifyCatalog _)
    fun _ x => CurrentIs id x ∧ x.refs = refs) fun _ => ?_
  · exact Spec.of_modify fun x ⟨cur, same⟩ => ⟨cur.addSchema _, same⟩
  exact Spec.bind (Recording.spec (debug_recording _ _) stable) fun _ => Spec.of_pure fun _ done => done

/-- While the current schema is set, looking a table up changes nothing. -/
theorem findTable_keeps {id : Nat} {refs : Array Reference} (parts : List String) :
    Spec (fun x => CurrentIs id x ∧ x.refs = refs) (findTable parts) fun t x =>
      (CurrentIs id x ∧ x.refs = refs) ∧ t = tableNamed x.options.caseSensitive x.catalog (some id) parts := by
  intro x start
  rw [findTable_run start.1]
  exact ⟨start, rfl⟩

/-- `CREATE TRIGGER` records its table for the resolution pass only when the table is not known,
and the pass binds an unqualified name in the schema current when the statement was applied. -/
theorem createTrigger_refs {id : Nat} {a : Analyzer} (cur : CurrentIs id a) (stmt : Node) :
    ∃ rs : List ObjectRef, ((createTrigger stmt).run a).2.refs = a.refs ++ (rs.map .object).toArray ∧
      ∀ r ∈ rs, r.BindsIn id (identifierParts (stmt.child .tableRef)) := by
  let keeps : Analyzer → Prop := fun x => CurrentIs id x ∧ x.refs = a.refs
  have stable : Stable keeps := (CurrentIs.stable id).and fun _ _ same records => records.refs.trans same
  suffices spec : Spec keeps (createTrigger stmt) fun _ x => ∃ rs : List ObjectRef,
      x.refs = a.refs ++ (rs.map .object).toArray ∧ ∀ r ∈ rs, r.BindsIn id (identifierParts (stmt.child .tableRef)) from
    spec a ⟨cur, rfl⟩
  have kept : Stable fun x => x.refs = a.refs := fun _ _ same records => records.refs.trans same
  have unrecorded : ∀ x : Analyzer, x.refs = a.refs → ∃ rs : List ObjectRef,
      x.refs = a.refs ++ (rs.map .object).toArray ∧ ∀ r ∈ rs, r.BindsIn id (identifierParts (stmt.child .tableRef)) :=
    fun x same => ⟨[], by simp [same], by simp⟩
  unfold createTrigger
  simp only []
  refine Spec.bind (schemaFor_keeps _) fun schema => Spec.bind caseSensitive_spec fun cs' => ?_
  split
  · -- a duplicate is reported, and nothing recorded
    exact Recording.result ((duplicate_recording _ _ _ _).bind fun _ => Recording.pure _) (fun _ => rfl)
      fun _ _ start records => unrecorded _ (kept _ _ start.1.2 records)
  refine Spec.bind (Spec.conseq (Recording.spec (issue_recording _ _) stable) (fun _ start => start.1)
    fun _ _ done => done) fun tid => ?_
  refine Spec.bind (Recording.spec (definer_recording _) stable) fun definer => ?_
  refine Spec.bind (Spec.forIn (fun _ => keeps) fun w _ tr => ?_) fun tr => ?_
  · split
    · exact Spec.of_pure fun _ done => done
    · split <;> exact Spec.of_pure fun _ done => done
  split
  all_goals
    refine Spec.bind (findTable_keeps _) fun found => ?_
    split
    · -- a known table takes the trigger at once
      refine Spec.conseq (?_ : Spec (fun x => x.refs = a.refs) _ fun _ x => x.refs = a.refs)
        (fun _ start => start.1.2) fun _ => unrecorded
      refine Spec.bind (?_ : Spec (fun x => x.refs = a.refs) (modifyCatalog _) fun _ x => x.refs = a.refs)
        fun _ => ?_
      · exact fun x same => same
      exact Spec.bind (Recording.spec catalog_recording kept) fun _ => Recording.spec (debug_recording _ _) kept
    · -- a table not known yet is recorded, to be bound in the current schema
      intro x ⟨⟨cur', same⟩, _⟩
      obtain ⟨found, run, current⟩ := lookupSchema_run cur' (splitQualified (identifierParts (stmt.child .tableRef))).1
      simp only [run_bind, run, pushRefs_run]
      refine ⟨[_], by rw [same]; rfl, fun r listed => ?_⟩
      rw [List.mem_singleton.mp listed]
      exact bindsIn_of_schema rfl current

/-- A table name that waits for the resolution pass keeps the schema that was current when its
statement was applied: `ALTER TABLE` on a table not known in it, `CREATE INDEX`, and `CREATE
TRIGGER` each record their table at most once, as a reference that looks an unqualified name up
in that schema and a qualified one by its schema's name, in whatever state the pass runs. -/
theorem deferred_tables_bind_in_current_schema {id : Nat} {a : Analyzer} (cur : CurrentIs id a) (stmt : Node) :
    (tableNamed a.options.caseSensitive a.catalog (some id) (identifierParts (stmt.child .tableRef)) = none →
      ∃ r, ((alterTable stmt).run a).2.refs = a.refs ++ #[.object r] ∧
        r.BindsIn id (identifierParts (stmt.child .tableRef))) ∧
    (∃ r, ((createIndex stmt).run a).2.refs = a.refs ++ #[.object r] ∧
      r.BindsIn id (identifierParts ((stmt.child .createIndexTarget).bind (·.child .tableRef)))) ∧
    (∃ rs : List ObjectRef, ((createTrigger stmt).run a).2.refs = a.refs ++ (rs.map .object).toArray ∧
      ∀ r ∈ rs, r.BindsIn id (identifierParts (stmt.child .tableRef))) := by
  obtain ⟨r, run, binds⟩ := createIndex_run cur stmt
  exact ⟨alterTable_run cur stmt, ⟨r, by rw [run], binds⟩, createTrigger_refs cur stmt⟩

/-- After `USE app`, the deferred table of `ALTER TABLE t ...` is bound in `app`. -/
theorem use_then_alter_binds_in_app :
    let a := ((useSchema "app").run (Analyzer.new (Catalog.new {}) {})).2
    let stmt := ((parse "ALTER TABLE t ADD COLUMN c INT;" {}).1.children.filter (·.isStatement)).headD default
    CurrentIs 1 a ∧
      (tableNamed a.options.caseSensitive a.catalog (some 1) (identifierParts (stmt.child .tableRef)) = none →
        ∃ r, ((alterTable stmt).run a).2.refs = a.refs ++ #[.object r] ∧
          r.BindsIn 1 (identifierParts (stmt.child .tableRef))) ∧
      (∃ r, ((createIndex stmt).run a).2.refs = a.refs ++ #[.object r] ∧
        r.BindsIn 1 (identifierParts ((stmt.child .createIndexTarget).bind (·.child .tableRef)))) ∧
      (∃ rs : List ObjectRef, ((createTrigger stmt).run a).2.refs = a.refs ++ (rs.map .object).toArray ∧
        ∀ r ∈ rs, r.BindsIn 1 (identifierParts (stmt.child .tableRef))) := by
  intro a stmt
  have cur : CurrentIs 1 a := ⟨rfl, rfl⟩
  exact ⟨cur, deferred_tables_bind_in_current_schema cur stmt⟩

end Analyze
end DdlCatalog.Analysis
