import DdlCatalog.Proofs.UniqueNames.Items
/-!
The statements that create schemas, routines, triggers, views, events, servers, tablespaces and
logfile groups keep the names apart: each looks its name up in the right namespace first and
refuses a duplicate, and a new object takes a handle above every handle in the catalog.
-/

namespace DdlCatalog.Catalog
/-- `s'` differs from `s` in its settings only: the same handle, name and objects. -/
structure Schema.SameContents (s' s : Schema) : Prop where
  id : s'.id = s.id
  name : s'.name = s.name
  tables : s'.tables = s.tables
  views : s'.views = s.views
  routines : s'.routines = s.routines
  events : s'.events = s.events

theorem Schema.SameContents.trans {s'' s' s : Schema} (second : s''.SameContents s')
    (first : s'.SameContents s) : s''.SameContents s :=
  ⟨second.id.trans first.id, second.name.trans first.name, second.tables.trans first.tables,
    second.views.trans first.views, second.routines.trans first.routines, second.events.trans first.events⟩
end DdlCatalog.Catalog

namespace DdlCatalog.Analysis

open DdlCatalog.Catalog
open DdlCatalog.Syntax

/-- No schema, table or view of the catalog has the handle `id` or one above it. -/
def FreshHandle (c : Catalog) (id : Nat) : Prop :=
  ∀ s ∈ c.schemas, s.id < id ∧ (∀ t ∈ s.tables, t.id < id) ∧ ∀ v ∈ s.views, v.id < id

theorem FreshHandle.stable (id : Nat) : Stable fun a => FreshHandle a.catalog id :=
  Stable.schemas fun schemas _ => ∀ s ∈ schemas, s.id < id ∧ (∀ t ∈ s.tables, t.id < id) ∧
    ∀ v ∈ s.views, v.id < id

@[simp] theorem schedule_name (e : Event) (n : Node) : (schedule e n).name = e.name := by
  unfold schedule
  split
  · rfl
  · simp only []
    split <;> split <;> rfl
theorem routineOption_keys (r : Routine) (opt : Node) :
    (routineOption r opt).name = r.name ∧ (routineOption r opt).type = r.type := by
  unfold routineOption
  split <;> exact ⟨rfl, rfl⟩
theorem schemaOption_sameContents (o : Options) (s : Schema) (opt : Node) :
    (schemaOption o s opt).SameContents s := by
  unfold schemaOption
  split
  · simp only []
    split
    · exact ⟨rfl, rfl, rfl, rfl, rfl, rfl⟩
    · split <;> exact ⟨rfl, rfl, rfl, rfl, rfl, rfl⟩
  · split
    · exact ⟨rfl, rfl, rfl, rfl, rfl, rfl⟩
    · split_ifs <;> exact ⟨rfl, rfl, rfl, rfl, rfl, rfl⟩

theorem foldl_schemaOption_sameContents (o : Options) (opts : List Node) (s : Schema) :
    (opts.foldl (schemaOption o) s).SameContents s := by
  induction opts generalizing s with
  | nil => exact ⟨rfl, rfl, rfl, rfl, rfl, rfl⟩
  | cons opt rest ih => exact (ih _).trans (schemaOption_sameContents o s opt)

variable {cs : Bool} {views : List String} {ex : Option Nat}

namespace Analyzer

theorem Kept.stable : Stable fun a : Analyzer => a.Kept cs views ex :=
  fun _ _ kept records => kept.records records

theorem Kept.with_catalog {a : Analyzer} (kept : a.Kept cs views ex) {c : Catalog}
    (catalog : c.Kept a.options.caseSensitive views ex) : { a with catalog := c }.Kept cs views ex :=
  ⟨kept.caseSensitive, catalog, kept.noStubs, kept.refs⟩

theorem Kept.push {a : Analyzer} (kept : a.Kept cs views ex) {rs : List Reference}
    (admissible : ∀ r ∈ rs, r.Admissible cs views) : { a with refs := a.refs ++ rs.toArray }.Kept cs views ex := by
  refine ⟨kept.caseSensitive, kept.catalog, kept.noStubs, fun r mem => ?_⟩
  simp only [Array.toList_append, List.mem_append] at mem
  rcases mem with old | new
  · exact kept.refs r old
  · exact kept.caseSensitive ▸ admissible r new

theorem Kept.modifySchema {a : Analyzer} (kept : a.Kept cs views ex) {s : Schema}
    (schema : s ∈ a.catalog.schemas) {f : Schema → Schema} (sameId : (f s).id = s.id)
    (sameName : (f s).name = s.name) (tables : (f s).tables = s.tables)
    (fits : (f s).Kept a.options.caseSensitive views ex a.catalog.handles.size) :
    { a with catalog := a.catalog.modifySchema s.id f }.Kept cs views ex :=
  kept.with_catalog (kept.catalog.modifySchema_tables schema sameId sameName tables fits)

theorem Kept.restyle {a : Analyzer} (kept : a.Kept cs views ex) {s : Schema}
    (schema : s ∈ a.catalog.schemas) {f : Schema → Schema} (same : (f s).SameContents s) :
    { a with catalog := a.catalog.modifySchema s.id f }.Kept cs views ex :=
  kept.modifySchema schema same.id same.name same.tables
    ((kept.catalog.each s schema).congr same.id same.tables same.views same.routines same.events)
theorem Kept.with_current {a : Analyzer} (kept : a.Kept cs views ex) (current : Option Nat) :
    { a with current := current }.Kept cs views ex :=
  ⟨kept.caseSensitive, kept.catalog, kept.noStubs, kept.refs⟩

end Analyzer

namespace Analyze

theorem get_spec {pre : Analyzer → Prop} : Spec pre get fun s a => pre a ∧ s = a :=
  fun _ holds => ⟨holds, rfl⟩

theorem catalog_spec {pre : Analyzer → Prop} : Spec pre catalog fun c a => pre a ∧ c = a.catalog :=
  fun _ holds => ⟨holds, rfl⟩

/-- The handle issued next is above every schema, table and view of a kept catalog. -/
theorem issue_below {pre : Analyzer → Prop} (stable : Stable pre)
    (kept : ∀ a, pre a → a.Kept cs views ex) (kind : ObjectKind) (name : String) :
    Spec pre (issue kind name) fun id a => pre a ∧ FreshHandle a.catalog id ∧ id ≤ a.catalog.handles.size := by
  intro a start
  rw [issue_run]
  refine ⟨stable a _ start (issue_recording kind name a), fun s schema => ?_, by simp [Catalog.issue]⟩
  have held := (kept a start).catalog.each s schema
  refine ⟨Nat.lt_succ_of_le held.own, fun t table => Nat.lt_succ_of_le (held.handles t table).own,
    fun v view => Nat.lt_succ_of_le (held.viewsBelow v view)⟩

/-- The schema with a name: the one there is, or a new empty one; a lookup finds it next. -/
theorem ensureSchema_spec (name : String) :
    Spec (·.Kept cs views ex) (ensureSchema name)
      fun s a => a.Kept cs views ex ∧ a.catalog.findSchema a.options.caseSensitive name = some s := by
  unfold ensureSchema
  refine Spec.bind get_spec fun a' => ?_
  split
  · rename_i s found
    exact Spec.of_pure fun a ⟨kept, same⟩ => ⟨kept, same ▸ found⟩
  rename_i absent
  -- the name is free in the state itself, and stays free while the handle is issued
  let free : Analyzer → Prop := fun a =>
    a.Kept cs views ex ∧ a.catalog.findSchema a.options.caseSensitive name = none ∧ a.options = a'.options
  have stable : Stable free := fun _ _ ⟨kept, fresh, same⟩ records => by
    unfold Catalog.findSchema at fresh
    refine ⟨kept.records records, ?_, records.options.trans same⟩
    unfold Catalog.findSchema
    rwa [records.schemas, records.options]
  refine Spec.bind (Spec.conseq (issue_below stable (fun _ start => start.1) _ _)
    (fun a ⟨kept, same⟩ => ⟨kept, same ▸ absent, same ▸ rfl⟩) fun _ _ done => done) fun id => ?_
  refine Spec.bind (Spec.of_modify fun a ⟨⟨kept, fresh, same⟩, below, issued⟩ => ?_) fun _ =>
    Spec.bind (Recording.spec (debug_recording _ _) (Analyzer.Kept.stable.and
      (Stable.schemas fun schemas options => findNamed (·.name) options.caseSensitive name schemas = some _)))
      fun _ => Spec.of_pure fun _ done => done
  refine ⟨kept.with_catalog (kept.catalog.addSchema fresh (fun x mem => ?_) ⟨rfl, rfl, rfl, rfl⟩ issued),
    findNamed_append_of_none _ _ _ fresh (nameEqual_refl _ _)⟩
  exact Nat.ne_of_lt (below x mem).1

theorem currentSchema_spec :
    Spec (·.Kept cs views ex) currentSchema
      fun s a => (a.Kept cs views ex ∧ s ∈ a.catalog.schemas) ∧ a.current = some s.id := by
  unfold currentSchema
  refine Spec.bind get_spec fun a' => ?_
  simp only []
  split
  · rename_i s found
    refine Spec.of_pure fun a ⟨kept, same⟩ => ?_
    obtain ⟨id, current, byId⟩ := Option.bind_eq_some_iff.mp found
    have ⟨inCatalog, sameId⟩ := Catalog.schemaById_some byId
    exact ⟨⟨kept, same ▸ inCatalog⟩, by rw [sameId, ← same]; exact current⟩
  refine Spec.bind (Spec.conseq (ensureSchema_spec _) (fun _ start => start.1) fun _ _ done => done)
    fun s => ?_
  exact Spec.bind (Spec.of_modify fun a ⟨kept, found⟩ =>
    ⟨⟨kept.with_current _, (findNamed_mem _ _ _ found).1⟩, rfl⟩) fun _ => Spec.of_pure fun _ done => done

theorem useSchema_spec (name : String) :
    Spec (·.Kept cs views ex) (useSchema name) fun s a => a.Kept cs views ex ∧ s ∈ a.catalog.schemas :=
  Spec.bind (ensureSchema_spec name) fun _ =>
    Spec.bind (Spec.of_modify fun _ ⟨kept, found⟩ => ⟨kept.with_current _, (findNamed_mem _ _ _ found).1⟩)
      fun _ => Spec.of_pure fun _ done => done

/-- Looking the schema `name` up gives `s`: the current schema for an empty name. -/
def Resolves (name : String) (s : Schema) (a : Analyzer) : Prop :=
  if name.isEmpty then a.current = some s.id else a.catalog.findSchema a.options.caseSensitive name = some s

theorem Resolves.stable (name : String) (s : Schema) : Stable (Resolves name s) := by
  intro a b resolves records
  unfold Resolves Catalog.findSchema at resolves ⊢
  rwa [records.current, records.schemas, records.options]

theorem schemaFor_resolves (name : String) :
    Spec (·.Kept cs views ex) (schemaFor name)
      fun s a => (a.Kept cs views ex ∧ s ∈ a.catalog.schemas) ∧ Resolves name s a := by
  unfold schemaFor
  split
  · rename_i empty
    exact Spec.conseq currentSchema_spec (fun _ kept => kept) fun _ _ ⟨found, current⟩ =>
      ⟨found, by simp [Resolves, empty, current]⟩
  · rename_i named
    exact Spec.conseq (ensureSchema_spec name) (fun _ kept => kept) fun _ _ ⟨kept, found⟩ =>
      ⟨⟨kept, (findNamed_mem _ _ _ found).1⟩, by simp [Resolves, named, found]⟩

theorem schemaFor_spec (name : String) :
    Spec (·.Kept cs views ex) (schemaFor name) fun s a => a.Kept cs views ex ∧ s ∈ a.catalog.schemas :=
  Spec.conseq (schemaFor_resolves name) (fun _ kept => kept) fun _ _ done => done.1

theorem lookupSchema_spec (name : String) :
    Spec (·.Kept cs views ex) (lookupSchema name)
      fun s a => a.Kept cs views ex ∧ ∀ x ∈ s, x ∈ a.catalog.schemas := by
  unfold lookupSchema
  split
  · exact Spec.bind currentSchema_spec fun _ => Spec.of_pure fun _ ⟨⟨kept, schema⟩, _⟩ =>
      ⟨kept, fun x same => Option.mem_some_iff.mp same ▸ schema⟩
  · refine Spec.bind catalog_spec fun c => Spec.bind caseSensitive_spec fun cs' => ?_
    exact Spec.of_pure fun a ⟨⟨kept, same⟩, _⟩ => ⟨kept, fun x found => same ▸ (findNamed_mem _ _ _ found).1⟩

/-- With the current schema set, it is the current schema. -/
theorem currentSchema_current (s : Schema) :
    Spec (fun a => (a.Kept cs views ex ∧ s ∈ a.catalog.schemas) ∧ a.current = some s.id) currentSchema
      fun s' a => ((a.Kept cs views ex ∧ s ∈ a.catalog.schemas) ∧ a.current = some s.id) ∧ s' = s := by
  unfold currentSchema
  refine Spec.bind get_spec fun a' => ?_
  simp only []
  refine Spec.of_pre_fact (p := a'.current.bind a'.catalog.schemaById = some s)
    (fun a ⟨⟨⟨kept, inCatalog⟩, current⟩, same⟩ => ?_) fun found => ?_
  · rw [same, current, Option.bind_some]
    exact kept.catalog.schemaById_eq inCatalog
  rw [found]
  exact Spec.of_pure fun _ ⟨holds, _⟩ => ⟨holds, rfl⟩

/-- Looking up the name a schema was found or made under gives that schema. -/
theorem lookupSchema_resolves (name : String) (s : Schema) :
    Spec (fun a => (a.Kept cs views ex ∧ s ∈ a.catalog.schemas) ∧ Resolves name s a) (lookupSchema name)
      fun r a => ((a.Kept cs views ex ∧ s ∈ a.catalog.schemas) ∧ Resolves name s a) ∧ r = some s := by
  unfold lookupSchema
  split
  · rename_i empty
    simp only [Resolves, empty, if_true]
    exact Spec.bind (currentSchema_current s) fun _ => Spec.of_pure fun _ ⟨holds, same⟩ =>
      ⟨holds, by rw [same]⟩
  · rename_i named
    simp only [Resolves, named]
    refine Spec.bind catalog_spec fun c => Spec.bind caseSensitive_spec fun cs' => ?_
    exact Spec.of_pure fun a ⟨⟨holds, same⟩, policy⟩ => ⟨holds, by rw [same, policy.symm]; exact holds.2⟩

theorem findTable_resolves (parts : List String) (s : Schema) :
    Spec (fun a => (a.Kept cs views ex ∧ s ∈ a.catalog.schemas) ∧ Resolves (splitQualified parts).1 s a)
      (findTable parts) fun r a => ((a.Kept cs views ex ∧ s ∈ a.catalog.schemas) ∧
        Resolves (splitQualified parts).1 s a) ∧ r = s.findTable a.options.caseSensitive (splitQualified parts).2 := by
  unfold findTable
  simp only []
  refine Spec.bind (lookupSchema_resolves _ s) fun found => ?_
  refine Spec.of_pre_fact (fun _ start => start.2) fun same => ?_
  subst same
  exact Spec.bind caseSensitive_spec fun cs' => Spec.of_pure fun _ ⟨⟨holds, _⟩, policy⟩ =>
    ⟨holds, by rw [policy]⟩

theorem createServer_keeps (stmt : Node) :
    Spec (·.Kept cs views ex) (createServer stmt) fun _ a => a.Kept cs views ex := by
  unfold createServer
  simp only []
  split
  case h_2 => exact Spec.of_pure fun _ kept => kept
  rename_i first _
  refine Spec.bind catalog_spec fun c => Spec.bind caseSensitive_spec fun cs' => ?_
  split
  · exact Recording.result (duplicate_recording _ _ _ _) (fun _ => rfl) fun _ _ start records =>
      start.1.1.records records
  rename_i absent
  -- the name stays free while the server is put together
  let free : Analyzer → Prop := fun a =>
    a.Kept cs views ex ∧ a.catalog.findServer a.options.caseSensitive (identifierName (some first)) = none
  have stable : Stable free := fun _ _ ⟨kept, fresh⟩ records => by
    refine ⟨kept.records records, ?_⟩
    unfold Catalog.findServer at fresh ⊢
    rwa [records.servers, records.options]
  refine Spec.bind (Recording.spec (issue_recording _ _) stable |>.conseq (fun a ⟨⟨kept, same⟩, policy⟩ =>
    ⟨kept, by rw [← same, policy]; simpa using absent⟩) fun _ _ done => done) fun id => ?_
  refine Spec.bind (Spec.conseq (Spec.forIn (fun s a => free a ∧ s.name = identifierName (some first))
    fun opt _ s => ?_) (fun _ start => ⟨start, rfl⟩) fun _ _ done => done) fun s => ?_
  · split
    all_goals first
      | exact Spec.of_pure fun _ done => done
      | exact Spec.bind (Recording.spec (intValue_recording _ _) (stable.and (Stable.const _))) fun v => by
          split <;> exact Spec.of_pure fun _ done => done
  refine Spec.bind (Spec.of_modify fun a ⟨⟨kept, fresh⟩, named⟩ => ?_) fun _ =>
    Recording.spec (debug_recording _ _) Analyzer.Kept.stable
  exact ⟨kept.caseSensitive, kept.catalog.addServer (named ▸ fresh), kept.noStubs, kept.refs⟩

theorem createTablespace_keeps (stmt : Node) :
    Spec (·.Kept cs views ex) (createTablespace stmt) fun _ a => a.Kept cs views ex := by
  unfold createTablespace
  simp only []
  refine Spec.bind catalog_spec fun c => Spec.bind caseSensitive_spec fun cs' => ?_
  split
  · exact Recording.result (duplicate_recording _ _ _ _) (fun _ => rfl) fun _ _ start records =>
      start.1.1.records records
  rename_i absent
  let free : Analyzer → Prop := fun a =>
    a.Kept cs views ex ∧ a.catalog.findTablespace a.options.caseSensitive (identifierName (stmt.child .identifier)) = none
  have stable : Stable free := fun _ _ ⟨kept, fresh⟩ records => by
    refine ⟨kept.records records, ?_⟩
    unfold Catalog.findTablespace at fresh ⊢
    rwa [records.tablespaces, records.options]
  refine Spec.bind (Recording.spec (issue_recording _ _) stable |>.conseq (fun a ⟨⟨kept, same⟩, policy⟩ =>
    ⟨kept, by rw [← same, policy]; simpa using absent⟩) fun _ _ done => done) fun id => ?_
  refine Spec.bind (Spec.conseq (Spec.forIn (fun ts a => free a ∧ ts.name = identifierName (stmt.child .identifier))
    fun opt _ ts => ?_) (fun _ start => ⟨start, rfl⟩) fun _ _ done => done) fun ts => ?_
  · have still := stable.and (Stable.const (ts.name = identifierName (stmt.child .identifier)))
    split
    all_goals first
      | exact Spec.of_pure fun _ done => done
      | exact Spec.bind (Recording.spec (sizeValue_recording _ _) still) fun _ => Spec.of_pure fun _ done => done
      | exact Spec.bind (Recording.spec (report_recording _ _ _ _ _) still) fun _ =>
          Spec.of_pure fun _ done => done
      | exact Spec.bind (Recording.spec (intValue_recording _ _) still) fun v => by
          split <;> exact Spec.of_pure fun _ done => done
  split
  · refine Spec.bind (?_ : Spec _ (pushRefs _) fun _ a => free a ∧ ts.name = identifierName (stmt.child .identifier)) fun _ => ?_
    · exact Spec.of_modify fun a ⟨⟨kept, fresh⟩, named⟩ =>
        ⟨⟨kept.push fun r mem => by rw [List.mem_singleton.mp mem]; trivial, fresh⟩, named⟩
    refine Spec.bind (Spec.of_modify fun a ⟨⟨kept, fresh⟩, named⟩ => ?_) fun _ =>
      Recording.spec (debug_recording _ _) Analyzer.Kept.stable
    exact kept.with_catalog (kept.catalog.addTablespace (named ▸ fresh))
  · refine Spec.bind (Spec.of_modify fun a ⟨⟨kept, fresh⟩, named⟩ => ?_) fun _ =>
      Recording.spec (debug_recording _ _) Analyzer.Kept.stable
    exact kept.with_catalog (kept.catalog.addTablespace (named ▸ fresh))

theorem createLogfileGroup_keeps (stmt : Node) :
    Spec (·.Kept cs views ex) (createLogfileGroup stmt) fun _ a => a.Kept cs views ex := by
  unfold createLogfileGroup
  simp only []
  refine Spec.bind catalog_spec fun c => Spec.bind caseSensitive_spec fun cs' => ?_
  split
  · exact Recording.result (duplicate_recording _ _ _ _) (fun _ => rfl) fun _ _ start records =>
      start.1.1.records records
  rename_i absent
  let free : Analyzer → Prop := fun a => a.Kept cs views ex ∧
    a.catalog.findLogfileGroup a.options.caseSensitive (identifierName (stmt.child .identifier)) = none
  have stable : Stable free := fun _ _ ⟨kept, fresh⟩ records => by
    refine ⟨kept.records records, ?_⟩
    unfold Catalog.findLogfileGroup at fresh ⊢
    rwa [records.logfileGroups, records.options]
  refine Spec.bind (Recording.spec (issue_recording _ _) stable |>.conseq (fun a ⟨⟨kept, same⟩, policy⟩ =>
    ⟨kept, by rw [← same, policy]; simpa using absent⟩) fun _ _ done => done) fun id => ?_
  refine Spec.bind (Spec.conseq (Spec.forIn (fun g a => free a ∧ g.name = identifierName (stmt.child .identifier))
    fun opt _ g => ?_) (fun _ start => ⟨start, rfl⟩) fun _ _ done => done) fun g => ?_
  · have still := stable.and (Stable.const (g.name = identifierName (stmt.child .identifier)))
    split
    all_goals first
      | exact Spec.of_pure fun _ done => done
      | exact Spec.bind (Recording.spec (sizeValue_recording _ _) still) fun _ => Spec.of_pure fun _ done => done
      | exact Spec.bind (Recording.spec (report_recording _ _ _ _ _) still) fun _ =>
          Spec.of_pure fun _ done => done
      | exact Spec.bind (Recording.spec (intValue_recording _ _) still) fun v => by
          split <;> exact Spec.of_pure fun _ done => done
  refine Spec.bind (Spec.of_modify fun a ⟨⟨kept, fresh⟩, named⟩ => ?_) fun _ =>
    Recording.spec (debug_recording _ _) Analyzer.Kept.stable
  exact kept.with_catalog (kept.catalog.addLogfileGroup (named ▸ fresh))

theorem createEvent_keeps (stmt : Node) :
    Spec (·.Kept cs views ex) (createEvent stmt) fun _ a => a.Kept cs views ex := by
  unfold createEvent
  simp only []
  refine Spec.bind (schemaFor_spec _) fun schema => ?_
  refine Spec.bind caseSensitive_spec fun cs' => ?_
  split
  · exact Recording.result (duplicate_recording _ _ _ _) (fun _ => rfl) fun _ _ start records =>
      start.1.1.records records
  rename_i absent
  have stable : Stable fun a => (a.Kept cs views ex ∧ schema ∈ a.catalog.schemas) ∧
      a.options.caseSensitive = cs' :=
    (Analyzer.Kept.stable.and (Stable.schemas fun schemas _ => schema ∈ schemas)).and
      (Stable.caseSensitive cs')
  refine Spec.bind (Recording.spec (issue_recording _ _) stable) fun id => ?_
  refine Spec.bind (Recording.spec (definer_recording _) stable) fun definer => ?_
  -- with a schedule or without, the options keep the name
  split
  all_goals
    refine Spec.bind (Spec.conseq (Spec.forIn (fun (e : Event) a => ((a.Kept cs views ex ∧
      schema ∈ a.catalog.schemas) ∧ a.options.caseSensitive = cs') ∧
        e.name = (splitQualified (identifierParts (stmt.child .qualifiedIdentifier))).2) fun opt _ e => ?_)
      (fun _ start => ⟨start, by simp⟩) fun _ _ done => done) fun e => ?_
    · split <;> exact Spec.of_pure fun _ done => done
    refine Spec.bind (Spec.of_modify fun a ⟨⟨⟨kept, inCatalog⟩, policy⟩, named⟩ => ?_) fun _ =>
      Recording.spec (debug_recording _ _) Analyzer.Kept.stable
    exact kept.modifySchema inCatalog rfl rfl rfl
      ((kept.catalog.each _ inCatalog).addEvent (by rw [named, policy]; simpa using absent))

theorem createRoutine_keeps (stmt : Node) (type : RoutineType) :
    Spec (·.Kept cs views ex) (createRoutine stmt type) fun _ a => a.Kept cs views ex := by
  unfold createRoutine
  simp only []
  refine Spec.bind (schemaFor_spec _) fun schema => ?_
  refine Spec.bind caseSensitive_spec fun cs' => ?_
  split
  · exact Recording.result (duplicate_recording _ _ _ _) (fun _ => rfl) fun _ _ start records =>
      start.1.1.records records
  rename_i absent
  have stable : Stable fun a => (a.Kept cs views ex ∧ schema ∈ a.catalog.schemas) ∧
      a.options.caseSensitive = cs' :=
    (Analyzer.Kept.stable.and (Stable.schemas fun schemas _ => schema ∈ schemas)).and
      (Stable.caseSensitive cs')
  refine Spec.bind (Recording.spec (issue_recording _ _) stable) fun id => ?_
  refine Spec.bind (Recording.spec (definer_recording _) stable) fun definer => ?_
  refine Spec.bind (Recording.spec options_recording stable) fun opts => ?_
  -- the parameters, return type and options keep the name and the namespace
  refine Spec.bind (Spec.conseq (Spec.forIn (fun (r : Routine) a => ((a.Kept cs views ex ∧
      schema ∈ a.catalog.schemas) ∧ a.options.caseSensitive = cs') ∧
        r.name = (splitQualified (identifierParts (stmt.child .qualifiedIdentifier))).2 ∧ r.type = type)
      fun c _ r => ?_) (fun _ start => ⟨start, rfl, rfl⟩) fun _ _ done => done) fun r => ?_
  · have still := stable.and (Stable.const (r.name =
      (splitQualified (identifierParts (stmt.child .qualifiedIdentifier))).2 ∧ r.type = type))
    split
    all_goals
      repeat
        first
        | with_reducible refine Spec.bind (Recording.spec (extractDataType_recording _ _ _) still) fun _ => ?_
        | with_reducible refine Spec.bind Spec.pure_keep fun _ => ?_
        | with_reducible refine Spec.of_pure ?_
          first
          | exact fun _ done => done
          | exact fun _ ⟨holds, named, typed⟩ =>
              ⟨holds, (routineOption_keys r _).1.trans named, (routineOption_keys r _).2.trans typed⟩
        | split
  split
  all_goals
    refine Spec.bind (Spec.of_modify fun a ⟨⟨⟨kept, inCatalog⟩, policy⟩, named, typed⟩ => ?_) fun _ =>
      Recording.spec (debug_recording _ _) Analyzer.Kept.stable
    refine kept.modifySchema inCatalog rfl rfl rfl ((kept.catalog.each _ inCatalog).addRoutine ?_)
    rw [policy]
    simpa [named, typed] using absent

theorem createView_keeps (stmt : Node) (named : (nameOf (stmt.child .tableName)).2 ∈ views) :
    Spec (·.Kept cs views ex) (createView stmt) fun _ a => a.Kept cs views ex := by
  unfold createView
  unfold nameOf at named
  generalize splitQualified (identifierParts (stmt.child .tableName)) = parts at named ⊢
  obtain ⟨schemaName, name⟩ := parts
  simp only [] at named ⊢
  refine Spec.bind (schemaFor_spec _) fun schema => ?_
  refine Spec.bind caseSensitive_spec fun cs' => ?_
  have stable : Stable fun a => (a.Kept cs views ex ∧ schema ∈ a.catalog.schemas) ∧
      a.options.caseSensitive = cs' :=
    (Analyzer.Kept.stable.and (Stable.schemas fun schemas _ => schema ∈ schemas)).and
      (Stable.caseSensitive cs')
  split
  · split
    · exact Recording.result ((duplicate_recording _ _ _ _).bind fun _ => Recording.pure _) (fun _ => rfl)
        fun _ _ start records => start.1.1.records records
    -- a stub of that name would not stand in the way, but there are no stubs
    rename_i t found stub
    refine Spec.of_pre_fact (p := False) (fun a ⟨⟨kept, inCatalog⟩, _⟩ => ?_) False.elim
    have real := (kept.catalog.each _ inCatalog).real t (findNamed_mem _ _ _ found).1
    simp [real] at stub
  rename_i absent
  have noTable : schema.findTable cs' name = none := Option.eq_none_iff_forall_ne_some.mpr absent
  split
  · exact Recording.result ((duplicate_recording _ _ _ _).bind fun _ => Recording.pure _) (fun _ => rfl)
      fun _ _ start records => start.1.1.records records
  refine Spec.bind (issue_below stable (fun _ start => start.1.1) _ _) fun id => ?_
  refine Spec.bind (Recording.spec (definer_recording _)
    (stable.and ((FreshHandle.stable id).and (Stable.issued id)))) fun definer => ?_
  split
  · rename_i old found
    refine Spec.bind (Spec.of_modify fun a ⟨⟨⟨kept, inCatalog⟩, policy⟩, fresh, issued⟩ => ?_) fun _ =>
      Spec.bind (Recording.spec (release_recording _) Analyzer.Kept.stable) fun _ =>
        Recording.spec (debug_recording _ _) Analyzer.Kept.stable
    have ⟨mem, same⟩ := findNamed_mem _ _ _ found
    rw [← policy] at same noTable
    exact kept.modifySchema inCatalog rfl rfl rfl ((kept.catalog.each _ inCatalog).replaceView mem same noTable
      named (fun w inViews => Nat.ne_of_lt ((fresh _ inCatalog).2.2 w inViews)) issued)
  · rename_i noView
    refine Spec.bind (Spec.of_modify fun a ⟨⟨⟨kept, inCatalog⟩, policy⟩, fresh, issued⟩ => ?_) fun _ =>
      Recording.spec (debug_recording _ _) Analyzer.Kept.stable
    rw [← policy] at noTable noView
    exact kept.modifySchema inCatalog rfl rfl rfl ((kept.catalog.each _ inCatalog).addView noTable
      noView named
      (fun w inViews => Nat.ne_of_lt ((fresh _ inCatalog).2.2 w inViews)) issued)

theorem createDatabase_keeps (stmt : Node) :
    Spec (·.Kept cs views ex) (createDatabase stmt) fun _ a => a.Kept cs views ex := by
  unfold createDatabase
  simp only []
  refine Spec.bind options_spec fun opts => Spec.bind catalog_spec fun c => ?_
  -- the settings replace those of the schema, found or new; the rest only records
  split
  · split
    · exact Recording.result ((duplicate_recording _ _ _ _).bind fun _ => Recording.pure _) (fun _ => rfl)
        fun _ _ start records => start.1.1.records records
    rename_i s found _
    rw [pure_bind]
    refine Spec.bind (Spec.of_modify fun a ⟨⟨kept, _⟩, same⟩ => ?_) fun _ => Recording.spec ?_ Analyzer.Kept.stable
    · exact (schemaById_recording _).bind fun _ => by
        split
        exacts [debug_recording _ _, Recording.pure _]
    · exact kept.restyle (same ▸ (findNamed_mem _ _ _ found).1)
        ((foldl_schemaOption_sameContents _ _ _).trans ⟨rfl, rfl, rfl, rfl, rfl, rfl⟩)
  rename_i absent
  let free : Analyzer → Prop := fun a => a.Kept cs views ex ∧
    a.catalog.findSchema a.options.caseSensitive (identifierName (stmt.child .identifier)) = none
  have stable : Stable free := fun _ _ ⟨kept, fresh⟩ records => by
    unfold Catalog.findSchema at fresh
    refine ⟨kept.records records, ?_⟩
    unfold Catalog.findSchema
    rwa [records.schemas, records.options]
  refine Spec.bind (Spec.conseq (issue_below stable (fun _ start => start.1) _ _)
    (fun a ⟨⟨kept, policy⟩, same⟩ => ⟨kept, by rw [← same, policy]; exact absent⟩) fun _ _ done => done)
    fun id => ?_
  refine Spec.bind (?_ : Spec _ (modifyCatalog _) fun _ a => a.Kept cs views ex ∧
    { id := id, name := identifierName (stmt.child .identifier) } ∈ a.catalog.schemas) fun _ => ?_
  · exact Spec.of_modify fun a ⟨⟨kept, fresh⟩, below, issued⟩ => ⟨kept.with_catalog
      (kept.catalog.addSchema fresh (fun x mem => Nat.ne_of_lt (below x mem).1) ⟨rfl, rfl, rfl, rfl⟩ issued),
      List.mem_append_right _ (List.mem_singleton_self _)⟩
  rw [pure_bind]
  refine Spec.bind (Spec.of_modify fun a ⟨kept, inCatalog⟩ => ?_) fun _ => Recording.spec ?_ Analyzer.Kept.stable
  · exact (schemaById_recording _).bind fun _ => by
      split
      exacts [debug_recording _ _, Recording.pure _]
  · exact kept.restyle inCatalog ((foldl_schemaOption_sameContents _ _ _).trans ⟨rfl, rfl, rfl, rfl, rfl, rfl⟩)

theorem useStatement_keeps (stmt : Node) :
    Spec (·.Kept cs views ex) (useStatement stmt) fun _ a => a.Kept cs views ex :=
  Spec.bind (useSchema_spec _) fun _ =>
    Spec.conseq (Recording.spec (debug_recording _ _) Analyzer.Kept.stable) (fun _ done => done.1)
      fun _ _ kept => kept

theorem createTrigger_keeps (stmt : Node)
    (sameSchema : (nameOf (stmt.child .qualifiedIdentifier)).1 = "" ∨
      (nameOf (stmt.child .qualifiedIdentifier)).1 = (nameOf (stmt.child .tableRef)).1) :
    Spec (·.Kept cs views ex) (createTrigger stmt) fun _ a => a.Kept cs views ex := by
  unfold createTrigger
  simp only []
  -- the trigger goes to the schema of its table
  have target : (if (splitQualified (identifierParts (stmt.child .qualifiedIdentifier))).1.isEmpty then
      (splitQualified (identifierParts (stmt.child .tableRef))).1
      else (splitQualified (identifierParts (stmt.child .qualifiedIdentifier))).1) =
      (splitQualified (identifierParts (stmt.child .tableRef))).1 := by
    unfold nameOf at sameSchema
    rcases sameSchema with empty | same
    · simp [empty]
    · simp [same]
  rw [target]
  refine Spec.bind (schemaFor_resolves _) fun schema => Spec.bind caseSensitive_spec fun cs' => ?_
  split
  · exact Recording.result ((duplicate_recording _ _ _ _).bind fun _ => Recording.pure _) (fun _ => rfl)
      fun _ _ start records => start.1.1.1.records records
  rename_i absent
  -- the policy the lookup used is the unit's
  refine Spec.of_pre_fact (fun a start => start.2.symm.trans start.1.1.1.caseSensitive) fun policy => ?_
  subst policy
  let placed : Analyzer → Prop := fun a => ((a.Kept cs' views ex ∧ schema ∈ a.catalog.schemas) ∧
    Resolves (splitQualified (identifierParts (stmt.child .tableRef))).1 schema a) ∧ a.options.caseSensitive = cs'
  have stable : Stable placed :=
    ((Analyzer.Kept.stable.and (Stable.schemas fun schemas _ => schema ∈ schemas)).and
      (Resolves.stable _ _)).and (Stable.caseSensitive cs')
  refine Spec.bind (Recording.spec (issue_recording _ _) stable) fun id => ?_
  refine Spec.bind (Recording.spec (definer_recording _) stable) fun definer => ?_
  -- timing and event keep the name
  refine Spec.bind (Spec.conseq (Spec.forIn (fun (tr : Trigger) a => placed a ∧
      tr.name = (splitQualified (identifierParts (stmt.child .qualifiedIdentifier))).2) fun w _ tr => ?_)
    (fun _ start => ⟨start, rfl⟩) fun _ _ done => done) fun tr => ?_
  · split
    · exact Spec.of_pure fun _ done => done
    · split <;> exact Spec.of_pure fun _ done => done
  refine Spec.of_pre_fact (fun _ start => start.2) fun named => ?_
  -- with an order clause or without, the trigger joins its table or waits for it
  split
  all_goals
    refine Spec.bind (Spec.conseq (findTable_resolves _ schema) (fun _ start => start.1.1) fun _ _ done => done)
      fun found => ?_
    split
    · rename_i t
      refine Spec.of_pre_fact (p := some t = schema.findTable cs'
          (splitQualified (identifierParts (stmt.child .tableRef))).2)
        (fun a ⟨⟨⟨kept, _⟩, _⟩, same⟩ => by rw [← kept.caseSensitive]; exact same) fun same => ?_
      refine Spec.bind (Spec.of_modify fun a ⟨⟨⟨kept, inCatalog⟩, _⟩, _⟩ => ?_) fun _ =>
        Spec.bind (Recording.spec catalog_recording Analyzer.Kept.stable) fun _ =>
          Recording.spec (debug_recording _ _) Analyzer.Kept.stable
      have fresh : schema.findTrigger a.options.caseSensitive tr.name = none := by
        rw [kept.caseSensitive, named]
        simpa using absent
      exact kept.with_catalog (kept.catalog.addTrigger inCatalog (findNamed_mem _ _ _ same.symm).1 fresh)
    · refine Spec.bind (Spec.conseq (lookupSchema_spec _) (fun _ start => start.1.1.1) fun _ _ done => done)
        fun _ => Spec.of_modify fun a ⟨kept, _⟩ => kept.push fun r mem => ?_
      rw [List.mem_singleton.mp mem]
      trivial

theorem bindTrigger_keeps (tr : Trigger) (object : String) (stmt : Node) (t : Table) :
    Spec (·.Kept cs views ex) (bindTrigger tr object stmt t) fun _ a => a.Kept cs views ex := by
  unfold bindTrigger
  refine Spec.bind caseSensitive_spec fun cs' => Spec.bind catalog_spec fun c => ?_
  simp only []
  -- a trigger of that name in the schema of the table refuses it
  split
  · rename_i s u located
    split
    · exact Recording.result ((duplicate_recording _ _ _ _).bind fun _ => release_recording _) (fun _ => rfl)
        fun _ _ start records => start.1.1.records records
    rename_i free
    refine Spec.of_modify fun a ⟨⟨kept, policy⟩, same⟩ => ?_
    rw [same] at located
    have ⟨schema, table, sameId⟩ := Catalog.locateTable_some located
    rw [← sameId]
    rw [← policy] at free
    exact kept.with_catalog (kept.catalog.addTrigger schema table (by simpa using free))
  · rename_i absent
    refine Spec.of_modify fun a ⟨⟨kept, _⟩, same⟩ => ?_
    rw [same] at absent
    simp only [Catalog.modifyTable_absent _ (Catalog.locateTable_none absent)]
    exact kept.with_catalog kept.catalog

end Analyze

end DdlCatalog.Analysis
