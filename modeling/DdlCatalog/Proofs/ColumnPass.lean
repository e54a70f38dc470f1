import DdlCatalog.Proofs.Growth
import DdlCatalog.Proofs.ObjectPass
/-!
The column phase of a resolution pass, one reference at a time. Writing a reference back keeps
the catalog well formed and growing (`Follows`), changes the binding of no foreign key but the
one the reference targets, and reports nothing but missing columns when stub tables are on: a
foreign key target that names no table gets a stub, in the schema the target is looked up in,
with a column of every referenced name.

A target written back from a plan that was made before the phase, against the key's referenced
names, binds the key to the table its target names and to the columns of that table the names
resolve to (`BindsTo`); later references keep that binding as the catalog grows.
-/

namespace DdlCatalog.Analysis

open DdlCatalog.Catalog

/-- `b` follows `a` in the column phase: the settings and the references are kept, handles only
grow, and the catalog stays well formed and grows, with new stubs under handles `a` had not
issued. -/
structure Follows (cs : Bool) (a b : Analyzer) : Prop where
  options : b.options = a.options
  refs : b.refs = a.refs
  handles : a.catalog.handles.size ≤ b.catalog.handles.size
  wellFormed : b.catalog.WellFormed cs
  grows : a.catalog.Grows cs a.catalog.handles.size b.catalog

namespace Follows

variable {cs : Bool} {a b c : Analyzer}

theorem refl (wf : a.catalog.WellFormed cs) : Follows cs a a :=
  ⟨rfl, rfl, Nat.le_refl _, wf, .refl _⟩

theorem trans (first : Follows cs a b) (second : Follows cs b c) : Follows cs a c :=
  ⟨second.options.trans first.options, second.refs.trans first.refs,
    Nat.le_trans first.handles second.handles, second.wellFormed,
    first.grows.trans (second.grows.mono first.handles)⟩

/-- Logging does not matter. -/
theorem log (follows : Follows cs a b) (log : Array Log.Record) : Follows cs a { b with log := log } :=
  ⟨follows.options, follows.refs, follows.handles, follows.wellFormed, follows.grows⟩

theorem caseSensitive (follows : Follows cs a b) (same : a.options.caseSensitive = cs) :
    b.options.caseSensitive = cs := by
  rw [follows.options, same]

/-- Writing a foreign key into a table. -/
theorem setForeignKey (wf : a.catalog.WellFormed cs) (t : Nat) (g : ForeignKey) :
    Follows cs a { a with catalog := a.catalog.modifyTable t (·.setForeignKey g) } :=
  ⟨rfl, rfl, Nat.le_of_eq rfl, wf.modifyTable (fun _ => rfl) fun u mem _ stub => wf.stubColumns u mem stub,
    .setForeignKey t g⟩

/-- Writing an index of the table a handle finds, over the column names it had. -/
theorem setIndex (wf : a.catalog.WellFormed cs) {t : Nat} {T : Table} (found : a.catalog.tableById t = some T)
    {i j : Index} (hit : T.indexes.find? (·.id == i.id) = some j) (names : i.columnNames = j.columnNames) :
    Follows cs a { a with catalog := a.catalog.modifyTable t (·.setIndex i) } :=
  ⟨rfl, rfl, Nat.le_of_eq rfl, wf.modifyTable (fun _ => rfl) fun u mem _ stub => wf.stubColumns u mem stub,
    Catalog.Grows.modifyTable (fun _ => rfl) (fun _ => rfl) fun u mem same => by
      rw [wf.eq_of_tableById found mem same]
      exact .setIndex hit names⟩

end Follows

/-- The foreign key a target reference binds, by table and key handle. -/
def Reference.targetKey : Reference → Option (Nat × Nat)
  | .target t fk _ => some (t, fk)
  | _ => none

/-- The table, key handle and target name of a target reference. -/
def Reference.targetOf : Reference → Option (Nat × Nat × List String)
  | .target t fk name => some (t, fk, name)
  | _ => none

/-- The names a foreign key's target columns are looked up by: its own, or else those of the
primary key of the target. -/
def targetNames (f : ForeignKey) (T : Table) : List String :=
  if f.referencedColumnNames.isEmpty then (T.primaryIndex.map Index.columnNames).getD []
  else f.referencedColumnNames

/-- The plan of a foreign key target that names `T`, looked up by `names`. -/
def targetPlan (cs : Bool) (T : Table) (names : List String) : Plan :=
  { target := some T.id, columns := names.map (columnHandle cs T), missing := missingNames cs T names }

theorem targetNames_grows {T U : Table} (grows : T.Grows U) (f : ForeignKey) :
    targetNames f U = targetNames f T := by
  simp only [targetNames, grows.primaryNames]

/-- A plan made against a table is the plan of the table as it grows, when no name it missed
could have been added since. -/
theorem targetPlan_grows {cs : Bool} {T U : Table} (grows : T.Grows U) {names : List String}
    (found : T.isStub = true → missingNames cs T names = []) :
    targetPlan cs T names = targetPlan cs U names := by
  obtain ⟨columns, missing⟩ := columnHandle_grows grows found
  simp only [targetPlan, grows.id, columns, missing]

/-- The foreign key `fk` of table `table` is `f`, bound to the table `T` its target `name` names
and to the columns of `T` its referenced names resolve to; when `T` is a stub, it has a column of
every referenced name. -/
structure BindsTo (cs : Bool) (c : Catalog) (table fk : Nat) (name : List String) (f : ForeignKey)
    (T : Table) : Prop where
  key : c.key table fk = some f
  target : c.referenced cs table name = some T
  table : f.referencedTable = some T.id
  columns : f.referencedColumns = f.referencedColumnNames.map (columnHandle cs T)
  stubColumns : T.isStub = true → missingNames cs T f.referencedColumnNames = []

/-- A binding survives the catalog growing, when the key keeps what it records. -/
theorem BindsTo.grows {cs : Bool} {c d : Catalog} {n table fk : Nat} {name : List String}
    {f : ForeignKey} {T : Table} (bound : BindsTo cs c table fk name f T) (grows : c.Grows cs n d)
    (kept : (d.key table fk).map ForeignKey.binding = (c.key table fk).map ForeignKey.binding) :
    ∃ f' U, BindsTo cs d table fk name f' U := by
  obtain ⟨U, target, grown⟩ := (grows.referenced (Catalog.key_owner bound.key) name).1 T bound.target
  rw [bound.key, Option.map_some] at kept
  obtain ⟨f', key, same⟩ := Option.map_eq_some_iff.mp kept
  simp only [ForeignKey.binding, Prod.mk.injEq] at same
  obtain ⟨table, columns, names⟩ := same
  obtain ⟨handles, missing⟩ := columnHandle_grows grown bound.stubColumns
  refine ⟨f', U, key, target, ?_, ?_, fun stub => ?_⟩
  · rw [table, bound.table, grown.id]
  · rw [columns, names, bound.columns, handles]
  · rw [names, missing]
    exact bound.stubColumns (grown.isStub ▸ stub)

/-- Writing a key bound to the table its target names binds it. -/
theorem BindsTo.setForeignKey {cs : Bool} {c : Catalog} {t fk : Nat} {name : List String}
    {f g : ForeignKey} {T : Table} (key : c.key t fk = some f) (target : c.referenced cs t name = some T)
    (id : g.id = fk) (table : g.referencedTable = some T.id)
    (columns : g.referencedColumns = g.referencedColumnNames.map (columnHandle cs T))
    (stubColumns : T.isStub = true → missingNames cs T g.referencedColumnNames = []) :
    ∃ U, BindsTo cs (c.modifyTable t (·.setForeignKey g)) t fk name g U := by
  obtain ⟨U, target', grown⟩ :=
    ((Catalog.Grows.setForeignKey (n := 0) t g).referenced (Catalog.key_owner key) name).1 T target
  obtain ⟨handles, missing⟩ := columnHandle_grows grown stubColumns
  refine ⟨U, ?_, target', ?_, ?_, fun stub => ?_⟩
  · rw [Catalog.key_setForeignKey, if_pos ⟨rfl, id.symm⟩, key, Option.map_some]
  · rw [table, grown.id]
  · rw [columns, handles]
  · rw [missing]
    exact stubColumns (grown.isStub ▸ stub)

/-- Writing one column reference back, from `a` to `b` with result `e`: the state follows, the
binding of every foreign key but the one the reference targets is kept, and an error reports
missing columns. -/
structure Applied (cs : Bool) (r : Reference) (a : Analyzer) (e : Option ResolutionError) (b : Analyzer) :
    Prop where
  follows : Follows cs a b
  kept : ∀ t fk, r.targetKey ≠ some (t, fk) →
    (b.catalog.key t fk).map ForeignKey.binding = (a.catalog.key t fk).map ForeignKey.binding
  errors : ∀ err ∈ e, err.target = .column

/-- Writing nothing back. -/
theorem Applied.unchanged {cs : Bool} {r : Reference} {a : Analyzer} (wf : a.catalog.WellFormed cs) :
    Applied cs r a none a :=
  ⟨.refl wf, fun _ _ _ => rfl, by simp⟩

/-- Pairing the columns of an index with handles, and keeping those left over, keeps their names. -/
theorem names_zip_drop {α : Type} (g : IndexColumn × α → IndexColumn) (names : ∀ q, (g q).name = q.1.name)
    (cols : List IndexColumn) (hs : List α) :
    ((cols.zip hs).map g ++ cols.drop ((cols.zip hs).map g).length).map (·.name) = cols.map (·.name) := by
  induction cols generalizing hs with
  | nil => simp
  | cons c rest ih =>
    cases hs with
    | nil => simp
    | cons h hs =>
      simp only [List.zip_cons_cons, List.map_cons, List.length_cons, List.drop_succ_cons,
        List.cons_append, names]
      exact congrArg _ (ih hs)

/-- A loop run from a state where its invariant holds of no element ends where it holds of all. -/
theorem Spec.forIn_prefix_run {α β : Type} {xs : List β} {init : α} {f : β → α → Analyze (ForInStep α)}
    {a : Analyzer} {out : α × Analyzer} (run : (ForIn.forIn xs init f).run a = out)
    (inv : List β → α → Analyzer → Prop)
    (round : ∀ pre x post, xs = pre ++ x :: post → ∀ acc, Spec (inv pre acc) (f x acc)
      fun r => inv (match r with | .yield _ => pre ++ [x] | .done _ => xs) r.value)
    (start : inv [] init a) : inv xs out.1 out.2 := by
  rw [← run]
  exact Spec.forIn_prefix inv round a start

/-- Exactly one of the references binds the foreign key `k`. -/
def TargetsOnce (refs : List Reference) (k : Nat × Nat) : Prop :=
  refs.countP (·.targetKey == some k) = 1

instance (refs : List Reference) (k : Nat × Nat) : Decidable (TargetsOnce refs k) :=
  inferInstanceAs (Decidable (refs.countP (·.targetKey == some k) = 1))

/-- A reference that binds a key only it binds: none before it binds the key. -/
theorem TargetsOnce.first {refs done later : List Reference} {r : Reference} {k : Nat × Nat}
    (once : TargetsOnce refs k) (split : refs = done ++ r :: later) (mine : r.targetKey = some k) :
    ∀ q ∈ done, q.targetKey ≠ some k := by
  intro q mem theirs
  have twice : 2 ≤ refs.countP (·.targetKey == some k) := by
    have earlier : 0 < done.countP (·.targetKey == some k) :=
      List.countP_pos_iff.mpr ⟨q, mem, by simp [theirs]⟩
    simp only [split, List.countP_append, List.countP_cons, mine, beq_self_eq_true, if_true]
    omega
  unfold TargetsOnce at once
  omega

/-- The column phase over the references `pending`, from `m`, after those of `done`: the state `x`
follows `m`, the errors `errs` report objects or missing columns, a key no reference of `done`
binds keeps its binding, and a key that exactly one reference binds is bound once it is done. -/
structure PhaseInv (cs : Bool) (m : Analyzer) (pending done : List Reference) (errs : List ResolutionError)
    (x : Analyzer) : Prop where
  follows : Follows cs m x
  errors : ∀ e ∈ errs, e.kind = .object ∨ e.target = .column
  kept : ∀ t fk, (∀ r ∈ done, r.targetKey ≠ some (t, fk)) →
    (x.catalog.key t fk).map ForeignKey.binding = (m.catalog.key t fk).map ForeignKey.binding
  bound : ∀ t fk name, Reference.target t fk name ∈ done → TargetsOnce pending (t, fk) →
    ∃ f T, BindsTo cs x.catalog t fk name f T

namespace Analyze

theorem key_def (c : Catalog) (t fk : Nat) :
    (c.tableById t).bind (·.foreignKeys.find? (·.id == fk)) = c.key t fk := rfl

theorem referencedTable_run (t : Nat) (name : List String) (a : Analyzer) :
    (referencedTable t name).run a = (a.catalog.referenced a.options.caseSensitive t name, a) := rfl

theorem modifyCatalog_run (f : Catalog → Catalog) (a : Analyzer) :
    (modifyCatalog f).run a = ((), { a with catalog := f a.catalog }) := rfl

theorem get_run (a : Analyzer) : (get : Analyze Analyzer).run a = (a, a) := rfl

theorem debug_run (message : String) (attrs : List (String × Log.Value)) (a : Analyzer) :
    (debug message attrs).run a =
      ((), { a with log := a.log.push ⟨.debug, message, a.logContext ++ attrs⟩ }) := rfl

theorem note_run (level : Log.Level) (message : String) (attrs : List (String × Log.Value)) (a : Analyzer) :
    (note level message attrs).run a =
      ((), { a with log := a.log.push ⟨level, message, a.logContext ++ attrs⟩ }) := rfl

theorem modify_run (f : Analyzer → Analyzer) (a : Analyzer) : (modify f : Analyze Unit).run a = ((), f a) := rfl

theorem columnError_run (kind : RefKind) (table : Nat) (object : String) (target : ObjectKind)
    (names : List String) (a : Analyzer) :
    (columnError kind table object target names).run a =
      ({ kind := kind, ownerId := table, owner := (a.catalog.qualifiedTable table).getD "",
         object := object, target := target, names := names }, a) := rfl

/-- Looking a column reference up changes nothing. -/
theorem planRef_keeps (r : Reference) (a : Analyzer) : ((planRef r).run a).2 = a := by
  cases r with
  | indexColumns t i =>
    simp only [planRef, run_bind, caseSensitive_run, catalog_run]
    split
    · split <;> rfl
    · rfl
  | localColumns t fk =>
    simp only [planRef, run_bind, caseSensitive_run, catalog_run]
    split
    · split <;> rfl
    · rfl
  | target t fk name =>
    simp only [planRef, run_bind, caseSensitive_run, catalog_run, key_def]
    split
    · simp only [run_bind, referencedTable_run]
      split <;> rfl
    · rfl
  | object o => rfl

/-- The plan of a foreign key target: the table the target names, and the columns of it the
referenced names resolve to. -/
theorem planRef_target (t fk : Nat) (name : List String) (a : Analyzer) :
    ((planRef (.target t fk name)).run a).1 =
      match a.catalog.key t fk, a.catalog.referenced a.options.caseSensitive t name with
      | some f, some T => targetPlan a.options.caseSensitive T (targetNames f T)
      | _, _ => {} := by
  simp only [planRef, run_bind, caseSensitive_run, catalog_run, key_def]
  cases a.catalog.key t fk with
  | none => rfl
  | some f =>
    simp only [run_bind, referencedTable_run]
    cases a.catalog.referenced a.options.caseSensitive t name with
    | none => rfl
    | some T =>
      simp only [run_pure, matchColumns_eq, targetPlan, targetNames]

/-- Adding the missing columns of a stub gives it a column of each name and changes nothing else:
no foreign key changes, and the stub grows. -/
theorem addStubColumns_run {cs : Bool} {table : Nat} {T : Table} (names : List String) (a : Analyzer)
    (same : a.options.caseSensitive = cs) (wf : a.catalog.WellFormed cs)
    (found : a.catalog.tableById table = some T) (stub : T.isStub = true) :
    Follows cs a ((addStubColumns table names).run a).2 ∧
      (∀ t fk, ((addStubColumns table names).run a).2.catalog.key t fk = a.catalog.key t fk) ∧
      ∃ T', ((addStubColumns table names).run a).2.catalog.tableById table = some T' ∧ T.Grows T' ∧
        ∀ nm ∈ names, (T'.findColumn cs nm).isSome := by
  -- the loop keeps the stub in place, growing, with a column for each name done so far
  let inv : List String → Option Unit × Unit → Analyzer → Prop := fun done acc x =>
    acc.1 = none ∧ Follows cs a x ∧ (∀ t fk, x.catalog.key t fk = a.catalog.key t fk) ∧
      ∃ T', x.catalog.tableById table = some T' ∧ T.Grows T' ∧
        ∀ nm ∈ done, (T'.findColumn cs nm).isSome
  suffices whole : Spec (· = a) (addStubColumns table names) fun _ x => inv names (none, ()) x by
    obtain ⟨-, follows, keys, T', found', grows, columns⟩ := whole a rfl
    exact ⟨follows, keys, T', found', grows, columns⟩
  unfold addStubColumns
  refine Spec.bind (Spec.conseq (Spec.forIn_prefix inv fun done nm later split acc => ?_)
    (fun x start => ?_) fun _ _ done => done) fun r => ?_
  · intro x held
    obtain ⟨-, follows, keys, T', found', grows, columns⟩ := held
    have wf' : x.catalog.WellFormed cs := follows.wellFormed
    simp only [run_bind, caseSensitive_run, catalog_run, found', follows.caseSensitive same]
    by_cases absent : (T'.findColumn cs nm).isNone = true
    · simp only [absent, if_true, run_bind, issue_run, modifyCatalog_run, run_pure]
      let c₁ := (x.catalog.issue .column nm).2
      have wf₁ : c₁.WellFormed cs := wf'.of_schemas rfl (by simp [c₁, Catalog.issue])
      have found₁ : c₁.tableById table = some T' := (Catalog.tableById_congr rfl table).trans found'
      obtain ⟨wf₂, grows₂, keys₂, found₂, grown⟩ :=
        Catalog.addStubColumn (n := x.catalog.handles.size) wf₁ found₁ (grows.isStub.trans stub)
          { id := x.catalog.handles.size + 1, name := nm } (Option.isNone_iff_eq_none.mp absent)
      have step : Follows cs x { x with catalog := c₁.modifyTable table fun t =>
          { t with columns := t.columns ++ [{ id := x.catalog.handles.size + 1, name := nm }] } } :=
        ⟨rfl, rfl, by simp [c₁, Catalog.issue, Catalog.modifyTable], wf₂,
          (Catalog.Grows.of_schemas rfl : x.catalog.Grows cs x.catalog.handles.size c₁).trans grows₂⟩
      refine ⟨rfl, follows.trans step,
        fun t fk => (keys₂ t fk).trans ((Catalog.key_of_schemas rfl t fk).trans (keys t fk)), _,
        found₂, grows.trans grown, fun nm' mem => ?_⟩
      rcases List.mem_append.mp mem with old | new
      · obtain ⟨col, hit⟩ := Option.isSome_iff_exists.mp (columns nm' old)
        rw [grown.findColumn hit]
        rfl
      · rw [List.mem_singleton.mp new]
        show (findNamed (·.name) cs nm (T'.columns ++ [_])).isSome = true
        rw [findNamed_append_of_none _ _ _ (Option.isNone_iff_eq_none.mp absent) (nameEqual_refl cs nm)]
        rfl
    · simp only [absent, Bool.false_eq_true, if_false, run_pure]
      refine ⟨rfl, follows, keys, T', found', grows, fun nm' mem => ?_⟩
      rcases List.mem_append.mp mem with old | new
      · exact columns nm' old
      · rw [List.mem_singleton.mp new]
        exact Option.isSome_iff_ne_none.mpr (by simpa using absent)
  · subst start
    exact ⟨rfl, .refl wf, fun _ _ => rfl, T, found, .refl T, by simp⟩
  · intro x held
    simp only [held.1, run_pure]
    exact ⟨rfl, held.2⟩

/-- Making sure a schema exists: the one found under the name, or a new one without tables. -/
theorem ensureSchema_run {cs : Bool} (name : String) (a : Analyzer) (same : a.options.caseSensitive = cs)
    (wf : a.catalog.WellFormed cs) :
    Follows cs a ((ensureSchema name).run a).2 ∧
      (∀ t fk, ((ensureSchema name).run a).2.catalog.key t fk = a.catalog.key t fk) ∧
      ((ensureSchema name).run a).2.catalog.findSchema cs name = some ((ensureSchema name).run a).1 ∧
      ∀ key, ((ensureSchema name).run a).1.findTable cs key =
        (a.catalog.findSchema cs name).bind (·.findTable cs key) := by
  unfold ensureSchema
  simp only [run_bind, get_run, same]
  cases found : a.catalog.findSchema cs name with
  | some s =>
    simp only [run_pure]
    exact ⟨.refl wf, by simp, found, fun _ => rfl⟩
  | none =>
    simp only [run_bind, issue_run, modifyCatalog_run, debug_run, run_pure]
    let c₁ := (a.catalog.issue .schema name).2
    have wf₁ : c₁.WellFormed cs := wf.of_schemas rfl (by simp [c₁, Catalog.issue])
    have fresh : ∀ s ∈ c₁.schemas, s.id ≠ a.catalog.handles.size + 1 := fun s mem same => by
      have issued := wf.schemasIssued s mem
      omega
    have size : c₁.handles.size = a.catalog.handles.size + 1 := by simp [c₁, Catalog.issue]
    refine ⟨⟨rfl, rfl, by simp [Catalog.issue], wf₁.addSchema rfl fresh size.ge,
      (Catalog.Grows.of_schemas rfl : a.catalog.Grows cs _ c₁).trans (Catalog.Grows.addSchema rfl)⟩,
      fun t fk => (Catalog.key_addSchema rfl t fk).trans (Catalog.key_of_schemas rfl t fk), ?_,
      fun _ => rfl⟩
    have found₁ : c₁.findSchema cs name = none := found
    rw [Catalog.findSchema_addSchema, found₁, Option.none_or]
    simp [findNamed]

/-- A stub for a target that names no table, put in the schema the target is looked up in and
given a column of each name: the target then names it, and no foreign key changes. -/
theorem appendStub_run {cs : Bool} {table : Nat} {name : List String} {S : Schema}
    (fkNames : List String) (x : Analyzer) (same : x.options.caseSensitive = cs)
    (wf : x.catalog.WellFormed cs) (owner : (x.catalog.locateTable table).isSome)
    (target : x.catalog.targetSchema cs table name = some S)
    (absent : S.findTable cs (splitQualified name).2 = none) :
    let u : Table := { id := x.catalog.handles.size + 1, name := (splitQualified name).2, isStub := true }
    let y := ((addStubColumns u.id fkNames).run
      { x with catalog := (x.catalog.issue .table u.name).2.appendTable S.id u }).2
    Follows cs x y ∧ (∀ t fk, y.catalog.key t fk = x.catalog.key t fk) ∧
      ∃ T, y.catalog.referenced cs table name = some T := by
  intro u y
  obtain ⟨wf₁, grows₁, keys₁, named₁⟩ := Catalog.addStub wf owner target absent
  let x₁ : Analyzer :=
    { x with catalog := (x.catalog.issue .table (splitQualified name).2).2.appendTable S.id u }
  have follows₁ : Follows cs x x₁ :=
    ⟨rfl, rfl, by simp [x₁, Catalog.issue, Catalog.appendTable, Catalog.modifySchema], wf₁, grows₁⟩
  obtain ⟨follows₂, keys₂, -⟩ :=
    addStubColumns_run fkNames x₁ same wf₁ (wf₁.tableById_eq (Catalog.referenced_mem named₁)) rfl
  -- the target still names the stub, grown
  obtain ⟨U, named₂, -⟩ := (follows₂.grows.referenced (grows₁.locateTable_isSome owner) name).1 u named₁
  exact ⟨follows₁.trans follows₂, fun t fk => (keys₂ t fk).trans (keys₁ t fk), U, named₂⟩

/-- Creating a stub for a target that names no table: the target then names a table, and no
foreign key changes. The plan is then looked up afresh. -/
theorem stubTarget_run {cs : Bool} (r : Reference) {table : Nat} (fkNames : List String)
    {name : List String} (x : Analyzer) (same : x.options.caseSensitive = cs)
    (wf : x.catalog.WellFormed cs) (owner : (x.catalog.locateTable table).isSome)
    (absent : x.catalog.referenced cs table name = none) :
    ∃ y, (stubTarget r table fkNames name).run x = (planRef r).run y ∧ Follows cs x y ∧
      (∀ t fk, y.catalog.key t fk = x.catalog.key t fk) ∧
      ∃ S, y.catalog.referenced cs table name = some S := by
  obtain ⟨⟨s, t⟩, located⟩ := Option.isSome_iff_exists.mp owner
  have split : splitQualified name = ((splitQualified name).1, (splitQualified name).2) := rfl
  unfold stubTarget
  rw [split]
  simp only [run_bind, catalog_run]
  by_cases unqualified : (splitQualified name).1.isEmpty = true
  · -- the stub goes in the schema of the owning table
    have target : x.catalog.targetSchema cs table name = some s := by
      simp [Catalog.targetSchema, unqualified, located]
    have absent' : s.findTable cs (splitQualified name).2 = none := by
      rw [Catalog.referenced_eq, target, Option.bind_some] at absent
      exact absent
    obtain ⟨follows, keys, T, named⟩ := appendStub_run fkNames x same wf owner target absent'
    simp only [unqualified, if_true, run_bind, run_pure, located, Option.map_some, issue_run,
      modifyCatalog_run, catalog_run, debug_run]
    exact ⟨_, rfl, follows.log _, keys, T, named⟩
  · -- the stub goes in the schema the target names, made when there is none
    obtain ⟨follows₁, keys₁, named₁, tables₁⟩ := ensureSchema_run (splitQualified name).1 x same wf
    let x₁ := ((ensureSchema (splitQualified name).1).run x).2
    let S := ((ensureSchema (splitQualified name).1).run x).1
    have target : x₁.catalog.targetSchema cs table name = some S := by
      simp only [Catalog.targetSchema, unqualified, Bool.false_eq_true, if_false]
      exact named₁
    have absent' : S.findTable cs (splitQualified name).2 = none := by
      rw [tables₁]
      rw [Catalog.referenced_eq] at absent
      simpa [Catalog.targetSchema, unqualified] using absent
    obtain ⟨follows, keys, T, named⟩ :=
      appendStub_run fkNames x₁ (follows₁.caseSensitive same) follows₁.wellFormed
        (follows₁.grows.locateTable_isSome owner) target absent'
    simp only [unqualified, Bool.false_eq_true, if_false, run_bind, run_pure, issue_run,
      modifyCatalog_run, catalog_run, debug_run]
    exact ⟨_, rfl, (follows₁.trans follows).log _, fun t fk => (keys t fk).trans (keys₁ t fk), T, named⟩

/-- A target whose key is gone is not written back. -/
theorem applyPlan_target_gone {t fk : Nat} {name : List String} (p : Plan) (x : Analyzer)
    (gone : x.catalog.key t fk = none) : (applyPlan (.target t fk name) p).run x = (none, x) := by
  unfold applyPlan
  simp -zeta only [run_bind, catalog_run, key_def, gone]
  rfl

/-- Writing a foreign key target back, with stub tables on. A plan that found no target is made
again, after a stub is made when the target still names no table; a plan whose target is a stub
lacking some names adds them and is made again. The key is then bound, when the plan was made
against the names the key references. -/
theorem applyPlan_target {cs : Bool} {t fk : Nat} {name : List String} {f : ForeignKey}
    (names : Table → List String) (p : Plan) (x : Analyzer) (same : x.options.caseSensitive = cs)
    (wf : x.catalog.WellFormed cs) (stubs : x.options.stubUnresolved = true)
    (key : x.catalog.key t fk = some f)
    (plan : p.target = none ∨ ∃ T₀ T, x.catalog.referenced cs t name = some T ∧ T₀.Grows T ∧
      p = targetPlan cs T₀ (names T₀)) :
    Applied cs (.target t fk name) x ((applyPlan (.target t fk name) p).run x).1
        ((applyPlan (.target t fk name) p).run x).2 ∧
      ((∀ T, names T = targetNames f T) →
        ∃ f' T, BindsTo cs ((applyPlan (.target t fk name) p).run x).2.catalog t fk name f' T) := by
  let valid := ∀ T, names T = targetNames f T
  unfold applyPlan
  simp -zeta only [run_bind, catalog_run, key_def, key]
  extract_lets p₀ write
  have start : p₀ = p := rfl
  rw [start]
  -- the write-back, from a plan whose target the state's target names, grown
  have written : ∀ p' x', Follows cs x x' → (∀ t fk, x'.catalog.key t fk = x.catalog.key t fk) →
      (∃ T₀ T ns, x'.catalog.referenced cs t name = some T ∧ T₀.Grows T ∧ p' = targetPlan cs T₀ ns ∧
        (valid → ns = targetNames f T₀)) →
      Applied cs (.target t fk name) x ((write () p').run x').1 ((write () p').run x').2 ∧
        (valid → ∃ f' T, BindsTo cs ((write () p').run x').2.catalog t fk name f' T) := by
    intro p' x' follows₁ keys₁ ⟨T₀, T, ns, named, grows, planned, valid₁⟩
    subst planned
    simp -zeta only [write, targetPlan]
    simp -zeta only [run_bind, catalog_run]
    extract_lets store
    -- the write itself, from a plan made against the table the target names
    have stored : ∀ p'' x'', Follows cs x x'' → (∀ t fk, x''.catalog.key t fk = x.catalog.key t fk) →
        (∃ T ns, x''.catalog.referenced cs t name = some T ∧ T.id = T₀.id ∧ p'' = targetPlan cs T ns ∧
          (valid → ns = targetNames f T ∧ (T.isStub = true → missingNames cs T ns = []))) →
        Applied cs (.target t fk name) x ((store () p'').run x'').1 ((store () p'').run x'').2 ∧
          (valid → ∃ f' T, BindsTo cs ((store () p'').run x'').2.catalog t fk name f' T) := by
      intro p'' x'' follows₂ keys₂ ⟨T, ns', named₂, ids, planned, valid₂⟩
      subst planned
      have found : x''.catalog.tableById T₀.id = some T := by
        rw [← ids]
        exact follows₂.wellFormed.tableById_eq (Catalog.referenced_mem named₂)
      have final : ∀ (g : ForeignKey) (e : Option ResolutionError), g.id = fk →
          g.referencedTable = some T.id → g.referencedColumnNames = targetNames f T →
          g.referencedColumns = ns'.map (columnHandle cs T) → (∀ err ∈ e, err.target = .column) →
          Applied cs (.target t fk name) x e
              { x'' with catalog := x''.catalog.modifyTable t (·.setForeignKey g) } ∧
            (valid → ∃ f' T, BindsTo cs (x''.catalog.modifyTable t (·.setForeignKey g)) t fk name f' T) := by
        intro g e id table rcn columns errors
        refine ⟨⟨follows₂.trans (.setForeignKey follows₂.wellFormed t g), fun t' fk' other => ?_, errors⟩,
          fun holds => ?_⟩
        · rw [Catalog.key_setForeignKey, if_neg, keys₂]
          rintro ⟨rfl, rfl⟩
          exact other (by rw [id]; rfl)
        · obtain ⟨names', stubColumns⟩ := valid₂ holds
          obtain ⟨U, bound⟩ := BindsTo.setForeignKey ((keys₂ t fk).trans key) named₂ id table
            (by rw [columns, rcn, names']) (by rw [rcn, ← names']; exact stubColumns)
          exact ⟨g, U, bound⟩
      have keyId : f.id = fk := Catalog.key_id key
      -- one bind at a time by rw: unfolding the whole chain at once by simp leaves the kernel
      -- a comparison it takes over a minute to check
      simp only [store]
      rw [run_bind, catalog_run, run_bind, catalog_run]
      simp only [keys₂ t fk, key, found]
      rw [run_bind, modifyCatalog_run]
      by_cases empty : (targetPlan cs T ns').missing.isEmpty = true <;>
        simp only [empty, if_true, Bool.false_eq_true, if_false, run_bind, columnError_run, run_pure] <;>
        refine final _ _ keyId (by rw [ids]) ?_ rfl (by simp)
      -- the names written are those the target columns are looked up by
      all_goals
        by_cases unnamed : f.referencedColumnNames.isEmpty = true <;>
          simp only [unnamed, targetNames, if_true, Bool.false_eq_true, if_false, Option.bind_some]
        cases T.primaryIndex <;> simp [List.isEmpty_iff.mp unnamed]
    clear_value store
    have found : x'.catalog.tableById T₀.id = some T := by
      rw [← grows.id]
      exact follows₁.wellFormed.tableById_eq (Catalog.referenced_mem named)
    simp only [found]
    by_cases lacking : (T.isStub && !(missingNames cs T₀ ns).isEmpty) = true
    · -- a stub lacking some names: add them, and make the plan again
      have stub : T.isStub = true := (Bool.and_eq_true_iff.mp lacking).1
      simp only [lacking, if_true, run_bind]
      obtain ⟨follows₂, keys₂, T', found₂, grown, added⟩ :=
        addStubColumns_run (missingNames cs T₀ ns) x' (follows₁.caseSensitive same) follows₁.wellFormed
          found stub
      obtain ⟨U, named₂, grown'⟩ :=
        (follows₂.grows.referenced (Catalog.key_owner ((keys₁ t fk).trans key)) name).1 T named
      have same₂ : U = T' := by
        have located := follows₂.wellFormed.tableById_eq (Catalog.referenced_mem named₂)
        rw [grown'.id, grows.id, found₂] at located
        exact (Option.some.inj located).symm
      subst same₂
      rw [planRef_keeps]
      refine stored _ _ (follows₁.trans follows₂) (fun t fk => (keys₂ t fk).trans (keys₁ t fk))
        ⟨U, targetNames f U, named₂, grown'.id.trans grows.id, ?_, fun holds => ⟨rfl, fun _ => ?_⟩⟩
      · rw [planRef_target, (follows₁.trans follows₂).caseSensitive same, keys₂, keys₁, key, named₂]
      · rw [targetNames_grows (grows.trans grown'), ← valid₁ holds]
        exact missingNames_eq_nil_of_added (grows.trans grown') added
    · -- nothing to add: the plan stands, for the table as it has grown
      have kept : T₀.isStub = true → missingNames cs T₀ ns = [] := fun stub₀ => by
        have stub : T.isStub = true := grows.isStub.trans stub₀
        simpa [stub] using lacking
      simp only [lacking, Bool.false_eq_true, if_false]
      refine stored _ _ follows₁ keys₁ ⟨T, ns, named, grows.id, targetPlan_grows grows kept,
        fun holds => ⟨(valid₁ holds).trans (targetNames_grows grows f).symm, fun stub => ?_⟩⟩
      rw [(columnHandle_grows grows kept).2]
      exact kept (grows.isStub ▸ stub)
  clear_value write
  rcases plan with none | ⟨T₀, T, named, grows, rfl⟩
  · -- no target was found: look again, and make a stub when there is still none
    simp only [none, Option.isNone_none, if_true, run_bind, referencedTable_run, same]
    cases found : x.catalog.referenced cs t name with
    | some T =>
      simp only [Option.isSome_some, if_true, run_bind]
      rw [planRef_keeps]
      refine written _ x (.refl wf) (fun _ _ => rfl) ⟨T, T, targetNames f T, found, .refl T, ?_, fun _ => rfl⟩
      rw [planRef_target, same, key, found]
    | none =>
      simp only [Option.isSome_none, Bool.false_eq_true, if_false, run_bind, options_run, stubs, if_true]
      obtain ⟨y, run, follows, keys, S, named⟩ :=
        stubTarget_run (.target t fk name) f.referencedColumnNames x same wf (Catalog.key_owner key) found
      rw [run, planRef_keeps]
      refine written _ y follows keys ⟨S, S, targetNames f S, named, .refl S, ?_, fun _ => rfl⟩
      rw [planRef_target, follows.caseSensitive same, keys, key, named]
  · -- the target was found: the plan stands
    simp only [targetPlan, Option.isNone_some, Bool.false_eq_true, if_false]
    exact written _ x (.refl wf) (fun _ _ => rfl) ⟨T₀, T, names T₀, named, grows, rfl, fun holds => holds T₀⟩

/-- Writing the columns of an index back changes no foreign key and reports missing columns. -/
theorem applyPlan_index {cs : Bool} {t i : Nat} (p : Plan) (x : Analyzer) (wf : x.catalog.WellFormed cs) :
    Applied cs (.indexColumns t i) x ((applyPlan (.indexColumns t i) p).run x).1
      ((applyPlan (.indexColumns t i) p).run x).2 := by
  unfold applyPlan
  simp only [run_bind, catalog_run]
  cases found : x.catalog.tableById t with
  | none => exact .unchanged wf
  | some T =>
    simp only [Option.bind_some]
    cases hit : T.indexes.find? (·.id == i) with
    | none => exact .unchanged wf
    | some idx =>
      have handle : idx.id = i := by simpa using List.find?_some hit
      have final : ∀ (i' : Index) (e : Option ResolutionError), i'.id = idx.id →
          i'.columnNames = idx.columnNames → (∀ err ∈ e, err.target = .column) →
          Applied cs (.indexColumns t i) x e { x with catalog := x.catalog.modifyTable t (·.setIndex i') } := by
        intro i' e id names errors
        have hit' : T.indexes.find? (·.id == i'.id) = some idx := by rw [id, handle]; exact hit
        have ids : ∀ u : Table, (u.setIndex i').id = u.id := fun _ => rfl
        have keys : ∀ u : Table, (u.setIndex i').foreignKeys = u.foreignKeys := fun _ => rfl
        refine ⟨.setIndex wf found hit' names, fun t' fk' _ => ?_, errors⟩
        rw [show x.catalog.modifyTable t (·.setIndex i') = _ from rfl, Catalog.key_modifyTable ids keys]
      simp only [modifyCatalog_run, run_bind]
      by_cases empty : p.missing.isEmpty = true <;>
        simp only [empty, if_true, Bool.false_eq_true, if_false, run_bind, columnError_run, run_pure] <;>
        refine final _ _ rfl ?_ (by simp)
      all_goals
        simp only [Index.columnNames]
        refine names_zip_drop _ (fun _ => ?_) _ _
        rfl

/-- Writing the local columns of a foreign key back keeps what the key binds, and reports missing
columns. -/
theorem applyPlan_local {cs : Bool} {t fk : Nat} (p : Plan) (x : Analyzer) (wf : x.catalog.WellFormed cs) :
    Applied cs (.localColumns t fk) x ((applyPlan (.localColumns t fk) p).run x).1
      ((applyPlan (.localColumns t fk) p).run x).2 := by
  unfold applyPlan
  simp only [run_bind, catalog_run, key_def]
  cases key : x.catalog.key t fk with
  | none => exact .unchanged wf
  | some f =>
    have final : ∀ (g : ForeignKey) (e : Option ResolutionError), g.id = fk → g.binding = f.binding →
        (∀ err ∈ e, err.target = .column) →
        Applied cs (.localColumns t fk) x e { x with catalog := x.catalog.modifyTable t (·.setForeignKey g) } := by
      intro g e id binding errors
      refine ⟨.setForeignKey wf t g, fun t' fk' _ => ?_, errors⟩
      rw [Catalog.key_setForeignKey]
      split
      · next mine =>
        obtain ⟨rfl, rfl⟩ := mine
        rw [id, key]
        simp [binding]
      · rfl
    have keyId : f.id = fk := Catalog.key_id key
    simp only [modifyCatalog_run, run_bind]
    by_cases empty : p.missing.isEmpty = true <;>
      simp only [empty, if_true, Bool.false_eq_true, if_false, run_bind, columnError_run, run_pure] <;>
      exact final _ _ keyId rfl (by simp)

/-- Object references are not written back here. -/
theorem applyPlan_object {cs : Bool} (o : ObjectRef) (p : Plan) (x : Analyzer) (wf : x.catalog.WellFormed cs) :
    Applied cs (.object o) x ((applyPlan (.object o) p).run x).1 ((applyPlan (.object o) p).run x).2 :=
  .unchanged wf

/-- A failed object reference reports an object. -/
theorem resolveObject_kind (r : ObjectRef) (a : Analyzer) :
    ∀ e ∈ ((resolveObject r).run a).1, e.kind = .object := by
  unfold resolveObject
  simp only [run_bind, lookupObject_run]
  cases lookupAt a r with
  | none =>
    intro e mem
    obtain rfl := Option.some.inj mem
    rfl
  | some x => simp

theorem objectRound_kind (all rs : List (Nat × ObjectRef)) (done : List Nat) (errs : List ResolutionError)
    (a : Analyzer) (objects : ∀ e ∈ errs, e.kind = .object) :
    ∀ e ∈ ((objectRound all rs done errs).run a).1.2.2, e.kind = .object := by
  induction rs generalizing done errs a with
  | nil =>
    rw [objectRound, run_pure]
    exact objects
  | cons x rest ih =>
    obtain ⟨i, r⟩ := x
    obtain ⟨unchanged, -⟩ := waitsForCopy_run all done i r a
    rw [objectRound]
    simp only [run_bind, unchanged]
    by_cases skipped : (done.contains i || ((waitsForCopy all done i r).run a).1) = true
    · rw [if_pos skipped]
      exact ih done errs a objects
    · rw [if_neg skipped]
      simp only [run_bind]
      split_ifs
      · simp only [run_bind, run_pure, catalog_run]
        exact ih (i :: done) errs a objects
      · simp only [run_bind, run_pure, catalog_run]
        refine ih (i :: done) _ _ fun e mem => ?_
        rcases List.mem_append.mp mem with old | new
        · exact objects e old
        · exact resolveObject_kind r a e (Option.mem_toList.mp new)

theorem objectRounds_kind (all : List (Nat × ObjectRef)) (fuel : Nat) (done : List Nat)
    (errs : List ResolutionError) (a : Analyzer) (objects : ∀ e ∈ errs, e.kind = .object) :
    ∀ e ∈ ((objectRounds all fuel done errs).run a).1.2, e.kind = .object := by
  induction fuel generalizing done errs a with
  | zero =>
    rw [objectRounds, run_pure]
    exact objects
  | succ fuel ih =>
    rw [objectRounds]
    simp only [run_bind]
    have round := objectRound_kind all all done errs a objects
    split_ifs
    · exact ih _ _ _ round
    · exact round

/-- The object phase reports object references only. -/
theorem resolveObjects_kind (a : Analyzer) : ∀ e ∈ (resolveObjects.run a).1, e.kind = .object := by
  unfold resolveObjects
  simp only [run_bind, objectRefs_run, run_pure]
  have rounds := objectRounds_kind (objectRefsAt a) ((objectRefsAt a).length + 1) [] [] a (by simp)
  generalize (objectRounds (objectRefsAt a) ((objectRefsAt a).length + 1) [] []).run a = out at *
  obtain ⟨⟨done, errs⟩, mid⟩ := out
  refine Spec.forIn (fun (errs : List ResolutionError) (_ : Analyzer) => ∀ e ∈ errs, e.kind = .object)
    (fun x _ acc => ?_) mid rounds
  intro b objects
  split_ifs
  · simp only [run_bind]
    split
    · next e found =>
      intro e' mem
      rcases List.mem_append.mp mem with old | new
      · exact objects e' old
      · rw [List.mem_singleton.mp new]
        exact resolveObject_kind x.2 _ e found
    · exact objects
  · exact objects

/-- The plans of references, all made in the same state, which they leave as it is. -/
theorem mapM_planRef (rs : List Reference) (a : Analyzer) :
    (rs.mapM planRef).run a = (rs.map fun r => ((planRef r).run a).1, a) := by
  induction rs with
  | nil => rfl
  | cons r rest ih =>
    rw [List.mapM_cons, run_bind, planRef_keeps, run_bind, ih, run_pure]
    rfl

theorem key_isSome_of_attached {c : Catalog} {t fk : Nat} {name : List String}
    (attached : stillAttached c (.target t fk name) = true) : (c.key t fk).isSome := by
  unfold stillAttached at attached
  unfold Catalog.key
  cases found : c.tableById t with
  | none => simp [found] at attached
  | some T => simpa [found, List.find?_isSome] using attached

end Analyze

open Analyze in
/-- One reference of the column phase, with stub tables on, written back from the plan made for
it before the phase. -/
theorem PhaseInv.step {cs : Bool} {m x : Analyzer} {pending done later : List Reference}
    {errs : List ResolutionError} {r : Reference} (inv : PhaseInv cs m pending done errs x)
    (split : pending = done ++ r :: later) (attached : stillAttached m.catalog r = true)
    (same : m.options.caseSensitive = cs) (stubs : m.options.stubUnresolved = true) :
    PhaseInv cs m pending (done ++ [r]) (errs ++ ((applyPlan r ((planRef r).run m).1).run x).1.toList)
      ((applyPlan r ((planRef r).run m).1).run x).2 := by
  have wf := inv.follows.wellFormed
  have same' : x.options.caseSensitive = cs := inv.follows.caseSensitive same
  have stubs' : x.options.stubUnresolved = true := by rw [inv.follows.options]; exact stubs
  -- what the reference does, and the key it binds when it is the only one to bind it
  obtain ⟨applied, fresh⟩ : Applied cs r x ((applyPlan r ((planRef r).run m).1).run x).1
        ((applyPlan r ((planRef r).run m).1).run x).2 ∧
      ∀ t fk name, r = .target t fk name → TargetsOnce pending (t, fk) →
        ∃ f T, BindsTo cs ((applyPlan r ((planRef r).run m).1).run x).2.catalog t fk name f T := by
    cases r with
    | indexColumns t i => exact ⟨applyPlan_index _ x wf, fun _ _ _ other => by cases other⟩
    | localColumns t fk => exact ⟨applyPlan_local _ x wf, fun _ _ _ other => by cases other⟩
    | object o => exact ⟨applyPlan_object o _ x wf, fun _ _ _ other => by cases other⟩
    | target t fk name =>
      -- no reference before this one binds a key only this one binds
      have untouched : TargetsOnce pending (t, fk) →
          (x.catalog.key t fk).map ForeignKey.binding = (m.catalog.key t fk).map ForeignKey.binding :=
        fun once => inv.kept t fk (once.first split rfl)
      obtain ⟨f₀, key₀⟩ := Option.isSome_iff_exists.mp (key_isSome_of_attached attached)
      cases key : x.catalog.key t fk with
      | none =>
        refine ⟨?_, fun t' fk' name' mine once => ?_⟩
        · rw [applyPlan_target_gone _ x key]
          exact .unchanged wf
        · cases mine
          have kept := untouched once
          rw [key, key₀] at kept
          cases kept
      | some f =>
        -- the plan made before the phase: against the table the target named then, if any
        cases found₀ : m.catalog.referenced cs t name with
        | none =>
          have plan : ((planRef (.target t fk name)).run m).1.target = none := by
            rw [planRef_target, same, key₀, found₀]
          obtain ⟨applied, bound⟩ := applyPlan_target (targetNames f) _ x same' wf stubs' key (.inl plan)
          exact ⟨applied, fun t' fk' name' mine once => by cases mine; exact bound fun _ => rfl⟩
        | some T₀ =>
          obtain ⟨T, found, grows⟩ :=
            (inv.follows.grows.referenced (Catalog.key_owner key₀) name).1 T₀ found₀
          have plan : ((planRef (.target t fk name)).run m).1 = targetPlan cs T₀ (targetNames f₀ T₀) := by
            rw [planRef_target, same, key₀, found₀]
          obtain ⟨applied, bound⟩ :=
            applyPlan_target (targetNames f₀) _ x same' wf stubs' key (.inr ⟨T₀, T, found, grows, plan⟩)
          refine ⟨applied, fun t' fk' name' mine once => ?_⟩
          cases mine
          -- the key still references the names the plan was made against
          have kept := untouched once
          rw [key, key₀] at kept
          simp only [Option.map_some, Option.some.injEq, ForeignKey.binding, Prod.mk.injEq] at kept
          exact bound fun _ => by simp only [targetNames, kept.2.2]
  refine ⟨inv.follows.trans applied.follows, fun e mem => ?_, fun t fk untouched => ?_,
    fun t fk name mem once => ?_⟩
  · rcases List.mem_append.mp mem with old | new
    · exact inv.errors e old
    · exact .inr (applied.errors e (Option.mem_toList.mp new))
  · rw [applied.kept t fk (untouched r (by simp)), inv.kept t fk fun q mem => untouched q (by simp [mem])]
  · rcases List.mem_append.mp mem with old | new
    · obtain ⟨f, T, bound⟩ := inv.bound t fk name old once
      have other : r.targetKey ≠ some (t, fk) := fun mine => once.first split mine _ old rfl
      exact bound.grows applied.follows.grows (applied.kept t fk other)
    · exact fresh t fk name (List.mem_singleton.mp new).symm once

end DdlCatalog.Analysis
