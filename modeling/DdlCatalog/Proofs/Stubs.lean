import DdlCatalog.Proofs.ColumnPass
/-!
Stub tables. With stub tables on, a foreign key whose target does not resolve in the resolution
pass gets a stub table of that name, with a column for every name it references, and later keys
naming the same target share it. A stub is an ordinary table of its schema: `ALTER TABLE` changes
it like any other, and nothing puts back a column a bound key references.
-/

namespace DdlCatalog.Analysis

open DdlCatalog.Catalog

namespace Analyze

/-- With stub tables on, a resolution pass reports no foreign key target as missing: its errors
are object references or missing columns. The catalog stays well formed, so a stub has one column
of each name. A key that exactly one pending reference binds ends bound to the table its target
names, and to the columns of that table its referenced names resolve to, with a column of every
name when the table is a stub: the table the target named before the pass, grown, or else a new
stub. -/
theorem resolve_binds_targets_with_stubs (a : Analyzer)
    (stubs : (resolveObjects.run a).2.options.stubUnresolved = true)
    (wf : (resolveObjects.run a).2.catalog.WellFormed (resolveObjects.run a).2.options.caseSensitive) :
    let m := (resolveObjects.run a).2
    let cs := m.options.caseSensitive
    let pending := m.refs.toList.filter (stillAttached m.catalog)
    (∀ e ∈ (resolve.run a).1, e.kind = .object ∨ e.target = .column) ∧
      (resolve.run a).2.catalog.WellFormed cs ∧
      ∀ t fk name, Reference.target t fk name ∈ pending → TargetsOnce pending (t, fk) →
        ∃ f T, BindsTo cs (resolve.run a).2.catalog t fk name f T ∧
          (∀ X, m.catalog.referenced cs t name = some X → T.id = X.id ∧ T.isStub = X.isStub) ∧
          (m.catalog.referenced cs t name = none → T.isStub = true ∧ m.catalog.handles.size < T.id) := by
  intro m cs pending
  unfold resolve
  simp only [run_bind, catalog_run, get_run, mapM_planRef]
  generalize hloop : StateT.run (forIn (m := Analyze) (_ : List (Reference × Plan))
    (_ : List ResolutionError) _) _ = out
  have pairs : pending.zip (pending.map fun r => ((planRef r).run m).1) =
      pending.map fun r => (r, ((planRef r).run m).1) := by
    simpa using List.zip_map' (f := id) (g := fun r => ((planRef r).run m).1) (l := pending)
  rw [pairs] at hloop
  -- the column phase, one reference after another
  obtain ⟨follows, errors, -, bound⟩ : PhaseInv cs m pending pending out.1 out.2 := by
    have phase := Spec.forIn_prefix_run hloop
      (fun pre errs y => PhaseInv cs m pending (pre.map Prod.fst) errs y) (fun pre x post split acc => ?_) ?_
    · simpa [List.map_map, Function.comp_def] using phase
    · intro y held
      obtain ⟨r, p⟩ := x
      have listed : pending = pre.map Prod.fst ++ r :: post.map Prod.fst := by
        have := congrArg (List.map Prod.fst) split
        simpa [List.map_map, Function.comp_def] using this
      have planned : p = ((planRef r).run m).1 := by
        have mem : (r, p) ∈ pending.map fun r => (r, ((planRef r).run m).1) := by
          rw [split]
          simp
        obtain ⟨r', -, same⟩ := List.mem_map.mp mem
        simp only [Prod.mk.injEq] at same
        obtain ⟨rfl, rfl⟩ := same
        rfl
      have attached : stillAttached m.catalog r = true := by
        have mem : r ∈ pending := by
          rw [listed]
          simp
        exact (List.mem_filter.mp mem).2
      subst planned
      have step := held.step listed attached rfl stubs
      have done : pre.map Prod.fst ++ [r] = (pre ++ [(r, ((planRef r).run m).1)]).map Prod.fst := by simp
      simp only [run_bind]
      rcases result : ((applyPlan r ((planRef r).run m).1).run y).1 with _ | e <;>
        simp only [result, Option.toList_none, Option.toList_some, List.append_nil, done] at step <;>
        exact step
    · exact ⟨.refl wf, fun e mem => .inl (resolveObjects_kind a e mem), fun _ _ _ => rfl,
        fun _ _ _ mem => by simp at mem⟩
  simp only [run_pure, note_run, modify_run]
  refine ⟨errors, follows.wellFormed, fun t fk name mem once => ?_⟩
  obtain ⟨f, T, binds⟩ := bound t fk name mem once
  -- where the target led before the pass
  obtain ⟨f₀, key₀⟩ := Option.isSome_iff_exists.mp (key_isSome_of_attached (List.mem_filter.mp mem).2)
  obtain ⟨found, absent⟩ := follows.grows.referenced (Catalog.key_owner key₀) name
  refine ⟨f, T, binds, fun X named => ?_, fun missing => absent missing T binds.target⟩
  obtain ⟨U, named', grows⟩ := found X named
  obtain rfl : U = T := Option.some.inj (named'.symm.trans binds.target)
  exact ⟨grows.id, grows.isStub⟩

/-- After a script creating a table with a key whose target names no table, the pass binds the
key to a stub. -/
theorem created_key_binds_stub :
    let a := ((AnalysisUnit.new "u" (Catalog.new {}) { stubUnresolved := true }).applySQL
      "CREATE TABLE c (a INT, FOREIGN KEY (a) REFERENCES p (x));").1.state
    ∃ f T, BindsTo (resolveObjects.run a).2.options.caseSensitive (resolve.run a).2.catalog 2 4 ["p"] f T ∧
      T.isStub = true := by
  intro a
  have real : ∀ t ∈ (resolveObjects.run a).2.catalog.tables, t.isStub = false := by decide +kernel
  obtain ⟨-, -, bound⟩ := resolve_binds_targets_with_stubs a (by decide +kernel)
    ⟨by decide +kernel, by decide +kernel, by decide +kernel, by decide +kernel,
      fun t mem stub => absurd stub (by simp [real t mem])⟩
  have listed : Reference.target 2 4 ["p"] ∈ (resolveObjects.run a).2.refs.toList.filter
      (stillAttached (resolveObjects.run a).2.catalog) := by
    have found : some (2, 4, ["p"]) ∈ ((resolveObjects.run a).2.refs.toList.filter
        (stillAttached (resolveObjects.run a).2.catalog)).map Reference.targetOf := by decide +kernel
    obtain ⟨r, mem, same⟩ := List.mem_map.mp found
    cases r <;> simp only [Reference.targetOf, reduceCtorEq, Option.some.injEq, Prod.mk.injEq] at same
    obtain ⟨rfl, rfl, rfl⟩ := same
    exact mem
  obtain ⟨f, T, binds, -, fresh⟩ := bound 2 4 ["p"] listed (by decide +kernel)
  exact ⟨f, T, binds, (fresh (by decide +kernel)).1⟩

end Analyze

/-- Renaming the column of a stub that a bound foreign key references leaves the key on a column
the stub no longer has, and the next pass does not add it back. -/
theorem altered_stub_loses_column :
    let u := (AnalysisUnit.new "u" (Catalog.new {}) { stubUnresolved := true }).run
      [.script "CREATE TABLE c (a INT, FOREIGN KEY (a) REFERENCES p (x));", .finish,
       .script "ALTER TABLE p CHANGE x y INT;", .finish]
    ∃ t ∈ u.catalog.tables, ∃ fk ∈ t.foreignKeys, ∃ p ∈ u.catalog.tables, p.isStub ∧
      fk.referencedTable = some p.id ∧ fk.referencedColumnNames = ["x"] ∧
      p.columns.map (·.name) = ["y"] := by
  set_option maxRecDepth 100000 in decide +kernel

end DdlCatalog.Analysis
