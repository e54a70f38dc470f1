import DdlCatalog.Proofs.Steps
import DdlCatalog.Proofs.UniqueNames.Resolve
/-!
The names of every catalog a unit reaches. From a fresh catalog, steps whose statements are
admissible keep the state as `Analyzer.Kept` describes it, so the catalog after any list of them
keeps its names apart. `CREATE TABLE` does not look at the views of its schema, so without
admissibility a table and a view can share a name.
-/

namespace DdlCatalog.Analysis

open DdlCatalog.Catalog
open DdlCatalog.Syntax

/-- Every statement a tree applies satisfies `P`: the tree itself when it is a statement,
otherwise its children that are. -/
def EachStatement (P : Node → Prop) (root : Node) : Prop :=
  (root.isStatement = true → P root) ∧
    (root.isStatement = false → ∀ s ∈ root.children, s.isStatement = true → P s)

instance {P : Node → Prop} [DecidablePred P] (root : Node) : Decidable (EachStatement P root) :=
  instDecidableAnd

/-- A step whose statements are admissible; a script's, however its versioned comments read. -/
def Step.Admissible (cs : Bool) (views : List String) : Step → Prop
  | .script sql => ∀ version : Int,
    EachStatement (DdlCatalog.Analysis.Admissible cs views) (parse sql { serverVersion := version }).1
  | .statement root => EachStatement (DdlCatalog.Analysis.Admissible cs views) root
  | .finish => True

variable {cs : Bool} {views : List String}

/-- An admissible statement keeps the names apart. -/
theorem statementAction_keeps (stmt : Node) (admissible : Admissible cs views stmt) {act : Analyze Unit}
    (action : statementAction stmt = some act) :
    Spec (·.Kept cs views none) act fun _ a => a.Kept cs views none := by
  obtain ⟨creates, alters, triggers, named⟩ := admissible
  have kind : ∀ {k : Syntax.NodeKind}, stmt.kind? = some k → stmt.isKind k = true := fun same => by
    simp [Node.isKind, same]
  unfold statementAction at action
  split at action <;> cases action
  case h_1 => exact Analyze.createDatabase_keeps stmt
  case h_2 => exact Analyze.useStatement_keeps stmt
  case h_3 table =>
    obtain ⟨apart, single⟩ := creates (kind table)
    exact Analyze.createTable_keeps stmt (kind table) apart single
  case h_4 alter => exact Analyze.alterTable_keeps stmt (alters (kind alter))
  case h_5 => exact Analyze.createIndex_keeps stmt
  case h_6 => exact Analyze.createRoutine_keeps stmt .procedure
  case h_7 => exact Analyze.createRoutine_keeps stmt .function
  case h_8 => exact Analyze.createRoutine_keeps stmt .loadable
  case h_9 trigger => exact Analyze.createTrigger_keeps stmt (triggers (kind trigger))
  case h_10 view => exact Analyze.createView_keeps stmt (named (kind view))
  case h_11 => exact Analyze.createServer_keeps stmt
  case h_12 => exact Analyze.createTablespace_keeps stmt
  case h_13 => exact Analyze.createLogfileGroup_keeps stmt
  case h_14 => exact Analyze.createEvent_keeps stmt

namespace AnalysisUnit

theorem applyStatement_keeps (u : AnalysisUnit) (stmt : Node) (admissible : Admissible cs views stmt)
    (kept : u.state.Kept cs views none) : (u.applyStatement stmt).state.Kept cs views none := by
  unfold applyStatement
  split
  · rename_i act action
    exact Spec.bind (Recording.spec (Analyze.debug_recording _ _) Analyzer.Kept.stable)
      (fun _ => statementAction_keeps stmt admissible action) u.state kept
  · exact kept

/-- An item kept as raw tokens whose first word is `MODIFY` carries no column definition; on a
table with a column of the empty name, the change finds that column and faults, and the unit
reports the statement as not analysed. -/
theorem change_without_definition_faults :
    ((AnalysisUnit.new "u" (Catalog.new {}) {}).applySQL
      "CREATE TABLE t (`` INT);\nALTER TABLE t (MODIFY);").1.diagnostics.map (·.message) =
      ["statement could not be analysed: runtime error: invalid memory address or nil pointer dereference"] := by
  set_option maxRecDepth 100000 in decide +kernel

theorem apply_keeps (u : AnalysisUnit) (root : Node) (admissible : EachStatement (Admissible cs views) root)
    (kept : u.state.Kept cs views none) : (u.apply root).state.Kept cs views none := by
  unfold apply
  split
  · rename_i statement
    exact applyStatement_keeps u root (admissible.1 statement) kept
  rename_i other
  have children := admissible.2 (by simpa using other)
  -- the statements among the children, one after the other
  generalize root.children = ss at children ⊢
  induction ss generalizing u with
  | nil => exact kept
  | cons s rest ih =>
    refine ih _ ?_ fun s' mem => children s' (List.mem_cons_of_mem _ mem)
    dsimp only
    split
    · rename_i statement
      exact applyStatement_keeps u s (children s List.mem_cons_self statement) kept
    · exact kept

theorem applySQL_keeps (u : AnalysisUnit) (sql : String)
    (admissible : ∀ version : Int, EachStatement (Admissible cs views) (parse sql { serverVersion := version }).1)
    (kept : u.state.Kept cs views none) : (u.applySQL sql).1.state.Kept cs views none :=
  -- the parse errors are only noted
  apply_keeps _ _ (admissible _) (Recording.spec (Recording.foldlM fun _ _ => Analyze.note_recording _ _ _)
    Analyzer.Kept.stable u.state kept)

theorem finish_keeps (u : AnalysisUnit) (kept : u.state.Kept cs views none) :
    u.finish.1.state.Kept cs views none :=
  Analyze.resolve_keeps u.state kept

theorem step_keeps (u : AnalysisUnit) (step : Step) (admissible : step.Admissible cs views)
    (kept : u.state.Kept cs views none) : (u.step step).state.Kept cs views none := by
  cases step with
  | script sql => exact applySQL_keeps u sql admissible kept
  | statement root => exact apply_keeps u root admissible kept
  | finish => exact finish_keeps u kept

theorem run_keeps (u : AnalysisUnit) (steps : List Step) (admissible : ∀ step ∈ steps, step.Admissible cs views)
    (kept : u.state.Kept cs views none) : (u.run steps).state.Kept cs views none := by
  induction steps generalizing u with
  | nil => exact kept
  | cons step rest ih =>
    exact ih (u.step step) (fun s mem => admissible s (List.mem_cons_of_mem _ mem))
      (step_keeps u step (admissible step List.mem_cons_self) kept)

/-- A fresh unit keeps the names apart: its catalog is empty. -/
theorem new_kept (id : String) (version : Version) (o : Options) (noStubs : o.stubUnresolved = false)
    (views : List String) : (AnalysisUnit.new id (Catalog.new version) o).state.Kept o.caseSensitive views none :=
  ⟨rfl, ⟨⟨List.Pairwise.nil, List.Pairwise.nil, List.Pairwise.nil, List.Pairwise.nil⟩, List.nodup_nil,
    List.nodup_nil, fun _ mem => nomatch mem⟩, noStubs, fun _ mem => by simp [new, Analyzer.new] at mem⟩

end AnalysisUnit

/-- From a fresh catalog, with stub tables off, every catalog reached by admissible steps keeps
its names apart under the unit's case policy. -/
theorem run_names_apart (id : String) (version : Version) (o : Options) (noStubs : o.stubUnresolved = false)
    (views : List String) (steps : List Step)
    (admissible : ∀ step ∈ steps, step.Admissible o.caseSensitive views) :
    ((AnalysisUnit.new id (Catalog.new version) o).run steps).catalog.UniqueNames o.caseSensitive := by
  have kept := AnalysisUnit.run_keeps _ steps admissible (AnalysisUnit.new_kept id version o noStubs views)
  exact kept.caseSensitive ▸ kept.catalog.uniqueNames

/-- A table created, renamed by `ALTER TABLE` and indexed, then resolved: the names stay apart. -/
theorem names_apart_after_rename :
    ({} : Options).stubUnresolved = false ∧
      (∀ step ∈ [Step.statement (parse "CREATE TABLE t (id INT PRIMARY KEY, b INT);\nALTER TABLE t RENAME TO u, ADD INDEX ib (b);\nCREATE INDEX ic ON u (id, b);").1, .finish],
        step.Admissible false []) ∧
      ((AnalysisUnit.new "u" (Catalog.new {}) {}).run
        [.statement (parse "CREATE TABLE t (id INT PRIMARY KEY, b INT);\nALTER TABLE t RENAME TO u, ADD INDEX ib (b);\nCREATE INDEX ic ON u (id, b);").1,
          .finish]).catalog.UniqueNames false := by
  have admissible : ∀ step ∈ [Step.statement (parse "CREATE TABLE t (id INT PRIMARY KEY, b INT);\nALTER TABLE t RENAME TO u, ADD INDEX ib (b);\nCREATE INDEX ic ON u (id, b);").1, .finish],
      step.Admissible false [] := by
    intro step mem
    rcases List.mem_cons.mp mem with rfl | last
    · show EachStatement (Admissible false []) _
      set_option maxRecDepth 100000 in decide +kernel
    · rw [List.mem_singleton.mp last]
      trivial
  exact ⟨rfl, admissible, run_names_apart "u" {} {} rfl [] _ admissible⟩

/-- A table created under the name of a view of its schema is not rejected: the two share the
name. -/
theorem view_and_table_share_name :
    ¬ ((AnalysisUnit.new "u" (Catalog.new {}) {}).run
        [.script "CREATE VIEW v AS SELECT 1;\nCREATE TABLE v (a INT);", .finish]).catalog.UniqueNames
        false := by
  intro unique
  have shared : ∃ s ∈ ((AnalysisUnit.new "u" (Catalog.new {}) {}).run
      [.script "CREATE VIEW v AS SELECT 1;\nCREATE TABLE v (a INT);", .finish]).catalog.schemas,
      ∃ t ∈ s.tables, ∃ v ∈ s.views, t.name = v.name := by
    set_option maxRecDepth 100000 in decide +kernel
  obtain ⟨s, schema, t, table, v, view, same⟩ := shared
  have apart := (unique.each s schema).names.tablesViews t table v view
  rw [same, nameEqual_refl] at apart
  exact Bool.noConfusion apart

end DdlCatalog.Analysis
