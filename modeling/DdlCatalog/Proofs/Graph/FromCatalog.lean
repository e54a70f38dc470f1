import DdlCatalog.Proofs.Graph.Maps
/-!
The graph of a catalog.

`build` adds every table of the catalog under its identifier `schema.table`, then, for each
foreign key whose referenced table the catalog holds, the reference of the key's table to that
table. Identifiers are the two names joined by a dot, so two tables can share one (a schema
`a.b` with a table `c`, and a schema `a` with a table `b.c`); the graph then has one table for
both.

`build_eq` reads `build` as `addTable` folded over the identifiers, then `addEdge` folded over
the references of the foreign keys (`refPairs`), and the lemmas on each operation give the
graph's tables, edges and self references. Main statement: the graph has one table per
identifier; an edge joins two different identifiers exactly when a table of the second has a
foreign key to a table of the first; the identifiers with a reference to themselves are listed
apart, sorted and once each; and the edge count is the number of such pairs.
-/

namespace DdlCatalog.Graph

open DdlCatalog.Catalog

namespace DependencyGraph

variable {g : DependencyGraph}

theorem mem_ids_addTable {id x : String} : x ∈ (g.addTable id).ids ↔ x ∈ g.ids ∨ x = id := by
  unfold addTable
  split
  · rename_i held
    have held : id ∈ g.ids := by simpa using held
    refine (or_iff_left_of_imp ?_).symm
    rintro rfl
    exact held
  · simp

theorem get_edges_addTable (id q : String) : (g.addTable id).edges.get q = g.edges.get q := by
  unfold addTable
  split
  · rfl
  · exact Adjacency.get_append_empty _ _ _

theorem self_addTable (id : String) : (g.addTable id).self = g.self := by
  unfold addTable
  split <;> rfl

@[simp] theorem ids_addEdge (a b : String) : (g.addEdge a b).ids = g.ids := by
  unfold addEdge
  split
  · rfl
  · split
    · split <;> rfl
    · rfl

/-- A reference adds an edge exactly when it joins two different tables of the graph. -/
theorem edge_addEdge_iff (cons : Consistent g) {a b p x : String} :
    (g.addEdge a b).Edge p x ↔ g.Edge p x ∨ (p = a ∧ x = b ∧ a ≠ b ∧ a ∈ g.ids ∧ b ∈ g.ids) := by
  unfold addEdge
  split
  · rename_i missing
    have missing : a ∉ g.ids ∨ b ∉ g.ids := by simpa using missing
    refine (or_iff_left ?_).symm
    rintro ⟨-, -, -, heldA, heldB⟩
    exact missing.elim (absurd heldA) (absurd heldB)
  · rename_i held
    have held : a ∈ g.ids ∧ b ∈ g.ids := by simpa using held
    split
    · -- a reference of a table to itself adds no edge
      rename_i same
      have same : a = b := by simpa using same
      have unchanged : (if g.self.contains a then g else { g with self := g.self ++ [a] }).Edge p x ↔
          g.Edge p x := by
        split <;> exact Iff.rfl
      rw [unchanged, or_iff_left]
      rintro ⟨-, -, apart, -⟩
      exact apart same
    · rename_i apart
      have apart : a ≠ b := by simpa using apart
      rw [edge_iff, edge_iff]
      simp only [Adjacency.mem_get_add_iff, cons.edgeKeys]
      constructor
      · rintro (old | ⟨rfl, -, rfl⟩)
        · exact .inl old
        · exact .inr ⟨rfl, rfl, apart, held⟩
      · rintro (old | ⟨rfl, rfl, -, heldA, -⟩)
        · exact .inl old
        · exact .inr ⟨rfl, heldA, rfl⟩

/-- A reference of a table of the graph to itself is listed apart. -/
theorem mem_self_addEdge {a b x : String} :
    x ∈ (g.addEdge a b).self ↔ x ∈ g.self ∨ (x = a ∧ a = b ∧ a ∈ g.ids ∧ b ∈ g.ids) := by
  unfold addEdge
  split
  · rename_i missing
    have missing : a ∉ g.ids ∨ b ∉ g.ids := by simpa using missing
    refine (or_iff_left ?_).symm
    rintro ⟨-, -, heldA, heldB⟩
    exact missing.elim (absurd heldA) (absurd heldB)
  · rename_i held
    have held : a ∈ g.ids ∧ b ∈ g.ids := by simpa using held
    split
    · rename_i same
      have same : a = b := by simpa using same
      split
      · rename_i listed
        have listed : a ∈ g.self := by simpa using listed
        refine (or_iff_left_of_imp ?_).symm
        rintro ⟨rfl, -, -⟩
        exact listed
      · simp only [List.mem_append, List.mem_singleton]
        constructor
        · rintro (old | rfl)
          · exact .inl old
          · exact .inr ⟨rfl, same, held⟩
        · rintro (old | ⟨rfl, -, -⟩)
          · exact .inl old
          · exact .inr rfl
    · rename_i apart
      have apart : a ≠ b := by simpa using apart
      refine (or_iff_left ?_).symm
      rintro ⟨-, same, -⟩
      exact apart same

/-- The graph of the tables `ids` alone, added one after another. -/
def ofTables (ids : List String) : DependencyGraph := ids.foldl (fun g x => g.addTable x) {}

/-- Adding identifiers one after another: the tables are the old ones and the added ones, and
neither the edges nor the self references change. -/
theorem foldl_addTable : ∀ (xs : List String) (g : DependencyGraph),
    (∀ x, x ∈ (xs.foldl (fun g x => g.addTable x) g).ids ↔ x ∈ g.ids ∨ x ∈ xs) ∧
    (∀ q, (xs.foldl (fun g x => g.addTable x) g).edges.get q = g.edges.get q) ∧
    (xs.foldl (fun g x => g.addTable x) g).self = g.self
  | [], g => ⟨fun x => by simp, fun _ => rfl, rfl⟩
  | id :: rest, g => by
    obtain ⟨ids, edges, self⟩ := foldl_addTable rest (g.addTable id)
    rw [List.foldl_cons]
    refine ⟨fun x => ?_, fun q => (edges q).trans (get_edges_addTable id q), self.trans (self_addTable id)⟩
    rw [ids x, mem_ids_addTable, List.mem_cons, or_assoc]

theorem ids_foldl_addEdge : ∀ (pairs : List (String × String)) (g : DependencyGraph),
    (pairs.foldl (fun g e => g.addEdge e.1 e.2) g).ids = g.ids
  | [], _ => rfl
  | e :: rest, g => by
    rw [List.foldl_cons, ids_foldl_addEdge rest, ids_addEdge]

/-- References between tables of the graph add the edges of the pairs that join two different
tables. -/
theorem edge_foldl_addEdge : ∀ (pairs : List (String × String)) {g : DependencyGraph},
    Consistent g → (∀ e ∈ pairs, e.1 ∈ g.ids ∧ e.2 ∈ g.ids) → ∀ p x,
      (pairs.foldl (fun g e => g.addEdge e.1 e.2) g).Edge p x ↔ g.Edge p x ∨ ((p, x) ∈ pairs ∧ p ≠ x)
  | [], _, _, _, p, x => by simp
  | e :: rest, g, cons, inside, p, x => by
    have first := inside e (List.mem_cons_self)
    rw [List.foldl_cons, edge_foldl_addEdge rest (cons.addEdge e.1 e.2)
      (fun e' mem => by simpa using inside e' (.tail _ mem)), edge_addEdge_iff cons]
    constructor
    · rintro ((old | ⟨rfl, rfl, apart, -⟩) | ⟨later, apart⟩)
      · exact .inl old
      · exact .inr ⟨List.mem_cons_self, apart⟩
      · exact .inr ⟨.tail _ later, apart⟩
    · rintro (old | ⟨listed, apart⟩)
      · exact .inl (.inl old)
      · rcases List.mem_cons.mp listed with same | later
        · subst same
          exact .inl (.inr ⟨rfl, rfl, apart, first⟩)
        · exact .inr ⟨later, apart⟩

/-- References between tables of the graph list apart the tables of the pairs that join a table
to itself. -/
theorem mem_self_foldl_addEdge : ∀ (pairs : List (String × String)) {g : DependencyGraph},
    (∀ e ∈ pairs, e.1 ∈ g.ids ∧ e.2 ∈ g.ids) → ∀ x,
      x ∈ (pairs.foldl (fun g e => g.addEdge e.1 e.2) g).self ↔ x ∈ g.self ∨ (x, x) ∈ pairs
  | [], _, _, x => by simp
  | (a, b) :: rest, g, inside, x => by
    have first := inside (a, b) (List.mem_cons_self)
    rw [List.foldl_cons, mem_self_foldl_addEdge rest (fun e' mem => by simpa using inside e' (.tail _ mem)),
      mem_self_addEdge]
    constructor
    · rintro ((old | ⟨same, loop, -⟩) | later)
      · exact .inl old
      · dsimp only at same loop
        subst same loop
        exact .inr List.mem_cons_self
      · exact .inr (.tail _ later)
    · rintro (old | listed)
      · exact .inl (.inl old)
      · rcases List.mem_cons.mp listed with same | later
        · obtain ⟨rfl, rfl⟩ := Prod.mk.inj same
          exact .inl (.inr ⟨rfl, rfl, first⟩)
        · exact .inr later

end DependencyGraph

/-- The tables of a catalog with their identifiers, in catalog order. -/
def identified (c : Catalog) : List (String × Table) :=
  c.schemas.flatMap fun s => s.tables.map fun t => (s.name ++ "." ++ t.name, t)

/-- The identifier of every table of a catalog, in catalog order. -/
def tableIds (c : Catalog) : List String := (identified c).map (·.1)

/-- For each table in catalog order and each of its foreign keys whose referenced table the
catalog holds, the identifiers of the referenced table and of the table. -/
def refPairs (c : Catalog) : List (String × String) :=
  (identified c).flatMap fun e => e.2.foreignKeys.filterMap fun fk =>
    (fk.referencedTable.bind c.qualifiedTable).map (·, e.1)

/-- A table of identifier `child` has a foreign key whose referenced table the catalog holds
under the identifier `parent`. -/
def ReferencesIn (c : Catalog) (child parent : String) : Prop :=
  ∃ s ∈ c.schemas, ∃ t ∈ s.tables, s.name ++ "." ++ t.name = child ∧
    ∃ fk ∈ t.foreignKeys, ∃ h, fk.referencedTable = some h ∧ c.qualifiedTable h = some parent

section Catalog

variable {c : Catalog}

theorem mem_tableIds {x : String} :
    x ∈ tableIds c ↔ ∃ s ∈ c.schemas, ∃ t ∈ s.tables, s.name ++ "." ++ t.name = x := by
  simp only [tableIds, identified, List.map_flatMap, List.map_map, List.mem_flatMap, List.mem_map,
    Function.comp_def]

/-- The identifier of a table the catalog holds is one of its tables' identifiers. -/
theorem qualifiedTable_mem_tableIds {h : Nat} {p : String} (held : c.qualifiedTable h = some p) :
    p ∈ tableIds c := by
  unfold Catalog.qualifiedTable Catalog.locateTable at held
  obtain ⟨⟨s, t⟩, located, rfl⟩ := Option.map_eq_some_iff.mp held
  obtain ⟨s', inSchemas, found⟩ := List.exists_of_findSome?_eq_some located
  obtain ⟨t', inTables, same⟩ := Option.map_eq_some_iff.mp found
  obtain ⟨rfl, rfl⟩ := Prod.mk.inj same
  exact mem_tableIds.mpr ⟨s', inSchemas, t', List.mem_of_find?_eq_some inTables, rfl⟩

theorem mem_refPairs {p x : String} : (p, x) ∈ refPairs c ↔ ReferencesIn c x p := by
  simp only [refPairs, identified, ReferencesIn, List.flatMap_assoc, List.mem_flatMap, List.mem_map,
    List.mem_filterMap, Option.map_eq_some_iff, Option.bind_eq_some_iff, Prod.mk.injEq]
  constructor
  · rintro ⟨s, inSchemas, e, ⟨t, inTables, rfl⟩, fk, inKeys, parent, ⟨h, target, held⟩, rfl, rfl⟩
    exact ⟨s, inSchemas, t, inTables, rfl, fk, inKeys, h, target, held⟩
  · rintro ⟨s, inSchemas, t, inTables, rfl, fk, inKeys, h, target, held⟩
    exact ⟨s, inSchemas, _, ⟨t, inTables, rfl⟩, fk, inKeys, p, ⟨h, target, held⟩, rfl, rfl⟩

/-- `build` adds the tables by identifier, then the references of the foreign keys. -/
theorem build_eq (c : Catalog) :
    DependencyGraph.build c =
      (refPairs c).foldl (fun g e => g.addEdge e.1 e.2) (DependencyGraph.ofTables (tableIds c)) := by
  -- the tables are added by their identifiers
  show List.foldl _ (List.foldl (fun g (e : String × Table) => g.addTable e.1) ({} : DependencyGraph)
    (identified c)) (identified c) = _
  rw [← List.foldl_map (f := Prod.fst), ← tableIds, ← DependencyGraph.ofTables, refPairs]
  generalize DependencyGraph.ofTables (tableIds c) = g
  induction identified c generalizing g with
  | nil => rfl
  | cons e rest ih =>
    obtain ⟨id, t⟩ := e
    rw [List.foldl_cons, List.flatMap_cons, List.foldl_append, ← ih]
    congr 1
    -- the foreign keys of one table, each adding its reference when its target is held
    dsimp only
    induction t.foreignKeys generalizing g with
    | nil => rfl
    | cons fk fks ihKeys =>
      rw [List.foldl_cons, List.filterMap_cons]
      cases target : fk.referencedTable.bind c.qualifiedTable with
      | none => exact ihKeys g
      | some parent => exact ihKeys _

/-- The graph of a catalog has one table per identifier of the catalog's tables; an edge joins
two different identifiers exactly when a table of the second has a foreign key whose referenced
table the catalog holds under the first; the identifiers with such a reference to themselves are
listed apart, sorted and once each; and the edge count is the number of pairs an edge joins. -/
theorem build_graph (c : Catalog) :
    (DependencyGraph.build c).ids.Nodup ∧
    (∀ x, x ∈ (DependencyGraph.build c).ids ↔ x ∈ tableIds c) ∧
    (∀ p x, (DependencyGraph.build c).Edge p x ↔ p ≠ x ∧ ReferencesIn c x p) ∧
    (DependencyGraph.build c).selfReferencing.SortedLT ∧
    (∀ x, x ∈ (DependencyGraph.build c).selfReferencing ↔ ReferencesIn c x x) ∧
    (DependencyGraph.build c).edgeCount =
      Set.ncard {e : String × String | e.1 ≠ e.2 ∧ ReferencesIn c e.2 e.1} := by
  have cons := (DependencyGraph.build_built c).consistent
  obtain ⟨tables, noEdges, noSelf⟩ := DependencyGraph.foldl_addTable (tableIds c) {}
  have built₀ : (DependencyGraph.ofTables (tableIds c)).Built :=
    DependencyGraph.Built.foldl _ (fun _ x built => built.addTable x) _ .empty
  -- every reference joins two tables that are already in the graph
  have inside : ∀ e ∈ refPairs c, e.1 ∈ (DependencyGraph.ofTables (tableIds c)).ids ∧
      e.2 ∈ (DependencyGraph.ofTables (tableIds c)).ids := by
    rintro ⟨p, x⟩ mem
    obtain ⟨s, inSchemas, t, inTables, named, fk, -, h, -, held⟩ := mem_refPairs.mp mem
    rw [DependencyGraph.ofTables, tables, tables]
    exact ⟨.inr (qualifiedTable_mem_tableIds held), .inr (mem_tableIds.mpr ⟨s, inSchemas, t, inTables, named⟩)⟩
  have edges : ∀ p x, (DependencyGraph.build c).Edge p x ↔ p ≠ x ∧ ReferencesIn c x p := by
    intro p x
    rw [build_eq, DependencyGraph.edge_foldl_addEdge _ built₀.consistent inside, mem_refPairs]
    have none : ¬ (DependencyGraph.ofTables (tableIds c)).Edge p x := by
      rw [DependencyGraph.edge_iff, DependencyGraph.ofTables, noEdges]
      simp
    simp only [none, false_or]
    exact and_comm
  have self : ∀ x, x ∈ (DependencyGraph.build c).selfReferencing ↔ ReferencesIn c x x := by
    intro x
    rw [DependencyGraph.selfReferencing, mem_sortIds, build_eq, DependencyGraph.mem_self_foldl_addEdge _ inside,
      DependencyGraph.ofTables, noSelf, mem_refPairs]
    simp
  refine ⟨cons.nodup, fun x => ?_, edges, sortIds_sortedLT cons.selfNodup, self, ?_⟩
  · rw [build_eq, DependencyGraph.ids_foldl_addEdge, DependencyGraph.ofTables, tables]
    simp
  · rw [cons.edgeCount_eq_ncard]
    congr 1
    ext e
    exact edges e.1 e.2

/-- Schema `a.b` with a table `c`, and schema `a` with a table `b.c` whose foreign key references
the first: two tables of the one identifier `a.b.c`. -/
def sharedIdentifier : Catalog :=
  let key : ForeignKey := { id := 5, name := "fk", referencedTable := some 3 }
  let first : Table := { id := 3, name := "c" }
  let second : Table := { id := 4, name := "b.c", foreignKeys := [key] }
  { schemas := [{ id := 1, name := "a.b", tables := [first] }, { id := 2, name := "a", tables := [second] }] }

/-- The two tables make one table of the graph, and the key of the second to the first counts
as a reference of that table to itself, with no edge. -/
theorem shared_identifier_merges_tables :
    (sharedIdentifier.schemas.flatMap (·.tables)).length = 2 ∧
      (DependencyGraph.build sharedIdentifier).size = 1 ∧
      (DependencyGraph.build sharedIdentifier).edgeCount = 0 ∧
      (DependencyGraph.build sharedIdentifier).selfReferencing = ["a.b.c"] := by
  cbv

end Catalog

end DdlCatalog.Graph
