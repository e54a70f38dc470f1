import DdlCatalog.Graph.Dependencies
/-!
The graphs that adding tables and references builds, and the edge relation they carry.

`Built` is the inductive closure of the empty graph under `addTable` and `addEdge`; the graph
of every catalog is one. `Edge p c` says that `c` references `p` directly, as `referencedBy`
lists it. Every built graph is `WellFormed`: an edge joins two different tables of the graph,
since `addEdge` ignores tables it does not hold and records a reference of a table to itself
apart from the edges.
-/

namespace DdlCatalog.Graph

open DdlCatalog.Catalog

namespace Adjacency

@[simp] theorem get_nil (id : String) : Adjacency.get [] id = [] := rfl

theorem get_cons (k : String) (vs : List String) (rest : Adjacency) (q : String) :
    get ((k, vs) :: rest) q = if q = k then vs else rest.get q := by
  by_cases hq : q = k
  · simp [get, hq]
  · have differ : (q == k) = false := by simpa using hq
    simp [get, List.lookup_cons, differ, hq]

theorem add_cons (k' : String) (vs : List String) (rest : Adjacency) (k v : String) :
    add ((k', vs) :: rest) k v = (k', if k' = k ∧ v ∉ vs then vs ++ [v] else vs) :: rest.add k v := by
  simp only [add, List.map_cons, List.cons.injEq, and_true]
  by_cases grown : k' = k ∧ v ∉ vs
  · rw [if_pos grown, if_pos (by simpa using grown)]
  · rw [if_neg grown, if_neg (by simpa using grown)]

/-- A key appended with the empty list changes no list the map gives. -/
theorem get_append_empty (a : Adjacency) (k q : String) : (a ++ [(k, [])]).get q = a.get q := by
  simp only [get, List.lookup_append]
  cases a.lookup q with
  | some vs => rfl
  | none => simp only [Option.none_or, List.lookup_cons]; split <;> rfl

/-- Adding `v` under `k` adds at most `v`, and only to the list of `k`. -/
theorem mem_get_add {a : Adjacency} {k v q x : String} (mem : x ∈ (a.add k v).get q) :
    x ∈ a.get q ∨ (q = k ∧ x = v) := by
  induction a with
  | nil => simp [add] at mem
  | cons e rest ih =>
    obtain ⟨k', vs⟩ := e
    rw [add_cons, get_cons] at mem
    rw [get_cons]
    split at mem
    · rename_i hq
      rw [if_pos hq]
      split at mem
      · rename_i grown
        rcases List.mem_append.mp mem with old | added
        · exact .inl old
        · exact .inr ⟨hq.trans grown.1, List.mem_singleton.mp added⟩
      · exact .inl mem
    · rename_i hq
      rw [if_neg hq]
      exact ih mem

end Adjacency

@[simp] theorem mem_sortIds {ids : List String} {x : String} : x ∈ sortIds ids ↔ x ∈ ids := by
  simp [sortIds]

namespace DependencyGraph

/-- The edge `p → c`: `c` references `p` directly. -/
def Edge (g : DependencyGraph) (p c : String) : Prop := c ∈ g.referencedBy p

theorem edge_iff {g : DependencyGraph} {p c : String} : g.Edge p c ↔ c ∈ g.edges.get p :=
  mem_sortIds

/-- The graphs built from the empty graph by adding tables and references. -/
inductive Built : DependencyGraph → Prop
  | empty : Built {}
  | addTable {g : DependencyGraph} (id : String) : Built g → Built (g.addTable id)
  | addEdge {g : DependencyGraph} (parent child : String) : Built g → Built (g.addEdge parent child)

theorem Built.foldl {α : Type} (step : DependencyGraph → α → DependencyGraph)
    (keeps : ∀ g x, Built g → Built (step g x)) :
    ∀ (xs : List α) {g : DependencyGraph}, Built g → Built (xs.foldl step g)
  | [], _, built => built
  | x :: xs, g, built => Built.foldl step keeps xs (keeps g x built)

/-- The graph of a catalog is built by adding its tables, then one reference per foreign key
whose target resolves. -/
theorem build_built (c : Catalog) : Built (build c) := by
  unfold build
  refine Built.foldl _ ?_ _ (Built.foldl _ (fun g _ built => built.addTable _) _ .empty)
  intro g table built
  refine Built.foldl _ ?_ _ built
  intro g fk built
  split
  · exact built.addEdge _ _
  · exact built

/-- Every edge joins two different tables of the graph. -/
structure WellFormed (g : DependencyGraph) : Prop where
  source : ∀ {p c}, g.Edge p c → p ∈ g.ids
  target : ∀ {p c}, g.Edge p c → c ∈ g.ids
  irrefl : ∀ p, ¬ g.Edge p p

theorem WellFormed.empty : WellFormed {} where
  source edge := by simp [edge_iff] at edge
  target edge := by simp [edge_iff] at edge
  irrefl p edge := by simp [edge_iff] at edge

/-- A graph with no fewer tables whose edges are old ones or join two different old tables is
well formed. -/
theorem WellFormed.of_edges {g g' : DependencyGraph} (wf : WellFormed g) (tables : g.ids ⊆ g'.ids)
    (edges : ∀ {p c}, g'.Edge p c → g.Edge p c ∨ (p ∈ g.ids ∧ c ∈ g.ids ∧ p ≠ c)) :
    WellFormed g' where
  source e := tables <| (edges e).elim wf.source (·.1)
  target e := tables <| (edges e).elim wf.target (·.2.1)
  irrefl p e := (edges e).elim (wf.irrefl p) (·.2.2 rfl)

theorem WellFormed.addTable {g : DependencyGraph} (wf : WellFormed g) (id : String) :
    WellFormed (g.addTable id) := by
  unfold DependencyGraph.addTable
  split
  · exact wf
  · -- the new table comes with no edge
    refine wf.of_edges (List.subset_append_left _ _) fun e => .inl ?_
    simpa [edge_iff, Adjacency.get_append_empty] using e

theorem WellFormed.addEdge {g : DependencyGraph} (wf : WellFormed g) (parent child : String) :
    WellFormed (g.addEdge parent child) := by
  unfold DependencyGraph.addEdge
  split
  · exact wf
  · rename_i held
    have held : parent ∈ g.ids ∧ child ∈ g.ids := by simpa using held
    split
    · -- a reference to itself is kept apart from the edges
      split
      · exact wf
      · exact wf.of_edges (fun _ mem => mem) .inl
    · rename_i apart
      refine wf.of_edges (fun _ mem => mem) fun e => ?_
      rcases Adjacency.mem_get_add (edge_iff.mp e) with old | ⟨rfl, rfl⟩
      · exact .inl (edge_iff.mpr old)
      · exact .inr ⟨held.1, held.2, by simpa using apart⟩

theorem Built.wellFormed {g : DependencyGraph} (built : Built g) : WellFormed g := by
  induction built with
  | empty => exact .empty
  | addTable id _ wf => exact wf.addTable id
  | addEdge parent child _ wf => exact wf.addEdge parent child

end DependencyGraph

end DdlCatalog.Graph
