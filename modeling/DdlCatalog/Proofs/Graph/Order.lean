import DdlCatalog.Proofs.Graph.Cycles
import DdlCatalog.Proofs.Graph.Maps
/-!
The creation order of a graph without cycles.

`creationOrder` visits the tables in sorted order; a visit of a table not placed yet visits the
tables it references, one after another, and then places the table. `Placed` is what the list
built so far keeps: distinct tables of the graph, each after every table it references. Each
visit extends a placed list to a placed list that holds the visited table (`place_extends`).

The fuel: the visits in progress form a chain in which each table references the next
(`Chain`). Without cycles the tables of such a chain are distinct, so a chain is never longer
than the graph, and the fuel of one more than the number of tables never runs out.

Main statement: for a built graph with no cycle, the creation order succeeds and lists every
table exactly once, each after every table it references.
-/

namespace DdlCatalog.Graph

namespace DependencyGraph

open Relation

variable {g : DependencyGraph}

/-- A list of distinct tables of the graph, each after every table it references. -/
structure Placed (g : DependencyGraph) (order : List String) : Prop where
  distinct : order.Nodup
  nodes : ∀ x ∈ order, x ∈ g.ids
  after : ∀ c ∈ order, ∀ p ∈ g.references c, [p, c].Sublist order

theorem Placed.nil : Placed g [] where
  distinct := List.nodup_nil
  nodes _ mem := absurd mem List.not_mem_nil
  after _ mem := absurd mem List.not_mem_nil

/-- A table whose references are all placed can be placed after them. -/
theorem Placed.snoc {order : List String} {id : String} (placed : Placed g order) (node : id ∈ g.ids)
    (fresh : id ∉ order) (refs : ∀ p ∈ g.references id, p ∈ order) : Placed g (order ++ [id]) where
  distinct := placed.distinct.append (List.nodup_singleton id) fun x mem same => by
    rw [List.mem_singleton.mp same] at mem
    exact fresh mem
  nodes x mem := by
    rcases List.mem_append.mp mem with old | new
    · exact placed.nodes x old
    · exact List.mem_singleton.mp new ▸ node
  after c mem p ref := by
    rcases List.mem_append.mp mem with old | new
    · exact (placed.after c old p ref).trans (List.sublist_append_left order [id])
    · obtain rfl := List.mem_singleton.mp new
      exact (List.singleton_sublist.mpr (refs p ref)).append (List.Sublist.refl [c])

/-- `order'` extends the placed list `order` by visits of `targets`: it is placed, keeps every
table of `order` and holds every table of `targets`. -/
structure Extends (g : DependencyGraph) (order targets order' : List String) : Prop where
  placed : Placed g order'
  keeps : order ⊆ order'
  holds : targets ⊆ order'

theorem Extends.refl {order : List String} (placed : Placed g order) : Extends g order [] order :=
  ⟨placed, List.Subset.refl _, List.nil_subset _⟩

theorem Extends.single {order order' : List String} {x : String} (placed : Placed g order')
    (keeps : order ⊆ order') (holds : x ∈ order') : Extends g order [x] order' :=
  ⟨placed, keeps, List.cons_subset.mpr ⟨holds, List.nil_subset _⟩⟩

theorem Extends.cons {order order₁ order₂ targets : List String} {x : String}
    (first : Extends g order [x] order₁) (rest : Extends g order₁ targets order₂) :
    Extends g order (x :: targets) order₂ where
  placed := rest.placed
  keeps := List.Subset.trans first.keeps rest.keeps
  holds := List.cons_subset.mpr ⟨rest.keeps (first.holds (List.mem_singleton_self x)), rest.holds⟩

/-- Visiting the tables of a list one after another extends a placed list by all of them. -/
theorem foldl_extends {step : List String → String → List String} :
    ∀ {targets : List String} {order : List String},
      (∀ x ∈ targets, ∀ o, Placed g o → Extends g o [x] (step o x)) → Placed g order →
      Extends g order targets (targets.foldl step order)
  | [], _, _, placed => Extends.refl placed
  | x :: rest, order, visits, placed => by
    have first := visits x (List.mem_cons_self) order placed
    rw [List.foldl_cons]
    exact first.cons (foldl_extends (fun y mem => visits y (.tail _ mem)) first.placed)

/-- What a visit of `id` with `fuel` needs: the visits in progress, `above`, are distinct
tables of the graph that each reach `id` by references, and the fuel covers every table not
among them. -/
structure Chain (g : DependencyGraph) (fuel : Nat) (id : String) (above : List String) : Prop where
  node : id ∈ g.ids
  nodes : ∀ x ∈ above, x ∈ g.ids
  reaches : ∀ x ∈ above, TransGen g.Edge id x
  distinct : (id :: above).Nodup
  budget : g.ids.length ≤ fuel + above.length

theorem Chain.top {fuel : Nat} {id : String} (node : id ∈ g.ids) (budget : g.ids.length < fuel) :
    Chain g fuel id [] where
  node := node
  nodes _ mem := absurd mem List.not_mem_nil
  reaches _ mem := absurd mem List.not_mem_nil
  distinct := List.nodup_singleton id
  budget := by simpa using budget.le

theorem Chain.fuel_pos {fuel : Nat} {id : String} {above : List String} (chain : Chain g fuel id above) :
    0 < fuel := by
  have fits := chain.distinct.length_le_of_subset (List.cons_subset.mpr ⟨chain.node, chain.nodes⟩)
  have budget := chain.budget
  simp only [List.length_cons] at fits
  omega

/-- A table `id` references can be visited from the visit of `id`: a cycle would be needed to
bring it back into the chain. -/
theorem Chain.child {fuel : Nat} {id p : String} {above : List String} (wf : WellFormed g)
    (acyclic : ∀ v, ¬ TransGen g.Edge v v) (chain : Chain g (fuel + 1) id above) (edge : g.Edge p id) :
    Chain g fuel p (id :: above) where
  node := wf.source edge
  nodes := List.forall_mem_cons.mpr ⟨chain.node, chain.nodes⟩
  reaches := List.forall_mem_cons.mpr ⟨.single edge, fun x mem => .head edge (chain.reaches x mem)⟩
  distinct := by
    refine List.nodup_cons.mpr ⟨fun mem => ?_, chain.distinct⟩
    rcases List.mem_cons.mp mem with rfl | inAbove
    · exact acyclic p (.single edge)
    · exact acyclic p (.head edge (chain.reaches p inAbove))
  budget := by
    have budget := chain.budget
    simp only [List.length_cons]
    omega

/-- A visit of `id` extends a placed list to one that holds `id`. -/
theorem place_extends (cons : Consistent g) (wf : WellFormed g) (acyclic : ∀ v, ¬ TransGen g.Edge v v) :
    ∀ (fuel : Nat) (id : String) (above order : List String), Chain g fuel id above → Placed g order →
      Extends g order [id] (creationOrder.place g fuel id order)
  | 0, _, _, _, chain, _ => absurd chain.fuel_pos (Nat.lt_irrefl 0)
  | fuel + 1, id, above, order, chain, placed => by
    rw [creationOrder.place.eq_2]
    by_cases done : id ∈ order
    · rw [if_pos (List.contains_iff_mem.mpr done)]
      exact .single placed (List.Subset.refl _) done
    · rw [if_neg (by simpa using done)]
      -- the references are visited first, each with the chain grown by `id`
      have refs : Extends g order (g.references id)
          ((g.references id).foldl (fun o p => creationOrder.place g fuel p o) order) :=
        foldl_extends (fun p ref o placedO => place_extends cons wf acyclic fuel p (id :: above) o
          (chain.child wf acyclic (cons.mem_references_iff.mp ref)) placedO) placed
      dsimp only
      split
      · rename_i already
        exact .single refs.placed refs.keeps (List.contains_iff_mem.mp already)
      · rename_i absent
        exact .single (refs.placed.snoc chain.node (by simpa using absent) refs.holds)
          (List.Subset.trans refs.keeps (List.subset_append_left _ _))
          (List.mem_append_right _ (List.mem_singleton_self id))

/-- The visits of every table, in sorted order, place all of them. -/
theorem creationOrder_extends (cons : Consistent g) (wf : WellFormed g)
    (acyclic : ∀ v, ¬ TransGen g.Edge v v) :
    Extends g [] g.sortedIds
      (g.sortedIds.foldl (fun o id => creationOrder.place g (g.ids.length + 1) id o) []) := by
  refine foldl_extends (fun id mem o placed => ?_) Placed.nil
  have node : id ∈ g.ids := by simpa [sortedIds] using mem
  exact place_extends cons wf acyclic _ id [] o (Chain.top node (Nat.lt_succ_self _)) placed

/-- For a built graph with no cycle, the creation order succeeds with a placed list that holds
every table. -/
theorem creationOrder_placed (built : Built g) (acyclic : ∀ v, ¬ TransGen g.Edge v v) :
    ∃ order, g.creationOrder = .ok order ∧ Placed g order ∧ ∀ x ∈ g.ids, x ∈ order := by
  have extended := creationOrder_extends built.consistent built.wellFormed acyclic
  have quiet : g.cycle = none := (cycle_eq_none_iff built.wellFormed).mpr acyclic
  refine ⟨_, by rw [creationOrder, quiet], extended.placed, fun x node => ?_⟩
  exact extended.holds (by simpa [sortedIds] using node)

/-- For a built graph with no cycle of references, the creation order succeeds, and lists every
table exactly once, each after every table it references. -/
theorem creationOrder_topological (built : Built g) (acyclic : ∀ v, ¬ TransGen g.Edge v v) :
    ∃ order, g.creationOrder = .ok order ∧ order.Nodup ∧ (∀ x, x ∈ order ↔ x ∈ g.ids) ∧
      ∀ c p, p ∈ g.references c → [p, c].Sublist order := by
  obtain ⟨order, ok, placed, complete⟩ := creationOrder_placed built acyclic
  refine ⟨order, ok, placed.distinct, fun x => ⟨placed.nodes x, complete x⟩, fun c p ref => ?_⟩
  -- a table that references another is a table of the graph, so it is placed
  have node : c ∈ g.ids := built.wellFormed.target (built.consistent.mem_references_iff.mp ref)
  exact placed.after c (complete c node) p ref

/-- Three tables: `d.b` references `d.a`, and `d.c` references both, so `d.c` reaches `d.a`
along paths of two lengths. -/
def tableDiamond : DependencyGraph :=
  ((((({} : DependencyGraph).addTable "d.a").addTable "d.b").addTable "d.c").addEdge "d.a" "d.b"
    |>.addEdge "d.a" "d.c").addEdge "d.b" "d.c"

theorem tableDiamond_built : Built tableDiamond :=
  .addEdge _ _ (.addEdge _ _ (.addEdge _ _ (.addTable _ (.addTable _ (.addTable _ .empty)))))

theorem tableDiamond_acyclic : ∀ v, ¬ TransGen tableDiamond.Edge v v :=
  (cycle_eq_none_iff tableDiamond_built.wellFormed).mp (by cbv)

theorem tableDiamond_creation_order :
    Built tableDiamond ∧ (∀ v, ¬ TransGen tableDiamond.Edge v v) ∧
      ∃ order, tableDiamond.creationOrder = .ok order ∧ order.Nodup ∧
        (∀ x, x ∈ order ↔ x ∈ tableDiamond.ids) ∧
        ∀ c p, p ∈ tableDiamond.references c → [p, c].Sublist order :=
  ⟨tableDiamond_built, tableDiamond_acyclic,
    creationOrder_topological tableDiamond_built tableDiamond_acyclic⟩

example : tableDiamond.creationOrder = .ok ["d.a", "d.b", "d.c"] := by cbv

end DependencyGraph

end DdlCatalog.Graph
