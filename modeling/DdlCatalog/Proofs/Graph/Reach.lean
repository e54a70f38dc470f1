import DdlCatalog.Proofs.Graph.Cycles
import DdlCatalog.Proofs.Graph.Maps
/-!
What a table reaches.

`reach g next id` walks the map `next` from `id` with a stack of tables still to expand and a
list of tables seen, which never takes in `id` itself. A table is pushed when it is first seen,
and `Walk` is what every step keeps: the seen tables are distinct and reached from `id` by a
non-empty path, every table on the stack is `id` or seen, and a table that is `id` or seen and
off the stack has all its successors among `id` and the seen tables. When the stack runs empty,
the seen tables are so exactly the tables other than `id` reached by a non-empty path.

When no list of `next` repeats an entry, a step pops one table and pushes exactly the tables it
sees for the first time: the stack and the tables not yet seen shrink together, so the walk
takes at most one step per table and its fuel never runs out.

For a built graph, `dependents` and `dependencies` are therefore the tables reached along
`referencedBy` and along `references`, and since these two are converse, a table is a dependent
of another exactly when the other is a dependency of it.
-/

namespace DdlCatalog.Graph

open Relation

/-- `b` is in the list of `a`. -/
def Adjacency.Links (next : Adjacency) (a b : String) : Prop := b ∈ next.get a

namespace DependencyGraph

/-- Adds the entries of `fresh` that are not there yet, one by one, as `reach` does. -/
theorem foldl_add_fresh : ∀ {seen fresh : List String}, (∀ x ∈ fresh, x ∉ seen) → fresh.Nodup →
    fresh.foldl (fun s n => if s.contains n then s else s ++ [n]) seen = seen ++ fresh
  | seen, [], _, _ => by simp
  | seen, n :: rest, apart, distinct => by
    have absent : (seen.contains n) = false := by simpa using apart n (by simp)
    have restApart : ∀ x ∈ rest, x ∉ seen ++ [n] := by
      intro x mem
      simp only [List.mem_append, List.mem_singleton, not_or]
      exact ⟨apart x (.tail _ mem), fun same => (List.nodup_cons.mp distinct).1 (same ▸ mem)⟩
    rw [List.foldl_cons, absent, if_neg Bool.false_ne_true,
      foldl_add_fresh restApart (List.nodup_cons.mp distinct).2]
    simp

section Walk

variable {next : Adjacency} {id : String}

/-- The invariant of the walk from `id` along `next`. -/
structure Walk (next : Adjacency) (id : String) (stack seen : List String) : Prop where
  distinct : seen.Nodup
  apart : id ∉ seen
  reached : ∀ x ∈ seen, TransGen next.Links id x
  stacked : ∀ x ∈ stack, x = id ∨ x ∈ seen
  expanded : ∀ u, (u = id ∨ u ∈ seen) → u ∉ stack → ∀ v, next.Links u v → v = id ∨ v ∈ seen

theorem Walk.start : Walk next id [id] [] where
  distinct := List.nodup_nil
  apart := List.not_mem_nil
  reached _ mem := absurd mem List.not_mem_nil
  stacked _ mem := .inl (List.mem_singleton.mp mem)
  expanded u named off := by
    rcases named with rfl | mem
    · exact absurd (List.mem_singleton_self u) off
    · exact absurd mem List.not_mem_nil

/-- Popping `cur` and pushing the tables of its list that are neither seen nor `id` keeps the
invariant. -/
theorem Walk.push {cur : String} {stack seen fresh : List String} (walk : Walk next id (cur :: stack) seen)
    (mem : ∀ n, n ∈ fresh ↔ n ∈ next.get cur ∧ n ∉ seen ∧ n ≠ id) (distinct : fresh.Nodup) :
    Walk next id (fresh ++ stack) (seen ++ fresh) where
  distinct := walk.distinct.append distinct fun x inSeen inFresh => ((mem x).mp inFresh).2.1 inSeen
  apart := by
    rw [List.mem_append, not_or]
    exact ⟨walk.apart, fun inFresh => ((mem id).mp inFresh).2.2 rfl⟩
  reached x inAll := by
    rcases List.mem_append.mp inAll with old | new
    · exact walk.reached x old
    · have link : next.Links cur x := ((mem x).mp new).1
      rcases walk.stacked cur (List.mem_cons_self) with rfl | seenCur
      · exact .single link
      · exact (walk.reached cur seenCur).tail link
  stacked x inStack := by
    rcases List.mem_append.mp inStack with new | old
    · exact .inr (List.mem_append_right _ new)
    · exact (walk.stacked x (.tail _ old)).imp_right (List.mem_append_left _)
  expanded u named off v link := by
    have offFresh : u ∉ fresh := fun inFresh => off (List.mem_append_left _ inFresh)
    have offStack : u ∉ stack := fun inStack => off (List.mem_append_right _ inStack)
    have before : u = id ∨ u ∈ seen := by
      rcases named with same | inAll
      · exact .inl same
      · exact .inr ((List.mem_append.mp inAll).resolve_right offFresh)
    by_cases popped : u = cur
    · -- the popped table: each entry of its list was seen, is `id`, or is pushed now
      subst popped
      by_cases seenV : v ∈ seen
      · exact .inr (List.mem_append_left _ seenV)
      · by_cases isId : v = id
        · exact .inl isId
        · exact .inr (List.mem_append_right _ ((mem v).mpr ⟨link, seenV, isId⟩))
    · have offOld : u ∉ cur :: stack := by
        rw [List.mem_cons, not_or]
        exact ⟨popped, offStack⟩
      exact (walk.expanded u before offOld v link).imp_right (List.mem_append_left _)

/-- The seen tables are reached by a step of `next`, so they lie among any tables that hold all
of its entries. -/
theorem Walk.seen_within {stack seen nodes : List String} (walk : Walk next id stack seen)
    (within : ∀ a b, next.Links a b → b ∈ nodes) : seen ⊆ nodes := by
  intro x mem
  obtain ⟨y, _, link⟩ := TransGen.tail'_iff.mp (walk.reached x mem)
  exact within y x link

/-- The walk from any state that keeps the invariant, with fuel for each table on the stack
and each table not yet seen, ends with the stack empty. -/
theorem go_walk {nodes : List String} (within : ∀ a b, next.Links a b → b ∈ nodes)
    (nodup : ∀ a, (next.get a).Nodup) :
    ∀ (fuel : Nat) (stack seen : List String), Walk next id stack seen →
      stack.length + nodes.length ≤ fuel + seen.length →
      Walk next id [] (DependencyGraph.reach.go next id fuel stack seen)
  | 0, stack, seen, walk, budget => by
    -- with no fuel left the budget leaves no room for a table on the stack
    have fits : seen.length ≤ nodes.length := walk.distinct.length_le_of_subset (walk.seen_within within)
    have empty : stack = [] := List.eq_nil_of_length_eq_zero (by omega)
    subst empty
    rw [reach.go.eq_1]
    exact walk
  | _ + 1, [], seen, walk, _ => by
    rw [reach.go.eq_2]
    exact walk
  | fuel + 1, cur :: stack, seen, walk, budget => by
    have mem : ∀ n, n ∈ (next.get cur).filter (fun n => !seen.contains n && n != id) ↔
        n ∈ next.get cur ∧ n ∉ seen ∧ n ≠ id := by
      intro n
      simp
    have distinct := (nodup cur).filter (fun n => !seen.contains n && n != id)
    rw [reach.go.eq_3, foldl_add_fresh (fun x inFresh => ((mem x).mp inFresh).2.1) distinct]
    refine go_walk within nodup fuel _ _ (walk.push mem distinct) ?_
    simp only [List.length_append, List.length_cons] at budget ⊢
    omega

/-- With the stack empty, the seen tables are the tables other than `id` reached by a
non-empty path. -/
theorem Walk.mem_iff {seen : List String} (walk : Walk next id [] seen) {x : String} :
    x ∈ seen ↔ x ≠ id ∧ TransGen next.Links id x := by
  constructor
  · intro mem
    exact ⟨fun same => walk.apart (same ▸ mem), walk.reached x mem⟩
  · rintro ⟨other, path⟩
    -- every table on a path from `id` is `id` or seen, since nothing is left to expand
    have closed : ∀ y, TransGen next.Links id y → y = id ∨ y ∈ seen := by
      intro y path
      induction path with
      | single link => exact walk.expanded id (.inl rfl) List.not_mem_nil _ link
      | tail _ link ih => exact walk.expanded _ ih List.not_mem_nil _ link
    exact (closed x path).resolve_left other

end Walk

/-- When no list of `next` repeats an entry and its entries are tables of the graph, the walk
from `id` lists, sorted and without repeats, exactly the tables other than `id` reached by a
non-empty path along `next`. -/
theorem reach_spec (g : DependencyGraph) {next : Adjacency}
    (within : ∀ a b, next.Links a b → b ∈ g.ids) (nodup : ∀ a, (next.get a).Nodup) (id : String) :
    (g.reach next id).SortedLT ∧ ∀ x, x ∈ g.reach next id ↔ x ≠ id ∧ TransGen next.Links id x := by
  have budget : [id].length + g.ids.length ≤ (g.ids.length + 1) * (g.ids.length + 1) + ([] : List String).length := by
    simp [Nat.add_comm]
  have walk := go_walk within nodup _ [id] [] Walk.start budget
  exact ⟨sortIds_sortedLT walk.distinct, fun x => mem_sortIds.trans walk.mem_iff⟩

section Built

variable {g : DependencyGraph}

theorem links_edges : g.edges.Links = g.Edge := by
  funext p c
  exact propext edge_iff.symm

theorem links_parents : g.parents.Links = fun c p => p ∈ g.references c := by
  funext c p
  exact propext mem_sortIds.symm

theorem WellFormed.edges_within (wf : WellFormed g) : ∀ a b, g.edges.Links a b → b ∈ g.ids := by
  intro p c link
  exact wf.target (edge_iff.mpr link)

theorem Consistent.parents_within (cons : Consistent g) (wf : WellFormed g) :
    ∀ a b, g.parents.Links a b → b ∈ g.ids := by
  intro c p link
  exact wf.source (edge_iff.mpr ((cons.converse p c).mpr link))

/-- The dependents of a table are the tables other than it reached along `referencedBy`. -/
theorem dependents_spec (built : Built g) (id : String) :
    (g.dependents id).SortedLT ∧ ∀ x, x ∈ g.dependents id ↔ x ≠ id ∧ TransGen g.Edge id x := by
  have spec := reach_spec g built.wellFormed.edges_within built.consistent.edgesNodup id
  rw [links_edges] at spec
  exact spec

/-- The dependencies of a table are the tables other than it reached along `references`. -/
theorem dependencies_spec (built : Built g) (id : String) :
    (g.dependencies id).SortedLT ∧
      ∀ x, x ∈ g.dependencies id ↔ x ≠ id ∧ TransGen (fun a b => b ∈ g.references a) id x := by
  have spec := reach_spec g (built.consistent.parents_within built.wellFormed)
    built.consistent.parentsNodup id
  rw [links_parents] at spec
  exact spec

/-- For a built graph, with or without cycles, and every table: its dependents are, sorted and
without repeats, the tables other than it reached by a non-empty path along `referencedBy`, and
its dependencies the same along `references`; a table is a dependent of another exactly when the
other is a dependency of it; and `references` and `referencedBy` are converse. -/
theorem dependents_dependencies_reach (built : Built g) :
    (∀ id, (g.dependents id).SortedLT ∧
      ∀ x, x ∈ g.dependents id ↔ x ≠ id ∧ TransGen (fun a b => b ∈ g.referencedBy a) id x) ∧
    (∀ id, (g.dependencies id).SortedLT ∧
      ∀ x, x ∈ g.dependencies id ↔ x ≠ id ∧ TransGen (fun a b => b ∈ g.references a) id x) ∧
    (∀ x y, x ≠ y → (x ∈ g.dependents y ↔ y ∈ g.dependencies x)) ∧
    (∀ x y, x ∈ g.references y ↔ y ∈ g.referencedBy x) := by
  have cons := built.consistent
  -- `references` is `referencedBy` read backwards, so a path along one is a path along the other
  have backwards : (fun a b => b ∈ g.references a) = Function.swap g.Edge := by
    funext a b
    exact propext cons.mem_references_iff
  refine ⟨dependents_spec built, dependencies_spec built, ?_, fun x y => cons.mem_references_iff⟩
  intro x y apart
  rw [(dependents_spec built y).2, (dependencies_spec built x).2, backwards, transGen_swap]
  exact and_congr_left fun _ => ⟨Ne.symm, Ne.symm⟩

theorem tableRing_built : Built tableRing :=
  .addEdge _ _ (.addEdge _ _ (.addEdge _ _ (.addTable _ (.addTable _ (.addTable _ .empty)))))

theorem tableRing_reach :
    Built tableRing ∧
    (∀ id, (tableRing.dependents id).SortedLT ∧
      ∀ x, x ∈ tableRing.dependents id ↔ x ≠ id ∧ TransGen (fun a b => b ∈ tableRing.referencedBy a) id x) ∧
    (∀ id, (tableRing.dependencies id).SortedLT ∧
      ∀ x, x ∈ tableRing.dependencies id ↔ x ≠ id ∧ TransGen (fun a b => b ∈ tableRing.references a) id x) ∧
    (∀ x y, x ≠ y → (x ∈ tableRing.dependents y ↔ y ∈ tableRing.dependencies x)) ∧
    (∀ x y, x ∈ tableRing.references y ↔ y ∈ tableRing.referencedBy x) :=
  ⟨tableRing_built, dependents_dependencies_reach tableRing_built⟩

example : tableRing.dependents "d.a" = ["d.b", "d.c"] := by cbv

end Built

end DependencyGraph

end DdlCatalog.Graph
