import Mathlib
import DdlCatalog.Proofs.Graph.Built
/-!
The two adjacency maps of a built graph.

A graph keeps each reference twice: `edges` maps a referenced table to the tables that
reference it, `parents` the other way. Adding a table gives both maps a key with an empty list;
adding a reference appends to one list of each, unless the entry is there. `Consistent` is what
this keeps: the tables are distinct, both maps are keyed by exactly the tables, no list repeats
an entry, and the two maps are converse. So `references` and `referencedBy` are converse
relations, and `edgeCount` is the number of distinct pairs of tables an edge joins.
-/

namespace DdlCatalog.Graph

namespace Adjacency

/-- The keys of a map, in order. -/
def keys (a : Adjacency) : List String := a.map (·.1)

@[simp] theorem keys_nil : keys [] = [] := rfl

@[simp] theorem keys_cons (k : String) (vs : List String) (rest : Adjacency) :
    keys ((k, vs) :: rest) = k :: rest.keys := rfl

@[simp] theorem keys_append_empty (a : Adjacency) (k : String) : (a ++ [(k, [])]).keys = a.keys ++ [k] := by
  simp [keys]

@[simp] theorem keys_add (a : Adjacency) (k v : String) : (a.add k v).keys = a.keys := by
  induction a with
  | nil => rfl
  | cons e rest ih =>
    obtain ⟨k', vs⟩ := e
    rw [add_cons, keys_cons, keys_cons, ih]

/-- A table that is no key maps to nothing. -/
theorem get_of_not_mem_keys {a : Adjacency} {q : String} (absent : q ∉ a.keys) : a.get q = [] := by
  induction a with
  | nil => rfl
  | cons e rest ih =>
    obtain ⟨k, vs⟩ := e
    have other : q ≠ k := fun same => absent (by simp [same])
    rw [get_cons, if_neg other]
    exact ih fun mem => absent (by simp [mem])

/-- Adding `v` under `k` appends it to the list of `k` when `k` is a key and `v` is not in the
list yet, and changes nothing else. -/
theorem get_add (a : Adjacency) (k v q : String) :
    (a.add k v).get q = if q = k ∧ q ∈ a.keys ∧ v ∉ a.get q then a.get q ++ [v] else a.get q := by
  induction a with
  | nil => simp [add]
  | cons e rest ih =>
    obtain ⟨k', vs⟩ := e
    rw [add_cons, get_cons, get_cons]
    by_cases here : q = k'
    · subst here
      by_cases same : q = k <;> simp [same]
    · have key : q ∈ keys ((k', vs) :: rest) ↔ q ∈ keys rest := by simp [here]
      rw [if_neg here, if_neg here, ih]
      simp only [key]

theorem mem_get_add_iff {a : Adjacency} {k v q x : String} :
    x ∈ (a.add k v).get q ↔ x ∈ a.get q ∨ (q = k ∧ q ∈ a.keys ∧ x = v) := by
  rw [get_add]
  split
  · rename_i grown
    simp only [List.mem_append, List.mem_singleton]
    constructor
    · rintro (old | rfl)
      · exact .inl old
      · exact .inr ⟨grown.1, grown.2.1, rfl⟩
    · rintro (old | ⟨-, -, rfl⟩)
      · exact .inl old
      · exact .inr rfl
  · rename_i kept
    refine (or_iff_left_of_imp ?_).symm
    rintro ⟨same, key, rfl⟩
    -- the entry is added unless it is there already
    by_contra absent
    exact kept ⟨same, key, absent⟩

theorem nodup_get_add {a : Adjacency} (nodup : ∀ q, (a.get q).Nodup) (k v q : String) :
    ((a.add k v).get q).Nodup := by
  rw [get_add]
  split
  · rename_i grown
    exact (nodup q).append (List.nodup_singleton v) (by simpa using grown.2.2)
  · exact nodup q

/-- Every pair of a key and an entry of its list. -/
def pairs (a : Adjacency) : List (String × String) := a.flatMap fun e => e.2.map (e.1, ·)

theorem length_pairs (a : Adjacency) : a.pairs.length = (a.map (·.2.length)).foldr (· + ·) 0 := by
  induction a with
  | nil => rfl
  | cons e rest ih =>
    simp only [pairs] at ih ⊢
    simp only [List.flatMap_cons, List.length_append, List.length_map, List.map_cons, List.foldr_cons, ih]

theorem key_of_mem_pairs {a : Adjacency} {p c : String} (mem : (p, c) ∈ a.pairs) : p ∈ a.keys := by
  simp only [pairs, List.mem_flatMap, List.mem_map, Prod.mk.injEq] at mem
  obtain ⟨e, entry, _, -, rfl, -⟩ := mem
  exact List.mem_map_of_mem entry

theorem mem_pairs {a : Adjacency} (distinct : a.keys.Nodup) {p c : String} :
    (p, c) ∈ a.pairs ↔ c ∈ a.get p := by
  induction a with
  | nil => simp [pairs]
  | cons e rest ih =>
    obtain ⟨k, vs⟩ := e
    have restKeys : (keys rest).Nodup := (List.nodup_cons.mp distinct).2
    have pairsCons : pairs ((k, vs) :: rest) = vs.map (k, ·) ++ pairs rest := rfl
    rw [pairsCons, List.mem_append, get_cons]
    by_cases here : p = k
    · subst here
      -- the later entries have other keys
      have later : (p, c) ∉ pairs rest := fun mem => (List.nodup_cons.mp distinct).1 (key_of_mem_pairs mem)
      simp [later]
    · have other : k ≠ p := Ne.symm here
      simp [here, other, ← ih restKeys]

theorem nodup_pairs {a : Adjacency} (distinct : a.keys.Nodup) (nodup : ∀ q, (a.get q).Nodup) :
    a.pairs.Nodup := by
  induction a with
  | nil => exact List.nodup_nil
  | cons e rest ih =>
    obtain ⟨k, vs⟩ := e
    have fresh : k ∉ keys rest := (List.nodup_cons.mp distinct).1
    have restNodup : ∀ q, (get rest q).Nodup := by
      intro q
      by_cases here : q = k
      · rw [here, get_of_not_mem_keys fresh]
        exact List.nodup_nil
      · simpa [get_cons, here] using nodup q
    have first : vs.Nodup := by simpa [get_cons] using nodup k
    have pairsCons : pairs ((k, vs) :: rest) = vs.map (k, ·) ++ pairs rest := rfl
    rw [pairsCons]
    refine (first.map fun _ _ same => (Prod.mk.inj same).2).append
      (ih (List.nodup_cons.mp distinct).2 restNodup) ?_
    intro x here there
    obtain ⟨c, -, rfl⟩ := List.mem_map.mp here
    exact fresh (key_of_mem_pairs there)

end Adjacency

theorem sortIds_sortedLT {ids : List String} (nodup : ids.Nodup) : (sortIds ids).SortedLT := by
  have sorted : (sortIds ids).Pairwise (· ≤ ·) := by
    simpa [sortIds] using @List.pairwise_mergeSort _ (fun a b : String => decide (a ≤ b))
      (fun _ _ _ h₁ h₂ => by simpa using le_trans (by simpa using h₁) (by simpa using h₂))
      (fun a b => by simpa using le_total a b) ids
  have distinct : (sortIds ids).Nodup := (List.mergeSort_perm ids _).nodup_iff.mpr nodup
  exact List.sortedLT_iff_pairwise.mpr
    ((sorted.and (List.nodup_iff_pairwise_ne.mp distinct)).imp fun both => lt_of_le_of_ne both.1 both.2)

namespace DependencyGraph

/-- What adding tables and references keeps of the two maps. -/
structure Consistent (g : DependencyGraph) : Prop where
  nodup : g.ids.Nodup
  edgeKeys : g.edges.keys = g.ids
  parentKeys : g.parents.keys = g.ids
  edgesNodup : ∀ p, (g.edges.get p).Nodup
  parentsNodup : ∀ c, (g.parents.get c).Nodup
  converse : ∀ p c, c ∈ g.edges.get p ↔ p ∈ g.parents.get c
  selfNodup : g.self.Nodup

theorem Consistent.empty : Consistent {} where
  nodup := List.nodup_nil
  edgeKeys := rfl
  parentKeys := rfl
  edgesNodup _ := List.nodup_nil
  parentsNodup _ := List.nodup_nil
  converse _ _ := by simp
  selfNodup := List.nodup_nil

theorem Consistent.addTable {g : DependencyGraph} (cons : Consistent g) (id : String) :
    Consistent (g.addTable id) := by
  unfold DependencyGraph.addTable
  split
  · exact cons
  · rename_i held
    -- the new table gets an empty list in both maps, so no list changes
    have fresh : id ∉ g.ids := by simpa using held
    refine ⟨cons.nodup.append (List.nodup_singleton id) (by simpa using fresh), ?_, ?_, ?_, ?_, ?_,
      cons.selfNodup⟩
    · simp [cons.edgeKeys]
    · simp [cons.parentKeys]
    · intro p
      simpa [Adjacency.get_append_empty] using cons.edgesNodup p
    · intro c
      simpa [Adjacency.get_append_empty] using cons.parentsNodup c
    · intro p c
      simpa [Adjacency.get_append_empty] using cons.converse p c

theorem Consistent.addEdge {g : DependencyGraph} (cons : Consistent g) (parent child : String) :
    Consistent (g.addEdge parent child) := by
  unfold DependencyGraph.addEdge
  split
  · exact cons
  · rename_i held
    have held : parent ∈ g.ids ∧ child ∈ g.ids := by simpa using held
    split
    · split
      · exact cons
      · rename_i listed
        exact { cons with selfNodup := cons.selfNodup.append (List.nodup_singleton parent) (by simpa using listed) }
    · refine ⟨cons.nodup, ?_, ?_, Adjacency.nodup_get_add cons.edgesNodup parent child,
        Adjacency.nodup_get_add cons.parentsNodup child parent, ?_, cons.selfNodup⟩
      · simp [cons.edgeKeys]
      · simp [cons.parentKeys]
      · -- the reference lands in the list of `parent` and in the list of `child` alike
        intro p c
        simp only [Adjacency.mem_get_add_iff, cons.edgeKeys, cons.parentKeys, cons.converse p c]
        constructor
        · rintro (old | ⟨rfl, -, rfl⟩)
          · exact .inl old
          · exact .inr ⟨rfl, held.2, rfl⟩
        · rintro (old | ⟨rfl, -, rfl⟩)
          · exact .inl old
          · exact .inr ⟨rfl, held.1, rfl⟩

theorem Built.consistent {g : DependencyGraph} (built : Built g) : Consistent g := by
  induction built with
  | empty => exact .empty
  | addTable id _ cons => exact cons.addTable id
  | addEdge parent child _ cons => exact cons.addEdge parent child

section Consistent

variable {g : DependencyGraph}

theorem Consistent.mem_references_iff (cons : Consistent g) {p c : String} :
    p ∈ g.references c ↔ g.Edge p c := by
  rw [references, mem_sortIds, ← cons.converse, edge_iff]

theorem Consistent.references_nodup (cons : Consistent g) (c : String) : (g.references c).Nodup :=
  (List.mergeSort_perm _ _).nodup_iff.mpr (cons.parentsNodup c)

/-- The edge count is the number of distinct pairs of tables an edge joins. -/
theorem Consistent.edgeCount_eq_ncard (cons : Consistent g) :
    g.edgeCount = Set.ncard {e : String × String | g.Edge e.1 e.2} := by
  have keys : g.edges.keys.Nodup := cons.edgeKeys ▸ cons.nodup
  have edges : {e : String × String | g.Edge e.1 e.2} = ↑g.edges.pairs.toFinset := by
    ext e
    simp [edge_iff, Adjacency.mem_pairs keys]
  rw [edges, Set.ncard_coe_finset, List.toFinset_card_of_nodup (Adjacency.nodup_pairs keys cons.edgesNodup),
    Adjacency.length_pairs, edgeCount]

end Consistent

end DependencyGraph

end DdlCatalog.Graph
