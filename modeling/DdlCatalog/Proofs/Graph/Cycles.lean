import Mathlib.Logic.Relation
import Mathlib.Data.List.Chain
import Mathlib.Data.List.Nodup
import DdlCatalog.Proofs.Graph.Built
/-!
The cycle search of a dependency graph.

`cycle` runs a depth-first search from every table in sorted order. The active tables form a
stack, the path from where the visit started to the table being visited, each reached from the
one below it by a recorded tree edge; the done tables are those whose whole reach has been
searched. An edge to an active table closes a cycle, which the tree edges give back.

`Sound` is what holds of the search state between steps: the active tables are distinct tables
of the graph linked by tree edges, no done table is active, an edge out of a done table ends at
a done table, and no done table lies on a cycle. Every visit keeps it (`visit_explored`), and a
search that finds nothing leaves every table done. So `cycle` answers `none` exactly when the
graph has no cycle, and otherwise gives a cycle of the graph; `creationOrder` and `levels` fail
exactly then, with the cycle in their message.
-/

namespace DdlCatalog.Graph

namespace DependencyGraph

open Relation

/-- A cycle of the graph, its first table repeated last: at least two tables, distinct apart
from the repeated one, each referenced by the one before. -/
structure IsCycle (g : DependencyGraph) (path : List String) : Prop where
  long : 3 ≤ path.length
  closes : path.head? = path.getLast?
  distinct : path.dropLast.Nodup
  nodes : ∀ v ∈ path, v ∈ g.ids
  chain : path.IsChain g.Edge

theorem IsCycle.transGen {g : DependencyGraph} {path : List String} (cyc : IsCycle g path) :
    ∃ v, TransGen g.Edge v v := by
  obtain ⟨v, w, rest, rfl⟩ : ∃ v w rest, path = v :: w :: rest := by
    match path, cyc.long with
    | v :: w :: rest, _ => exact ⟨v, w, rest, rfl⟩
  obtain ⟨edge, chain⟩ := List.isChain_cons_cons.mp cyc.chain
  have back : (w :: rest).getLast (List.cons_ne_nil _ _) = v := by
    have closes := cyc.closes
    rw [List.getLast?_cons_cons, List.getLast?_eq_some_getLast (List.cons_ne_nil _ _)] at closes
    exact (Option.some.inj closes).symm
  exact ⟨v, TransGen.head' edge (List.relationReflTransGen_of_exists_isChain_cons rest chain back)⟩

/-- `b` is the table from which the search reached `a`: the tree edge `b → a`. -/
def TreeEdge (g : DependencyGraph) (parentOf : List (String × String)) (a b : String) : Prop :=
  parentOf.lookup a = some b ∧ g.Edge b a

/-- The invariant of the search state. -/
structure Sound (g : DependencyGraph) (st : CycleSearch) : Prop where
  nodup : st.active.Nodup
  active_nodes : ∀ a ∈ st.active, a ∈ g.ids
  linked : st.active.IsChain (TreeEdge g st.parentOf)
  apart : ∀ a ∈ st.active, a ∉ st.done
  closed : ∀ d ∈ st.done, ∀ c, g.Edge d c → c ∈ st.done
  acyclic : ∀ d ∈ st.done, ¬ TransGen g.Edge d d

section Search

variable {g : DependencyGraph}

theorem Sound.empty : Sound g {} where
  nodup := List.nodup_nil
  active_nodes _ h := by simp at h
  linked := List.IsChain.nil
  apart _ h := by simp at h
  closed _ h := by simp at h
  acyclic _ h := by simp at h

theorem Sound.length_le {st : CycleSearch} (sound : Sound g st) :
    st.active.length ≤ g.ids.length :=
  sound.nodup.length_le_of_subset sound.active_nodes

theorem Sound.reach_done {st : CycleSearch} (sound : Sound g st) {d v : String} (done : d ∈ st.done)
    (reach : ReflTransGen g.Edge d v) : v ∈ st.done := by
  induction reach with
  | refl => exact done
  | tail _ edge ih => exact sound.closed _ ih _ edge

theorem Sound.record {st : CycleSearch} (sound : Sound g st) {x : String} (y : String)
    (fresh : x ∉ st.active) :
    Sound g { active := st.active, done := st.done, parentOf := (x, y) :: st.parentOf } where
  nodup := sound.nodup
  active_nodes := sound.active_nodes
  linked := by
    -- the new entry is for `x`, which is no active table, so no active table's lookup changes
    refine sound.linked.imp_of_mem_imp fun a b mem _ link => ⟨?_, link.2⟩
    have other : (a == x) = false := by
      simpa using fun same : a = x => fresh (same ▸ mem)
    simpa [List.lookup_cons, other] using link.1
  apart := sound.apart
  closed := sound.closed
  acyclic := sound.acyclic

/-- What a visit of `id` from `st` needs: a sound state that `id` is not part of, the tree
edge into `id` from the top of the stack, and fuel for every table not yet active. -/
structure Ready (g : DependencyGraph) (fuel : Nat) (id : String) (st : CycleSearch) : Prop where
  sound : Sound g st
  node : id ∈ g.ids
  fresh : id ∉ st.active
  unfinished : id ∉ st.done
  linked : (id :: st.active).IsChain (TreeEdge g st.parentOf)
  budget : g.ids.length ≤ fuel + st.active.length

theorem Ready.fuel_pos {fuel : Nat} {id : String} {st : CycleSearch} (ready : Ready g fuel id st) :
    0 < fuel := by
  -- the table to visit and the active ones are distinct tables, more than the fuel would cover
  have distinct : (id :: st.active).Nodup := List.nodup_cons.mpr ⟨ready.fresh, ready.sound.nodup⟩
  have nodes : id :: st.active ⊆ g.ids := List.cons_subset.mpr ⟨ready.node, ready.sound.active_nodes⟩
  have fits := distinct.length_le_of_subset nodes
  have budget := ready.budget
  simp only [List.length_cons] at fits
  omega

theorem Ready.push {fuel : Nat} {id : String} {st : CycleSearch} (ready : Ready g fuel id st) :
    Sound g { active := id :: st.active, done := st.done, parentOf := st.parentOf } where
  nodup := List.nodup_cons.mpr ⟨ready.fresh, ready.sound.nodup⟩
  active_nodes := List.forall_mem_cons.mpr ⟨ready.node, ready.sound.active_nodes⟩
  linked := ready.linked
  apart := List.forall_mem_cons.mpr ⟨ready.unfinished, ready.sound.apart⟩
  closed := ready.sound.closed
  acyclic := ready.sound.acyclic

theorem Ready.budget_push {fuel : Nat} {id : String} {st : CycleSearch}
    (ready : Ready g (fuel + 1) id st) : g.ids.length ≤ fuel + (id :: st.active).length := by
  have budget := ready.budget
  simp only [List.length_cons]
  omega

/-- A child that is neither active nor done is ready to visit from the top of the stack. -/
theorem Sound.ready_child {fuel : Nat} {id child : String} {st : CycleSearch} (wf : WellFormed g)
    (sound : Sound g st) (top : st.active.head? = some id) (edge : g.Edge id child)
    (fresh : child ∉ st.active) (unfinished : child ∉ st.done)
    (budget : g.ids.length ≤ fuel + st.active.length) :
    Ready g fuel child { active := st.active, done := st.done, parentOf := (child, id) :: st.parentOf } where
  sound := sound.record id fresh
  node := wf.target edge
  fresh := fresh
  unfinished := unfinished
  linked := by
    refine (sound.record id fresh).linked.cons fun y head => ?_
    obtain rfl : y = id := Option.some.inj (head.symm.trans top)
    exact ⟨by simp, edge⟩
  budget := budget

/-- Following the tree edges back from the table above `stop` in a linked stack gives the
tables above `stop`, top first. -/
theorem pathBack_of_linked {parentOf : List (String × String)} {stop : String} {below : List String} :
    ∀ (above : List String) (top : String) (fuel : Nat),
      (top :: above ++ stop :: below).IsChain (fun a b => parentOf.lookup a = some b) →
      stop ∉ top :: above → above.length < fuel →
      pathBack parentOf stop fuel top = top :: above
  | _, _, 0, _, _, short => absurd short (Nat.not_lt_zero _)
  | [], top, fuel + 1, chain, fresh, _ => by
    have link : parentOf.lookup top = some stop := (List.isChain_cons_cons.mp chain).1
    have differ : (top == stop) = false := beq_eq_false_iff_ne.mpr fun same => fresh (by simp [same])
    cases fuel <;> simp [pathBack, differ, link]
  | next :: above, top, fuel + 1, chain, fresh, short => by
    have link : parentOf.lookup top = some next := (List.isChain_cons_cons.mp chain).1
    have differ : (top == stop) = false := beq_eq_false_iff_ne.mpr fun same => fresh (by simp [same])
    have rest := pathBack_of_linked above next fuel (List.isChain_cons_cons.mp chain).2
      (List.not_mem_of_not_mem_cons fresh) (by simpa using short)
    rw [pathBack, differ, if_neg Bool.false_ne_true, link, Option.getD_some, rest]

/-- An edge from the top of the stack to an active table closes a cycle, which the tree edges
give back. -/
theorem Sound.backEdge {id child : String} {st : CycleSearch} (wf : WellFormed g)
    (sound : Sound g st) (top : st.active.head? = some id) (edge : g.Edge id child)
    (active : child ∈ st.active) :
    IsCycle g (child :: pathBack st.parentOf child (g.ids.length + 1) id ++ [child]).reverse := by
  -- the stack is `id`, the tables above `child`, `child`, the tables below
  obtain ⟨rest, hrest⟩ : ∃ rest, st.active = id :: rest := by
    cases h : st.active with
    | nil => simp [h] at top
    | cons a rest => exact ⟨rest, by simp_all⟩
  have inRest : child ∈ rest := by
    rw [hrest] at active
    exact (List.mem_cons.mp active).resolve_left fun same => wf.irrefl id (same ▸ edge)
  obtain ⟨above, below, hsplit⟩ := List.append_of_mem inRest
  have stack : st.active = (id :: above ++ [child]) ++ below := by simp [hrest, hsplit]
  have prefixLinked : (id :: above ++ [child]).IsChain (TreeEdge g st.parentOf) :=
    sound.linked.prefix ⟨below, stack.symm⟩
  have prefixNodup : (id :: above ++ [child]).Nodup :=
    sound.nodup.sublist (stack ▸ List.sublist_append_left _ _)
  have fresh : child ∉ id :: above := fun mem =>
    (List.nodup_append.mp prefixNodup).2.2 child mem child (List.mem_singleton_self _) rfl
  have lookups := (stack ▸ sound.linked).imp fun _ _ (link : TreeEdge g _ _ _) => link.1
  have short : above.length < g.ids.length + 1 := by
    have fits := sound.length_le
    simp only [stack, List.length_append, List.length_cons] at fits
    omega
  rw [pathBack_of_linked above id _ (by simpa using lookups) fresh short]
  -- the cycle is the reversed prefix of the stack, closed by the edge `id → child`
  have reversed : (child :: (id :: above ++ [child])).reverse =
      (id :: above ++ [child]).reverse ++ [child] := by simp
  rw [show child :: (id :: above) ++ [child] = child :: (id :: above ++ [child]) from rfl, reversed]
  refine ⟨by simp, ?_, ?_, ?_, ?_⟩
  · simp only [List.head?_append, List.head?_reverse, List.getLast?_concat, Option.some_or]
  · rw [List.dropLast_concat]
    exact List.nodup_reverse.mpr prefixNodup
  · intro v mem
    have inStack : v ∈ st.active := by
      rw [stack]
      simp only [List.mem_append, List.mem_reverse, List.mem_singleton] at mem ⊢
      rcases mem with mem | rfl
      · exact .inl mem
      · simp
    exact sound.active_nodes v inStack
  · refine List.isChain_append.mpr ⟨?_, List.isChain_singleton _, ?_⟩
    · exact List.isChain_reverse.mpr (prefixLinked.imp fun _ _ link => link.2)
    · intro x last y first
      simp only [List.getLast?_reverse, List.head?_cons, List.cons_append, Option.mem_def,
        Option.some.injEq] at last first
      subst last first
      exact edge

/-- What a search from `st` that was to finish the tables `marked` leaves when it finds no
cycle: a sound state with the same active tables, everything done before still done, and
`marked` done. -/
structure Finished (g : DependencyGraph) (st : CycleSearch) (marked : List String)
    (st' : CycleSearch) : Prop where
  sound : Sound g st'
  active : st'.active = st.active
  grows : st.done ⊆ st'.done
  marked : ∀ x ∈ marked, x ∈ st'.done

/-- How a search from `st` that was to finish `marked` may end: with a cycle of the graph, or
finished. -/
def Explored (g : DependencyGraph) (st : CycleSearch) (marked : List String) :
    Option (List String) × CycleSearch → Prop
  | (some path, _) => IsCycle g path
  | (none, st') => Finished g st marked st'

theorem Explored.imp {st st₀ : CycleSearch} {xs ys : List String}
    {r : Option (List String) × CycleSearch} (explored : Explored g st xs r)
    (finished : ∀ st', Finished g st xs st' → Finished g st₀ ys st') : Explored g st₀ ys r := by
  rcases r with ⟨_ | path, st'⟩
  · exact finished st' explored
  · exact explored

theorem Finished.done_cons {st st' : CycleSearch} {x : String} {xs : List String}
    (done : x ∈ st.done) (finished : Finished g st xs st') : Finished g st (x :: xs) st' :=
  { finished with marked := List.forall_mem_cons.mpr ⟨finished.grows done, finished.marked⟩ }

theorem Finished.of_record {st st' : CycleSearch} {xs : List String} {x y : String}
    (finished : Finished g { active := st.active, done := st.done, parentOf := (x, y) :: st.parentOf }
      xs st') : Finished g st xs st' :=
  ⟨finished.sound, finished.active, finished.grows, finished.marked⟩

theorem Finished.cons {st st₁ st₂ : CycleSearch} {x : String} {xs : List String}
    (first : Finished g st [x] st₁) (rest : Finished g st₁ xs st₂) : Finished g st (x :: xs) st₂ where
  sound := rest.sound
  active := rest.active.trans first.active
  grows _ mem := rest.grows (first.grows mem)
  marked := List.forall_mem_cons.mpr ⟨rest.grows (first.marked x (by simp)), rest.marked⟩

/-- When the loop over the children of `id` finds no cycle, `id` is popped and done. -/
theorem Ready.finish {fuel : Nat} {id : String} {st st' : CycleSearch} (ready : Ready g fuel id st)
    (children : Finished g { active := id :: st.active, done := st.done, parentOf := st.parentOf }
      (g.referencedBy id) st') :
    Finished g st [id]
      { active := st'.active.erase id, done := id :: st'.done, parentOf := st'.parentOf } := by
  have popped : st'.active.erase id = st.active := by rw [children.active, List.erase_cons_head]
  have reached : ∀ c, g.Edge id c → c ∈ st'.done := children.marked
  -- `id` is still active when its children are done, so none of them reaches it
  have idActive : id ∈ st'.active := by simp [children.active]
  refine ⟨⟨?_, ?_, ?_, ?_, ?_, ?_⟩, popped, fun d mem => .tail _ (children.grows mem), by simp⟩
  · exact popped ▸ ready.sound.nodup
  · exact popped ▸ ready.sound.active_nodes
  · simpa [children.active] using children.sound.linked.tail
  · intro a mem
    rw [popped] at mem
    have other : a ≠ id := fun same => ready.fresh (same ▸ mem)
    have notDone := children.sound.apart a (by simp [children.active, mem])
    simp [other, notDone]
  · intro d mem c edge
    rcases List.mem_cons.mp mem with rfl | old
    · exact .tail _ (reached c edge)
    · exact .tail _ (children.sound.closed d old c edge)
  · intro d mem cyc
    rcases List.mem_cons.mp mem with rfl | old
    · obtain ⟨c, edge, back⟩ := TransGen.head'_iff.mp cyc
      exact children.sound.apart d idActive (children.sound.reach_done (reached c edge) back)
    · exact children.sound.acyclic d old cyc

/-- A visit from a ready state finds a cycle of the graph or finishes the visited table,
keeping the state sound. The loop over children is proved along with it: it finds a cycle or
finishes every child. -/
theorem visit_explored (wf : WellFormed g) (fuel : Nat) (id : String) (st : CycleSearch)
    (ready : Ready g fuel id st) : Explored g st [id] (g.visit fuel id st) := by
  refine visit.induct g
    (fun fuel id xs st => Sound g st → st.active.head? = some id → (∀ x ∈ xs, g.Edge id x) →
      g.ids.length ≤ fuel + st.active.length → Explored g st xs (visit.children g fuel id xs st))
    (fun fuel id st => Ready g fuel id st → Explored g st [id] (g.visit fuel id st))
    ?nil ?back ?skip ?found ?next ?noFuel ?cyclic ?popped fuel id st ready
  case nil =>
    intro fuel id st sound _ _ _
    rw [visit.children.eq_1]
    exact ⟨sound, rfl, fun _ mem => mem, by simp⟩
  case back =>
    -- an edge from the top of the stack to an active table: the cycle is read off the stack
    intro fuel id child rest st active sound top edges _
    rw [visit.children.eq_2, if_pos active]
    exact sound.backEdge wf top (edges child (by simp)) (by simpa using active)
  case skip =>
    intro fuel id child rest st active done ih sound top edges budget
    rw [visit.children.eq_2, if_neg active, if_pos done]
    exact (ih sound top (fun x mem => edges x (.tail _ mem)) budget).imp
      fun _ finished => finished.done_cons (by simpa using done)
  case found =>
    intro fuel id child rest st active done path st₁ visited ih sound top edges budget
    have explored := ih (sound.ready_child wf top (edges child (by simp)) (by simpa using active)
      (by simpa using done) budget)
    rw [visited] at explored
    rw [visit.children.eq_2, if_neg active, if_neg done, visited]
    exact explored
  case next =>
    -- the visit finished `child` and left the stack as it was; the loop goes on from its state
    intro fuel id child rest st active done st₁ visited ihVisit ihRest sound top edges budget
    have explored := ihVisit (sound.ready_child wf top (edges child (by simp))
      (by simpa using active) (by simpa using done) budget)
    rw [visited] at explored
    have first : Finished g st [child] st₁ := Finished.of_record explored
    rw [visit.children.eq_2, if_neg active, if_neg done, visited]
    exact (ihRest first.sound (by rw [first.active, top]) (fun x mem => edges x (.tail _ mem))
      (by rw [first.active]; exact budget)).imp fun _ finished => first.cons finished
  case noFuel =>
    intro _ _ ready
    exact absurd ready.fuel_pos (Nat.lt_irrefl 0)
  case cyclic =>
    intro fuel id st
    dsimp only
    intro path st₂ searched ih ready
    have explored := ih ready.push rfl (fun _ edge => edge) ready.budget_push
    rw [searched] at explored
    rw [visit.eq_2, searched]
    exact explored
  case popped =>
    intro fuel id st
    dsimp only
    intro st₂ searched ih ready
    have explored := ih ready.push rfl (fun _ edge => edge) ready.budget_push
    rw [searched] at explored
    rw [visit.eq_2, searched]
    exact ready.finish explored

/-- The search over a list of tables from a sound state with no active table finds a cycle of
the graph, or shows that none of the tables lies on a cycle. -/
theorem go_answers (wf : WellFormed g) :
    ∀ (xs : List String) (st : CycleSearch), Sound g st → st.active = [] → (∀ x ∈ xs, x ∈ g.ids) →
      (∀ path, cycle.go g xs st = some path → IsCycle g path) ∧
      (cycle.go g xs st = none → ∀ x ∈ xs, ¬ TransGen g.Edge x x)
  | [], _, _, _, _ => ⟨fun _ found => by simp [cycle.go] at found, fun _ _ mem => by simp at mem⟩
  | x :: rest, st, sound, idle, nodes => by
    have restNodes : ∀ y ∈ rest, y ∈ g.ids := fun y mem => nodes y (.tail _ mem)
    rw [cycle.go.eq_2]
    split
    · rename_i seen
      have done : x ∈ st.done := by simpa [idle] using seen
      obtain ⟨cycles, quiet⟩ := go_answers wf rest st sound idle restNodes
      exact ⟨cycles, fun answer => List.forall_mem_cons.mpr ⟨sound.acyclic x done, quiet answer⟩⟩
    · rename_i seen
      have ready : Ready g (g.ids.length + 1) x st :=
        { sound, node := nodes x (by simp), fresh := by simp [idle],
          unfinished := by simpa using (not_or.mp (by simpa using seen)).1,
          linked := by simp [idle], budget := by omega }
      have explored := visit_explored wf _ x st ready
      split
      · rename_i path _ visited
        rw [visited] at explored
        exact ⟨fun _ found => Option.some.inj found ▸ explored, fun found => by simp at found⟩
      · rename_i st' visited
        rw [visited] at explored
        have finished : Finished g st [x] st' := explored
        obtain ⟨cycles, quiet⟩ :=
          go_answers wf rest st' finished.sound (finished.active.trans idle) restNodes
        exact ⟨cycles, fun answer => List.forall_mem_cons.mpr
          ⟨finished.sound.acyclic x (finished.marked x (by simp)), quiet answer⟩⟩

/-- The search from every table finds a cycle of the graph, or shows that no table lies on
a cycle. -/
theorem cycle_answers (wf : WellFormed g) :
    (∀ path, g.cycle = some path → IsCycle g path) ∧
    (g.cycle = none → ∀ v ∈ g.ids, ¬ TransGen g.Edge v v) := by
  have answers := go_answers wf g.sortedIds {} .empty rfl fun _ mem => by simpa [sortedIds] using mem
  exact ⟨answers.1, fun quiet v mem => answers.2 quiet v (by simpa [sortedIds] using mem)⟩

/-- The search reports no cycle exactly when no table reaches itself. -/
theorem cycle_eq_none_iff (wf : WellFormed g) : g.cycle = none ↔ ∀ v, ¬ TransGen g.Edge v v := by
  constructor
  · intro quiet v cyc
    -- a table on a cycle has an edge out, so it is a table of the graph
    obtain ⟨c, edge, _⟩ := TransGen.head'_iff.mp cyc
    exact (cycle_answers wf).2 quiet v (wf.source edge) cyc
  · intro acyclic
    cases found : g.cycle with
    | none => rfl
    | some path =>
      obtain ⟨v, cyc⟩ := ((cycle_answers wf).1 path found).transGen
      exact absurd cyc (acyclic v)

end Search

/-- The creation order fails exactly when the search finds a cycle, naming it. -/
theorem creationOrder_error_iff (g : DependencyGraph) (e : String) :
    g.creationOrder = .error e ↔ ∃ path, g.cycle = some path ∧ e = cycleMessage path := by
  unfold creationOrder
  cases g.cycle with
  | none => simp
  | some path => simp [eq_comm]

/-- The levels fail exactly when the creation order does, with its message. -/
theorem levels_error_iff (g : DependencyGraph) (e : String) :
    g.levels = .error e ↔ g.creationOrder = .error e := by
  unfold levels
  cases g.creationOrder with
  | error e' => simp [bind, Except.bind]
  | ok order => simp [bind, Except.bind, pure, Except.pure]

/-- For a graph built by adding tables and references, the search reports no cycle exactly
when no table reaches itself along references; a cycle it reports is one of the graph, its
first table repeated last; and the creation order and the levels fail exactly when it reports
one, with that cycle in their message. -/
theorem cycle_search_correct {g : DependencyGraph} (built : Built g) :
    (g.cycle = none ↔ ∀ v, ¬ TransGen g.Edge v v) ∧
    (∀ path, g.cycle = some path → IsCycle g path) ∧
    (∀ e, g.creationOrder = .error e ↔ ∃ path, g.cycle = some path ∧ e = cycleMessage path) ∧
    (∀ e, g.levels = .error e ↔ ∃ path, g.cycle = some path ∧ e = cycleMessage path) :=
  ⟨cycle_eq_none_iff built.wellFormed, (cycle_answers built.wellFormed).1,
    creationOrder_error_iff g, fun e => (levels_error_iff g e).trans (creationOrder_error_iff g e)⟩

/-- Three tables, each referenced by the next, the last referenced by the first. -/
def tableRing : DependencyGraph :=
  ((((({} : DependencyGraph).addTable "d.a").addTable "d.b").addTable "d.c").addEdge "d.a" "d.b"
    |>.addEdge "d.b" "d.c").addEdge "d.c" "d.a"

theorem tableRing_cycle_reported : Built tableRing ∧ tableRing.cycle ≠ none := by
  have built : Built tableRing :=
    .addEdge _ _ (.addEdge _ _ (.addEdge _ _ (.addTable _ (.addTable _ (.addTable _ .empty)))))
  have ab : tableRing.Edge "d.a" "d.b" := edge_iff.mpr (by decide)
  have bc : tableRing.Edge "d.b" "d.c" := edge_iff.mpr (by decide)
  have ca : tableRing.Edge "d.c" "d.a" := edge_iff.mpr (by decide)
  have ring : TransGen tableRing.Edge "d.a" "d.a" := .head' ab (.head bc (.single ca))
  exact ⟨built, fun quiet => (cycle_search_correct built).1.mp quiet "d.a" ring⟩

end DependencyGraph

end DdlCatalog.Graph
