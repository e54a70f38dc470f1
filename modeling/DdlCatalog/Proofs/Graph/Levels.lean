import DdlCatalog.Proofs.Graph.Order
/-!
The levels of a graph without cycles.

`levels` walks the creation order and gives each table one more than the highest level of the
tables it references, 0 when it references none (`aboveAll`). The order places every table
after the tables it references, so their levels are known by then (`Graded`). It then lists,
for each level from 0 up to the highest, the tables of that level in sorted order (`byLevel`).

Main statement: for a built graph with no cycle, the levels are found; they partition the
tables into non-empty sorted lists, the lists of the tables by `level`, where the level of a
table is one more than the highest level of the tables it references, 0 when it references
none. Hence no table references one of its own level, and every table above level 0
references one a level below it.
-/

namespace DdlCatalog.Graph

namespace DependencyGraph

open Relation

/-- One more than the highest level among `ps`, 0 when `ps` is empty. -/
def aboveAll (level : String → Nat) (ps : List String) : Nat :=
  ps.foldl (fun l p => max l (level p + 1)) 0

/-- The highest of `init` and `vs`: one of them, and above each of them. -/
theorem foldl_max_spec (vs : List Nat) (init : Nat) :
    vs.foldl max init ∈ init :: vs ∧ ∀ v ∈ init :: vs, v ≤ vs.foldl max init :=
  List.max?_eq_some_iff.mp List.max?_cons'

section AboveAll

variable {level : String → Nat}

theorem aboveAll_eq_foldl_max (level : String → Nat) (ps : List String) :
    aboveAll level ps = (ps.map fun p => level p + 1).foldl max 0 := by
  rw [aboveAll, List.foldl_map]

theorem aboveAll_le_iff {ps : List String} {n : Nat} :
    aboveAll level ps ≤ n ↔ ∀ p ∈ ps, level p + 1 ≤ n := by
  rw [aboveAll_eq_foldl_max, List.max?_le_iff List.max?_cons']
  simp

theorem le_aboveAll {ps : List String} {p : String} (mem : p ∈ ps) : level p + 1 ≤ aboveAll level ps :=
  aboveAll_le_iff.mp le_rfl p mem

/-- A positive level is one more than the level of a table of the list. -/
theorem aboveAll_attained {ps : List String} (pos : 0 < aboveAll level ps) :
    ∃ p ∈ ps, aboveAll level ps = level p + 1 := by
  have highest := (foldl_max_spec (ps.map fun p => level p + 1) 0).1
  rw [← aboveAll_eq_foldl_max] at highest
  rcases List.mem_cons.mp highest with zero | listed
  · exact absurd zero (Nat.pos_iff_ne_zero.mp pos)
  · obtain ⟨p, mem, same⟩ := List.mem_map.mp listed
    exact ⟨p, mem, same.symm⟩

/-- The level above a list depends only on its tables and their levels. -/
theorem aboveAll_congr {level' : String → Nat} {ps qs : List String} (same : ∀ p, p ∈ ps ↔ p ∈ qs)
    (agree : ∀ p ∈ ps, level p = level' p) : aboveAll level ps = aboveAll level' qs := by
  apply le_antisymm
  · rw [aboveAll_le_iff]
    intro p mem
    rw [agree p mem]
    exact le_aboveAll ((same p).mp mem)
  · rw [aboveAll_le_iff]
    intro p mem
    rw [← agree p ((same p).mpr mem)]
    exact le_aboveAll ((same p).mpr mem)

end AboveAll

/-- The level a table of levels gives a table: the number listed for it, 0 when none is. -/
def levelIn (table : List (String × Nat)) (x : String) : Nat := (table.lookup x).getD 0

theorem levelIn_append_of_mem {table more : List (String × Nat)} {x : String}
    (mem : x ∈ table.map (·.1)) : levelIn (table ++ more) x = levelIn table x := by
  obtain ⟨entry, listed, same⟩ := List.mem_map.mp mem
  have found : (table.lookup x).isSome := List.lookup_isSome_iff.mpr ⟨entry, listed, by simp [same]⟩
  obtain ⟨v, hv⟩ := Option.isSome_iff_exists.mp found
  simp [levelIn, List.lookup_append, hv]

theorem levelIn_append_of_not_mem {table : List (String × Nat)} {x : String} {v : Nat}
    (absent : x ∉ table.map (·.1)) : levelIn (table ++ [(x, v)]) x = v := by
  have missing : table.lookup x = none := by
    refine List.lookup_eq_none_iff.mpr fun entry listed => ?_
    have other : x ≠ entry.1 := fun same => absent (List.mem_map.mpr ⟨entry, listed, same.symm⟩)
    simpa using other
  simp [levelIn, List.lookup_append, missing]

/-- The table of levels `levels` computes along `order`. -/
def levelTable (g : DependencyGraph) (order : List String) : List (String × Nat) :=
  order.foldl (fun acc id => acc ++ [(id, aboveAll (levelIn acc) (g.parents.get id))]) []

/-- The number of levels of a table of levels: one more than the highest, none for no table. -/
def levelCount (table : List (String × Nat)) : Nat :=
  if table.isEmpty then 0 else (table.map (·.2)).foldl max 0 + 1

/-- The tables of `sorted` grouped by `level`, for the levels below `count`. -/
def byLevel (sorted : List String) (level : String → Nat) (count : Nat) : List (List String) :=
  (List.range count).map fun l => sorted.filter fun id => level id == l

variable {g : DependencyGraph}

theorem levels_of_ok {order : List String} (ok : g.creationOrder = .ok order) :
    g.levels = .ok (byLevel g.sortedIds (levelIn (g.levelTable order)) (levelCount (g.levelTable order))) := by
  rw [levels, ok]
  rfl

/-- What the levels computed along a placed list keep: one entry per table of the list, in
order, and each table one more than the highest level of the tables it references. -/
structure Graded (g : DependencyGraph) (order : List String) (table : List (String × Nat)) : Prop where
  keys : table.map (·.1) = order
  values : table.map (·.2) = order.map (levelIn table)
  levels : ∀ x ∈ order, levelIn table x = aboveAll (levelIn table) (g.parents.get x)

/-- Grading the next table of a placed list keeps the levels of the earlier ones. -/
theorem Graded.snoc {order : List String} {table : List (String × Nat)} {id : String}
    (graded : Graded g order table) (before : ∀ c ∈ order, ∀ p ∈ g.parents.get c, p ∈ order)
    (fresh : id ∉ order) (refs : ∀ p ∈ g.parents.get id, p ∈ order) :
    Graded g (order ++ [id]) (table ++ [(id, aboveAll (levelIn table) (g.parents.get id))]) := by
  have kept : ∀ p ∈ order, levelIn (table ++ [(id, aboveAll (levelIn table) (g.parents.get id))]) p =
      levelIn table p := fun p mem => levelIn_append_of_mem (graded.keys ▸ mem)
  have placed : levelIn (table ++ [(id, aboveAll (levelIn table) (g.parents.get id))]) id =
      aboveAll (levelIn table) (g.parents.get id) := levelIn_append_of_not_mem (graded.keys ▸ fresh)
  refine ⟨by simp [graded.keys], ?_, ?_⟩
  · rw [List.map_append, List.map_append, graded.values, List.map_singleton, List.map_singleton, placed,
      List.map_congr_left kept]
  · intro x mem
    rcases List.mem_append.mp mem with old | new
    · rw [kept x old, graded.levels x old]
      exact aboveAll_congr (fun _ => Iff.rfl) fun p ref => (kept p (before x old p ref)).symm
    · rw [List.mem_singleton.mp new, placed]
      exact aboveAll_congr (fun _ => Iff.rfl) fun p ref => (kept p (refs p ref)).symm

theorem levelCount_of_ne_nil {table : List (String × Nat)} (nonempty : table ≠ []) :
    levelCount table = (table.map (·.2)).foldl max 0 + 1 := by
  simp [levelCount, nonempty]

theorem Graded.ne_nil {order : List String} {table : List (String × Nat)} (graded : Graded g order table)
    {x : String} (mem : x ∈ order) : table ≠ [] := by
  rintro rfl
  rw [← graded.keys, List.map_nil] at mem
  exact List.not_mem_nil mem

/-- Every level of a graded list is below the number of levels. -/
theorem Graded.lt_levelCount {order : List String} {table : List (String × Nat)}
    (graded : Graded g order table) {x : String} (mem : x ∈ order) : levelIn table x < levelCount table := by
  rw [levelCount_of_ne_nil (graded.ne_nil mem), Nat.lt_succ_iff]
  refine (foldl_max_spec _ 0).2 _ (List.mem_cons_of_mem _ ?_)
  rw [graded.values]
  exact List.mem_map_of_mem mem

/-- The number of levels of a graded list is one more than the level of one of its tables. -/
theorem Graded.levelCount_attained {order : List String} {table : List (String × Nat)}
    (graded : Graded g order table) (pos : 0 < levelCount table) :
    ∃ y ∈ order, levelCount table = levelIn table y + 1 := by
  have nonempty : table ≠ [] := by
    rintro rfl
    simp [levelCount] at pos
  obtain ⟨x, mem⟩ : ∃ x, x ∈ order := by
    rw [← graded.keys]
    exact List.exists_mem_of_ne_nil _ (by simpa using nonempty)
  obtain ⟨highest, bound⟩ := foldl_max_spec (table.map (·.2)) 0
  rw [levelCount_of_ne_nil nonempty]
  rw [graded.values] at highest bound ⊢
  rcases List.mem_cons.mp highest with zero | listed
  · -- every level is 0, that of `x` among them
    have low := bound _ (List.mem_cons_of_mem _ (List.mem_map_of_mem mem))
    exact ⟨x, mem, by omega⟩
  · obtain ⟨y, inOrder, same⟩ := List.mem_map.mp listed
    exact ⟨y, inOrder, by rw [same]⟩

theorem Placed.before {order : List String} (placed : Placed g order) :
    ∀ c ∈ order, ∀ p ∈ g.references c, p ∈ order :=
  fun c mem p ref => (placed.after c mem p ref).subset (List.mem_cons_self)

theorem Placed.last_fresh {order : List String} {x : String} (placed : Placed g (order ++ [x])) :
    x ∉ order :=
  fun mem => (List.nodup_append.mp placed.distinct).2.2 x mem x (List.mem_singleton_self x) rfl

/-- A placed list without its last table is placed. -/
theorem Placed.dropLast {order : List String} {x : String} (placed : Placed g (order ++ [x])) :
    Placed g order where
  distinct := placed.distinct.sublist (List.sublist_append_left order [x])
  nodes c mem := placed.nodes c (List.mem_append_left _ mem)
  after c mem p ref := by
    obtain ⟨front, back, split, inFront, inBack⟩ :=
      List.sublist_append_iff.mp (placed.after c (List.mem_append_left _ mem) p ref)
    rcases List.sublist_singleton.mp inBack with rfl | rfl
    · simpa [split] using inFront
    · -- `[p, c]` would end with `x`, which comes after all of `order`
      have last : c = x := by simpa using congrArg List.getLast? split
      exact absurd (last ▸ mem) placed.last_fresh

/-- Grading a placed list table by table gives every table its level. -/
theorem levelTable_graded (cons : Consistent g) (wf : WellFormed g) :
    ∀ order, Placed g order → Graded g order (g.levelTable order) := by
  intro order
  induction order using List.reverseRecOn with
  | nil => exact fun _ => ⟨rfl, rfl, fun _ mem => absurd mem List.not_mem_nil⟩
  | append_singleton order x ih =>
    intro placed
    have earlier := placed.dropLast
    -- the tables `x` references are placed before it, and none of them is `x`
    have refs : ∀ p ∈ g.parents.get x, p ∈ order := by
      intro p parent
      have ref : p ∈ g.references x := mem_sortIds.mpr parent
      have edge : g.Edge p x := cons.mem_references_iff.mp ref
      have other : p ≠ x := fun same => wf.irrefl p (by rwa [← same] at edge)
      have inAll : p ∈ order ++ [x] := (placed.after x (List.mem_append_right _ (List.mem_singleton_self x)) p ref).subset
        (List.mem_cons_self)
      simpa [other] using inAll
    have before : ∀ c ∈ order, ∀ p ∈ g.parents.get c, p ∈ order :=
      fun c mem p parent => earlier.before c mem p (mem_sortIds.mpr parent)
    simp only [levelTable, List.foldl_append, List.foldl_cons, List.foldl_nil]
    exact (ih earlier).snoc before placed.last_fresh refs

section ByLevel

variable {sorted : List String} {level : String → Nat} {count : Nat}

theorem mem_filter_level {i : Nat} {x : String} :
    x ∈ sorted.filter (fun id => level id == i) ↔ x ∈ sorted ∧ level x = i := by
  simp

theorem mem_byLevel_getD {i : Nat} {x : String} :
    x ∈ (byLevel sorted level count).getD i [] ↔ i < count ∧ x ∈ sorted ∧ level x = i := by
  rw [byLevel, List.getD_eq_getElem?_getD, List.getElem?_map]
  by_cases below : i < count
  · rw [List.getElem?_range below]
    simp [below]
  · rw [List.getElem?_eq_none (by simpa using below)]
    simp [below]

theorem mem_byLevel {l : List String} :
    l ∈ byLevel sorted level count ↔ ∃ i < count, l = sorted.filter fun id => level id == i := by
  simp [byLevel, eq_comm]

theorem byLevel_sorted (sortedLT : sorted.SortedLT) : ∀ l ∈ byLevel sorted level count, l.SortedLT := by
  intro l mem
  obtain ⟨i, -, rfl⟩ := mem_byLevel.mp mem
  exact List.sortedLT_iff_pairwise.mpr ((List.sortedLT_iff_pairwise.mp sortedLT).filter _)

theorem byLevel_ne_nil (reached : ∀ i < count, ∃ x ∈ sorted, level x = i) :
    ∀ l ∈ byLevel sorted level count, l ≠ [] := by
  intro l mem
  obtain ⟨i, below, rfl⟩ := mem_byLevel.mp mem
  obtain ⟨x, inSorted, atLevel⟩ := reached i below
  exact List.ne_nil_of_mem (mem_filter_level.mpr ⟨inSorted, atLevel⟩)

/-- When every table's level is below `count`, the lists by level hold every table once. -/
theorem flatten_byLevel_perm (distinct : sorted.Nodup) (bounded : ∀ x ∈ sorted, level x < count) :
    (byLevel sorted level count).flatten.Perm sorted := by
  have nodup : (byLevel sorted level count).flatten.Nodup := by
    refine List.nodup_flatten.mpr ⟨fun l mem => ?_, ?_⟩
    · obtain ⟨i, -, rfl⟩ := mem_byLevel.mp mem
      exact distinct.filter _
    · -- two lists of different levels share no table
      refine List.pairwise_map.mpr (List.pairwise_lt_range.imp fun {i j} lt x inI inJ => ?_)
      have atI : level x = i := (mem_filter_level.mp inI).2
      have atJ : level x = j := (mem_filter_level.mp inJ).2
      omega
  refine (List.perm_ext_iff_of_nodup nodup distinct).mpr fun x => ?_
  rw [List.mem_flatten]
  constructor
  · rintro ⟨l, listed, mem⟩
    obtain ⟨i, -, rfl⟩ := mem_byLevel.mp listed
    exact (mem_filter_level.mp mem).1
  · intro mem
    exact ⟨_, mem_byLevel.mpr ⟨level x, bounded x mem, rfl⟩, mem_filter_level.mpr ⟨mem, rfl⟩⟩

end ByLevel

section Equation

variable {level : String → Nat}

/-- A table's level is above the level of every table it references. -/
theorem level_lt_of_mem_references (levels : ∀ x ∈ g.ids, level x = aboveAll level (g.references x))
    {x p : String} (node : x ∈ g.ids) (ref : p ∈ g.references x) : level p < level x := by
  have above := @le_aboveAll level _ _ ref
  rw [← levels x node] at above
  omega

/-- A table above level 0 references one a level below it. -/
theorem exists_reference_below (cons : Consistent g) (wf : WellFormed g)
    (levels : ∀ x ∈ g.ids, level x = aboveAll level (g.references x)) {x : String} {i : Nat}
    (node : x ∈ g.ids) (atLevel : level x = i + 1) : ∃ p ∈ g.references x, p ∈ g.ids ∧ level p = i := by
  have pos : 0 < aboveAll level (g.references x) := by
    rw [← levels x node, atLevel]
    omega
  obtain ⟨p, ref, step⟩ := aboveAll_attained pos
  rw [← levels x node, atLevel] at step
  exact ⟨p, ref, wf.source (cons.mem_references_iff.mp ref), by omega⟩

/-- Below a table at level `n` there are tables at each lower level. -/
theorem exists_at_level (cons : Consistent g) (wf : WellFormed g)
    (levels : ∀ x ∈ g.ids, level x = aboveAll level (g.references x)) :
    ∀ n x, x ∈ g.ids → level x = n → ∀ i ≤ n, ∃ y ∈ g.ids, level y = i
  | 0, x, node, atLevel, i, le => ⟨x, node, by omega⟩
  | n + 1, x, node, atLevel, i, le => by
    by_cases top : i = n + 1
    · exact ⟨x, node, atLevel.trans top.symm⟩
    · obtain ⟨p, -, nodeP, atP⟩ := exists_reference_below cons wf levels node atLevel
      exact exists_at_level cons wf levels n p nodeP atP i (by omega)

end Equation

section Table

variable {order : List String}

/-- Along a placed list of every table, each table's level is one more than the highest level
of the tables it references. -/
theorem levelTable_levels (cons : Consistent g) (wf : WellFormed g) (placed : Placed g order)
    (complete : ∀ x ∈ g.ids, x ∈ order) :
    ∀ x ∈ g.ids, levelIn (g.levelTable order) x = aboveAll (levelIn (g.levelTable order)) (g.references x) := by
  intro x node
  rw [(levelTable_graded cons wf order placed).levels x (complete x node)]
  exact aboveAll_congr (fun _ => mem_sortIds.symm) fun _ _ => rfl

/-- The number of levels `levels` lists covers every table's level, and each of them is some
table's level. -/
theorem levelTable_count (cons : Consistent g) (wf : WellFormed g) (placed : Placed g order)
    (complete : ∀ x ∈ g.ids, x ∈ order) :
    (∀ x ∈ g.ids, levelIn (g.levelTable order) x < levelCount (g.levelTable order)) ∧
      ∀ i < levelCount (g.levelTable order), ∃ x ∈ g.ids, levelIn (g.levelTable order) x = i := by
  have graded := levelTable_graded cons wf order placed
  refine ⟨fun x node => graded.lt_levelCount (complete x node), fun i lt => ?_⟩
  obtain ⟨top, mem, count⟩ := graded.levelCount_attained (by omega)
  -- below the highest level there are tables at each level
  exact exists_at_level cons wf (levelTable_levels cons wf placed complete) _ top (placed.nodes top mem) rfl i
    (by omega)

end Table

/-- For a built graph with no cycle of references, the levels are found: non-empty sorted lists
that hold every table once, the tables of each level, where the level of a table is one more
than the highest level of the tables it references and 0 when it references none. So no table
references another of its level, and every table above level 0 references one a level below. -/
theorem levels_longest_path (built : Built g) (acyclic : ∀ v, ¬ TransGen g.Edge v v) :
    ∃ (ls : List (List String)) (level : String → Nat), g.levels = .ok ls ∧
      ls.flatten.Perm g.ids ∧ (∀ l ∈ ls, l ≠ [] ∧ l.SortedLT) ∧
      (∀ i x, x ∈ ls.getD i [] ↔ x ∈ g.ids ∧ level x = i) ∧
      (∀ x ∈ g.ids, level x = aboveAll level (g.references x)) ∧
      (∀ l ∈ ls, ∀ a ∈ l, ∀ b ∈ l, b ∉ g.references a) ∧
      (∀ i x, x ∈ ls.getD (i + 1) [] → ∃ p ∈ g.references x, p ∈ ls.getD i []) := by
  have cons := built.consistent
  have wf := built.wellFormed
  obtain ⟨order, ok, placed, complete⟩ := creationOrder_placed built acyclic
  have levels := levelTable_levels cons wf placed complete
  obtain ⟨bounded, reached⟩ := levelTable_count cons wf placed complete
  have sortedMembers : ∀ x, x ∈ g.sortedIds ↔ x ∈ g.ids := fun x => mem_sortIds
  -- a table is in the list at `i` exactly when it is a table of level `i`
  have atLevel : ∀ i x, x ∈ (byLevel g.sortedIds (levelIn (g.levelTable order))
      (levelCount (g.levelTable order))).getD i [] ↔
      x ∈ g.ids ∧ levelIn (g.levelTable order) x = i := by
    intro i x
    rw [mem_byLevel_getD, sortedMembers]
    constructor
    · rintro ⟨-, node, same⟩
      exact ⟨node, same⟩
    · rintro ⟨node, rfl⟩
      exact ⟨bounded x node, node, rfl⟩
  have sortedPerm : g.sortedIds.Perm g.ids := List.mergeSort_perm g.ids _
  refine ⟨_, _, levels_of_ok ok, ?_, fun l mem => ⟨?_, ?_⟩, atLevel, levels, ?_, ?_⟩
  · exact (flatten_byLevel_perm (sortedPerm.nodup_iff.mpr cons.nodup)
      fun x mem => bounded x ((sortedMembers x).mp mem)).trans sortedPerm
  · refine byLevel_ne_nil (fun i lt => ?_) l mem
    obtain ⟨x, node, same⟩ := reached i lt
    exact ⟨x, (sortedMembers x).mpr node, same⟩
  · exact byLevel_sorted (sortIds_sortedLT cons.nodup) l mem
  · -- the tables of one list share a level, and a reference goes to a lower level
    intro l mem a inA b inB ref
    obtain ⟨i, -, rfl⟩ := mem_byLevel.mp mem
    obtain ⟨sortedA, atA⟩ := mem_filter_level.mp inA
    have atB := (mem_filter_level.mp inB).2
    have lower := level_lt_of_mem_references levels ((sortedMembers a).mp sortedA) ref
    omega
  · intro i x mem
    obtain ⟨node, above⟩ := (atLevel (i + 1) x).mp mem
    obtain ⟨p, ref, nodeP, atP⟩ := exists_reference_below cons wf levels node above
    exact ⟨p, ref, (atLevel i p).mpr ⟨nodeP, atP⟩⟩

theorem tableDiamond_levels :
    Built tableDiamond ∧ (∀ v, ¬ TransGen tableDiamond.Edge v v) ∧
      ∃ (ls : List (List String)) (level : String → Nat), tableDiamond.levels = .ok ls ∧
        ls.flatten.Perm tableDiamond.ids ∧ (∀ l ∈ ls, l ≠ [] ∧ l.SortedLT) ∧
        (∀ i x, x ∈ ls.getD i [] ↔ x ∈ tableDiamond.ids ∧ level x = i) ∧
        (∀ x ∈ tableDiamond.ids, level x = aboveAll level (tableDiamond.references x)) ∧
        (∀ l ∈ ls, ∀ a ∈ l, ∀ b ∈ l, b ∉ tableDiamond.references a) ∧
        (∀ i x, x ∈ ls.getD (i + 1) [] → ∃ p ∈ tableDiamond.references x, p ∈ ls.getD i []) :=
  ⟨tableDiamond_built, tableDiamond_acyclic, levels_longest_path tableDiamond_built tableDiamond_acyclic⟩

example : tableDiamond.levels = .ok [["d.a"], ["d.b"], ["d.c"]] := by cbv

end DependencyGraph

end DdlCatalog.Graph
