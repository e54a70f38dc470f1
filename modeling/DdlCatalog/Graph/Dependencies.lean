import DdlCatalog.Catalog.Store
/-!
The dependency graph of the tables of a catalog. A table depends on every table its foreign
keys reference, so the graph gives an order in which the tables can be created, and what a
change to one table reaches.

Tables are identified by `schema.table`; two tables may share one identifier. Edges run from a
referenced table to the tables that reference it. A foreign key to its own table adds no edge
and is listed separately, since it never constrains the creation order. Listings are sorted by
identifier.
-/

namespace DdlCatalog.Graph

open DdlCatalog.Catalog

/-- A map from identifiers to lists of identifiers, in insertion order. -/
abbrev Adjacency := List (String × List String)

/-- The list an identifier maps to. -/
def Adjacency.get (a : Adjacency) (id : String) : List String := (a.lookup id).getD []

/-- Appends `v` to the list of `k` unless it is there. -/
def Adjacency.add (a : Adjacency) (k v : String) : Adjacency :=
  a.map fun (k', vs) => if k' == k && !vs.contains v then (k', vs ++ [v]) else (k', vs)

/-- Sorts identifiers. -/
def sortIds (ids : List String) : List String := ids.mergeSort

/-- The dependency graph of a catalog. -/
structure DependencyGraph where
  /-- The identifiers, in catalog order, each once. -/
  ids : List String := []
  /-- Referenced table to referencing tables. -/
  edges : Adjacency := []
  /-- Referencing table to referenced tables. -/
  parents : Adjacency := []
  /-- Tables with a foreign key to themselves. -/
  self : List String := []
deriving Repr, Inhabited

namespace DependencyGraph

/-- Adds a table identifier. -/
def addTable (g : DependencyGraph) (id : String) : DependencyGraph :=
  if g.ids.contains id then g
  else { g with ids := g.ids ++ [id], edges := g.edges ++ [(id, [])], parents := g.parents ++ [(id, [])] }

/-- Records that `child` references `parent`; both must be in the graph. -/
def addEdge (g : DependencyGraph) (parent child : String) : DependencyGraph :=
  if !g.ids.contains parent || !g.ids.contains child then g
  else if parent == child then
    if g.self.contains parent then g else { g with self := g.self ++ [parent] }
  else { g with edges := g.edges.add parent child, parents := g.parents.add child parent }

/-- The graph of every table of a catalog. Foreign keys whose target did not resolve add no
edge. -/
def build (c : Catalog) : DependencyGraph :=
  let tables := c.schemas.flatMap fun s => s.tables.map fun t => (s.name ++ "." ++ t.name, t)
  let g := tables.foldl (fun g (id, _) => g.addTable id) {}
  tables.foldl (fun g (id, t) =>
    t.foreignKeys.foldl (fun g fk =>
      match fk.referencedTable.bind c.qualifiedTable with
      | some parent => g.addEdge parent id
      | none => g) g) g

/-- The number of tables. -/
def size (g : DependencyGraph) : Nat := g.ids.length

/-- The number of distinct table-to-table references. -/
def edgeCount (g : DependencyGraph) : Nat := (g.edges.map (·.2.length)).foldr (· + ·) 0

/-- The tables `id` references directly. -/
def references (g : DependencyGraph) (id : String) : List String := sortIds (g.parents.get id)

/-- The tables that reference `id` directly. -/
def referencedBy (g : DependencyGraph) (id : String) : List String := sortIds (g.edges.get id)

/-- The tables with a foreign key to themselves. -/
def selfReferencing (g : DependencyGraph) : List String := sortIds g.self

/-- The identifiers in sorted order. -/
def sortedIds (g : DependencyGraph) : List String := sortIds g.ids

/-- The tables that reference no other table. -/
def roots (g : DependencyGraph) : List String := g.sortedIds.filter fun id => (g.parents.get id).isEmpty

/-- Every table reached from `id` along `next`, other than `id` itself, sorted. -/
def reach (g : DependencyGraph) (next : Adjacency) (id : String) : List String :=
  let rec go : Nat → List String → List String → List String
    | 0, _, seen => seen
    | _ + 1, [], seen => seen
    | fuel + 1, cur :: stack, seen =>
      let fresh := (next.get cur).filter fun n => !seen.contains n && n != id
      let seen := fresh.foldl (fun s n => if s.contains n then s else s ++ [n]) seen
      go fuel (fresh ++ stack) seen
  sortIds (go ((g.ids.length + 1) * (g.ids.length + 1)) [id] [])

/-- Every table that references `id`, directly or through others. -/
def dependents (g : DependencyGraph) (id : String) : List String := g.reach g.edges id

/-- Every table `id` references, directly or through others. -/
def dependencies (g : DependencyGraph) (id : String) : List String := g.reach g.parents id

/-- The search state for a cycle: finished and active nodes, and the tree edges taken. -/
structure CycleSearch where
  active : List String := []
  done : List String := []
  parentOf : List (String × String) := []

/-- Follows the tree edges back from `cur` to `stop`. -/
def pathBack (from_ : List (String × String)) (stop : String) : Nat → String → List String
  | 0, _ => []
  | fuel + 1, cur => if cur == stop then [] else cur :: pathBack from_ stop fuel ((from_.lookup cur).getD stop)

/-- Depth-first search from `id` for an edge back to an active node; gives the cycle found,
first table repeated last. -/
def visit (g : DependencyGraph) : Nat → String → CycleSearch → Option (List String) × CycleSearch
  | 0, _, st => (none, st)
  | fuel + 1, id, st =>
    let st := { st with active := id :: st.active }
    let rec children : List String → CycleSearch → Option (List String) × CycleSearch
      | [], st => (none, st)
      | child :: rest, st =>
        if st.active.contains child then
          let path := child :: pathBack st.parentOf child (g.ids.length + 1) id ++ [child]
          (some path.reverse, st)
        else if st.done.contains child then children rest st
        else
          match visit g fuel child { st with parentOf := (child, id) :: st.parentOf } with
          | (some c, st) => (some c, st)
          | (none, st) => children rest st
    match children (g.referencedBy id) st with
    | (some c, st) => (some c, st)
    | (none, st) => (none, { st with active := st.active.erase id, done := id :: st.done })

/-- One cycle of references, first table repeated last, or `none` when the tables can be
created in some order. -/
def cycle (g : DependencyGraph) : Option (List String) :=
  let rec go : List String → CycleSearch → Option (List String)
    | [], _ => none
    | id :: rest, st =>
      if st.done.contains id || st.active.contains id then go rest st
      else match visit g (g.ids.length + 1) id st with
        | (some c, _) => some c
        | (none, st) => go rest st
  go g.sortedIds {}

/-- The message for a cycle. -/
def cycleMessage (path : List String) : String := "foreign key cycle: " ++ " -> ".intercalate path

/-- The tables in an order in which each comes after every table it references; ties are
broken by name. -/
def creationOrder (g : DependencyGraph) : Except String (List String) :=
  match g.cycle with
  | some c => .error (cycleMessage c)
  | none =>
    let rec place : Nat → String → List String → List String
      | 0, _, order => order
      | fuel + 1, id, order =>
        if order.contains id then order
        else
          -- mark the node before its parents, as a depth-first visit does
          let order' := (g.references id).foldl (fun o p => place fuel p o) order
          if order'.contains id then order' else order' ++ [id]
    .ok (g.sortedIds.foldl (fun o id => place (g.ids.length + 1) id o) [])

/-- The tables grouped by level: level 0 references nothing, and a table at level `n`
references at least one table at level `n - 1`; an empty graph has no levels. The tables of one level are independent of
each other. Levels are computed along the creation order, where every table comes after the
tables it references. -/
def levels (g : DependencyGraph) : Except String (List (List String)) := do
  let order ← g.creationOrder
  let leveled : List (String × Nat) := order.foldl (fun acc id =>
    let l := (g.parents.get id).foldl (fun l p => max l (((acc.lookup p).getD 0) + 1)) 0
    acc ++ [(id, l)]) []
  let top := (leveled.map (·.2)).foldl max 0
  let count := if leveled.isEmpty then 0 else top + 1
  pure ((List.range count).map fun l =>
    g.sortedIds.filter fun id => (leveled.lookup id).getD 0 == l)

end DependencyGraph

end DdlCatalog.Graph
