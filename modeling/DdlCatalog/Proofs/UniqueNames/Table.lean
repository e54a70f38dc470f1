import DdlCatalog.Proofs.Names
import DdlCatalog.Analysis.Builder
/-!
The keys of one table: its columns have distinct names, its indexes have distinct names, and the
primary key is the one index of kind `PRIMARY`. The analysis changes a table in a handful of
ways (a member is appended, replaced, renamed or dropped, key parts are rewritten); each keeps
the keys when the guard the analysis checks before it holds.

Handles are tracked beside the names. A new member gets a handle above every handle held so far,
so it never shares one with an old member, and replacing members by handle touches exactly one.
-/

namespace DdlCatalog.Catalog

namespace Table

/-- The handles of the indexes of kind `PRIMARY`. -/
def primaryIds (t : Table) : List Nat := (t.indexes.filter (·.type == .primary)).map (·.id)

/-- Column names and index names are distinct, and `primaryKey` names the only primary key. -/
structure Keys (cs : Bool) (t : Table) : Prop where
  columns : NamesDistinct cs (t.columns.map (·.name))
  indexes : NamesDistinct cs (t.indexes.map (·.name))
  primary : t.primaryIds = t.primaryKey.toList

/-- Every column the primary key names is `NOT NULL`. -/
def PrimaryNotNull (cs : Bool) (t : Table) : Prop :=
  ∀ pk, t.primaryIndex = some pk → ∀ name ∈ pk.columnNames, ∀ c ∈ t.columns,
    nameEqual cs c.name name = true → c.notNull = true

/-- The table's own handle and those of its members are at most `n`, and members of one kind have
distinct handles. -/
structure Handles (n : Nat) (t : Table) : Prop where
  own : t.id ≤ n
  columns : (t.columns.map (·.id)).Nodup
  indexes : (t.indexes.map (·.id)).Nodup
  foreignKeys : (t.foreignKeys.map (·.id)).Nodup
  columnsBelow : ∀ c ∈ t.columns, c.id ≤ n
  indexesBelow : ∀ i ∈ t.indexes, i.id ≤ n
  foreignKeysBelow : ∀ f ∈ t.foreignKeys, f.id ≤ n

theorem Handles.mono {n m : Nat} {t : Table} (held : t.Handles n) (grown : n ≤ m) : t.Handles m :=
  ⟨Nat.le_trans held.own grown, held.columns, held.indexes, held.foreignKeys,
    fun c mem => Nat.le_trans (held.columnsBelow c mem) grown,
    fun i mem => Nat.le_trans (held.indexesBelow i mem) grown,
    fun f mem => Nat.le_trans (held.foreignKeysBelow f mem) grown⟩

/-- The keys read only the column names, the index names and the primary key. -/
theorem Keys.congr {cs : Bool} {t u : Table} (keys : t.Keys cs)
    (columns : u.columns.map (·.name) = t.columns.map (·.name))
    (indexes : u.indexes.map (·.name) = t.indexes.map (·.name))
    (primary : u.primaryIds = t.primaryIds) (primaryKey : u.primaryKey = t.primaryKey) :
    u.Keys cs :=
  ⟨columns ▸ keys.columns, indexes ▸ keys.indexes, by rw [primary, primaryKey]; exact keys.primary⟩

/-- An index whose name is new, and which is not a second primary key, can be appended. -/
theorem Keys.append_index {cs : Bool} {t : Table} {idx : Index} (keys : t.Keys cs)
    (fresh : ∀ i ∈ t.indexes, nameEqual cs i.name idx.name = false)
    (single : idx.type = .primary → t.primaryKey = none) :
    { t with indexes := t.indexes ++ [idx],
             primaryKey := if idx.type == IndexType.primary then some idx.id else t.primaryKey }.Keys cs := by
  refine ⟨keys.columns, ?_, ?_⟩
  · simpa [namesDistinct_append_single] using And.intro keys.indexes fresh
  · have old := keys.primary
    by_cases primary : idx.type = .primary
    · simp only [primaryIds, single primary, Option.toList_none, List.map_eq_nil_iff,
        List.filter_eq_nil_iff, beq_iff_eq] at old
      simpa [primaryIds, List.filter_append, primary, single primary] using old
    · simpa [primaryIds, List.filter_append, primary] using old

/-- A member with a handle above every handle held joins with a handle of its own. -/
theorem nodup_append_above {α : Type} {key : α → Nat} {xs : List α} {y : α} {n : Nat}
    (ids : (xs.map key).Nodup) (below : ∀ x ∈ xs, key x ≤ n) (above : n < key y) :
    ((xs ++ [y]).map key).Nodup := by
  simp only [List.map_append, List.map_cons, List.map_nil, List.nodup_append, List.nodup_cons,
    List.not_mem_nil, not_false_eq_true, List.nodup_nil, and_self, List.mem_singleton, true_and]
  refine ⟨ids, fun k mem same => ?_⟩
  obtain ⟨x, member, rfl⟩ := List.mem_map.mp mem
  have := below x member
  omega

theorem below_append_above {α : Type} {key : α → Nat} {xs : List α} {y : α} {n : Nat}
    (below : ∀ x ∈ xs, key x ≤ n) (above : n < key y) : ∀ x ∈ xs ++ [y], key x ≤ key y := by
  intro x mem
  rcases List.mem_append.mp mem with old | new
  · exact Nat.le_trans (below x old) (Nat.le_of_lt above)
  · exact Nat.le_of_eq (congrArg key (List.mem_singleton.mp new))

theorem Handles.append_index {n : Nat} {t : Table} {idx : Index} {pk : Option Nat} (held : t.Handles n)
    (above : n < idx.id) :
    { t with indexes := t.indexes ++ [idx], primaryKey := pk }.Handles idx.id :=
  ⟨Nat.le_trans held.own (Nat.le_of_lt above), held.columns,
    nodup_append_above held.indexes held.indexesBelow above, held.foreignKeys,
    fun c mem => Nat.le_trans (held.columnsBelow c mem) (Nat.le_of_lt above),
    below_append_above held.indexesBelow above,
    fun f mem => Nat.le_trans (held.foreignKeysBelow f mem) (Nat.le_of_lt above)⟩

theorem Handles.append_foreignKey {n : Nat} {t : Table} {fk : ForeignKey} (held : t.Handles n)
    (above : n < fk.id) : { t with foreignKeys := t.foreignKeys ++ [fk] }.Handles fk.id :=
  ⟨Nat.le_trans held.own (Nat.le_of_lt above), held.columns, held.indexes,
    nodup_append_above held.foreignKeys held.foreignKeysBelow above,
    fun c mem => Nat.le_trans (held.columnsBelow c mem) (Nat.le_of_lt above),
    fun i mem => Nat.le_trans (held.indexesBelow i mem) (Nat.le_of_lt above),
    below_append_above held.foreignKeysBelow above⟩

/-- Changing columns in what they hold, not in name or nullability, keeps the primary key
`NOT NULL`. -/
theorem PrimaryNotNull.map_columns {cs : Bool} {t : Table} (notNull : t.PrimaryNotNull cs)
    (f : Column → Column) (name : ∀ c, (f c).name = c.name) (kept : ∀ c, (f c).notNull = c.notNull) :
    { t with columns := t.columns.map f }.PrimaryNotNull cs := by
  intro pk primary n mem c inColumns same
  obtain ⟨c, member, rfl⟩ := List.mem_map.mp inColumns
  rw [kept]
  exact notNull pk primary n mem c member (by rwa [name] at same)

end Table

end DdlCatalog.Catalog
