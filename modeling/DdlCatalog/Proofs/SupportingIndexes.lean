import DdlCatalog.Proofs.UniqueNames.Builder
/-!
# Supporting indexes of new foreign keys

When a statement ends, `finish` gives every foreign key the statement created an index: the first
index whose leading key parts are the key's columns, else the index that has the name the key
asks for (the name after `FOREIGN KEY`, else the constraint's name), else a new index over the
key's columns. A name the table generates for a new index is always free (`freeIndexName_free`),
so the index linked to a key covers the key's columns unless it was taken by the name the key
asks for, whatever it covers, or the key has no columns: `finish_links_new_foreign_keys`.
-/

namespace DdlCatalog.Analysis

open DdlCatalog.Catalog

/-! Generated index names are free. -/

theorem fold_append (a b : String) : Text.fold (a ++ b) = Text.fold a ++ Text.fold b := by
  simp only [Text.fold, String.toList_append, List.flatMap_append, String.ofList_append]

/-- An underscore and a number fold to themselves. -/
theorem fold_numberSuffix (i : Nat) : Text.fold ("_" ++ toString i) = "_" ++ toString i := by
  have digits : ∀ c ∈ (toString i).toList, Text.foldChar c = [c] := by
    rw [Nat.toString_eq_ofList_toDigits, String.toList_ofList]
    intro c inside
    have digit := Nat.isDigit_of_mem_toDigits (by decide) (by decide) inside
    have small : c.toNat < 0x80 := by
      have bound := (Char.isDigit_iff_toNat.mp digit).2
      simp only [Char.reduceToNat] at bound
      omega
    have table : ∀ n < 0x80, (Char.ofNat n).isDigit = true → (Char.ofNat n).toLower = Char.ofNat n := by
      decide
    have same := table c.toNat small (by rwa [Char.ofNat_toNat])
    rw [Char.ofNat_toNat] at same
    simp [Text.foldChar, small, same]
  simp only [Text.fold, String.toList_append, List.flatMap_append]
  rw [List.flatMap_congr digits (f := Text.foldChar) (g := fun c => [c])]
  simp [Text.foldChar, ← Nat.toString_eq_ofList_toDigits]

/-- Two numbered forms of one name are the same name only for the same number. -/
theorem numbered_inj {cs : Bool} {base : String} {i j : Nat}
    (same : nameEqual cs (base ++ "_" ++ toString i) (base ++ "_" ++ toString j) = true) : i = j := by
  have folded : Text.fold (base ++ "_" ++ toString i) = Text.fold (base ++ "_" ++ toString j) := by
    rw [nameEqual_iff_fold] at same
    cases cs with
    | true => simp only [if_true] at same; rw [same]
    | false => simpa [foldName] using same
  rw [String.append_assoc, String.append_assoc, fold_append base, fold_append base, fold_numberSuffix,
    fold_numberSuffix] at folded
  have suffix := (String.append_right_inj (Text.fold base)).mp folded
  exact Nat.repr_inj.mp ((String.append_right_inj "_").mp suffix)

/-- An index found by name is an index of the table, of that name. -/
theorem findIndex_mem {t : Table} {cs : Bool} {name : String} {idx : Index}
    (found : t.findIndex cs name = some idx) : idx ∈ t.indexes ∧ nameEqual cs idx.name name = true :=
  findNamed_mem (fun i : Index => i.name) cs name found

/-- Trying the numbered names from `i` on, `fuel` of them, gives a free one when one of them is
free. -/
theorem go_free (base : String) (taken : String → Bool) : ∀ (fuel i : Nat),
    (∃ j, i ≤ j ∧ j < i + fuel ∧ taken (base ++ "_" ++ toString j) = false) →
      taken (freeIndexName.go base taken fuel i) = false
  | 0, i, ⟨j, low, high, _⟩ => by omega
  | fuel + 1, i, ⟨j, low, high, free⟩ => by
    rw [freeIndexName.go]
    split
    · rename_i hit
      have later : j ≠ i := by
        rintro rfl
        rw [hit] at free
        cases free
      exact go_free base taken fuel (i + 1) ⟨j, by omega, by omega, free⟩
    · rename_i miss
      simpa using miss

/-- A table of `n` indexes leaves one of `n + 1` numbered forms of a name free: two of them
would otherwise name the same index. -/
theorem exists_free_number (cs : Bool) (t : Table) (base : String) :
    ∃ j, 2 ≤ j ∧ j < 2 + (t.indexes.length + 1) ∧
      (t.findIndex cs (base ++ "_" ++ toString j)).isSome = false := by
  by_contra all
  simp only [not_exists, not_and, Bool.not_eq_false] at all
  let f : Nat → Option Index := fun j => t.findIndex cs (base ++ "_" ++ toString j)
  have maps : ∀ j ∈ Finset.Ico 2 (t.indexes.length + 3), f j ∈ (t.indexes.map some).toFinset := by
    intro j inside
    rw [Finset.mem_Ico] at inside
    obtain ⟨idx, found⟩ := Option.isSome_iff_exists.mp (all j inside.1 (by omega))
    simp only [f, List.mem_toFinset, List.mem_map]
    exact ⟨idx, (findIndex_mem found).1, found.symm⟩
  have card : (t.indexes.map some).toFinset.card < (Finset.Ico 2 (t.indexes.length + 3)).card := by
    calc (t.indexes.map some).toFinset.card
        ≤ (t.indexes.map some).length := List.toFinset_card_le _
      _ < (Finset.Ico 2 (t.indexes.length + 3)).card := by simp
  obtain ⟨j, inJ, k, inK, apart, same⟩ := Finset.exists_ne_map_eq_of_card_lt_of_maps_to card maps
  rw [Finset.mem_Ico] at inJ
  obtain ⟨idx, found⟩ := Option.isSome_iff_exists.mp (all j inJ.1 (by omega))
  have hitJ := (findIndex_mem found).2
  have hitK := (findIndex_mem (show t.findIndex cs (base ++ "_" ++ toString k) = some idx from
    same.symm.trans found)).2
  rw [nameEqual_comm] at hitJ
  exact apart (numbered_inj (nameEqual_trans hitJ hitK))

/-- The name `freeIndexName` gives is had by no index of the table. -/
theorem freeIndexName_free (cs : Bool) (t : Table) (base : String) :
    t.findIndex cs (freeIndexName cs t base) = none := by
  unfold freeIndexName
  dsimp only
  split
  · obtain ⟨j, low, high, free⟩ := exists_free_number cs t base
    simpa using go_free base (fun n => (t.findIndex cs n).isSome) (t.indexes.length + 1) 2 ⟨j, low, high, free⟩
  · exact Option.not_isSome_iff_eq_none.mp ‹_›

/-! Linking one foreign key. -/

/-- The name a foreign key asks its supporting index to have: the one given after
`FOREIGN KEY`, else the constraint's. -/
def askedIndexName (fk : ForeignKey) (indexName : String) : String :=
  if indexName.isEmpty then fk.name else indexName

/-- What the index linked to a foreign key is: one whose leading key parts are the key's columns,
one that has the name the key asks for, or any index when the key has no columns. -/
def Supports (cs : Bool) (fk : ForeignKey) (indexName : String) (idx : Index) : Prop :=
  coversColumns cs idx fk.columnNames = true ∨
    (askedIndexName fk indexName ≠ "" ∧ nameEqual cs idx.name (askedIndexName fk indexName) = true) ∨
    fk.columnNames = []

/-- A fact about no state holds after any step. -/
theorem Spec.of_const {α : Type} {p : Prop} {m : Analyze α} : Spec (fun _ => p) m fun _ _ => p :=
  fun _ held => held

namespace Analyze

variable {cs : Bool}

theorem update_keeps (b : TableBuilder) (f : Table → Table) :
    Spec (fun a => a.options.caseSensitive = cs) (update b f)
      fun b' a => a.options.caseSensitive = cs ∧ b' = { b with table := f b.table } := by
  intro a same
  rw [update_run]
  exact ⟨by split <;> exact same, rfl⟩

/-- A new index over a key's columns covers them, unless there are none. -/
theorem covers_new_index (cs : Bool) (handle : Nat) (name : String) (names : List String)
    (ne : names ≠ []) :
    coversColumns cs { id := handle, name := name, type := .foreign, columns := names.map fun c => { name := c } }
      names = true := by
  have paired := List.zip_map' (f := id) (g := fun c => ({ name := c } : IndexColumn)) (l := names)
  rw [List.map_id] at paired
  -- each column is paired with a part of its own name and no prefix length
  simp only [coversColumns, paired, List.all_map]
  simp [ne]

theorem issue_keeps (kind : ObjectKind) (name : String) :
    Spec (fun a => a.options.caseSensitive = cs) (issue kind name)
      fun _ a => a.options.caseSensitive = cs := by
  intro a same
  rw [issue_run]
  exact same

/-- A key linked to an index: every key of its handle becomes the key with that index. -/
theorem linked_keys (t : Table) (fk : ForeignKey) (idx : Nat) :
    (t.setForeignKey { fk with index := some idx }).foreignKeys =
      t.foreignKeys.map fun g => if g.id == fk.id then { fk with index := some idx } else g := rfl

/-- Linking a foreign key to its supporting index: the table gains at most the new index, the
keys of the foreign key's handle become the key linked to an index that supports it, and the
other keys stay. -/
theorem supportingIndex_links (b : TableBuilder) (fk : ForeignKey) (indexName : String) :
    Spec (fun a => a.options.caseSensitive = cs) (supportingIndex b fk indexName) fun b' a =>
      a.options.caseSensitive = cs ∧ ∃ extra idx,
        b'.table.indexes = b.table.indexes ++ extra ∧
        b'.table.foreignKeys = (b.table.setForeignKey { fk with index := some idx.id }).foreignKeys ∧
        idx ∈ b.table.indexes ++ extra ∧ Supports cs fk indexName idx := by
  -- the link of the first two cases, to an index the table has
  have link : ∀ idx ∈ b.table.indexes, Supports cs fk indexName idx →
      Spec (fun a => a.options.caseSensitive = cs ∧ a.options.caseSensitive = cs)
        (update b fun t => t.setForeignKey { fk with index := some idx.id }) fun b' a =>
          a.options.caseSensitive = cs ∧ ∃ extra idx,
            b'.table.indexes = b.table.indexes ++ extra ∧
            b'.table.foreignKeys = (b.table.setForeignKey { fk with index := some idx.id }).foreignKeys ∧
            idx ∈ b.table.indexes ++ extra ∧ Supports cs fk indexName idx :=
    fun idx mem supports => Spec.conseq (update_keeps b _) (fun _ start => start.1)
      fun b' _ ⟨same, built⟩ => ⟨same, [], idx, by rw [built, List.append_nil]; rfl, by rw [built],
        by rwa [List.append_nil], supports⟩
  unfold supportingIndex
  simp only []
  refine Spec.bind caseSensitive_spec fun cs' => ?_
  refine Spec.of_pre_fact (fun a start => start.1.symm.trans start.2) fun same => ?_
  subst same
  split
  · -- an index covers the key's columns
    rename_i idx covering
    exact link idx (List.mem_of_find?_eq_some covering) (.inl (List.find?_some (p := fun x => coversColumns cs x fk.columnNames) covering))
  split
  · -- an index has the name the key's supporting index takes
    rename_i free idx named
    obtain ⟨mem, hit⟩ := findIndex_mem named
    refine link idx mem (.inr ?_)
    unfold askedIndexName
    by_cases given : indexName.isEmpty = true
    · by_cases own : fk.name.isEmpty = true
      · -- a name of its own for the index is free, so it is not the one found
        cases columns : fk.columnNames with
        | nil => exact .inr rfl
        | cons c rest =>
          simp only [given, own, columns, Bool.not_true, Bool.false_eq_true, if_false,
            List.head?_cons] at named
          rw [freeIndexName_free] at named
          cases named
      · simp only [given, own, Bool.not_true, Bool.not_false, Bool.false_eq_true, if_false,
          if_true] at hit ⊢
        exact .inl ⟨by simpa using own, hit⟩
    · simp only [given, Bool.not_false, if_true, if_false, Bool.false_eq_true] at hit ⊢
      exact .inl ⟨by simpa using given, hit⟩
  · -- a new index over the key's columns
    refine Spec.bind (Spec.conseq (issue_keeps _ _) (fun _ start => start.1) fun _ _ same => same)
      fun id => Spec.bind (update_keeps b _) fun b₁ => ?_
    refine Spec.of_pre_fact (fun _ start => start.2) fun built => ?_
    subst built
    refine Spec.conseq (update_keeps _ _) (fun _ start => start.1) ?_
    rintro b' _ ⟨same, rfl⟩
    refine ⟨same, [_], _, rfl, rfl, List.mem_append_right _ (List.mem_singleton_self _), ?_⟩
    cases columns : fk.columnNames with
    | nil => exact .inr (.inr columns)
    | cons c rest =>
      refine .inl ?_
      rw [← columns]
      exact covers_new_index cs id _ _ (by rw [columns]; exact List.cons_ne_nil c rest)

/-- A foreign key linked to a supporting index: the table has keys of its handle, and every one of
them is the key linked to an index of the table that supports it. -/
structure Linked (cs : Bool) (t : Table) (fk : ForeignKey) (indexName : String) : Prop where
  present : ∃ g ∈ t.foreignKeys, g.id = fk.id
  supported : ∀ g ∈ t.foreignKeys, g.id = fk.id →
    ∃ idx ∈ t.indexes, g = { fk with index := some idx.id } ∧ Supports cs fk indexName idx

namespace Linked

variable {fk : ForeignKey} {indexName : String}

/-- A link survives while the table keeps its indexes and the keys of the handle. -/
theorem of_keys {t u : Table} (linked : Linked cs t fk indexName) (indexes : t.indexes ⊆ u.indexes)
    (keys : u.foreignKeys.filter (·.id == fk.id) = t.foreignKeys.filter (·.id == fk.id)) :
    Linked cs u fk indexName where
  present := by
    obtain ⟨g, mem, same⟩ := linked.present
    have kept : g ∈ u.foreignKeys.filter (·.id == fk.id) := by
      rw [keys, List.mem_filter]
      exact ⟨mem, by simp [same]⟩
    exact ⟨g, (List.mem_filter.mp kept).1, same⟩
  supported := by
    intro g mem same
    have kept : g ∈ t.foreignKeys.filter (·.id == fk.id) := by
      rw [← keys, List.mem_filter]
      exact ⟨mem, by simp [same]⟩
    obtain ⟨idx, inTable, linkedTo, supports⟩ := linked.supported g (List.mem_filter.mp kept).1 same
    exact ⟨idx, indexes inTable, linkedTo, supports⟩

end Linked

/-- Linking the keys of one handle leaves the keys of every other handle. -/
theorem filter_setForeignKey_other (t : Table) (g : ForeignKey) {x : Nat} (other : g.id ≠ x) :
    (t.setForeignKey g).foreignKeys.filter (·.id == x) = t.foreignKeys.filter (·.id == x) := by
  simp only [Table.setForeignKey]
  induction t.foreignKeys with
  | nil => rfl
  | cons h rest ih =>
    by_cases hit : h.id = g.id
    · have skip : (g.id == x) = false := by simpa using other
      simp only [List.map_cons, hit, beq_self_eq_true, if_true, List.filter_cons, skip,
        Bool.false_eq_true, if_false, ih]
    · have keep : (h.id == g.id) = false := by simpa using hit
      simp only [List.map_cons, keep, Bool.false_eq_true, if_false, List.filter_cons, ih]

/-- The links made while going through the pending keys of `b`, the entries `done` so far: the
table has gained indexes only, the keys of the handles not yet reached are as they were, and
every key reached that had no index is linked. -/
structure LinksSoFar (cs : Bool) (b : TableBuilder) (done : List (Nat × String)) (t : Table) : Prop where
  grows : b.table.indexes ⊆ t.indexes
  untouched : ∀ x, x ∉ done.map Prod.fst →
    t.foreignKeys.filter (·.id == x) = b.table.foreignKeys.filter (·.id == x)
  linked : ∀ p ∈ done, ∀ fk, b.table.foreignKeys.find? (·.id == p.1) = some fk → fk.index = none →
    Linked cs t fk p.2

/-- Keys of a handle that stay are found the same. -/
theorem find?_of_filter {t u : Table} {x : Nat}
    (same : t.foreignKeys.filter (·.id == x) = u.foreignKeys.filter (·.id == x)) :
    t.foreignKeys.find? (·.id == x) = u.foreignKeys.find? (·.id == x) := by
  rw [← List.head?_filter, ← List.head?_filter, same]

namespace LinksSoFar

variable {b : TableBuilder} {pre : List (Nat × String)} {x : Nat × String}

/-- A key reached with nothing to link: the first key of its handle has an index, or there is
none. -/
theorem skip {t : Table} (sofar : LinksSoFar cs b pre t)
    (nothing : ∀ fk, b.table.foreignKeys.find? (·.id == x.1) = some fk → fk.index = none → False) :
    LinksSoFar cs b (pre ++ [x]) t where
  grows := sofar.grows
  untouched y absent := sofar.untouched y fun mem => absent (by simp [mem])
  linked := by
    intro p mem fk first unlinked
    rcases List.mem_append.mp mem with old | new
    · exact sofar.linked p old fk first unlinked
    · rw [List.mem_singleton.mp new] at first
      exact absurd (nothing fk first unlinked) id

/-- A key reached and linked: the links made before stay, since their handles differ from the
key's, and the key's handle is linked. -/
theorem link {acc b' : TableBuilder} {fk : ForeignKey} {extra : List Index} {idx : Index}
    (sofar : LinksSoFar cs b pre acc.table) (fresh : x.1 ∉ pre.map Prod.fst)
    (first : acc.table.foreignKeys.find? (·.id == x.1) = some fk)
    (found : acc.table.foreignKeys.find? (·.id == x.1) = b.table.foreignKeys.find? (·.id == x.1))
    (indexes : b'.table.indexes = acc.table.indexes ++ extra)
    (keys : b'.table.foreignKeys = (acc.table.setForeignKey { fk with index := some idx.id }).foreignKeys)
    (mem : idx ∈ acc.table.indexes ++ extra) (supports : Supports cs fk x.2 idx) :
    LinksSoFar cs b (pre ++ [x]) b'.table := by
  have handle : fk.id = x.1 := by
    simpa using List.find?_some (p := fun g : ForeignKey => g.id == x.1) first
  have grown : acc.table.indexes ⊆ b'.table.indexes := by
    rw [indexes]
    exact List.subset_append_left _ _
  -- the keys of every other handle stay
  have others : ∀ y, y ≠ x.1 →
      b'.table.foreignKeys.filter (·.id == y) = acc.table.foreignKeys.filter (·.id == y) := by
    intro y other
    rw [keys]
    exact filter_setForeignKey_other _ _ (by rw [handle]; exact fun h => other h.symm)
  refine ⟨fun y inB => grown (sofar.grows inB), fun y absent => ?_, ?_⟩
  · rw [others y fun h => absent (by simp [h])]
    exact sofar.untouched y fun mem => absent (by simp [mem])
  intro p inDone fk' first' unlinked'
  rcases List.mem_append.mp inDone with old | new
  · -- a key reached before keeps its link
    have handle' : fk'.id = p.1 := by
      simpa using List.find?_some (p := fun g : ForeignKey => g.id == p.1) first'
    refine (sofar.linked p old fk' first' unlinked').of_keys grown (others _ ?_)
    rw [handle']
    exact fun h => fresh (h ▸ List.mem_map_of_mem old)
  · -- the key reached now is linked
    obtain rfl := List.mem_singleton.mp new
    rw [← found, first] at first'
    cases first'
    refine ⟨⟨{ fk with index := some idx.id }, ?_, rfl⟩, fun g inB same => ?_⟩
    · rw [keys, linked_keys]
      exact List.mem_map.mpr ⟨fk, List.mem_of_find?_eq_some first, by simp⟩
    rw [keys, linked_keys] at inB
    obtain ⟨h, -, rfl⟩ := List.mem_map.mp inB
    split at same
    · rename_i hit
      refine ⟨idx, by rw [indexes]; exact mem, ?_, supports⟩
      simp [hit]
    · rename_i miss
      simp [same] at miss

end LinksSoFar

/-- One pending key: the first key of its handle is linked when it has no index, and the keys
of the other handles stay. -/
theorem link_round (b : TableBuilder) {pre post : List (Nat × String)} {x : Nat × String}
    (distinct : ((pre ++ x :: post).map Prod.fst).Nodup) (acc : TableBuilder) :
    Spec (fun a => a.options.caseSensitive = cs ∧ LinksSoFar cs b pre acc.table)
      (match acc.table.foreignKeys.find? (·.id == x.1) with
        | some fk => if fk.index.isNone = true then do
            let b ← supportingIndex acc fk x.2
            pure (ForInStep.yield b)
          else pure (ForInStep.yield acc)
        | _ => pure (ForInStep.yield acc))
      fun r a => r = .yield r.value ∧ a.options.caseSensitive = cs ∧
        LinksSoFar cs b (pre ++ [x]) r.value.table := by
  intro a ⟨same, sofar⟩
  have fresh : x.1 ∉ pre.map Prod.fst := by
    rw [List.map_append, List.map_cons, List.nodup_append] at distinct
    exact fun mem => distinct.2.2 _ mem _ List.mem_cons_self rfl
  have found : acc.table.foreignKeys.find? (·.id == x.1) = b.table.foreignKeys.find? (·.id == x.1) :=
    find?_of_filter (sofar.untouched x.1 fresh)
  split
  · rename_i fk first
    split
    · obtain ⟨same', extra, idx, indexes, keys, mem, supports⟩ := supportingIndex_links acc fk x.2 a same
      have run : (do let b ← supportingIndex acc fk x.2; pure (ForInStep.yield b) : Analyze _).run a =
          (.yield ((supportingIndex acc fk x.2).run a).1, ((supportingIndex acc fk x.2).run a).2) :=
        rfl
      rw [run]
      exact ⟨rfl, same', sofar.link fresh first found indexes keys mem supports⟩
    · rename_i linkedAlready
      exact ⟨rfl, same, sofar.skip fun g found' unlinked => by
        rw [← found, first] at found'
        cases found'
        simp [unlinked] at linkedAlready⟩
  · rename_i absent
    exact ⟨rfl, same, sofar.skip fun g found' _ => by
      rw [← found] at found'
      exact absent g found'⟩

/-- A change of the columns keeps the indexes and foreign keys. -/
theorem update_columns_keeps (b : TableBuilder) (g : Table → List Column) :
    Spec (fun _ => True) (update b fun t => { t with columns := g t }) fun b' _ =>
      b'.table.indexes = b.table.indexes ∧ b'.table.foreignKeys = b.table.foreignKeys := by
  intro a _
  rw [update_run]
  exact ⟨rfl, rfl⟩

/-- Completing a builder links every foreign key it created: for each pending key whose key
had no index, every key of its handle is, after `finish`, the key linked to an index of the table
that covers the key's columns, or that has the name the key asks for (the name after
`FOREIGN KEY`, else the constraint's name), or the key has no columns. -/
theorem finish_links_new_foreign_keys (b : TableBuilder) (a : Analyzer)
    (distinct : (b.pending.map Prod.fst).Nodup) {p : Nat × String} (pending : p ∈ b.pending)
    {fk : ForeignKey} (first : b.table.foreignKeys.find? (·.id == p.1) = some fk)
    (unlinked : fk.index = none) :
    Linked a.options.caseSensitive ((finish b).run a).1.table fk p.2 := by
  suffices spec : Spec (fun x => x.options.caseSensitive = a.options.caseSensitive) (finish b)
      fun b' _ => Linked a.options.caseSensitive b'.table fk p.2 from spec a rfl
  generalize a.options.caseSensitive = cs
  unfold finish
  simp only []
  -- the pending keys, one after the other
  refine Spec.bind (Spec.conseq (Spec.forIn_prefix
    (fun done acc x => x.options.caseSensitive = cs ∧ LinksSoFar cs b done acc.table)
    fun pre y post split acc => Spec.conseq (link_round b (split ▸ distinct) acc) (fun _ start => start)
      fun r _ ⟨yields, same, sofar⟩ => by rw [yields]; exact ⟨same, sofar⟩)
    (fun _ same => ⟨same, fun _ mem => mem, fun _ _ => rfl, fun _ none => absurd none List.not_mem_nil⟩)
    fun _ _ ⟨_, sofar⟩ => sofar) fun b₁ => ?_
  refine Spec.of_pre_fact (fun _ sofar => sofar.linked p pending fk first unlinked) fun linked => ?_
  -- what follows changes columns only
  refine Spec.conseq (?_ : Spec (fun _ => True) _ fun b' _ =>
    b'.table.indexes = b₁.table.indexes ∧ b'.table.foreignKeys = b₁.table.foreignKeys)
    (fun _ _ => trivial) fun b' _ ⟨indexes, keys⟩ =>
      linked.of_keys (by rw [indexes]; exact fun _ mem => mem) (by rw [keys])
  refine Spec.bind (Spec.conseq caseSensitive_spec (fun _ _ => trivial) fun _ _ _ => trivial) fun cs' => ?_
  split
  on_goal 2 =>
    refine Spec.conseq ?_ (fun _ _ => (⟨rfl, rfl⟩ : b₁.table.indexes = b₁.table.indexes ∧
      b₁.table.foreignKeys = b₁.table.foreignKeys)) fun _ _ done => done
  on_goal 1 =>
    -- `NOT NULL` on the primary key columns
    refine Spec.bind (Spec.conseq (Spec.forIn (fun acc _ =>
      acc.table.indexes = b₁.table.indexes ∧ acc.table.foreignKeys = b₁.table.foreignKeys)
      fun name _ acc => ?_) (fun _ _ => ⟨rfl, rfl⟩) fun _ _ kept => kept) fun b₂ => ?_
    · refine Spec.of_pre_fact (fun _ kept => kept) fun kept => ?_
      split
      · exact Spec.bind (Spec.conseq (update_columns_keeps acc _) (fun _ _ => trivial)
          fun b' _ same => ⟨same.1.trans kept.1, same.2.trans kept.2⟩) fun b' => Spec.of_pure fun _ held => held
      · exact Spec.of_pure fun _ held => held
    refine Spec.conseq (?_ : Spec (fun _ =>
      b₂.table.indexes = b₁.table.indexes ∧ b₂.table.foreignKeys = b₁.table.foreignKeys) _ _)
      (fun _ kept => kept) fun _ _ done => done
  -- the charsets of the character columns, and the references handed over
  all_goals
    refine Spec.bind Spec.of_const fun _ => Spec.bind Spec.of_const fun _ => ?_
    refine Spec.of_pre_fact (fun _ kept => kept) fun kept => ?_
    refine Spec.bind (Spec.conseq (update_columns_keeps _ _) (fun _ _ => trivial)
      fun b₃ _ same => (⟨same.1.trans kept.1, same.2.trans kept.2⟩ :
        b₃.table.indexes = b₁.table.indexes ∧ b₃.table.foreignKeys = b₁.table.foreignKeys)) fun _ => ?_
    exact Spec.bind Spec.of_const fun _ => Spec.of_pure fun _ held => held

/-- A foreign key declared on a new table, with no name of its own, gets a supporting index. -/
theorem finish_links_single_key :
    let fk : ForeignKey := { id := 2, name := "", columnNames := ["a"] }
    let b : TableBuilder :=
      { table := { id := 1, name := "t", foreignKeys := [fk] }, schema := 0, attached := false,
        pending := [(2, "")] }
    let a := Analyzer.new (Catalog.new {}) {}
    (b.pending.map Prod.fst).Nodup ∧ (2, "") ∈ b.pending ∧
      b.table.foreignKeys.find? (·.id == 2) = some fk ∧ fk.index = none ∧
      Linked a.options.caseSensitive ((finish b).run a).1.table fk "" := by
  intro fk b a
  have distinct : (b.pending.map Prod.fst).Nodup := by decide
  have pending : (2, "") ∈ b.pending := by decide
  have first : b.table.foreignKeys.find? (·.id == 2) = some fk := by decide
  exact ⟨distinct, pending, first, rfl, finish_links_new_foreign_keys b a distinct pending first rfl⟩

end Analyze

end DdlCatalog.Analysis
