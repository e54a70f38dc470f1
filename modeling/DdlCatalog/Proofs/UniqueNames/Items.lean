import DdlCatalog.Proofs.UniqueNames.Builder
/-!
The items of `ALTER TABLE` keep an attached builder consistent. Most items are steps of the
builder; the others rename. An index or a column is renamed only to a name the table does not
have yet (a column also to its own name in another case), and the table is renamed to a name
that no other table of the schema has. That the new name of the table is no view's, and that
the table stays in its schema, the statement has to promise (`ItemApart`): a rename does not
look at views, and a move to another schema takes the table's triggers and foreign key names
along unchecked.
-/

namespace DdlCatalog.Analysis

open DdlCatalog.Catalog
open DdlCatalog.Syntax

/-- An item renames the table, if at all, within its schema and not after a view, and changes a
column only with a column definition. -/
def ItemApart (cs : Bool) (views : List String) (n : Node) : Prop :=
  (nameOf (n.child .tableName)).1 = "" ∧
    (∀ v ∈ views, nameEqual cs (nameOf (n.child .tableName)).2 v = false) ∧
    (n.firstKeyword = "CHANGE" ∨ n.firstKeyword = "MODIFY" → (n.child .columnDefinition).isSome = true)

namespace TableBuilder

section Renames

variable {a : Analyzer} {b : TableBuilder} {t : Table}

/-- An index renamed to a name the table does not have fits. -/
theorem Fits.rename_index (fits : b.Fits a t) {idx : Index} (mem : idx ∈ t.indexes) {dest : String}
    (fresh : ∀ i ∈ t.indexes, nameEqual a.options.caseSensitive i.name dest = false) :
    b.Fits a (t.setIndex { idx with name := dest }) := by
  have renamed : t.setIndex { idx with name := dest } = { t with indexes := (t.indexes.map
      fun i => if i.id == idx.id then { i with name := dest } else i) } := by
    rw [Table.setIndex, map_replace_self fits.handles.indexes mem fun i => { i with name := dest }]
  -- the renamed index keeps its handle and its kind
  have primary : ((t.indexes.map fun i => if i.id == idx.id then { i with name := dest } else i).filter
      (·.type == .primary)).map (·.id) = t.primaryKey.toList := by
    rw [← fits.keys.primary, Table.primaryIds, List.filter_map, List.map_map]
    congr 1
    · funext i
      simp only [Function.comp_apply]
      split <;> rfl
    · congr 1
      funext i
      simp only [Function.comp_apply]
      split <;> rfl
  rw [renamed]
  refine fits.with_indexes ?_ primary ?_ fun i inNew => ?_
  · rw [map_replace_self fits.handles.indexes mem fun i => { i with name := dest }]
    exact pairwise_map_replace (fun apart => by rwa [nameEqual_comm]) fits.keys.indexes
      fits.handles.indexes mem fun u inTable _ => by rw [nameEqual_comm]; exact fresh u inTable
  · rw [List.map_map]
    convert fits.handles.indexes using 2
    funext i
    simp only [Function.comp_apply]
    split <;> rfl
  · obtain ⟨i, inTable, rfl⟩ := List.mem_map.mp inNew
    have := fits.handles.indexesBelow i inTable
    split <;> exact this

/-- A column renamed to a name no other column has fits. -/
theorem Fits.rename_column (fits : b.Fits a t) {col : Column} (mem : col ∈ t.columns) {dest : String}
    (apart : ∀ c ∈ t.columns, c.id ≠ col.id → nameEqual a.options.caseSensitive dest c.name = false) :
    b.Fits a { t with columns := (t.columns.map
      fun c => if c.id == col.id then { c with name := dest } else c) } := by
  rw [map_replace_self fits.handles.columns mem]
  exact fits.replace_column mem apart (fun c _ other => Ne.symm other)
    (fits.handles.columnsBelow col mem)

/-- A column replaced by one with its handle and name fits. -/
theorem Fits.set_column (fits : b.Fits a t) {col new : Column} (mem : col ∈ t.columns)
    (id : new.id = col.id) (name : new.name = col.name) :
    b.Fits a { t with columns := t.columns.map fun c => if c.id == new.id then new else c } := by
  rw [id]
  refine fits.replace_column mem (fun c inTable other => ?_) (fun c _ other => id ▸ Ne.symm other)
    (id ▸ fits.handles.columnsBelow col mem)
  rw [name]
  exact fits.keys.columns.apart mem inTable fun same => other (same ▸ rfl)

end Renames

end TableBuilder

namespace Analyze

open TableBuilder

variable {cs : Bool} {views : List String}

/-- Renaming the table of an attached builder to a name that no other table of its schema and no
view has keeps the builder consistent. -/
theorem update_renamed (b : TableBuilder) (name : String) (attached : b.attached = true)
    (viewsApart : ∀ v ∈ views, nameEqual cs name v = false) :
    Spec (fun a => b.Consistent cs views a ∧
        ∀ u ∈ a.catalog.others b.schema b.table.id, nameEqual cs name u.name = false)
      (update { b with table := { b.table with name := name } } id)
      fun b' a => b'.attached = true ∧ b'.faulted = b.faulted ∧ b'.Consistent cs views a := by
  rintro a ⟨⟨kept, sound⟩, nameApart⟩
  rw [update_run]
  have holds : a.catalog.Holds b.schema b.table := by
    simpa only [Placed, attached, if_true] using sound.placed
  have exempted : b.exempt = some b.table.id := by simp [exempt, attached]
  -- the renamed table keeps everything but its name
  let t := { b.table with name := name }
  have keys : t.Keys a.options.caseSensitive :=
    ⟨sound.keys.columns, sound.keys.indexes, sound.keys.primary⟩
  have held : t.Handles a.catalog.handles.size :=
    ⟨sound.handles.own, sound.handles.columns, sound.handles.indexes, sound.handles.foreignKeys,
      sound.handles.columnsBelow, sound.handles.indexesBelow, sound.handles.foreignKeysBelow⟩
  rw [← kept.caseSensitive] at nameApart viewsApart
  have putKept : (a.catalog.putTable t).Kept a.options.caseSensitive views b.exempt :=
    kept.catalog.putTable_renamed holds rfl nameApart viewsApart (sound.beside.congr rfl rfl) keys
      (fun other => absurd exempted other) held sound.real
  have others : (a.catalog.putTable t).others b.schema b.table.id = a.catalog.others b.schema b.table.id :=
    Catalog.others_putTable b.schema t
  have placed : (a.catalog.putTable t).Holds b.schema t := Catalog.holds_putTable holds rfl
  simp only [attached, if_true, id]
  refine ⟨trivial, trivial, ⟨kept.caseSensitive, ?_, kept.noStubs, kept.refs⟩, keys, held, sound.real, ?_, ?_,
    ?_, sound.refs⟩
  · simpa [exempt, attached] using putKept
  · rw [others]
    exact sound.beside.congr rfl rfl
  · obtain ⟨s, schema, same⟩ := sound.schema
    exact ⟨_, List.mem_map_of_mem schema, same⟩
  · simpa [Placed, attached] using placed

/-- A step that carries an attached builder on leaves it attached. -/
theorem stays_attached {m : Analyze TableBuilder} {b : TableBuilder} {pre : Analyzer → Prop}
    (attached : b.attached = true)
    (step : Spec pre m fun b' a => b'.Continues b ∧ b'.Consistent cs views a) :
    Spec pre m fun b' a => b'.attached = true ∧ b'.faulted = b.faulted ∧ b'.Consistent cs views a :=
  Spec.conseq step (fun _ start => start) fun _ _ ⟨next, consistent⟩ =>
    ⟨next.attached.trans attached, next.faulted, consistent⟩

theorem notAnalysed_spec (b : TableBuilder) (n : Node) :
    Spec (b.Consistent cs views) (notAnalysed b n) fun b' a => b'.Continues b ∧ b'.Consistent cs views a :=
  Recording.result (notAnalysed_recording b n) (fun _ => rfl) fun _ _ start records =>
    ⟨Continues.refl b, start.records records⟩

/-- Renaming the table within its schema, to a name that no other table there and no view has,
keeps an attached builder consistent. -/
theorem renameTable_spec (b : TableBuilder) (n : Node) (attached : b.attached = true)
    (apart : ItemApart cs views n) :
    Spec (b.Consistent cs views) (renameTable b n) fun b' a => b'.attached = true ∧ b'.faulted = b.faulted ∧ b'.Consistent cs views a := by
  obtain ⟨unqualified, viewsApart, -⟩ := apart
  unfold renameTable
  unfold nameOf at unqualified viewsApart
  generalize splitQualified (identifierParts (n.child .tableName)) = parts at unqualified viewsApart ⊢
  obtain ⟨schemaName, name⟩ := parts
  dsimp only at unqualified viewsApart
  subst unqualified
  simp only []
  rw [if_pos (show "".isEmpty = true from rfl)]
  refine Spec.bind schemaById_spec fun found => ?_
  rw [pure_bind]
  split
  case h_2 => exact Spec.of_pure fun _ ⟨consistent, _⟩ => ⟨attached, rfl, consistent⟩
  rename_i target
  refine Spec.bind caseSensitive_spec fun cs' => ?_
  -- the schema found is the builder's, and its tables have distinct names
  refine Spec.of_pre_fact (p := target.id = b.schema ∧ cs' = cs ∧
    NamesDistinct cs (target.tables.map (·.name))) (fun a ⟨⟨⟨kept, _⟩, found⟩, policy⟩ => ?_) fun ⟨same, rfl, distinct⟩ => ?_
  · have ⟨schema, same⟩ := Catalog.schemaById_some found.symm
    exact ⟨same, policy.symm.trans kept.caseSensitive, kept.caseSensitive ▸ (kept.catalog.each target schema).names.tables⟩
  have tail : (∀ u ∈ target.tables, u.id ≠ b.table.id → nameEqual cs' u.name name = false) →
      Spec (fun a => (Consistent cs' views b a ∧ some target = a.catalog.schemaById b.schema) ∧
        a.options.caseSensitive = cs') (rename b.table.id name >>= fun _ =>
          update { b with table := { b.table with name := name } } id)
        fun b' a => b'.attached = true ∧ b'.faulted = b.faulted ∧ b'.Consistent cs' views a := by
    intro apart
    have stable : Stable fun a => b.Consistent cs' views a ∧
        ∀ u ∈ a.catalog.others b.schema b.table.id, nameEqual cs' name u.name = false :=
      (Consistent.stable b).and fun _ _ holds records => by rwa [Catalog.others_congr records.schemas]
    refine Spec.bind (Spec.conseq (Recording.spec (rename_recording _ _) stable) (fun a start => ?_)
      fun _ _ done => done) fun _ => update_renamed b name attached viewsApart
    obtain ⟨⟨consistent, found⟩, _⟩ := start
    refine ⟨consistent, fun u mem => ?_⟩
    simp only [Catalog.others, ← found, Option.map_some, Option.getD_some, List.mem_filter, bne_iff_ne,
      ne_eq] at mem
    rw [nameEqual_comm]
    exact apart u mem.1 mem.2
  split
  · split
    · exact Recording.result ((duplicate_recording _ _ _ _).bind fun _ => Recording.pure _) (fun _ => rfl)
        fun _ _ start records => ⟨attached, rfl, start.1.1.records records⟩
    rename_i existing found other
    have apart : ∀ u ∈ target.tables, u.id ≠ b.table.id → nameEqual cs' u.name name = false :=
      fun u mem distinctId => findNamed_other _ _ _ distinct found mem fun same => distinctId (by simpa [same] using other)
    rw [if_neg (by simp [same])]
    exact tail apart
  · rename_i absent
    have none : target.findTable cs' name = none := Option.eq_none_iff_forall_ne_some.mpr absent
    rw [if_neg (by simp [same])]
    exact tail fun u mem _ => (findNamed_eq_none_iff _ _ _ _).mp none u mem

/-- Renaming an index or a column, or the table, keeps an attached builder consistent. -/
theorem alterRename_spec (b : TableBuilder) (n : Node) (attached : b.attached = true)
    (apart : ItemApart cs views n) :
    Spec (b.Consistent cs views) (alterRename b n) fun b' a => b'.attached = true ∧ b'.faulted = b.faulted ∧ b'.Consistent cs views a := by
  unfold alterRename
  refine Spec.bind caseSensitive_spec fun cs' => ?_
  split
  case h_2 => exact Spec.conseq (renameTable_spec b n attached apart) (fun _ start => start.1) fun _ _ done => done
  rename_i kw source dest _ _
  have stable : Stable fun a => b.Consistent cs views a ∧ a.options.caseSensitive = cs' :=
    (Consistent.stable b).and (Stable.caseSensitive cs')
  split
  · -- an index is renamed to a name no index of the table has
    split
    · exact Recording.result ((memberName_recording b _).bind fun _ => (report_recording _ _ _ _ _).bind
        fun _ => Recording.pure _) (fun _ => rfl) fun _ _ start records => ⟨attached, rfl, start.1.records records⟩
    rename_i idx found
    split
    · exact Recording.result ((memberName_recording b _).bind fun _ => (duplicate_recording _ _ _ _).bind
        fun _ => Recording.pure _) (fun _ => rfl) fun _ _ start records => ⟨attached, rfl, start.1.records records⟩
    rename_i fresh
    refine Spec.bind (Recording.spec (rename_recording _ _) stable) fun _ => ?_
    refine stays_attached attached (update_fits b _ rfl rfl fun a pre => ⟨pre.1, ?_⟩)
    obtain ⟨consistent, policy⟩ := pre
    rw [Table.findIndex] at found fresh
    rw [← policy] at found fresh
    exact consistent.2.fits.rename_index (findNamed_mem _ _ _ found).1 (findNamed_not_isSome _ _ _ fresh)
  split
  · -- a column is renamed to its own name or to one no column of the table has
    split
    · exact Recording.result ((memberName_recording b _).bind fun _ => (report_recording _ _ _ _ _).bind
        fun _ => Recording.pure _) (fun _ => rfl) fun _ _ start records => ⟨attached, rfl, start.1.records records⟩
    rename_i col found
    split
    · exact Recording.result ((memberName_recording b _).bind fun _ => (duplicate_recording _ _ _ _).bind
        fun _ => Recording.pure _) (fun _ => rfl) fun _ _ start records => ⟨attached, rfl, start.1.records records⟩
    rename_i allowed
    refine Spec.bind (Recording.spec (rename_recording _ _) stable) fun _ => ?_
    refine Spec.bind (update_fits b _ rfl rfl fun a pre => ⟨pre.1, ?_⟩) fun b' =>
      stays_attached attached (carried (renameColumnRefs_spec _ _ _))
    obtain ⟨consistent, policy⟩ := pre
    rw [Table.findColumn, ← policy] at found
    rw [← policy] at allowed
    obtain ⟨mem, hit⟩ := findNamed_mem _ _ _ found
    refine consistent.2.fits.rename_column mem fun c inTable other => ?_
    by_cases same : nameEqual a.options.caseSensitive source dest = true
    · have apart := consistent.2.keys.columns.apart mem inTable fun eq => other (eq ▸ rfl)
      exact nameEqual_false_of_left (nameEqual_trans hit same) apart
    · simp only [same, Bool.not_false, Bool.true_and, Bool.not_eq_true, Option.isSome_eq_false_iff] at allowed
      rw [Table.findColumn, findNamed_isNone_iff] at allowed
      rw [nameEqual_comm]
      exact allowed c inTable
  · exact Spec.conseq (renameTable_spec b n attached apart) (fun _ start => start.1) fun _ _ done => done

/-- Visibility and defaults keep the names and handles, so the builder stays consistent. -/
theorem alterAlter_spec (b : TableBuilder) (n : Node) :
    Spec (b.Consistent cs views) (alterAlter b n) fun b' a => b'.Continues b ∧ b'.Consistent cs views a := by
  unfold alterAlter
  simp only []
  refine Spec.bind caseSensitive_spec fun cs' => ?_
  have refused : ∀ {m : Analyze TableBuilder}, Recording m → (∀ a, (m.run a).1 = b) →
      Spec (fun a => b.Consistent cs views a ∧ a.options.caseSensitive = cs') m
        fun b' a => b'.Continues b ∧ b'.Consistent cs views a :=
    fun recording value => Recording.result recording value fun _ _ start records =>
      ⟨Continues.refl b, start.1.records records⟩
  split
  · split
    · exact refused ((memberName_recording b _).bind fun _ => (report_recording _ _ _ _ _).bind
        fun _ => Recording.pure _) fun _ => rfl
    rename_i idx found
    refine update_fits b _ rfl rfl fun a ⟨consistent, policy⟩ => ⟨consistent, ?_⟩
    rw [Table.findIndex, ← policy] at found
    have mem := (findNamed_mem _ _ _ found).1
    exact consistent.2.fits.of_shape (Table.setIndex_shape _ _ fun j inTable same => by
      rw [List.inj_on_of_nodup_map consistent.2.handles.indexes inTable mem same]
      exact ⟨rfl, rfl⟩)
  · split
    · exact refused ((memberName_recording b _).bind fun _ => (report_recording _ _ _ _ _).bind
        fun _ => Recording.pure _) fun _ => rfl
    rename_i col found
    refine update_fits b _ rfl rfl fun a ⟨consistent, policy⟩ => ⟨consistent, ?_⟩
    rw [Table.findColumn, ← policy] at found
    exact consistent.2.fits.set_column (findNamed_mem _ _ _ found).1 (by split_ifs <;> rfl)
      (by split_ifs <;> rfl)

/-- A new charset keeps the names and handles, so the builder stays consistent. -/
theorem alterConvert_spec (b : TableBuilder) (n : Node) :
    Spec (b.Consistent cs views) (alterConvert b n) fun b' a => b'.Continues b ∧ b'.Consistent cs views a := by
  unfold alterConvert
  refine update_shape b _ ?_
  simp only [Table.shape, List.map_map, Prod.mk.injEq, true_and, and_true]
  refine List.map_congr_left fun c _ => ?_
  simp only [Function.comp_apply]
  split <;> rfl

/-- Dropping an index, the primary key, a foreign key or a column keeps the builder consistent. -/
theorem alterDrop_spec (b : TableBuilder) (n : Node) :
    Spec (b.Consistent cs views) (alterDrop b n) fun b' a => b'.Continues b ∧ b'.Consistent cs views a := by
  unfold alterDrop
  simp only []
  split
  case h_1 | h_2 => exact dropIndex_spec _ _ _
  case h_3 =>
    split
    · exact Recording.result ((memberName_recording b _).bind fun _ => (report_recording _ _ _ _ _).bind
        fun _ => Recording.pure _) (fun _ => rfl) fun _ _ start records =>
          ⟨Continues.refl b, start.records records⟩
    · exact dropIndex_spec _ _ _
  case h_4 => exact dropForeignKey_spec _ _ _
  case h_5 | h_6 | h_7 => exact notAnalysed_spec b n
  case h_8 => exact dropColumn_spec _ _ _

/-- Adding a constraint, a column, or the columns and constraints of a list keeps the builder
consistent. -/
theorem alterAdd_spec (b : TableBuilder) (n : Node) :
    Spec (b.Consistent cs views) (alterAdd b n) fun b' a => b'.Continues b ∧ b'.Consistent cs views a := by
  unfold alterAdd
  simp only []
  split
  · exact addConstraint_spec _ _
  split
  · -- each element of the list carries the builder on
    refine Spec.bind (Spec.conseq (Spec.forIn (fun acc a => acc.Continues b ∧ acc.Consistent cs views a)
      fun c _ acc => ?_) (fun _ start => ⟨Continues.refl b, start⟩) fun _ _ done => done)
      fun acc => Spec.of_pure fun _ done => done
    split
    · exact Spec.bind (carried (insertColumn_spec _ _ _)) fun _ => Spec.of_pure fun _ done => done
    · exact Spec.bind (carried (addConstraint_spec _ _)) fun _ => Spec.of_pure fun _ done => done
    · exact Spec.of_pure fun _ done => done
  split
  · exact insertColumn_spec _ _ _
  · exact notAnalysed_spec b n

/-- Every item of `ALTER TABLE` that is apart keeps an attached builder consistent and attached,
and does not fault. -/
theorem alterItem_spec (b : TableBuilder) (n : Node) (attached : b.attached = true)
    (apart : ItemApart cs views n) :
    Spec (b.Consistent cs views) (alterItem b n)
      fun b' a => b'.attached = true ∧ b'.faulted = b.faulted ∧ b'.Consistent cs views a := by
  unfold alterItem
  simp only []
  -- a table option alone, or the item the first keyword names
  split
  on_goal 1 =>
    split
    on_goal 1 => exact stays_attached attached (option_spec _ _)
  all_goals
    split
    case h_1 => exact stays_attached attached (alterAdd_spec b n)
    case h_2 | h_3 =>
      rename_i keyword
      split
      · exact stays_attached attached (changeColumn_spec _ _ _ _)
      · -- an item apart carries its column definition
        rename_i missing
        have defined := apart.2.2 (by simp only [keyword, true_or, or_true])
        rw [missing] at defined
        exact absurd defined Bool.false_ne_true
    case h_4 => exact stays_attached attached (alterDrop_spec b n)
    case h_5 => exact alterRename_spec b n attached apart
    case h_6 => exact stays_attached attached (alterAlter_spec b n)
    case h_7 => exact stays_attached attached (alterConvert_spec b n)
    case h_8 => exact stays_attached attached (notAnalysed_spec b n)

end Analyze

end DdlCatalog.Analysis
