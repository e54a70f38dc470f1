import Mathlib
import DdlCatalog.Proofs.Parsing.Yields
import DdlCatalog.Proofs.Parsing.Shapes
/-!
# The trees of `PARTITION BY` clauses

The grammar of the trees the partitioning production builds, in the words of the clause:

    partitioning → PARTITION BY method [PARTITIONS n] [sub_partitions] [( definition, ... )]
    method       → [LINEAR] HASH (expr) | [LINEAR] KEY [ALGORITHM = n] column_list
                 | (RANGE | LIST) ...
    sub_partitions → SUBPARTITION BY [LINEAR] (HASH (expr) | KEY [ALGORITHM = n] column_list)
                     [SUBPARTITIONS n]
    definition   → PARTITION name [VALUES bound] option* [( SUBPARTITION name option*, ... )]
    bound        → LESS THAN MAXVALUE | LESS THAN (expr, ...) | IN (expr, ...)

Each rule is a predicate on the children of its node, with what the rule gives as its first
arguments: `PartitionBy c cs` says that `cs` are the children of a clause that gives `c`, that is
the `ALGORITHM` number of a top-level `KEY` method, the `PARTITIONS` and `SUBPARTITIONS` numbers,
and each partition definition with its name, its bound and the names of its subpartitions, in
the order written. The main statement, `partitioning_yields`: every success of the production
adds one node, a branch whose children follow the grammar. The productions with optional parts
are cut at them first (`partitioning_eq` and the like), so that each part is read on its own.
-/

namespace DdlCatalog.Syntax

open DdlCatalog.Sql
open Parse (Listed ExprList)

/-! The grammar. -/

/-- An optional keyword: nothing, or the terminal of the word `kw`. -/
def OptionalWord (kw : String) (cs : List Node) : Prop :=
  cs = [] ∨ ∃ t, t.isWord kw = true ∧ cs = [.terminal t]

/-- An optional clause `kw NUMBER`, with its number token. -/
def NumberClause (kw : String) (number : Option Token) (cs : List Node) : Prop :=
  cs = [] ∧ number = none ∨
    ∃ w t, w.isWord kw = true ∧ t.kind = .number ∧ cs = [.terminal w, .terminal t] ∧ number = some t

/-- An optional clause `ALGORITHM = NUMBER`, with its number token. -/
def AlgorithmClause (number : Option Token) (cs : List Node) : Prop :=
  cs = [] ∧ number = none ∨
    ∃ w e t, w.isWord "ALGORITHM" = true ∧ e.kind = .eq ∧ t.kind = .number ∧
      cs = [.terminal w, .terminal e, .terminal t] ∧ number = some t

/-- The bound of a partition: all values below `MAXVALUE`, the values below a list of
expressions, or the values in a list. -/
inductive PartitionBound where
  | lessThanMaxValue
  | lessThan (values : List Node)
  | inList (values : List Node)

/-- The words and lists after `VALUES` that give the bound. -/
def PartitionBound.Words : PartitionBound → List Node → Prop
  | .lessThanMaxValue, cs => ∃ l t m, l.isWord "LESS" = true ∧ t.isWord "THAN" = true ∧
      m.isWord "MAXVALUE" = true ∧ cs = [.terminal l, .terminal t, .terminal m]
  | .lessThan es, cs => ∃ l t rest, l.isWord "LESS" = true ∧ t.isWord "THAN" = true ∧
      ExprList es rest ∧ cs = .terminal l :: .terminal t :: rest
  | .inList es, cs => ∃ i rest, i.isWord "IN" = true ∧ ExprList es rest ∧ cs = .terminal i :: rest

/-- `VALUES bound`: the children of a `VALUES` node. -/
def PartitionBound.Values (b : PartitionBound) (cs : List Node) : Prop :=
  ∃ v rest, v.isWord "VALUES" = true ∧ b.Words rest ∧ cs = .terminal v :: rest

/-- `SUBPARTITION name option*`, named by the token `name`. -/
def SubpartitionDef (name : Token) (cs : List Node) : Prop :=
  ∃ w idn opts, w.isWord "SUBPARTITION" = true ∧ idn.NameOf name ∧
    (∀ o ∈ opts, o.IsBranch .partitionOption) ∧ cs = .terminal w :: idn :: opts

/-- A partition definition as a reader sees it: its name, its bound if it has one, and the
names of its subpartitions, in order. -/
structure PartitionEntry where
  name : Token
  bound : Option PartitionBound
  subpartitions : List Token

/-- The optional `VALUES` node of a definition. -/
def BoundPart (b : Option PartitionBound) (cs : List Node) : Prop :=
  cs = [] ∧ b = none ∨ ∃ v bound, v.Branch .partitionValues bound.Values ∧ cs = [v] ∧ b = some bound

/-- The optional list of subpartitions of a definition, with their names. -/
def SubpartitionsPart (names : List Token) (cs : List Node) : Prop :=
  cs = [] ∧ names = [] ∨
    ∃ l r items subs, l.kind = .lparen ∧ r.kind = .rparen ∧ Listed items subs ∧
      List.Forall₂ (fun n name => n.Branch .subpartitionDefinition (SubpartitionDef name)) subs names ∧
      cs = .terminal l :: items ++ [.terminal r]

/-- `PARTITION name [VALUES bound] option* [( subpartition, ... )]`, read as the entry `e`. -/
def PartitionDef (e : PartitionEntry) (cs : List Node) : Prop :=
  ∃ w idn vals opts subs, w.isWord "PARTITION" = true ∧ idn.NameOf e.name ∧
    BoundPart e.bound vals ∧ (∀ o ∈ opts, o.IsBranch .partitionOption) ∧
    SubpartitionsPart e.subpartitions subs ∧ cs = .terminal w :: idn :: vals ++ opts ++ subs

/-- `( definition, ... )`, read as the entries `es`. -/
def PartitionDefs (es : List PartitionEntry) (cs : List Node) : Prop :=
  ∃ l r items defs, l.kind = .lparen ∧ r.kind = .rparen ∧ Listed items defs ∧
    List.Forall₂ (fun n e => n.Branch .partitionDefinition (PartitionDef e)) defs es ∧
    cs = .terminal l :: items ++ [.terminal r]

/-- The method of subpartitioning: `HASH (expr)` or `KEY [ALGORITHM = n] column_list`. -/
def SubMethod (cs : List Node) : Prop :=
  (∃ h l e r, h.isWord "HASH" = true ∧ l.kind = .lparen ∧ e.IsBranch .expr ∧ r.kind = .rparen ∧
    cs = [.terminal h, .terminal l, e, .terminal r]) ∨
  ∃ k alg number cl, k.isWord "KEY" = true ∧ AlgorithmClause number alg ∧ cl.IsBranch .columnList ∧
    cs = .terminal k :: alg ++ [cl]

/-- `SUBPARTITION BY [LINEAR] method [SUBPARTITIONS n]`, with its count. -/
def SubPartitionsClause (count : Option Token) (cs : List Node) : Prop :=
  ∃ s b lin method tail, s.isWord "SUBPARTITION" = true ∧ b.isWord "BY" = true ∧
    OptionalWord "LINEAR" lin ∧ SubMethod method ∧ NumberClause "SUBPARTITIONS" count tail ∧
    cs = .terminal s :: .terminal b :: lin ++ method ++ tail

/-- `[LINEAR] KEY [ALGORITHM = n] column_list`, with its algorithm number. -/
def KeyMethod (algorithm : Option Token) (cs : List Node) : Prop :=
  ∃ lin k alg cl, OptionalWord "LINEAR" lin ∧ k.isWord "KEY" = true ∧
    AlgorithmClause algorithm alg ∧ cl.IsBranch .columnList ∧ cs = lin ++ .terminal k :: alg ++ [cl]

/-- The partitioning method node: `HASH`, `RANGE` or `LIST`, which have no algorithm, or `KEY`. -/
def MethodNode (algorithm : Option Token) (n : Node) : Prop :=
  (n.IsBranch .partitionDefHash ∨ n.IsBranch .partitionDefRangeList) ∧ algorithm = none ∨
    n.Branch .partitionDefKey (KeyMethod algorithm)

/-- The optional `SUBPARTITION BY` node. -/
def SubPartitionsPart (count : Option Token) (cs : List Node) : Prop :=
  cs = [] ∧ count = none ∨ ∃ n, n.Branch .subPartitions (SubPartitionsClause count) ∧ cs = [n]

/-- The optional list of partition definitions. -/
def DefinitionsPart (es : List PartitionEntry) (cs : List Node) : Prop :=
  cs = [] ∧ es = [] ∨ ∃ n, n.Branch .partitionDefinitions (PartitionDefs es) ∧ cs = [n]

/-- What a `PARTITION BY` clause gives: the `ALGORITHM` number of a top-level `KEY` method, the
`PARTITIONS` and `SUBPARTITIONS` numbers, and the partition definitions in order. -/
structure PartitionClause where
  algorithm : Option Token
  count : Option Token
  subCount : Option Token
  entries : List PartitionEntry

/-- The children of a `PARTITION BY` node that gives `c`. -/
def PartitionBy (c : PartitionClause) (cs : List Node) : Prop :=
  ∃ p b m cnt sub defs, p.isWord "PARTITION" = true ∧ b.isWord "BY" = true ∧
    MethodNode c.algorithm m ∧ NumberClause "PARTITIONS" c.count cnt ∧
    SubPartitionsPart c.subCount sub ∧ DefinitionsPart c.entries defs ∧
    cs = .terminal p :: .terminal b :: m :: cnt ++ sub ++ defs

end DdlCatalog.Syntax

namespace DdlCatalog.Syntax.Parse

open DdlCatalog.Sql

set_option synthInstance.maxSize 1000000

/-! The productions, cut at their optional parts. -/

/-- The method of a partitioning clause. -/
def partitionMethod : Parse Unit := do
  if (← isSeq ["LINEAR", "HASH"]) || (← isWord "HASH") then
    node .partitionDefHash do
      discard (accept "LINEAR")
      expectKw ["HASH"]
      parenExpr
  else if (← isSeq ["LINEAR", "KEY"]) || (← isWord "KEY") then
    node .partitionDefKey do
      discard (accept "LINEAR")
      expectKw ["KEY"]
      keyAlgorithm
      optionalColumnList
  else if (← isAny ["RANGE", "LIST"]) then
    node .partitionDefRangeList do
      skip
      if (← accept "COLUMNS") then columnList else parenExpr
  else failAt (.unexpectedToken · "HASH, KEY, RANGE or LIST")

/-- `kw NUMBER`, when the word `kw` comes next. -/
def wordNumber (kw : String) : Parse Unit := do
  if (← accept kw) then number

/-- `SUBPARTITION BY ...`, when it comes next. -/
def partitionSub : Parse Unit := do
  if (← isSeq ["SUBPARTITION", "BY"]) then subPartitions

/-- The list of partition definitions, when it comes next. -/
def partitionList : Parse Unit := do
  if (← check .lparen) then partitionDefinitions

theorem partitioning_eq :
    partitioning = node .partition (do
      expectKw ["PARTITION", "BY"]; partitionMethod; wordNumber "PARTITIONS"; partitionSub
      partitionList) := by
  unfold partitioning partitionMethod wordNumber partitionSub partitionList
  simp only [bind_assoc, ite_bind, pure_bind]

/-- The method of subpartitioning. -/
def subMethod : Parse Unit := do
  if (← accept "HASH") then parenExpr
  else if (← accept "KEY") then keyAlgorithm; optionalColumnList
  else failAt (.unexpectedToken · "HASH or KEY")

theorem subPartitions_eq :
    subPartitions = node .subPartitions (do
      expectKw ["SUBPARTITION", "BY"]; discard (accept "LINEAR"); subMethod
      wordNumber "SUBPARTITIONS") := by
  unfold subPartitions subMethod wordNumber
  simp only [bind_assoc, ite_bind]

/-- The bound of a definition, when `VALUES` comes next. -/
def partitionBound : Parse Unit := do
  if (← isWord "VALUES") then partitionValues

/-- The subpartitions of a definition, when a list comes next. -/
def subpartitionList : Parse Unit := do
  if (← check .lparen) then
    skip
    commaList subpartitionDefinition
    expect .rparen

theorem partitionDefinition_eq :
    partitionDefinition = node .partitionDefinition (do
      expectKw ["PARTITION"]; identifier; partitionBound; partitionOptions; subpartitionList) := by
  unfold partitionDefinition partitionBound subpartitionList
  simp only [bind_assoc, ite_bind, pure_bind]

instance partitionMethod_sound : Sound partitionMethod := by
  unfold partitionMethod
  infer_instance

instance wordNumber_sound (kw : String) : Sound (wordNumber kw) := by
  unfold wordNumber
  infer_instance

instance partitionSub_sound : Sound partitionSub := by
  unfold partitionSub
  infer_instance

instance subMethod_sound : Sound subMethod := by
  unfold subMethod
  infer_instance

instance partitionBound_sound : Sound partitionBound := by
  unfold partitionBound
  infer_instance

/-! What each production adds. -/

namespace Yields

variable {c : (Nat → Token) → Prop}

theorem optionalWord_yields (kw : String) :
    Yields c (Functor.discard (accept kw)) fun _ new => OptionalWord kw new :=
  discard ((accept_yields kw).mono (fun _ h => h) fun _ _ word => by
    rcases word with ⟨-, t, isKw, added⟩ | ⟨-, added⟩
    · exact .inr ⟨t, isKw, added⟩
    · exact .inl added)

theorem wordNumber_yields (kw : String) :
    Yields c (wordNumber kw) fun _ new => ∃ number, NumberClause kw number new := by
  unfold wordNumber
  refine bind (accept_yields kw) fun b n₁ word => ?_
  rcases word with ⟨rfl, w, isKw, added₁⟩ | ⟨rfl, added₁⟩
  · rw [if_pos rfl]
    exact number_yields.mono (fun _ _ => trivial) fun _ n₂ ⟨t, num, added₂⟩ =>
      ⟨some t, .inr ⟨w, t, isKw, num, by rw [added₁, added₂]; rfl, rfl⟩⟩
  · rw [if_neg Bool.false_ne_true]
    exact pure ⟨none, .inl ⟨by rw [added₁]; rfl, rfl⟩⟩

theorem keyAlgorithm_yields :
    Yields c keyAlgorithm fun _ new => ∃ number, AlgorithmClause number new := by
  unfold keyAlgorithm
  refine read_ite ?_ (pure ⟨none, .inl ⟨rfl, rfl⟩⟩)
  refine bind skip_word fun _ n₁ ⟨w, isAlgorithm, added₁⟩ =>
    bind (expect_yields TokenKind.noConfusion) fun _ n₂ ⟨e, isEq, added₂⟩ =>
      number_yields.mono (fun _ _ => trivial) fun _ n₃ ⟨t, num, added₃⟩ =>
        ⟨some t, .inr ⟨w, e, t, isAlgorithm, isEq, num, ?_, rfl⟩⟩
  rw [added₁, added₂, added₃]
  rfl

theorem optionalColumnList_yields :
    Yields c optionalColumnList fun _ new => ∃ n, n.IsBranch .columnList ∧ new = [n] := by
  unfold optionalColumnList
  exact read_bind fun _ => read_bind fun _ => ite (fun _ => node_any .columnList) fun _ => columnList_yields

theorem subMethod_yields : Yields c subMethod fun _ new => SubMethod new := by
  unfold subMethod
  refine bind (accept_yields "HASH") fun b n₁ hash => ?_
  rcases hash with ⟨rfl, h, isHash, added₁⟩ | ⟨rfl, added₁⟩
  · rw [if_pos rfl]
    refine parenExpr_yields.mono (fun _ _ => trivial) fun _ n₂ ⟨l, e, r, open_, isExpr, close, added₂⟩ =>
      .inl ⟨h, l, e, r, isHash, open_, isExpr, close, ?_⟩
    rw [added₁, added₂]
    rfl
  rw [if_neg Bool.false_ne_true]
  refine bind (accept_yields "KEY") fun b n₂ key => ?_
  rcases key with ⟨rfl, k, isKey, added₂⟩ | ⟨rfl, -⟩
  · rw [if_pos rfl]
    refine bind keyAlgorithm_yields fun _ n₃ ⟨number, alg⟩ => optionalColumnList_yields.mono
      (fun _ _ => trivial) fun _ n₄ ⟨cl, isList, added₄⟩ => .inr ⟨k, n₃, number, cl, isKey, alg, isList, ?_⟩
    rw [added₁, added₂, added₄]
    rfl
  rw [if_neg Bool.false_ne_true]
  exact failAt

theorem subPartitions_yields :
    Yields c subPartitions fun _ new =>
      ∃ n count, n.Branch .subPartitions (SubPartitionsClause count) ∧ new = [n] := by
  rw [subPartitions_eq]
  refine node_reading .subPartitions (P := SubPartitionsClause) ?_
  refine bind (expectKw_pair _ _) fun _ n₁ ⟨s, b, isSub, isBy, added₁⟩ =>
    bind (optionalWord_yields _) fun _ n₂ linear => bind subMethod_yields fun _ n₃ method =>
      (wordNumber_yields _).mono (fun _ _ => trivial) fun _ n₄ ⟨count, tail⟩ =>
        ⟨count, s, b, n₂, n₃, n₄, isSub, isBy, linear, method, tail, ?_⟩
  rw [added₁]
  simp

theorem partitionMethod_yields :
    Yields c partitionMethod fun _ new => ∃ n algorithm, MethodNode algorithm n ∧ new = [n] := by
  unfold partitionMethod
  refine read_bind fun _ => read_bind fun _ => ite (fun _ => ?_) fun _ => ?_
  · exact (node_any _).mono (fun _ h => h) fun _ _ ⟨n, hash, added⟩ =>
      ⟨n, none, .inl ⟨.inl hash, rfl⟩, added⟩
  refine read_bind fun _ => read_bind fun _ => ite (fun _ => ?_) fun _ => ?_
  · refine (node_reading .partitionDefKey (P := KeyMethod) ?_).mono (fun _ h => h)
      fun _ _ ⟨n, a, key, added⟩ => ⟨n, a, .inr key, added⟩
    refine bind (optionalWord_yields _) fun _ n₁ linear =>
      bind (expectKw_single _) fun _ n₂ ⟨k, isKey, added₂⟩ =>
        bind keyAlgorithm_yields fun _ n₃ ⟨a, alg⟩ => optionalColumnList_yields.mono (fun _ _ => trivial)
          fun _ n₄ ⟨cl, isList, added₄⟩ => ⟨a, n₁, k, n₃, cl, linear, isKey, alg, isList, ?_⟩
    rw [added₂, added₄]
    simp
  refine read_bind fun _ => ite (fun _ => ?_) fun _ => failAt
  exact (node_any _).mono (fun _ h => h) fun _ _ ⟨n, ranged, added⟩ =>
    ⟨n, none, .inl ⟨.inr ranged, rfl⟩, added⟩

theorem partitionOptions_yields :
    Yields c partitionOptions fun _ new => ∀ o ∈ new, o.IsBranch .partitionOption := by
  have starts : Yields (fun _ => True) startsPartitionOption fun _ new => new = [] := by
    unfold startsPartitionOption
    exact of_reads
  unfold partitionOptions
  refine loop_all ?_ (Advances.bind_keep fun _ => Advances.ite
    (fun _ => Advances.bind_left partitionOption_advances) fun _ => Advances.pure_not Bool.false_ne_true)
  refine bind starts fun _ n₁ none => ite (fun _ => ?_) fun _ => pure ?_
  · refine bind (node_any .partitionOption) fun _ n₂ ⟨o, isOption, added₂⟩ => pure ?_
    rw [none, added₂]
    simpa using isOption
  · rw [none]
    simp

theorem partitionValues_yields :
    Yields c partitionValues fun _ new =>
      ∃ n b, n.Branch .partitionValues (PartitionBound.Values b) ∧ new = [n] := by
  unfold partitionValues
  refine node_reading .partitionValues (P := PartitionBound.Values) ?_
  refine bind (expectKw_single _) fun _ n₁ ⟨v, isValues, added₁⟩ =>
    (?_ : Yields _ _ fun _ rest => ∃ b : PartitionBound, b.Words rest).mono (fun _ _ => trivial)
      fun _ rest ⟨b, words⟩ => ⟨b, v, rest, isValues, words, by rw [added₁]; rfl⟩
  refine read_ite ?_ (read_ite ?_ failAt)
  · -- `LESS THAN`, then `MAXVALUE` or a list
    refine bind (expectKw_pair _ _) fun _ n₂ ⟨l, t, isLess, isThan, added₂⟩ =>
      bind (accept_yields _) fun b n₃ maxValue => ?_
    rcases maxValue with ⟨rfl, m, isMax, added₃⟩ | ⟨rfl, added₃⟩
    · rw [if_pos rfl]
      exact pure ⟨.lessThanMaxValue, l, t, m, isLess, isThan, isMax, by rw [added₂, added₃]; rfl⟩
    · rw [if_neg Bool.false_ne_true]
      exact exprList_yields.mono (fun _ _ => trivial) fun _ n₄ ⟨es, list⟩ =>
        ⟨.lessThan es, l, t, n₄, isLess, isThan, list, by rw [added₂, added₃]; rfl⟩
  · exact bind skip_word fun _ n₂ ⟨i, isIn, added₂⟩ => exprList_yields.mono (fun _ _ => trivial)
      fun _ n₃ ⟨es, list⟩ => ⟨.inList es, i, n₃, isIn, list, by rw [added₂]; rfl⟩

theorem partitionBound_yields : Yields c partitionBound fun _ new => ∃ b, BoundPart b new := by
  unfold partitionBound
  exact read_ite (partitionValues_yields.mono (fun _ _ => trivial) fun _ _ ⟨v, b, values, added⟩ =>
    ⟨some b, .inr ⟨v, b, values, added, rfl⟩⟩) (pure ⟨none, .inl ⟨rfl, rfl⟩⟩)

theorem subpartitionDefinition_yields :
    Yields c subpartitionDefinition fun _ new =>
      ∃ n, (∃ name, n.Branch .subpartitionDefinition (SubpartitionDef name)) ∧ new = [n] := by
  unfold subpartitionDefinition
  refine (node_branch .subpartitionDefinition (P := fun cs => ∃ name, SubpartitionDef name cs) ?_).mono
    (fun _ h => h) fun _ _ ⟨n, branch, added⟩ => ⟨n, branch.exists, added⟩
  refine bind (expectKw_single _) fun _ n₁ ⟨w, isSub, added₁⟩ =>
    bind identifier_yields fun _ n₂ ⟨idn, name, named, added₂⟩ =>
      partitionOptions_yields.mono (fun _ _ => trivial) fun _ n₃ opts => ⟨name, w, idn, n₃, isSub, named, opts, ?_⟩
  rw [added₁, added₂]
  rfl

theorem subpartitionList_yields :
    Yields c subpartitionList fun _ new => ∃ names, SubpartitionsPart names new := by
  unfold subpartitionList
  refine read_ite ?_ (pure ⟨[], .inl ⟨rfl, rfl⟩⟩)
  exact bind (skip_kind TokenKind.noConfusion) fun _ n₁ ⟨l, open_, added₁⟩ =>
    bind (commaList_yields subpartitionDefinition_yields) fun _ n₂ ⟨subs, listed, each⟩ =>
      (expect_yields TokenKind.noConfusion).mono (fun _ _ => trivial) fun _ n₃ ⟨r, close, added₃⟩ =>
        let ⟨names, named⟩ := Listed.readings each
        ⟨names, .inr ⟨l, r, n₂, subs, open_, close, listed, named, by rw [added₁, added₃]; rfl⟩⟩

theorem partitionDefinition_yields :
    Yields c partitionDefinition fun _ new =>
      ∃ n, (∃ e, n.Branch .partitionDefinition (PartitionDef e)) ∧ new = [n] := by
  rw [partitionDefinition_eq]
  refine (node_branch .partitionDefinition (P := fun cs => ∃ e, PartitionDef e cs) ?_).mono
    (fun _ h => h) fun _ _ ⟨n, branch, added⟩ => ⟨n, branch.exists, added⟩
  refine bind (expectKw_single _) fun _ n₁ ⟨w, isPartition, added₁⟩ =>
    bind identifier_yields fun _ n₂ ⟨idn, name, named, added₂⟩ =>
      bind partitionBound_yields fun _ n₃ ⟨b, bound⟩ => bind partitionOptions_yields fun _ n₄ opts =>
        subpartitionList_yields.mono (fun _ _ => trivial) fun _ n₅ ⟨names, subs⟩ =>
          ⟨⟨name, b, names⟩, w, idn, n₃, n₄, n₅, isPartition, named, bound, opts, subs, ?_⟩
  rw [added₁, added₂]
  simp

theorem partitionDefinitions_yields :
    Yields c partitionDefinitions fun _ new =>
      ∃ n es, n.Branch .partitionDefinitions (PartitionDefs es) ∧ new = [n] := by
  unfold partitionDefinitions
  refine node_reading .partitionDefinitions (P := PartitionDefs) ?_
  exact bind (expect_yields TokenKind.noConfusion) fun _ n₁ ⟨l, open_, added₁⟩ =>
    bind (commaList_yields partitionDefinition_yields) fun _ n₂ ⟨defs, listed, each⟩ =>
      (expect_yields TokenKind.noConfusion).mono (fun _ _ => trivial) fun _ n₃ ⟨r, close, added₃⟩ =>
        let ⟨es, read⟩ := Listed.readings each
        ⟨es, l, r, n₂, defs, open_, close, listed, read, by rw [added₁, added₃]; rfl⟩

theorem partitionSub_yields : Yields c partitionSub fun _ new => ∃ count, SubPartitionsPart count new := by
  unfold partitionSub
  exact read_ite (subPartitions_yields.mono (fun _ _ => trivial) fun _ _ ⟨n, count, sub, added⟩ =>
    ⟨count, .inr ⟨n, sub, added⟩⟩) (pure ⟨none, .inl ⟨rfl, rfl⟩⟩)

theorem partitionList_yields : Yields c partitionList fun _ new => ∃ es, DefinitionsPart es new := by
  unfold partitionList
  exact read_ite (partitionDefinitions_yields.mono (fun _ _ => trivial) fun _ _ ⟨n, es, defs, added⟩ =>
    ⟨es, .inr ⟨n, defs, added⟩⟩) (pure ⟨[], .inl ⟨rfl, rfl⟩⟩)

/-- Every success of the partitioning production adds one node, a `PARTITION BY` branch whose
children follow the grammar of the clause. -/
theorem partitioning_yields :
    Yields c partitioning fun _ new => ∃ n cl, n.Branch .partition (PartitionBy cl) ∧ new = [n] := by
  rw [partitioning_eq]
  refine node_reading .partition (P := PartitionBy) ?_
  refine bind (expectKw_pair _ _) fun _ n₁ ⟨p, b, isPartition, isBy, added₁⟩ =>
    bind partitionMethod_yields fun _ n₂ ⟨m, algorithm, method, added₂⟩ =>
      bind (wordNumber_yields _) fun _ n₃ ⟨count, counted⟩ =>
        bind partitionSub_yields fun _ n₄ ⟨subCount, sub⟩ =>
          partitionList_yields.mono (fun _ _ => trivial) fun _ n₅ ⟨entries, defs⟩ =>
            ⟨⟨algorithm, count, subCount, entries⟩, p, b, m, n₃, n₄, n₅, isPartition, isBy, method,
              counted, sub, defs, ?_⟩
  rw [added₁, added₂]
  simp

end Yields

end DdlCatalog.Syntax.Parse
