import Mathlib
import DdlCatalog.Proofs.Parsing.PartitionTrees
import DdlCatalog.Analysis.Partitioning
import DdlCatalog.Proofs.Steps
/-!
# Reading `PARTITION BY` clauses

The analysis reads a clause node in three steps, the method, the `PARTITIONS` count and the
subpartitioning, and then lists the definitions. What a reading returns does not depend on the
analyzer's state: `partitioning_returns` gives it in terms of the node's children
(`clauseKeyAlgorithm`, `clauseCount`, `clauseSubCount`, `clauseDefinitions`), following the
steps one join point at a time. On a node that gives a clause (`PartitionBy`), these views are
what the clause says: the count is its `PARTITIONS` number, the subpartition count its
`SUBPARTITIONS` number, never the number of an `ALGORITHM` clause, and the definitions are its
entries in order, named and bounded as written (`ClauseRead`, `DefinitionRead`). Every node the
partitioning production builds gives a clause, so every clause that parses is read so
(`partitioning_reads_clause`).

A number counts only when it is written in decimal and below `2 ^ 31` (`tokenCount`): the count
of `PARTITIONS 0x10` is unset, and the reading reports it as out of range.
-/

namespace DdlCatalog.Sql.Token

/-- A token that is one word is no other. -/
theorem isWord_eq_false_of_isWord (kw : String) {t : Token} {w : String} (word : t.isWord w = true)
    (apart : (Utf8.encode kw).map asciiUpperByte ≠ (Utf8.encode w).map asciiUpperByte) :
    t.isWord kw = false := by
  refine Bool.eq_false_iff.mpr fun other => apart ?_
  simp only [isWord, Bool.and_eq_true, equalFoldAscii_iff] at word other
  exact other.2.symm.trans word.2

theorem isWord_eq_false_of_kind {t : Token} {kw : String} (notWord : t.kind ≠ .ident) :
    t.isWord kw = false :=
  Bool.eq_false_iff.mpr fun word => notWord (kind_of_isWord word)

end DdlCatalog.Sql.Token

namespace DdlCatalog.Syntax

open DdlCatalog.Sql

namespace Node

@[simp] theorem isKind_terminal (k : NodeKind) (t : Token) : (Node.terminal t).isKind k = false := rfl

@[simp] theorem isKind_branch (k k' : NodeKind) (span : Span) (text : String) (cs : List Node) :
    (Node.branch k span text cs).isKind k' = decide (k = k') := by
  simp [isKind, kind?, beq_eq_decide]

@[simp] theorem children_branch (k : NodeKind) (span : Span) (text : String) (cs : List Node) :
    (Node.branch k span text cs).children = cs := rfl

theorem IsBranch.isKind {k : NodeKind} {n : Node} (branch : n.IsBranch k) (k' : NodeKind) :
    n.isKind k' = decide (k = k') := by
  obtain ⟨span, text, cs, -, rfl⟩ := branch
  exact isKind_branch k k' span text cs

theorem Branch.isBranch {k : NodeKind} {P : List Node → Prop} {n : Node} (branch : n.Branch k P) :
    n.IsBranch k := by
  obtain ⟨span, text, cs, -, rfl⟩ := branch
  exact ⟨span, text, cs, trivial, rfl⟩

theorem IsBranch.ne_terminal {k : NodeKind} {n : Node} (branch : n.IsBranch k) (t : Token) :
    n ≠ .terminal t := by
  obtain ⟨span, text, cs, -, rfl⟩ := branch
  exact Node.noConfusion

theorem mem_terminals {n : Node} {t : Token} : t ∈ n.terminals ↔ Node.terminal t ∈ n.children := by
  unfold terminals
  rw [List.mem_filterMap]
  constructor
  · rintro ⟨x, mem, found⟩
    cases x with
    | terminal u =>
      cases found
      exact mem
    | branch => cases found
  · intro mem
    exact ⟨_, mem, rfl⟩

theorem hasKeyword_eq_true {kw : String} {n : Node} {t : Token} (mem : Node.terminal t ∈ n.children)
    (word : t.isWord kw = true) : n.hasKeyword kw = true :=
  List.any_eq_true.mpr ⟨t, mem_terminals.mpr mem, word⟩

theorem hasKeyword_eq_false {kw : String} {n : Node}
    (absent : ∀ t, Node.terminal t ∈ n.children → t.isWord kw = false) : n.hasKeyword kw = false :=
  List.any_eq_false.mpr fun t mem word => by rw [absent t (mem_terminals.mp mem)] at word; cases word

/-- A search finds the one element that passes, when there is only one. -/
theorem find?_eq_some_of_only {α : Type} {p : α → Bool} {l : List α} {a : α} (mem : a ∈ l)
    (holds : p a = true) (only : ∀ b ∈ l, p b = true → b = a) : l.find? p = some a := by
  obtain ⟨b, found⟩ := Option.isSome_iff_exists.mp (List.find?_isSome.mpr ⟨a, mem, holds⟩)
  rw [found, only b (List.mem_of_find?_eq_some found) (List.find?_some found)]

theorem IsBranch.isKind_self {k : NodeKind} {n : Node} (branch : n.IsBranch k) : n.isKind k = true := by
  rw [branch.isKind]
  exact decide_eq_true rfl

theorem IsBranch.kind_eq {k k' : NodeKind} {n : Node} (branch : n.IsBranch k) (kind : n.isKind k' = true) :
    k' = k := by
  rw [branch.isKind] at kind
  exact (of_decide_eq_true kind).symm

/-- A search for a kind that no child in `cs` has finds nothing. -/
theorem find?_isKind_eq_none {cs : List Node} {K k : NodeKind}
    (kinds : ∀ y ∈ cs, y.isKind k = true → k = K) (other : k ≠ K) : cs.find? (Node.isKind k) = none :=
  List.find?_eq_none.mpr fun y mem kind => other (kinds y mem kind)

theorem filter_isKind_eq_nil {cs : List Node} {K k : NodeKind}
    (kinds : ∀ y ∈ cs, y.isKind k = true → k = K) (other : k ≠ K) : cs.filter (Node.isKind k) = [] :=
  List.filter_eq_nil_iff.mpr fun y mem kind => other (kinds y mem kind)

/-- A name node has the one name part it is written with. -/
theorem NameOf.nameParts {n : Node} {t : Token} (named : n.NameOf t) : n.nameParts = [t.text] := by
  obtain ⟨span, text, cs, ⟨ident, rfl⟩, rfl⟩ := named
  have valued : (t.kind == .ident || t.kind == .quotedIdent || t.kind == .string) = true := by
    unfold Token.isIdentifier at ident
    split at ident <;> simp_all
  simp [Node.nameParts, Node.walk, Node.walkAll, Node.firstValueToken?, Node.terminals, valued]

end Node

/-- Each element of the left list of a `Forall₂` is related to one of the right. -/
theorem exists_of_mem_forall₂ {α β : Type} {R : α → β → Prop} {l₁ : List α} {l₂ : List β}
    (rel : List.Forall₂ R l₁ l₂) {a : α} (mem : a ∈ l₁) : ∃ b, R a b := by
  induction rel with
  | nil => cases mem
  | cons related _ ih =>
    rcases List.mem_cons.mp mem with rfl | mem
    · exact ⟨_, related⟩
    · exact ih mem

/-- Nodes each read as a branch of kind `k` are branches of that kind. -/
theorem isBranch_of_forall₂ {β : Type} {k : NodeKind} {P : β → List Node → Prop} {ns : List Node}
    {bs : List β} (read : List.Forall₂ (fun n b => n.Branch k (P b)) ns bs) : ∀ n ∈ ns, n.IsBranch k :=
  fun _ mem =>
    let ⟨_, branch⟩ := exists_of_mem_forall₂ read mem
    branch.isBranch

/-- Lists related by `Forall₂` map to one list by functions that agree on related elements. -/
theorem map_eq_map_of_forall₂ {α β γ : Type} {R : α → β → Prop} {f : α → γ} {g : β → γ} {l₁ : List α}
    {l₂ : List β} (rel : List.Forall₂ R l₁ l₂) (agree : ∀ a b, R a b → f a = g b) :
    l₁.map f = l₂.map g := by
  rw [← List.forall₂_eq_eq_eq]
  exact List.rel_map agree rel

namespace Parse.Listed

/-- An item of a comma list is one of its nodes or a comma. -/
theorem mem {items ns : List Node} (listed : Listed items ns) {x : Node} (mem : x ∈ items) :
    x ∈ ns ∨ ∃ t, t.kind = .comma ∧ x = .terminal t := by
  induction listed with
  | one n => exact .inl mem
  | cons n comma _ ih =>
    rcases List.mem_cons.mp mem with rfl | mem
    · exact .inl List.mem_cons_self
    rcases List.mem_cons.mp mem with rfl | mem
    · exact .inr ⟨_, comma, rfl⟩
    rcases ih mem with found | isComma
    · exact .inl (List.mem_cons_of_mem n found)
    · exact .inr isComma

/-- The nodes of a comma list, all of one kind, are its children of that kind. -/
theorem filter_isKind {items ns : List Node} (listed : Listed items ns) {k : NodeKind}
    (kinds : ∀ n ∈ ns, n.isKind k = true) : items.filter (Node.isKind k) = ns := by
  induction listed with
  | one n => simp [kinds n List.mem_cons_self]
  | cons n _ _ ih =>
    rw [List.filter_cons_of_pos (kinds n List.mem_cons_self), List.filter_cons_of_neg (by simp),
      ih fun m mem => kinds m (List.mem_cons_of_mem n mem)]

/-- The nodes of a parenthesized comma list, all of one kind, are its children of that kind. -/
theorem filter_paren {l r : Token} {items ns : List Node} (listed : Listed items ns) {k : NodeKind}
    (kinds : ∀ n ∈ ns, n.isKind k = true) :
    (Node.terminal l :: items ++ [Node.terminal r]).filter (Node.isKind k) = ns := by
  rw [List.cons_append, List.filter_cons_of_neg (by simp), List.filter_append, listed.filter_isKind kinds]
  simp

/-- A child of a parenthesized comma list of `K` nodes that has a kind has the kind `K`. -/
theorem kind_paren {l r : Token} {items ns : List Node} (listed : Listed items ns) {K : NodeKind}
    (kinds : ∀ n ∈ ns, n.IsBranch K) {y : Node} (mem : y ∈ Node.terminal l :: items ++ [.terminal r])
    {k : NodeKind} (kind : y.isKind k = true) : k = K := by
  simp only [List.cons_append, List.mem_cons, List.mem_append, List.not_mem_nil, or_false] at mem
  rcases mem with rfl | inner | rfl
  · cases kind
  · rcases listed.mem inner with node | ⟨t, -, rfl⟩
    · exact (kinds y node).kind_eq kind
    · cases kind
  · cases kind

end Parse.Listed

namespace Parse.ExprList

/-- The terminals of a parenthesized list are punctuation. -/
theorem not_word {es cs : List Node} (list : ExprList es cs) {t : Token} (mem : Node.terminal t ∈ cs)
    (kw : String) : t.isWord kw = false := by
  obtain ⟨l, r, items, open_, close, listed, exprs, rfl⟩ := list
  refine Token.isWord_eq_false_of_kind ?_
  simp only [List.cons_append, List.mem_cons, List.mem_append, List.not_mem_nil, or_false,
    Node.terminal.injEq] at mem
  rcases mem with rfl | inner | rfl
  · rw [open_]; decide
  · rcases listed.mem inner with expr | ⟨u, comma, same⟩
    · obtain ⟨span, text, cs, -, built⟩ := exprs _ expr
      cases built
    · cases same
      rw [comma]; decide
  · rw [close]; decide

theorem filter_expr {es cs : List Node} (list : ExprList es cs) :
    cs.filter (Node.isKind .expr) = es := by
  obtain ⟨l, r, items, -, -, listed, exprs, rfl⟩ := list
  exact listed.filter_paren fun e mem => (exprs e mem).isKind_self

/-- The words of a node before a list of expressions are its only words. -/
theorem hasKeyword {es rest : List Node} (list : ExprList es rest) {n : Node} (ws : List Token) (kw : String)
    (children : n.children = ws.map Node.terminal ++ rest) : n.hasKeyword kw = ws.any (·.isWord kw) := by
  apply Bool.eq_iff_iff.mpr
  simp only [Node.hasKeyword, List.any_eq_true, Node.mem_terminals, children, List.mem_append,
    List.mem_map, Node.terminal.injEq]
  constructor
  · rintro ⟨t, ⟨u, mem, rfl⟩ | inRest, word⟩
    · exact ⟨u, mem, word⟩
    · rw [list.not_word inRest kw] at word
      cases word
  · rintro ⟨t, mem, word⟩
    exact ⟨t, .inl ⟨t, mem, rfl⟩, word⟩

/-- The expressions of a node that ends in a list of expressions are those of the list. -/
theorem childrenOf {es rest : List Node} (list : ExprList es rest) {n : Node} (ws : List Token)
    (children : n.children = ws.map Node.terminal ++ rest) : n.childrenOf .expr = es := by
  rw [Node.childrenOf, children, List.filter_append, list.filter_expr, List.filter_map]
  simp

end Parse.ExprList

/-! The parts of a clause node. -/

theorem MethodNode.isBranch {alg : Option Token} {m : Node} (method : MethodNode alg m) :
    m.IsBranch .partitionDefHash ∨ m.IsBranch .partitionDefRangeList ∨ m.IsBranch .partitionDefKey := by
  rcases method with ⟨hash | ranged, -⟩ | key
  · exact .inl hash
  · exact .inr (.inl ranged)
  · exact .inr (.inr key.isBranch)

theorem MethodNode.isKind_eq_false {alg : Option Token} {m : Node} (method : MethodNode alg m)
    {k : NodeKind} (other : k ∉ [NodeKind.partitionDefHash, .partitionDefRangeList, .partitionDefKey]) :
    m.isKind k = false := by
  refine Bool.eq_false_iff.mpr fun kind => other ?_
  rcases method.isBranch with branch | branch | branch <;> simp [branch.kind_eq kind]

theorem MethodNode.ne_terminal {alg : Option Token} {m : Node} (method : MethodNode alg m) (t : Token) :
    m ≠ .terminal t := by
  rcases method.isBranch with branch | branch | branch <;> exact branch.ne_terminal t

/-- No child, or one branch of kind `k`: the shape of the optional parts of a clause. -/
def OptionalBranch (k : NodeKind) (cs : List Node) : Prop :=
  cs = [] ∨ ∃ n, n.IsBranch k ∧ cs = [n]

namespace OptionalBranch

variable {k : NodeKind} {cs : List Node}

theorem mem (part : OptionalBranch k cs) {y : Node} (mem : y ∈ cs) : y.IsBranch k := by
  rcases part with rfl | ⟨n, branch, rfl⟩
  · cases mem
  · rw [List.mem_singleton.mp mem]
    exact branch

/-- An optional part has only children of its own kind. -/
theorem find?_isKind (part : OptionalBranch k cs) (k' : NodeKind) :
    cs.find? (Node.isKind k') = if k' = k then cs.head? else none := by
  rcases part with rfl | ⟨n, branch, rfl⟩
  · simp
  · simp [branch.isKind, eq_comm]

end OptionalBranch

theorem BoundPart.optional {b : Option PartitionBound} {cs : List Node} (bound : BoundPart b cs) :
    OptionalBranch .partitionValues cs := by
  rcases bound with ⟨rfl, -⟩ | ⟨v, _, branch, rfl, -⟩
  · exact .inl rfl
  · exact .inr ⟨v, branch.isBranch, rfl⟩

theorem SubPartitionsPart.optional {count : Option Token} {cs : List Node} (sub : SubPartitionsPart count cs) :
    OptionalBranch .subPartitions cs := by
  rcases sub with ⟨rfl, -⟩ | ⟨n, branch, rfl⟩
  · exact .inl rfl
  · exact .inr ⟨n, branch.isBranch, rfl⟩

theorem DefinitionsPart.optional {es : List PartitionEntry} {cs : List Node} (defs : DefinitionsPart es cs) :
    OptionalBranch .partitionDefinitions cs := by
  rcases defs with ⟨rfl, -⟩ | ⟨n, branch, rfl⟩
  · exact .inl rfl
  · exact .inr ⟨n, branch.isBranch, rfl⟩

theorem NumberClause.mem {kw : String} {number : Option Token} {cs : List Node}
    (clause : NumberClause kw number cs) {y : Node} (mem : y ∈ cs) : ∃ t, y = .terminal t := by
  rcases clause with ⟨rfl, -⟩ | ⟨w, t, -, -, rfl, -⟩
  · cases mem
  · simp only [List.mem_cons, List.not_mem_nil, or_false] at mem
    rcases mem with rfl | rfl
    · exact ⟨w, rfl⟩
    · exact ⟨t, rfl⟩

theorem OptionalWord.word {kw : String} {cs : List Node} (opt : OptionalWord kw cs) {u : Token}
    (mem : Node.terminal u ∈ cs) : u.isWord kw = true := by
  rcases opt with rfl | ⟨t, isKw, rfl⟩
  · cases mem
  · rw [List.mem_singleton, Node.terminal.injEq] at mem
    rw [mem]
    exact isKw

/-- No word of a subpartitioning method is `SUBPARTITIONS`. -/
theorem SubMethod.not_subpartitions {cs : List Node} (method : SubMethod cs) {u : Token}
    (mem : Node.terminal u ∈ cs) : u.isWord "SUBPARTITIONS" = false := by
  rcases method with ⟨h, l, e, r, isHash, open_, isExpr, close, rfl⟩ |
    ⟨k, alg, number, cl, isKey, algorithm, isList, rfl⟩
  · simp only [List.mem_cons, List.not_mem_nil, or_false, Node.terminal.injEq] at mem
    rcases mem with rfl | rfl | same | rfl
    · exact Token.isWord_eq_false_of_isWord _ isHash (by decide +kernel)
    · exact Token.isWord_eq_false_of_kind (by rw [open_]; decide)
    · exact absurd same.symm (isExpr.ne_terminal u)
    · exact Token.isWord_eq_false_of_kind (by rw [close]; decide)
  · simp only [List.cons_append, List.mem_cons, List.mem_append, List.not_mem_nil, or_false,
      Node.terminal.injEq] at mem
    rcases mem with rfl | inAlg | same
    · exact Token.isWord_eq_false_of_isWord _ isKey (by decide +kernel)
    · rcases algorithm with ⟨rfl, -⟩ | ⟨w, e, t, isAlgorithm, isEq, num, rfl, -⟩
      · cases inAlg
      · simp only [List.mem_cons, List.not_mem_nil, or_false, Node.terminal.injEq] at inAlg
        rcases inAlg with rfl | rfl | rfl
        · exact Token.isWord_eq_false_of_isWord _ isAlgorithm (by decide +kernel)
        · exact Token.isWord_eq_false_of_kind (by rw [isEq]; decide)
        · exact Token.isWord_eq_false_of_kind (by rw [num]; decide)
    · exact absurd same.symm (isList.ne_terminal u)

/-- A `SUBPARTITION BY` node has the word `SUBPARTITIONS` exactly when it gives a count. -/
theorem SubPartitionsClause.hasKeyword {count : Option Token} {cs : List Node} {span : Span}
    {text : String} (clause : SubPartitionsClause count cs) :
    (Node.branch .subPartitions span text cs).hasKeyword "SUBPARTITIONS" = count.isSome := by
  obtain ⟨s, b, lin, method, tail, isSub, isBy, linear, isMethod, counted, rfl⟩ := clause
  rcases counted with ⟨rfl, rfl⟩ | ⟨w, t, isCount, -, rfl, rfl⟩
  · refine Node.hasKeyword_eq_false fun u mem => ?_
    simp only [Node.children_branch, List.cons_append, List.append_nil, List.mem_cons, List.mem_append,
      Node.terminal.injEq] at mem
    rcases mem with rfl | rfl | inLinear | inMethod
    · exact Token.isWord_eq_false_of_isWord _ isSub (by decide +kernel)
    · exact Token.isWord_eq_false_of_isWord _ isBy (by decide +kernel)
    · exact Token.isWord_eq_false_of_isWord _ (linear.word inLinear) (by decide +kernel)
    · exact isMethod.not_subpartitions inMethod
  · exact Node.hasKeyword_eq_true (by simp) isCount

theorem SubpartitionsPart.kind {names : List Token} {cs : List Node} (subs : SubpartitionsPart names cs)
    {y : Node} (mem : y ∈ cs) {k : NodeKind} (kind : y.isKind k = true) : k = .subpartitionDefinition := by
  rcases subs with ⟨rfl, -⟩ | ⟨l, r, items, ns, -, -, listed, named, rfl⟩
  · cases mem
  · exact listed.kind_paren (isBranch_of_forall₂ named) mem kind

/-- The subpartitions of a definition are its nodes of their kind, each named as its entry. -/
theorem SubpartitionsPart.filter_isKind {names : List Token} {cs : List Node}
    (subs : SubpartitionsPart names cs) :
    ∃ ns, cs.filter (Node.isKind .subpartitionDefinition) = ns ∧
      List.Forall₂ (fun n name => n.Branch .subpartitionDefinition (SubpartitionDef name)) ns names := by
  rcases subs with ⟨rfl, rfl⟩ | ⟨l, r, items, ns, -, -, listed, named, rfl⟩
  · exact ⟨[], rfl, .nil⟩
  · exact ⟨ns, listed.filter_paren fun n mem => (isBranch_of_forall₂ named n mem).isKind_self, named⟩

/-- The definitions of a list of definitions are its nodes of their kind, each read as its entry. -/
theorem PartitionDefs.childrenOf {es : List PartitionEntry} {cs : List Node}
    (defs : PartitionDefs es cs) (span : Span) (text : String) :
    ∃ ds, (Node.branch .partitionDefinitions span text cs).childrenOf .partitionDefinition = ds ∧
      List.Forall₂ (fun n e => n.Branch .partitionDefinition (PartitionDef e)) ds es := by
  obtain ⟨l, r, items, ds, -, -, listed, read, rfl⟩ := defs
  exact ⟨ds, listed.filter_paren fun n mem => (isBranch_of_forall₂ read n mem).isKind_self, read⟩

/-! How the reading writes a bound. -/

/-- A list of expressions as the reading writes it: their texts between parentheses, separated
by commas. -/
def listText (es : List Node) : String := "(" ++ ",".intercalate (es.map Node.text) ++ ")"

/-- A bound as the reading writes it. -/
def PartitionBound.text : PartitionBound → String
  | .lessThanMaxValue => "LESS THAN MAXVALUE"
  | .lessThan es => "LESS THAN " ++ listText es
  | .inList es => "IN " ++ listText es

/-- The bound of an entry as the reading writes it, empty when there is none. -/
def PartitionEntry.valuesText (e : PartitionEntry) : String := (e.bound.map PartitionBound.text).getD ""

end DdlCatalog.Syntax

namespace DdlCatalog.Analysis

open DdlCatalog.Sql
open DdlCatalog.Syntax
open DdlCatalog.Catalog

/-! What a reading returns, whatever the state it starts from. -/

/-- Every run of `m`, from any state, returns a value of which `P` holds. -/
def Returns {α : Type} (m : Analyze α) (P : α → Prop) : Prop := ∀ a, P (m.run a).1

namespace Returns

variable {α β : Type} {P : α → Prop}

theorem pure {x : α} (holds : P x) : Returns (Pure.pure x) P := fun _ => holds

theorem bind {m : Analyze β} {f : β → Analyze α} {Q : β → Prop} (first : Returns m Q)
    (rest : ∀ x, Q x → Returns (f x) P) : Returns (m >>= f) P :=
  fun a => rest _ (first a) _

theorem ite {c : Prop} [Decidable c] {x y : Analyze α} (yes : c → Returns x P) (no : ¬c → Returns y P) :
    Returns (if c then x else y) P := by
  by_cases holds : c
  · rw [if_pos holds]
    exact yes holds
  · rw [if_neg holds]
    exact no holds

end Returns

/-- The count a number token gives: its text read as a decimal below `2 ^ 31`. -/
def tokenCount (t : Token) : Option Nat := Numeric.parseSmallCount? t.text

/-- A number is read as a count, and one that does not read is only reported. -/
theorem countOf_returns (tok : Option Token) (pos : Position) (object : String) :
    Returns (Analyze.countOf tok pos object) (· = tok.bind tokenCount) := by
  unfold Analyze.countOf
  split
  · exact Returns.pure rfl
  · split
    · next read => exact Returns.pure (by simp [tokenCount, read])
    · next unread =>
      exact Returns.bind (Q := fun _ => True) (fun _ => trivial) fun _ _ =>
        Returns.pure (by simp [tokenCount, unread])

theorem intValue_returns (n : Node) (object : String) :
    Returns (Analyze.intValue n object) (· = (numberOf n).bind tokenCount) :=
  countOf_returns _ _ _

/-- The first number among the direct terminals is the only one, when there is only one. -/
theorem numberOf_eq_some {n : Node} {t : Token} (mem : Node.terminal t ∈ n.children)
    (num : t.kind = .number) (only : ∀ u, Node.terminal u ∈ n.children → u.kind = .number → u = t) :
    numberOf n = some t := by
  unfold numberOf
  exact Node.find?_eq_some_of_only (Node.mem_terminals.mpr mem) (by simp [num])
    fun u mem' number => only u (Node.mem_terminals.mp mem') (by simpa using number)

theorem lastNumberOf_of_last {n : Node} {pre : List Node} {t : Token}
    (children : n.children = pre ++ [.terminal t]) (num : t.kind = .number) : lastNumberOf n = some t := by
  unfold lastNumberOf Node.terminals
  rw [children, List.filterMap_append]
  simp [num]

/-! The reading of a clause node, in terms of its children. -/

/-- The key algorithm a reading takes: the number of a `KEY` method, when there is no `HASH`
method before it. -/
def clauseKeyAlgorithm (n : Node) : Nat :=
  if (n.child .partitionDefHash).isNone then
    ((n.child .partitionDefKey).bind fun clause => (numberOf clause).bind tokenCount).getD 0
  else 0

/-- The count a reading takes: the first number of the node, when `PARTITIONS` is one of its
words. -/
def clauseCount (n : Node) : Option Nat :=
  if n.hasKeyword "PARTITIONS" then (numberOf n).bind tokenCount else none

/-- The subpartition count a reading takes: the last number of the `SUBPARTITION BY` node, when
`SUBPARTITIONS` is one of its words. -/
def clauseSubCount (n : Node) : Option Nat :=
  (n.child .subPartitions).bind fun sub =>
    if sub.hasKeyword "SUBPARTITIONS" then (lastNumberOf sub).bind tokenCount else none

/-- The definitions a reading lists. -/
def clauseDefinitions (n : Node) : List PartitionDefinition :=
  (((n.child .partitionDefinitions).map (·.childrenOf .partitionDefinition)).getD []).map fun d =>
    { spec := partitionSpec d, subpartitions := (d.childrenOf .subpartitionDefinition).map partitionSpec }

/-- A reading of the node `n` that returned `p`. -/
structure ReadsClause (n : Node) (p : Partitioning) : Prop where
  keyAlgorithm : p.keyAlgorithm = clauseKeyAlgorithm n
  count : p.count = clauseCount n
  subCount : p.subCount = clauseSubCount n
  definitions : p.definitions = clauseDefinitions n

/-- What a reading of a clause node returns, whatever the state. The proof follows the join
points of the reading: each stage is given what the stages before it have set. -/
theorem partitioning_returns (n : Node) (object : String) :
    Returns (Analyze.partitioning n object) (ReadsClause n) := by
  unfold Analyze.partitioning
  extract_lets p₀ defs finish withSub withCount
  have finished : ∀ p : Partitioning, p.keyAlgorithm = clauseKeyAlgorithm n → p.count = clauseCount n →
      p.subCount = clauseSubCount n → Returns (finish () p) (ReadsClause n) :=
    fun p key count sub => Returns.pure ⟨key, count, sub, rfl⟩
  have subRead : ∀ p : Partitioning, p.keyAlgorithm = clauseKeyAlgorithm n → p.count = clauseCount n →
      p.subCount = none → Returns (withSub () p) (ReadsClause n) := by
    intro p key count unset
    simp only [withSub]
    split
    · next sub found =>
      have counted (subs : sub.hasKeyword "SUBPARTITIONS" = true) :
          (lastNumberOf sub).bind tokenCount = clauseSubCount n := by
        simp [clauseSubCount, found, subs]
      have uncounted (nosubs : ¬sub.hasKeyword "SUBPARTITIONS" = true) : none = clauseSubCount n := by
        simp [clauseSubCount, found, nosubs]
      -- `HASH` or `KEY` sets fields the reading does not look at; then the count, when it reads
      refine Returns.ite (fun _ => ?_) (fun _ => ?_) <;>
        refine Returns.ite (fun subs => Returns.bind (countOf_returns _ _ _) fun r read => ?_)
          fun nosubs => finished _ key count (unset.trans (uncounted nosubs))
      all_goals
        cases r with
        | some v => exact finished _ key count (read.trans (counted subs))
        | none => exact finished _ key count (unset.trans (read.trans (counted subs)))
    · next absent =>
      exact finished _ key count (unset.trans (by
        rw [clauseSubCount, Option.eq_none_iff_forall_ne_some.mpr absent]
        rfl))
  have countRead : ∀ p : Partitioning, p.keyAlgorithm = clauseKeyAlgorithm n → p.count = none →
      p.subCount = none → Returns (withCount () p) (ReadsClause n) := by
    intro p key unset unsetSub
    simp only [withCount]
    refine Returns.ite (fun counts => Returns.bind (intValue_returns _ _) fun r read => ?_)
      fun nocount => subRead _ key (unset.trans (by simp [clauseCount, nocount])) unsetSub
    cases r with
    | some v => exact subRead _ key (read.trans (by simp [clauseCount, counts])) unsetSub
    | none => exact subRead _ key (unset.trans (read.trans (by simp [clauseCount, counts]))) unsetSub
  -- the method: only a `KEY` method reads a number, its `ALGORITHM`
  have unkeyed (noKey : (n.child .partitionDefHash).isNone = false ∨ n.child .partitionDefKey = none) :
      0 = clauseKeyAlgorithm n := by
    unfold clauseKeyAlgorithm
    rcases noKey with hash | noKey
    · rw [hash]
      rfl
    · rw [noKey]
      split <;> rfl
  split
  · next _ _ _ clause hash => exact countRead _ (unkeyed (.inl (by rw [hash]; rfl))) rfl rfl
  · next _ _ _ clause noHash key =>
    have keyed : ((numberOf clause).bind tokenCount).getD 0 = clauseKeyAlgorithm n := by
      rw [clauseKeyAlgorithm, noHash, key]
      rfl
    refine Returns.bind (intValue_returns _ _) fun r read => ?_
    cases r with
    | some v => exact countRead _ (by rw [← keyed, ← read]; rfl) rfl rfl
    | none => exact countRead _ (by rw [← keyed, ← read]; rfl) rfl rfl
  · next _ _ _ clause noHash noKey range =>
    exact Returns.ite (fun _ => countRead _ (unkeyed (.inr noKey)) rfl rfl)
      fun _ => countRead _ (unkeyed (.inr noKey)) rfl rfl
  · next _ _ _ noHash noKey noRange => exact countRead _ (unkeyed (.inr noKey)) rfl rfl

/-! The children of a clause node. -/

section ClauseNode

variable {p b : Token} {m : Node} {cnt sub defs : List Node} {alg count subCount : Option Token}
  {entries : List PartitionEntry}

/-- The direct terminals of a clause node are `PARTITION`, `BY` and those of its count. -/
theorem partitionBy_terminal (method : MethodNode alg m) (subs : SubPartitionsPart subCount sub)
    (listed : DefinitionsPart entries defs) {u : Token}
    (mem : Node.terminal u ∈ .terminal p :: .terminal b :: m :: cnt ++ sub ++ defs) :
    u = p ∨ u = b ∨ Node.terminal u ∈ cnt := by
  simp only [List.cons_append, List.mem_cons, List.mem_append, Node.terminal.injEq] at mem
  rcases mem with rfl | rfl | same | (inCount | inSub) | inDefs
  · exact .inl rfl
  · exact .inr (.inl rfl)
  · exact absurd same.symm (method.ne_terminal u)
  · exact .inr (.inr inCount)
  · exact absurd rfl ((subs.optional.mem inSub).ne_terminal u)
  · exact absurd rfl ((listed.optional.mem inDefs).ne_terminal u)

variable {span : Span} {text : String}

/-- Looking for a child of a clause node skips its terminals. -/
theorem partitionBy_child (counted : NumberClause "PARTITIONS" count cnt) (k : NodeKind) :
    (Node.branch .partition span text (.terminal p :: .terminal b :: m :: cnt ++ sub ++ defs)).child k =
      (m :: sub ++ defs).find? (Node.isKind k) := by
  have skipped : cnt.find? (Node.isKind k) = none := List.find?_eq_none.mpr fun y mem => by
    obtain ⟨t, rfl⟩ := counted.mem mem
    simp
  simp only [Node.child, Node.children_branch, List.cons_append, List.append_assoc, List.find?_cons,
    Node.isKind_terminal, List.find?_append, skipped, Option.none_or]

theorem clauseCount_eq {cl : PartitionClause} {cs : List Node} (clause : PartitionBy cl cs) :
    clauseCount (.branch .partition span text cs) = cl.count.bind tokenCount := by
  obtain ⟨p, b, m, cnt, sub, defs, isPartition, isBy, method, counted, subs, listed, rfl⟩ := clause
  unfold clauseCount
  rcases counted with ⟨rfl, absent⟩ | ⟨w, t, isCount, num, rfl, present⟩
  · -- no count: `PARTITION` and `BY` are the only words
    have unmarked : (Node.branch .partition span text
        (.terminal p :: .terminal b :: m :: [] ++ sub ++ defs)).hasKeyword "PARTITIONS" = false := by
      refine Node.hasKeyword_eq_false fun u mem => ?_
      rcases partitionBy_terminal method subs listed mem with rfl | rfl | inCount
      · exact Token.isWord_eq_false_of_isWord _ isPartition (by decide +kernel)
      · exact Token.isWord_eq_false_of_isWord _ isBy (by decide +kernel)
      · cases inCount
    rw [unmarked, absent]
    rfl
  · -- the count's number is the only number among the direct terminals
    have only : ∀ u, Node.terminal u ∈ (.terminal p :: .terminal b :: m :: [.terminal w, .terminal t] ++
        sub ++ defs) → u.kind = .number → u = t := by
      intro u mem number
      rcases partitionBy_terminal method subs listed mem with rfl | rfl | inCount
      · rw [Token.kind_of_isWord isPartition] at number
        cases number
      · rw [Token.kind_of_isWord isBy] at number
        cases number
      · simp only [List.mem_cons, List.not_mem_nil, or_false, Node.terminal.injEq] at inCount
        rcases inCount with rfl | rfl
        · rw [Token.kind_of_isWord isCount] at number
          cases number
        · rfl
    rw [Node.hasKeyword_eq_true (t := w) (by simp) isCount, if_pos rfl,
      numberOf_eq_some (n := .branch .partition span text _) (by simp) num only, present]

/-- The number of a `KEY` method is its `ALGORITHM` number. -/
theorem numberOf_keyMethod {algorithm : Option Token} {cs : List Node} (key : KeyMethod algorithm cs) :
    numberOf (.branch .partitionDefKey span text cs) = algorithm := by
  obtain ⟨lin, k, alg, cl, linear, isKey, clause, ⟨cspan, ctext, ccs, -, rfl⟩, rfl⟩ := key
  have keyWord := Token.kind_of_isWord isKey
  rcases linear with rfl | ⟨l, isLinear, rfl⟩
  all_goals rcases clause with ⟨rfl, rfl⟩ | ⟨w, e, t, isAlgorithm, isEq, num, rfl, rfl⟩
  · simp [numberOf, Node.terminals, keyWord]
  · simp [numberOf, Node.terminals, keyWord, Token.kind_of_isWord isAlgorithm, isEq, num]
  · simp [numberOf, Node.terminals, keyWord, Token.kind_of_isWord isLinear]
  · simp [numberOf, Node.terminals, keyWord, Token.kind_of_isWord isLinear,
      Token.kind_of_isWord isAlgorithm, isEq, num]

theorem clauseKeyAlgorithm_eq {cl : PartitionClause} {cs : List Node} (clause : PartitionBy cl cs) :
    clauseKeyAlgorithm (.branch .partition span text cs) = (cl.algorithm.bind tokenCount).getD 0 := by
  obtain ⟨p, b, m, cnt, sub, defs, -, -, method, counted, subs, listed, rfl⟩ := clause
  unfold clauseKeyAlgorithm
  rw [partitionBy_child counted, partitionBy_child counted]
  -- neither the subpartitioning nor the definitions have a method's kind
  have rest (k : NodeKind) (notSub : k ≠ .subPartitions) (notDefs : k ≠ .partitionDefinitions) :
      (sub ++ defs).find? (Node.isKind k) = none := by
    simp [List.find?_append, subs.optional.find?_isKind, listed.optional.find?_isKind, notSub, notDefs]
  simp only [List.cons_append, List.find?_cons, rest .partitionDefHash (by decide) (by decide),
    rest .partitionDefKey (by decide) (by decide)]
  rcases method with ⟨hash | ranged, unset⟩ | ⟨kspan, ktext, kcs, key, rfl⟩
  · simp [hash.isKind, unset]
  · simp [ranged.isKind, unset]
  · simp [numberOf_keyMethod key]

/-- The last number of a `SUBPARTITION BY` node is its `SUBPARTITIONS` number. -/
theorem lastNumberOf_subPartitions {t : Token} {cs : List Node} (clause : SubPartitionsClause (some t) cs) :
    lastNumberOf (.branch .subPartitions span text cs) = some t := by
  obtain ⟨s, b, lin, method, tail, -, -, -, -, counted, rfl⟩ := clause
  rcases counted with ⟨-, absent⟩ | ⟨w, u, -, num, rfl, same⟩
  · cases absent
  · cases same
    exact @lastNumberOf_of_last _ (.terminal s :: .terminal b :: lin ++ method ++ [.terminal w]) _
      (by simp) num

theorem clauseSubCount_eq {cl : PartitionClause} {cs : List Node} (clause : PartitionBy cl cs) :
    clauseSubCount (.branch .partition span text cs) = cl.subCount.bind tokenCount := by
  obtain ⟨alg, count, subCount, entries⟩ := cl
  obtain ⟨p, b, m, cnt, sub, defs, -, -, method, counted, subs, listed, rfl⟩ := clause
  have notSub : m.isKind .subPartitions = false := method.isKind_eq_false (by decide)
  have noDefs : defs.find? (Node.isKind .subPartitions) = none := by simp [listed.optional.find?_isKind]
  unfold clauseSubCount
  rw [partitionBy_child counted]
  simp only [List.cons_append, List.find?_cons, notSub, List.find?_append, noDefs, Option.or_none]
  rcases subs with ⟨rfl, unset⟩ | ⟨n, ⟨sspan, stext, scs, clause, rfl⟩, rfl⟩
  · cases (unset : subCount = none)
    rfl
  · rcases subCount with _ | t
    · simp [clause.hasKeyword]
    · simp [clause.hasKeyword, lastNumberOf_subPartitions clause]

/-! The definitions of a clause. -/

/-- The bound a reading writes for the `VALUES` child of a definition, if it has one. -/
def boundText : Option Node → String
  | none => ""
  | some v =>
    if v.hasKeyword "MAXVALUE" then "LESS THAN MAXVALUE"
    else if v.hasKeyword "IN" then "IN " ++ listText (v.childrenOf .expr)
    else "LESS THAN " ++ listText (v.childrenOf .expr)

/-- The options of a definition set neither its name nor its bound. -/
theorem partitionSpec_keeps (n : Node) :
    (partitionSpec n).name = identifierName (n.child .identifier) ∧
      (partitionSpec n).values = boundText (n.child .partitionValues) := by
  unfold partitionSpec
  extract_lets values option
  have keeps : ∀ pd o, (option pd o).name = pd.name ∧ (option pd o).values = pd.values := by
    intro pd o
    simp only [option]
    split <;> exact ⟨rfl, rfl⟩
  -- the fold over the options keeps what each option keeps
  have folded : ∀ (os : List Node) (pd : PartitionSpec),
      (os.foldl option pd).name = pd.name ∧ (os.foldl option pd).values = pd.values := by
    intro os
    induction os with
    | nil => exact fun _ => ⟨rfl, rfl⟩
    | cons o os ih =>
      intro pd
      obtain ⟨name, values⟩ := keeps pd o
      exact ⟨(ih _).1.trans name, (ih _).2.trans values⟩
  refine (folded _ _).imp id fun same => same.trans ?_
  simp only [values]
  cases n.child .partitionValues <;> rfl

/-- A `VALUES` node is written as the bound it gives. -/
theorem boundText_values {v : Node} {b : PartitionBound} (bound : v.Branch .partitionValues b.Values) :
    boundText (some v) = b.text := by
  obtain ⟨span, text, cs, ⟨w, rest, isValues, words, rfl⟩, rfl⟩ := bound
  cases b with
  | lessThanMaxValue =>
    obtain ⟨l, t, m, -, -, isMax, rfl⟩ := words
    rw [boundText, if_pos (Node.hasKeyword_eq_true (t := m) (by simp) isMax)]
    rfl
  | lessThan es =>
    obtain ⟨l, t, exprs, isLess, isThan, list, rfl⟩ := words
    have noMax : (Node.branch .partitionValues span text
        (.terminal w :: .terminal l :: .terminal t :: exprs)).hasKeyword "MAXVALUE" = false :=
      (list.hasKeyword [w, l, t] _ rfl).trans (by
        simp [Token.isWord_eq_false_of_isWord "MAXVALUE" isValues (by decide +kernel),
          Token.isWord_eq_false_of_isWord "MAXVALUE" isLess (by decide +kernel),
          Token.isWord_eq_false_of_isWord "MAXVALUE" isThan (by decide +kernel)])
    have noIn : (Node.branch .partitionValues span text
        (.terminal w :: .terminal l :: .terminal t :: exprs)).hasKeyword "IN" = false :=
      (list.hasKeyword [w, l, t] _ rfl).trans (by
        simp [Token.isWord_eq_false_of_isWord "IN" isValues (by decide +kernel),
          Token.isWord_eq_false_of_isWord "IN" isLess (by decide +kernel),
          Token.isWord_eq_false_of_isWord "IN" isThan (by decide +kernel)])
    rw [boundText, if_neg (by simp [noMax]), if_neg (by simp [noIn]), list.childrenOf [w, l, t] rfl]
    rfl
  | inList es =>
    obtain ⟨i, exprs, isIn, list, rfl⟩ := words
    have noMax : (Node.branch .partitionValues span text
        (.terminal w :: .terminal i :: exprs)).hasKeyword "MAXVALUE" = false :=
      (list.hasKeyword [w, i] _ rfl).trans (by
        simp [Token.isWord_eq_false_of_isWord "MAXVALUE" isValues (by decide +kernel),
          Token.isWord_eq_false_of_isWord "MAXVALUE" isIn (by decide +kernel)])
    rw [boundText, if_neg (by simp [noMax]), if_pos (Node.hasKeyword_eq_true (t := i) (by simp) isIn),
      list.childrenOf [w, i] rfl]
    rfl

theorem identifierName_nameOf {n : Node} {t : Token} (named : n.NameOf t) :
    identifierName (some n) = t.text := by
  simp [identifierName, identifierParts, named.nameParts]

/-- The name of a definition is the node after its first word. -/
theorem child_identifier {k : NodeKind} {w t : Token} {idn : Node} {rest : List Node}
    (named : idn.NameOf t) :
    (Node.branch k span text (.terminal w :: idn :: rest)).child .identifier = some idn := by
  rw [Node.child, Node.children_branch, List.find?_cons_of_neg (by simp),
    List.find?_cons_of_pos named.isBranch.isKind_self]

theorem partitionSpec_subpartition {name : Token} {cs : List Node} (sub : SubpartitionDef name cs) :
    (partitionSpec (.branch .subpartitionDefinition span text cs)).name = name.text := by
  obtain ⟨w, idn, opts, -, named, -, rfl⟩ := sub
  rw [(partitionSpec_keeps _).1, child_identifier named, identifierName_nameOf named]

/-- A definition read as the entry `e`: with its name, its bound as written, and the names of its
subpartitions in order. -/
structure DefinitionRead (d : PartitionDefinition) (e : PartitionEntry) : Prop where
  name : d.spec.name = e.name.text
  bound : d.spec.values = e.valuesText
  subpartitions : d.subpartitions.map (·.name) = e.subpartitions.map Token.text

section Definition

variable {e : PartitionEntry} {w : Token} {idn : Node} {vals opts subs : List Node}

theorem partitionDef_name (named : idn.NameOf e.name) :
    (partitionSpec (.branch .partitionDefinition span text
      (.terminal w :: idn :: vals ++ opts ++ subs))).name = e.name.text := by
  rw [(partitionSpec_keeps _).1]
  simp only [List.cons_append]
  rw [child_identifier named, identifierName_nameOf named]

/-- The bound of a definition is that of its `VALUES` node, the first child of its kind after the
word and the name. -/
theorem partitionDef_values (named : idn.NameOf e.name) (bound : BoundPart e.bound vals)
    (options : ∀ o ∈ opts, o.IsBranch .partitionOption) (subpartitions : SubpartitionsPart e.subpartitions subs) :
    (partitionSpec (.branch .partitionDefinition span text
      (.terminal w :: idn :: vals ++ opts ++ subs))).values = e.valuesText := by
  have after : (opts ++ subs).find? (Node.isKind .partitionValues) = none := by
    rw [List.find?_append, Node.find?_isKind_eq_none (fun y mem kind => (options y mem).kind_eq kind) (by decide),
      Node.find?_isKind_eq_none (fun y mem kind => subpartitions.kind mem kind) (by decide)]
    rfl
  rw [(partitionSpec_keeps _).2, Node.child, Node.children_branch]
  simp only [List.cons_append, List.append_assoc]
  rw [List.find?_cons_of_neg (by simp), List.find?_cons_of_neg (by simp [named.isBranch.isKind]),
    List.find?_append, after, Option.or_none]
  rcases bound with ⟨rfl, unset⟩ | ⟨v, b, branch, rfl, set⟩
  · rw [PartitionEntry.valuesText, unset]
    rfl
  · rw [List.find?_singleton, if_pos branch.isBranch.isKind_self, boundText_values branch,
      PartitionEntry.valuesText, set]
    rfl

/-- The subpartitions of a definition are its only children of their kind, named as its entry
names them. -/
theorem partitionDef_subpartitions (named : idn.NameOf e.name) (bound : BoundPart e.bound vals)
    (options : ∀ o ∈ opts, o.IsBranch .partitionOption) (subpartitions : SubpartitionsPart e.subpartitions subs) :
    (((Node.branch .partitionDefinition span text (.terminal w :: idn :: vals ++ opts ++ subs)).childrenOf
      .subpartitionDefinition).map partitionSpec).map (·.name) = e.subpartitions.map Token.text := by
  obtain ⟨ns, filtered, read⟩ := subpartitions.filter_isKind
  have children : (Node.branch .partitionDefinition span text
      (.terminal w :: idn :: vals ++ opts ++ subs)).childrenOf .subpartitionDefinition = ns := by
    rw [Node.childrenOf, Node.children_branch]
    simp only [List.cons_append]
    rw [List.filter_cons_of_neg (by simp), List.filter_cons_of_neg (by simp [named.isBranch.isKind]),
      List.filter_append, List.filter_append,
      Node.filter_isKind_eq_nil (fun y mem kind => (bound.optional.mem mem).kind_eq kind) (by decide),
      Node.filter_isKind_eq_nil (fun y mem kind => (options y mem).kind_eq kind) (by decide), filtered]
    rfl
  rw [children, List.map_map]
  refine map_eq_map_of_forall₂ read fun n name sub => ?_
  obtain ⟨sspan, stext, scs, sub, rfl⟩ := sub
  exact partitionSpec_subpartition sub

end Definition

/-- A definition node is read as the entry it gives. -/
theorem definitionRead {e : PartitionEntry} {d : Node} (definition : d.Branch .partitionDefinition (PartitionDef e)) :
    DefinitionRead
      { spec := partitionSpec d, subpartitions := (d.childrenOf .subpartitionDefinition).map partitionSpec } e := by
  obtain ⟨span, text, cs, ⟨w, idn, vals, opts, subs, -, named, bound, options, subpartitions, rfl⟩, rfl⟩ :=
    definition
  exact ⟨partitionDef_name named, partitionDef_values named bound options subpartitions,
    partitionDef_subpartitions named bound options subpartitions⟩

/-- The definitions of a clause node are read as its entries, one by one. -/
theorem clauseDefinitions_read {cl : PartitionClause} {cs : List Node} (clause : PartitionBy cl cs) :
    List.Forall₂ DefinitionRead (clauseDefinitions (.branch .partition span text cs)) cl.entries := by
  obtain ⟨alg, count, subCount, entries⟩ := cl
  obtain ⟨p, b, m, cnt, sub, defs, -, -, method, counted, subs, listed, rfl⟩ := clause
  have notDefs : m.isKind .partitionDefinitions = false := method.isKind_eq_false (by decide)
  have noSub : sub.find? (Node.isKind .partitionDefinitions) = none := by simp [subs.optional.find?_isKind]
  unfold clauseDefinitions
  rw [partitionBy_child counted]
  simp only [List.cons_append, List.find?_cons, notDefs, List.find?_append, noSub, Option.none_or]
  rcases listed with ⟨rfl, unset⟩ | ⟨n, ⟨dspan, dtext, dcs, list, rfl⟩, rfl⟩
  · cases (unset : entries = [])
    exact .nil
  · obtain ⟨ds, children, read⟩ := list.childrenOf dspan dtext
    simp only [List.find?_singleton, Node.isKind_branch, decide_true, if_true, Option.map_some,
      Option.getD_some, children]
    exact List.forall₂_map_left_iff.mpr (read.imp fun _ _ definition => definitionRead definition)

/-- What a reading of a node that gives the clause `cl` returns: the `ALGORITHM` number of a
top-level `KEY` method (0 when there is none), the `PARTITIONS` and `SUBPARTITIONS` numbers as
counts, and the definitions read one by one as the clause's entries. -/
structure ClauseRead (cl : PartitionClause) (p : Partitioning) : Prop where
  keyAlgorithm : p.keyAlgorithm = (cl.algorithm.bind tokenCount).getD 0
  count : p.count = cl.count.bind tokenCount
  subCount : p.subCount = cl.subCount.bind tokenCount
  definitions : List.Forall₂ DefinitionRead p.definitions cl.entries

theorem ReadsClause.clauseRead {cl : PartitionClause} {cs : List Node} {p : Partitioning}
    (read : ReadsClause (.branch .partition span text cs) p) (clause : PartitionBy cl cs) : ClauseRead cl p where
  keyAlgorithm := read.keyAlgorithm.trans (clauseKeyAlgorithm_eq clause)
  count := read.count.trans (clauseCount_eq clause)
  subCount := read.subCount.trans (clauseSubCount_eq clause)
  definitions := by
    rw [read.definitions]
    exact clauseDefinitions_read clause

end ClauseNode

/-- Whether a run returned a value. -/
def succeeded {ε σ α : Type} : EStateM.Result ε σ α → Bool
  | .ok _ _ => true
  | .error _ _ => false

theorem exists_ok_of_succeeded {ε σ : Type} {r : EStateM.Result ε σ Unit} (ok : succeeded r = true) :
    ∃ s, r = .ok () s := by
  cases r with
  | ok a s => exact ⟨s, rfl⟩
  | error => cases ok

/-- A `PARTITION BY` clause is read as it is written. Every success of the partitioning
production adds one node, which gives a clause `cl`; a reading of that node, from any state,
returns the `ALGORITHM` number of a top-level `KEY` method, the `PARTITIONS` and `SUBPARTITIONS`
numbers as counts, never another number, and the definitions in order, each with the name, the
bound and the subpartition names it is written with. -/
theorem partitioning_reads_clause {s s' : ParseState} (ready : s.Ready)
    (ran : Parse.partitioning s = .ok () s') :
    ∃ n cl, s'.children.toList = s.children.toList ++ [n] ∧ n.Branch .partition (PartitionBy cl) ∧
      ∀ object a, ClauseRead cl ((Analyze.partitioning n object).run a).1 := by
  obtain ⟨new, children, n, cl, clause, rfl⟩ :=
    Parse.Yields.partitioning_yields (c := fun _ => True) s ready trivial () s' ran
  refine ⟨n, cl, children, clause, fun object a => ?_⟩
  obtain ⟨span, text, cs, read, rfl⟩ := clause
  exact (partitioning_returns _ object a).clauseRead read

/-- `PARTITION BY HASH (a) PARTITIONS 4` parses, and a reading of its node returns the clause it
gives. -/
theorem hash_partitions_clause_read :
    let word (w : String) : Token := ⟨.ident, Utf8.encode w, default, 0⟩
    let toks := [word "PARTITION", word "BY", word "HASH", ⟨.lparen, [0x28], default, 0⟩, word "a",
      ⟨.rparen, [0x29], default, 0⟩, word "PARTITIONS", ⟨.number, [0x34], default, 0⟩,
      ⟨.eof, [], default, 0⟩]
    ∃ s' n cl, Parse.partitioning (ParseState.init ByteArray.empty toks.toArray) = .ok () s' ∧
      n.Branch .partition (PartitionBy cl) ∧
      ∀ object a, ClauseRead cl ((Analyze.partitioning n object).run a).1 := by
  intro word toks
  have ready : (ParseState.init ByteArray.empty toks.toArray).Ready := ⟨by decide, by decide⟩
  obtain ⟨s', ran⟩ := exists_ok_of_succeeded
    (r := Parse.partitioning (ParseState.init ByteArray.empty toks.toArray)) (by decide +kernel)
  obtain ⟨n, cl, -, clause, read⟩ := partitioning_reads_clause ready ran
  exact ⟨s', n, cl, ran, clause, read⟩

example :
    let u := (AnalysisUnit.new "u" (Catalog.new {}) {}).run
      [.script "CREATE TABLE t (a INT) PARTITION BY HASH (a) PARTITIONS 16;"]
    (u.catalog.schemas.flatMap (·.tables)).map (fun t => t.partitioning.map (·.count)) = [some (some 16)] ∧
      u.diagnostics = [] := by
  set_option maxRecDepth 100000 in decide +kernel

/-- A count written in hexadecimal is not read: the table of
`PARTITION BY HASH (a) PARTITIONS 0x10` has no partition count, and the analysis reports the
number as out of range. -/
theorem hex_partition_count_unread :
    let u := (AnalysisUnit.new "u" (Catalog.new {}) {}).run
      [.script "CREATE TABLE t (a INT) PARTITION BY HASH (a) PARTITIONS 0x10;"]
    (u.catalog.schemas.flatMap (·.tables)).map (fun t => t.partitioning.map (·.count)) = [some none] ∧
      u.diagnostics.map (·.code) = [.valueOutOfRange] := by
  set_option maxRecDepth 100000 in decide +kernel

end DdlCatalog.Analysis
