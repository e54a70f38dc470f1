import Mathlib
import DdlCatalog.Proofs.Parsing.Recovery
/-!
The spans of a parse tree. The tree of a parse lies over the tokens of the script (`Laid`), and
the tokens tile the script, so the ranges of the script the productions cover nest as the
productions do. A production with text spans from the start of the first token consumed while
it was open to the end of the last one, its line and column those of that last token's start,
and its text is the script in between; a production with no text has a span that ends where it
starts. The range of a child with text lies inside its parent's, and the ranges of siblings
with text follow one another in the order of the children. This holds of statements that failed
too, whose span starts at their first token though their children start at the failure.
-/

namespace DdlCatalog.Syntax

open DdlCatalog.Sql

namespace Node

theorem mem_walkAll_iff {v : Visit} : ∀ {ns : List Node}, v ∈ walkAll ns ↔ ∃ n ∈ ns, v ∈ n.walk
  | [] => by simp [walkAll]
  | n :: ns => by simp [walkAll, mem_walkAll_iff]

theorem enter_mem_walk_branch {m : Node} {kind : NodeKind} {span : Span} {text : String}
    {cs : List Node} :
    Visit.enter m ∈ (branch kind span text cs).walk ↔
      m = branch kind span text cs ∨ Visit.enter m ∈ walkAll cs := by
  simp [walk]

/-- `P` holds of every production of the tree under `root`, `root` included. -/
def AllProductions (P : Node → Prop) (root : Node) : Prop := ∀ n, Visit.enter n ∈ root.walk → P n

/-- The span and text of a production, read against the script `src` and its tokens `toks`. With
text, the span runs from the start of a first token to the end of a last one, with that last
token's line and column, the text is the script in between, and the leaves are among the tokens
from the first to the last; with none, the span ends where it starts. The ranges of the
children with text lie inside the production's, in order and not overlapping. -/
structure Spanned (src : ByteArray) (toks : Array Token) (n : Node) : Prop where
  covers : n.text ≠ "" → n.start.offset < n.span.stop.offset ∧
    n.text = Utf8.decode (src.extract n.start.offset n.span.stop.offset).toList ∧
    ∃ i j first last, i < j ∧ toks[i]? = some first ∧ toks[j - 1]? = some last ∧
      n.start = first.pos ∧ n.span.stop = { last.pos with offset := last.endOffset } ∧
      n.leaves.Sublist (toks.extract i j).toList
  empty : n.text = "" → n.span.stop = n.start
  nested : ∀ c ∈ n.children, c.text ≠ "" →
    n.start.offset ≤ c.start.offset ∧ c.span.stop.offset ≤ n.span.stop.offset
  ordered : n.children.Pairwise fun c d => c.text ≠ "" → d.text ≠ "" →
    c.span.stop.offset ≤ d.start.offset

end Node

/-- Where the token at index `a` starts in the script. -/
abbrev startOf (toks : Array Token) (a : Nat) : Nat := (toks.getD a default).pos.offset

/-- Tokens that tile the script `src`: each starts no earlier than the end of the one before and
ends no earlier than it starts, and none ends past the script. -/
structure Tiling (toks : Array Token) (src : ByteArray) : Prop where
  tiles : Tiles 0 toks.toList
  bounded : ∀ t ∈ toks, t.endOffset ≤ src.size

namespace Tiling

variable {toks : Array Token} {src : ByteArray} {a c a' c' : Nat}

theorem endBefore_le_startOf (tiling : Tiling toks src) (inside : a < toks.size) : endBefore toks a ≤ startOf toks a := by
  cases a with
  | zero => exact Nat.zero_le _
  | succ k =>
    have before := tiling.tiles.end_le_start k (by simpa using inside)
    simp only [Array.getElem_toList] at before
    rw [endBefore_succ (Nat.lt_of_succ_lt inside), startOf, ← Array.getElem_eq_getD]
    exact before

theorem startOf_le_endBefore (tiling : Tiling toks src) (inside : a < toks.size) : startOf toks a ≤ endBefore toks (a + 1) := by
  have within := tiling.tiles.start_le_end a (by simpa using inside)
  simp only [Array.getElem_toList] at within
  rw [endBefore_succ inside, startOf, ← Array.getElem_eq_getD]
  exact within

theorem endBefore_mono (tiling : Tiling toks src) (le : c ≤ c') (within : c' ≤ toks.size) :
    endBefore toks c ≤ endBefore toks c' := by
  induction c', le using Nat.le_induction with
  | base => exact Nat.le_refl _
  | succ n _ ih =>
    calc endBefore toks c ≤ endBefore toks n := ih (by omega)
      _ ≤ startOf toks n := tiling.endBefore_le_startOf (by omega)
      _ ≤ endBefore toks (n + 1) := tiling.startOf_le_endBefore (by omega)

theorem startOf_mono (tiling : Tiling toks src) (le : a ≤ a') (inside : a' < toks.size) : startOf toks a ≤ startOf toks a' := by
  induction a', le using Nat.le_induction with
  | base => exact Nat.le_refl _
  | succ n _ ih =>
    calc startOf toks a ≤ startOf toks n := ih (by omega)
      _ ≤ endBefore toks (n + 1) := tiling.startOf_le_endBefore (by omega)
      _ ≤ startOf toks (n + 1) := tiling.endBefore_le_startOf inside

/-- A run whose range of the script is not empty has a token. -/
theorem lt_of_startOf_lt (tiling : Tiling toks src) (inside : a < toks.size) (nonempty : startOf toks a < endBefore toks c) :
    a < c := by
  refine Nat.lt_of_not_le fun before => ?_
  have := (tiling.endBefore_mono before (Nat.le_of_lt inside)).trans (tiling.endBefore_le_startOf inside)
  omega

theorem endBefore_le_size (tiling : Tiling toks src) : endBefore toks c ≤ src.size := by
  cases c with
  | zero => exact Nat.zero_le _
  | succ k =>
    show (toks[k]?.map Token.endOffset).getD 0 ≤ src.size
    cases found : toks[k]? with
    | none => exact Nat.zero_le _
    | some t => exact tiling.bounded t (Array.mem_of_getElem? found)

/-- The text of a run is empty only when its range of the script is. -/
theorem runSpan_text (tiling : Tiling toks src) (inside : a < toks.size) (text : (runSpan toks src a c).2 ≠ "") :
    startOf toks a < endBefore toks c ∧ a < c ∧
      runSpan toks src a c = (⟨(toks.getD a default).pos, { posBefore toks c with offset := endBefore toks c }⟩,
        Utf8.decode (src.extract (startOf toks a) (endBefore toks c)).toList) := by
  unfold runSpan at text ⊢
  by_cases empty : endBefore toks c ≤ startOf toks a
  · rw [if_pos empty] at text
    exact absurd rfl text
  · have nonempty := Nat.lt_of_not_le empty
    exact ⟨nonempty, tiling.lt_of_startOf_lt inside nonempty, if_neg empty⟩

theorem runSpan_empty (tiling : Tiling toks src) (text : (runSpan toks src a c).2 = "") :
    (runSpan toks src a c).1.stop = (runSpan toks src a c).1.start := by
  unfold runSpan at text ⊢
  by_cases empty : endBefore toks c ≤ startOf toks a
  · rw [if_pos empty]
  · -- a non-empty range of the script decodes to some text
    rw [if_neg empty] at text
    exact absurd text (Utf8.decode_ne_empty (Utf8.extract_ne_nil (Nat.lt_of_not_le empty)
      tiling.endBefore_le_size))

end Tiling

namespace Laid

variable {toks : Array Token} {src : ByteArray} {i j : Nat} {ns : List Node}

theorem extract_sublist {a c : Nat} (first : i ≤ a) (ordered : a ≤ c) (last : c ≤ j) :
    (toks.extract a c).toList.Sublist (toks.extract i j).toList := by
  have whole : toks.extract i j = toks.extract i a ++ (toks.extract a c ++ toks.extract c j) := by
    rw [Array.extract_append_extract, Nat.min_eq_left ordered, Nat.max_eq_right last,
      Array.extract_append_extract, Nat.min_eq_left first, Nat.max_eq_right (Nat.le_trans ordered last)]
  rw [whole, Array.toList_append, Array.toList_append]
  exact (List.sublist_append_left _ _).trans (List.sublist_append_right _ _)

/-- The leaves of nodes laid over a run are among its tokens, in order. -/
theorem leaves (laid : Laid toks src i j ns) : (Node.leavesAll ns).Sublist (toks.extract i j).toList := by
  induction laid with
  | nil => exact List.nil_sublist _
  | @terminal i a j ns gap inside rest ih =>
    have first : (toks.extract a j).toList = toks[a] :: (toks.extract (a + 1) j).toList := by
      rw [Array.toList_extract, List.extract_eq_take_drop, Array.toList_extract,
        List.extract_eq_take_drop, List.drop_eq_getElem_cons (by simpa using inside),
        show j - a = (j - (a + 1)) + 1 by have := rest.le; omega, List.take_succ_cons]
      simp
    rw [Node.leavesAll_cons, Node.leaves_terminal, List.singleton_append]
    exact (first ▸ ih.cons_cons toks[a]).trans
      (extract_sublist gap (Nat.le_of_lt rest.le) (Nat.le_refl j))
  | @branch i a c j kind cs ns gap inside children rest ihc ihr =>
    rw [Node.leavesAll_cons, Node.leaves_branch]
    have together : (toks.extract a j).toList = (toks.extract a c).toList ++ (toks.extract c j).toList := by
      rw [← Array.toList_append, Array.extract_append_extract, Nat.min_eq_left children.le,
        Nat.max_eq_right rest.le]
    exact (together ▸ ihc.append ihr).trans
      (extract_sublist gap (Nat.le_trans children.le rest.le) (Nat.le_refl j))

/-- A node with text laid inside the run from `i` to before `j` spans the script from the start
of a token `a` to the end of a token before `c`, for `i ≤ a < c ≤ j`. -/
def Within (toks : Array Token) (i j : Nat) (n : Node) : Prop :=
  ∃ a c, i ≤ a ∧ a < c ∧ c ≤ j ∧ c ≤ toks.size ∧ n.start.offset = startOf toks a ∧
    n.span.stop.offset = endBefore toks c

theorem within_of_text (tiling : Tiling toks src) (laid : Laid toks src i j ns) :
    ∀ n ∈ ns, n.text ≠ "" → Within toks i j n := by
  induction laid with
  | nil => exact fun _ absent => absurd absent List.not_mem_nil
  | terminal gap inside rest ih =>
    rintro n (_ | ⟨_, later⟩) text
    · exact absurd rfl text
    · obtain ⟨a', c', first, run, last, within, start, stop⟩ := ih n later text
      exact ⟨a', c', by omega, run, last, within, start, stop⟩
  | @branch i a c j kind cs ns gap inside children rest ihc ihr =>
    rintro n (_ | ⟨_, later⟩) text
    · obtain ⟨nonempty, run, spans⟩ := tiling.runSpan_text inside text
      refine ⟨a, c, gap, run, rest.le, children.within, ?_, ?_⟩
      · show (runSpan toks src a c).1.start.offset = _
        rw [spans]
      · show (runSpan toks src a c).1.stop.offset = _
        rw [spans]
    · obtain ⟨a', c', first, run, last, within, start, stop⟩ := ihr n later text
      exact ⟨a', c', by have := children.le; omega, run, last, within, start, stop⟩

/-- Nodes with text laid over a run follow one another in the script. -/
theorem ordered (tiling : Tiling toks src) (laid : Laid toks src i j ns) :
    ns.Pairwise fun m n => m.text ≠ "" → n.text ≠ "" → m.span.stop.offset ≤ n.start.offset := by
  induction laid with
  | nil => exact List.Pairwise.nil
  | terminal _ _ _ ih => exact List.pairwise_cons.mpr ⟨fun _ _ text => absurd rfl text, ih⟩
  | @branch i a c j kind cs ns gap inside children rest _ ihr =>
    refine List.pairwise_cons.mpr ⟨fun n later text text' => ?_, ihr⟩
    obtain ⟨-, -, spans⟩ := tiling.runSpan_text inside text
    obtain ⟨a', c', first, run, -, within, start, -⟩ := within_of_text tiling rest n later text'
    -- the node ends with the token before `c`, and the run of `n` starts at `c` or later
    calc (runSpan toks src a c).1.stop.offset = endBefore toks c := by rw [spans]
      _ ≤ endBefore toks a' := tiling.endBefore_mono first (by omega)
      _ ≤ startOf toks a' := tiling.endBefore_le_startOf (by omega)
      _ = n.start.offset := start.symm

/-- A production laid over the run from `a` to before `c` is spanned as that run says. -/
theorem branch_spanned (tiling : Tiling toks src) {a c : Nat} {kind : NodeKind} {cs : List Node}
    (inside : a < toks.size) (children : Laid toks src a c cs) :
    Node.Spanned src toks (.branch kind (runSpan toks src a c).1 (runSpan toks src a c).2 cs) where
  covers text := by
    obtain ⟨nonempty, run, spans⟩ := tiling.runSpan_text inside text
    obtain ⟨k, rfl⟩ : ∃ k, c = k + 1 := ⟨c - 1, by omega⟩
    have last : k < toks.size := by
      have := children.within
      omega
    refine ⟨?_, ?_, a, k + 1, toks[a], toks[k], run, Array.getElem?_eq_getElem inside,
      Array.getElem?_eq_getElem last, ?_, ?_, leaves children⟩
    · show (runSpan toks src a (k + 1)).1.start.offset < (runSpan toks src a (k + 1)).1.stop.offset
      rw [spans]
      exact nonempty
    · show (runSpan toks src a (k + 1)).2 = Utf8.decode (src.extract
        (runSpan toks src a (k + 1)).1.start.offset (runSpan toks src a (k + 1)).1.stop.offset).toList
      rw [spans]
    · show (runSpan toks src a (k + 1)).1.start = _
      rw [runSpan_start, ← Array.getElem_eq_getD]
    · show (runSpan toks src a (k + 1)).1.stop = _
      rw [spans]
      simp only [posBefore_succ last, endBefore_succ last]
  empty text := tiling.runSpan_empty text
  nested d member text := by
    obtain ⟨a', c', first, run, last, within, start, stop⟩ := within_of_text tiling children d member text
    constructor
    · calc (runSpan toks src a c).1.start.offset = startOf toks a := by rw [runSpan_start]
        _ ≤ startOf toks a' := tiling.startOf_mono first (by omega)
        _ = d.start.offset := start.symm
    · calc d.span.stop.offset = endBefore toks c' := stop
        _ ≤ endBefore toks c := tiling.endBefore_mono last children.within
        _ ≤ (runSpan toks src a c).1.stop.offset := endBefore_le_stop toks src a c
  ordered := ordered tiling children

/-- Every production under the nodes laid over a run is spanned; the induction follows the
nodes, and into a production's children through its own `Laid`. -/
theorem spanned (tiling : Tiling toks src) (laid : Laid toks src i j ns) :
    ∀ n ∈ ns, ∀ m, Visit.enter m ∈ n.walk → Node.Spanned src toks m := by
  induction laid with
  | nil => exact fun _ absent => absurd absent List.not_mem_nil
  | terminal _ _ _ ih =>
    rintro n (_ | ⟨_, later⟩) m visited
    · simp [Node.walk] at visited
    · exact ih n later m visited
  | branch kind gap inside children rest ihc ihr =>
    rintro n (_ | ⟨_, later⟩) m visited
    · rcases Node.enter_mem_walk_branch.mp visited with rfl | deeper
      · exact branch_spanned tiling inside children
      · obtain ⟨d, member, inner⟩ := Node.mem_walkAll_iff.mp deeper
        exact ihc d member m inner
    · exact ihr n later m visited

end Laid

/-- The tree of a parse is one node laid over the tokens of the script. -/
theorem parse_laid (sql : String) (opts : LexOptions) :
    ∃ j, Laid (tokenize sql opts).toArray (Utf8.encode sql).toByteArray 0 j [(parse sql opts).1] := by
  have ready : (ParseState.init (Utf8.encode sql).toByteArray (tokenize sql opts).toArray).Ready := by
    obtain ⟨toks, last, split, eof, -⟩ := tokenize_ends sql opts
    rw [split]
    exact ParseState.init_ready _ toks eof
  obtain ⟨s₁, ran, recovered, -⟩ := Parse.script_recovers ready
  have start : (ParseState.init (Utf8.encode sql).toByteArray (tokenize sql opts).toArray).Tracks :=
    ⟨rfl, rfl⟩
  have root : [(parse sql opts).1] =
      ((ParseState.init (Utf8.encode sql).toByteArray (tokenize sql opts).toArray).closeNode
        .script s₁).children.toList := by
    unfold parse
    dsimp only
    rw [ran]
    rfl
  refine ⟨s₁.index, ?_⟩
  rw [root]
  exact ParseState.laid_closed .script ready recovered.moves recovered.follows recovered.laid start

/-- Every production of a parsed tree, statements that failed included, is spanned by the
tokens consumed while it was open: with text, from the start of the first to the end of the
last, the text being the script in between; with none, ending where it starts. The ranges of
its children with text lie inside its own, in order and not overlapping. -/
theorem parse_productions_spanned (sql : String) (opts : LexOptions) :
    (parse sql opts).1.AllProductions
      (Node.Spanned (Utf8.encode sql).toByteArray (tokenize sql opts).toArray) := by
  obtain ⟨tiles, bounded⟩ := tokenize_tiles sql opts
  have tiling : Tiling (tokenize sql opts).toArray (Utf8.encode sql).toByteArray := by
    refine ⟨by rw [List.toList_toArray]; exact tiles, fun t member => ?_⟩
    rw [List.size_toByteArray]
    exact bounded t (List.mem_toArray.mp member)
  obtain ⟨j, laid⟩ := parse_laid sql opts
  exact laid.spanned tiling _ (List.mem_singleton_self _)

end DdlCatalog.Syntax
