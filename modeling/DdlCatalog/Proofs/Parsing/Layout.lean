import Mathlib
import DdlCatalog.Syntax.Parse.Basic
import DdlCatalog.Proofs.Parsing.Tokens
/-!
How the nodes of a tree lie over the tokens of its script. A node that opens at the token with
index `i` and closes once the tokens before index `j` are consumed covers the run of tokens from
`i` to before `j`: its span starts where token `i` starts, ends with token `j - 1`, and its text is
the script in between. `Laid` says that nodes lie in order over runs inside a given run, each over
the tokens consumed while it was open, and their children inside them likewise. A statement that
failed keeps only the tokens from the failure on, so the children of a node may leave out tokens
at the front of its run.

Over tokens that tile the script, runs that follow one another have ranges of the script that do
not overlap, and a run inside another has its range inside the other's.
-/

namespace DdlCatalog.Syntax

open DdlCatalog.Sql

/-- The offset just past the token before index `j`; 0 before the first token. -/
def endBefore (toks : Array Token) : Nat → Nat
  | 0 => 0
  | j + 1 => (toks[j]?.map Token.endOffset).getD 0

/-- Where the token before index `j` starts; the default position before the first token. -/
def posBefore (toks : Array Token) : Nat → Position
  | 0 => default
  | j + 1 => (toks[j]?.map Token.pos).getD default

/-- The span and text of a node that opened at token `i` and closed once the tokens before `j`
were consumed: empty when no byte of the script lies between them. -/
def runSpan (toks : Array Token) (src : ByteArray) (i j : Nat) : Span × String :=
  let start := (toks.getD i default).pos
  if endBefore toks j ≤ start.offset then (⟨start, start⟩, "")
  else
    (⟨start, { posBefore toks j with offset := endBefore toks j }⟩,
      Utf8.decode (src.extract start.offset (endBefore toks j)).toList)

@[simp] theorem runSpan_start (toks : Array Token) (src : ByteArray) (i j : Nat) :
    (runSpan toks src i j).1.start = (toks.getD i default).pos := by
  unfold runSpan
  dsimp only
  split <;> rfl

/-- A run's span ends no earlier than the token before its end: there when the run has text,
and at its start, which is later, when it has none. -/
theorem endBefore_le_stop (toks : Array Token) (src : ByteArray) (i j : Nat) :
    endBefore toks j ≤ (runSpan toks src i j).1.stop.offset := by
  unfold runSpan
  dsimp only
  split
  · assumption
  · exact Nat.le_refl _

/-- Nodes lying in order over runs of tokens inside the run from `i` to before `j`: a terminal
over its own token, and a production over the tokens consumed while it was open, its span and
text those of that run and its children lying inside it. Between the nodes, and before the
children of a production, tokens may be left out: those a failed statement dropped. -/
inductive Laid (toks : Array Token) (src : ByteArray) : Nat → Nat → List Node → Prop
  | nil {i j : Nat} (le : i ≤ j) (within : j ≤ toks.size) : Laid toks src i j []
  | terminal {i a j : Nat} {ns : List Node} (gap : i ≤ a) (inside : a < toks.size)
      (rest : Laid toks src (a + 1) j ns) : Laid toks src i j (.terminal toks[a] :: ns)
  | branch {i a c j : Nat} (kind : NodeKind) {cs ns : List Node} (gap : i ≤ a)
      (inside : a < toks.size) (children : Laid toks src a c cs) (rest : Laid toks src c j ns) :
      Laid toks src i j (.branch kind (runSpan toks src a c).1 (runSpan toks src a c).2 cs :: ns)

namespace Laid

variable {toks : Array Token} {src : ByteArray} {i j : Nat} {ns : List Node}

theorem le (laid : Laid toks src i j ns) : i ≤ j := by
  induction laid with
  | nil le => exact le
  | terminal gap _ _ ih => omega
  | branch _ gap _ _ _ ihc ihr => omega

/-- A run ends no later than the tokens. -/
theorem within (laid : Laid toks src i j ns) : j ≤ toks.size := by
  induction laid with
  | nil _ within => exact within
  | terminal _ _ _ ih => exact ih
  | branch _ _ _ _ _ _ ih => exact ih

/-- A run that starts earlier holds the same nodes. -/
theorem widen {i' : Nat} (earlier : i' ≤ i) (laid : Laid toks src i j ns) : Laid toks src i' j ns := by
  cases laid with
  | nil le within => exact nil (Nat.le_trans earlier le) within
  | terminal gap inside rest => exact terminal (Nat.le_trans earlier gap) inside rest
  | branch kind gap inside children rest =>
    exact branch kind (Nat.le_trans earlier gap) inside children rest

/-- Nodes over two runs that follow one another lie over the run they make together. -/
theorem append {a : Nat} {ms : List Node} (first : Laid toks src i a ns)
    (second : Laid toks src a j ms) : Laid toks src i j (ns ++ ms) := by
  induction first with
  | nil le => exact second.widen le
  | terminal gap inside _ ih => exact terminal gap inside (ih second)
  | branch kind gap inside children _ _ ih => exact branch kind gap inside children (ih second)

/-- A terminal over the token at `a`. -/
theorem single_terminal {a : Nat} (inside : a < toks.size) :
    Laid toks src a (a + 1) [.terminal toks[a]] :=
  terminal (Nat.le_refl a) inside (nil (Nat.le_refl _) inside)

/-- A production over the run from `a` to before `c`, its children lying inside it. -/
theorem single_branch {a c : Nat} (kind : NodeKind) {cs : List Node} (inside : a < toks.size)
    (children : Laid toks src a c cs) :
    Laid toks src a c [.branch kind (runSpan toks src a c).1 (runSpan toks src a c).2 cs] :=
  branch kind (Nat.le_refl a) inside children (nil (Nat.le_refl c) children.within)

end Laid

@[simp] theorem endBefore_succ {toks : Array Token} {j : Nat} (inside : j < toks.size) :
    endBefore toks (j + 1) = toks[j].endOffset := by
  simp [endBefore, inside]

@[simp] theorem posBefore_succ {toks : Array Token} {j : Nat} (inside : j < toks.size) :
    posBefore toks (j + 1) = toks[j].pos := by
  simp [posBefore, inside]

namespace ParseState

/-- The last token consumed is the one just before the current token, or none was consumed yet. -/
def Tracks (s : ParseState) : Prop :=
  s.prevEnd = endBefore s.tokens s.index ∧ s.prevPos = posBefore s.tokens s.index

/-- The span a state closes a node with is that of the run from the node's first token to the
current one. -/
theorem Tracks.spanFrom_eq {s : ParseState} (tracks : s.Tracks) (i : Nat) :
    s.spanFrom (s.tokens.getD i default).pos = runSpan s.tokens s.source i s.index := by
  unfold spanFrom runSpan
  rw [tracks.1, tracks.2]

/-- `s'` keeps the script of `s`, and keeps the last consumed token just before the current one. -/
structure Follows (s s' : ParseState) : Prop where
  source : s'.source = s.source
  tracks : s.Tracks → s'.Tracks

/-- The nodes added to the innermost open node from `s` to `s'` lie over the tokens consumed in
between. -/
def Lays (s s' : ParseState) : Prop :=
  ∃ added : Array Node, s'.children = s.children ++ added ∧
    Laid s.tokens s.source s.index s'.index added.toList

variable {s s₁ s₂ : ParseState}

theorem Follows.refl (s : ParseState) : s.Follows s := ⟨rfl, id⟩

theorem Follows.trans (first : s.Follows s₁) (second : s₁.Follows s₂) : s.Follows s₂ :=
  ⟨second.source.trans first.source, second.tracks ∘ first.tracks⟩

/-- Adding nothing, from a position within the tokens. -/
theorem Lays.none (later : s.index ≤ s₁.index) (within : s₁.index ≤ s.tokens.size)
    (children : s₁.children = s.children) : s.Lays s₁ :=
  ⟨#[], by rw [children, Array.append_empty], .nil later within⟩

theorem Lays.trans (first : s.Lays s₁) (second : s₁.Lays s₂) (tokens : s₁.tokens = s.tokens)
    (source : s₁.source = s.source) : s.Lays s₂ := by
  obtain ⟨added₁, children₁, laid₁⟩ := first
  obtain ⟨added₂, children₂, laid₂⟩ := second
  rw [tokens, source] at laid₂
  refine ⟨added₁ ++ added₂, by rw [children₂, children₁, Array.append_assoc], ?_⟩
  rw [Array.toList_append]
  exact laid₁.append laid₂

end ParseState

end DdlCatalog.Syntax
