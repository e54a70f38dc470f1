import DdlCatalog.Proofs.Parsing.Bodies
import DdlCatalog.Proofs.Parsing.Spelling
/-!
# Runs of the parser over spelled tokens

What a production builds, with its places in the script left out. A `Shape` keeps of a tree the
kinds of its productions and the kinds and values of its tokens; positions, spans and texts go.
`Spells` gives the kinds and values of the tokens from the current one on, and a run that
`Builds` a list of shapes succeeds, moves past a known number of tokens and adds children of
those shapes to the innermost open node. Runs compose along `do` blocks (`Builds.bind`), a node
holds what its body built (`Builds.node`), and the steps that read or consume one token have
their runs here.
-/

namespace DdlCatalog.Sql

/-- Whether a token of this kind and value is the word `kw`, as `Token.isWord` reads it. -/
def spellsWord (p : TokenKind × Bytes) (kw : String) : Bool :=
  p.1 == .ident && equalFoldAscii p.2 (Utf8.encode kw)

theorem spellsWord_eof (kw : String) : spellsWord (.eof, []) kw = false := rfl

theorem spellsWord_self (w : String) : spellsWord (Lexeme.word w).token w = true := by
  simp [spellsWord, Lexeme.token, equalFoldAscii_iff]

theorem Token.isWord_of_spelled {t : Token} {p : TokenKind × Bytes} (spelled : (t.kind, t.literal) = p)
    (kw : String) : t.isWord kw = spellsWord p kw := by
  cases spelled
  rfl

theorem Token.isAnyWord_of_spelled {t : Token} {p : TokenKind × Bytes} (spelled : (t.kind, t.literal) = p)
    (kws : List String) : t.isAnyWord kws = kws.any (spellsWord p) := by
  cases spelled
  rfl

namespace Lexeme

/-- The tokens of pieces, then the end of the script. -/
def ended (ls : List Lexeme) : List (TokenKind × Bytes) := ls.map token ++ [(.eof, [])]

/-- The first of the tokens of pieces, then the end of the script. -/
def lead (ls : List Lexeme) : TokenKind × Bytes := (ls.map token).headD (.eof, [])

theorem ended_eq_cons (ls : List Lexeme) : ended ls = lead ls :: (ended ls).tail := by
  cases ls <;> rfl

theorem ended_append (ls ms : List Lexeme) : ended (ls ++ ms) = ls.map token ++ ended ms := by
  simp [ended]

theorem lead_append (ls ms : List Lexeme) : lead (ls ++ ms) = (ls.map token).headD (lead ms) := by
  cases ls <;> rfl

theorem token_ne_eof (l : Lexeme) : l.token.1 ≠ .eof := by
  cases l <;> simp [token]

theorem ended_cons (l : Lexeme) (ls : List Lexeme) : ended (l :: ls) = l.token :: ended ls := rfl

end Lexeme

end DdlCatalog.Sql

namespace DdlCatalog.Syntax

open DdlCatalog.Sql

/-- A syntax tree with its places in the script left out: the kinds of its productions and the
kinds and values of its tokens. -/
inductive Shape where
  | token (kind : TokenKind) (literal : Bytes)
  | branch (kind : NodeKind) (children : List Shape)

/-- The shape of the terminal a lexeme reads as. -/
def Shape.lexeme (l : Lexeme) : Shape := .token l.token.1 l.token.2

namespace Node

mutual

/-- The shape of a tree. -/
def shape : Node → Shape
  | .terminal t => .token t.kind t.literal
  | .branch k _ _ cs => .branch k (shapes cs)

/-- The shapes of trees. -/
def shapes : List Node → List Shape
  | [] => []
  | n :: ns => shape n :: shapes ns

end

@[simp] theorem shape_terminal (t : Token) : (terminal t).shape = .token t.kind t.literal := by
  rw [shape]

@[simp] theorem shape_branch (k : NodeKind) (span : Span) (text : String) (cs : List Node) :
    (branch k span text cs).shape = .branch k (shapes cs) := by
  rw [shape]

theorem shapes_eq_map : ∀ ns : List Node, shapes ns = ns.map shape
  | [] => by rw [shapes]; rfl
  | n :: ns => by rw [shapes, shapes_eq_map ns, List.map_cons]

/-- A tree of the shape of a token is a terminal of that token's kind and value. -/
theorem shape_eq_token {n : Node} {kind : TokenKind} {literal : Bytes} :
    n.shape = .token kind literal ↔ ∃ t, n = .terminal t ∧ t.kind = kind ∧ t.literal = literal := by
  cases n with
  | terminal t => simp
  | branch k span text cs => simp

/-- A tree of the shape of a production is a production of that kind over trees of the shapes
of its children. -/
theorem shape_eq_branch {n : Node} {kind : NodeKind} {ss : List Shape} :
    n.shape = .branch kind ss ↔ ∃ span text cs, n = .branch kind span text cs ∧ shapes cs = ss := by
  cases n with
  | terminal t => simp
  | branch k span text cs => simp [and_comm, eq_comm]

end Node

namespace ParseState

/-- The tokens from the current one on have these kinds and values. -/
def Spells (s : ParseState) (ps : List (TokenKind × Bytes)) : Prop :=
  ∀ k (inside : k < ps.length), ((s.ahead k).kind, (s.ahead k).literal) = ps[k]

variable {s t : ParseState} {p : TokenKind × Bytes} {ps qs : List (TokenKind × Bytes)}

theorem Spells.head (spells : s.Spells (p :: ps)) : ((s.ahead 0).kind, (s.ahead 0).literal) = p :=
  spells 0 (Nat.succ_pos _)

theorem Spells.kind (spells : s.Spells (p :: ps)) : (s.ahead 0).kind = p.1 :=
  congrArg Prod.fst spells.head

theorem Spells.second {q : TokenKind × Bytes} (spells : s.Spells (p :: q :: ps)) :
    ((s.ahead 1).kind, (s.ahead 1).literal) = q :=
  spells 1 (by simp)

/-- Opening a node keeps the window of tokens. -/
theorem Spells.reset (spells : s.Spells ps) : ({ s with children := #[] } : ParseState).Spells ps :=
  spells

/-- Opening a node keeps a state ready. -/
theorem Ready.reset (ready : s.Ready) : ({ s with children := #[] } : ParseState).Ready :=
  ⟨ready.inside, ready.ends⟩

/-- Two states with the same tokens see the same window, shifted by how far apart they stand. -/
theorem ahead_of_index (tokens : t.tokens = s.tokens) {n : Nat} (index : t.index = s.index + n) (k : Nat) :
    t.ahead k = s.ahead (n + k) := by
  unfold ahead
  rw [tokens, index, Nat.add_assoc]

theorem Spells.drop (spells : s.Spells (ps ++ qs)) (tokens : t.tokens = s.tokens)
    (index : t.index = s.index + ps.length) : t.Spells qs := by
  intro k inside
  rw [ahead_of_index tokens index, spells (ps.length + k) (by simp; omega),
    List.getElem_append_right (by omega)]
  simp

theorem Spells.tail (spells : s.Spells (p :: ps)) (tokens : t.tokens = s.tokens)
    (index : t.index = s.index + 1) : t.Spells ps :=
  @Spells.drop s t [p] ps spells tokens index

theorem Spells.advance (spells : s.Spells (p :: ps)) : s.advance.Spells ps :=
  spells.tail rfl rfl

/-- A ready state stays ready past spelled tokens none of which ends the script. -/
theorem Ready.of_spells (ready : s.Ready) (spells : s.Spells (ps ++ qs)) (noEof : ∀ p ∈ ps, p.1 ≠ .eof)
    (tokens : t.tokens = s.tokens) (index : t.index = s.index + ps.length) : t.Ready := by
  refine ⟨?_, tokens ▸ ready.ends⟩
  rw [tokens, index]
  refine Nat.lt_of_not_le fun past => ?_
  -- else the last token, which ends the script, is one of the spelled ones
  have inside := ready.inside
  obtain ⟨j, last⟩ : ∃ j, s.index + j + 1 = s.tokens.size := ⟨s.tokens.size - s.index - 1, by omega⟩
  have inPs : j < ps.length := by omega
  have spelled := spells j (by simp; omega)
  rw [List.getElem_append_left inPs] at spelled
  have kind : (s.ahead j).kind = .eof := by
    have ends := ready.ends
    rw [Array.back?, show s.tokens.size - 1 = s.index + j by omega,
      Array.getElem?_eq_getElem (by omega)] at ends
    simp only [Option.map_some, Option.some.injEq] at ends
    simpa [ParseState.ahead, Array.getD, show s.index + j < s.tokens.size by omega] using ends
  have kinds := congrArg Prod.fst spelled
  simp only at kinds
  exact noEof _ (List.getElem_mem inPs) (by rw [← kinds, kind])

end ParseState

namespace Parse

variable {α β : Type} {s : ParseState} {p : TokenKind × Bytes} {ps : List (TokenKind × Bytes)}

/-- A run of `p` from `s` that gives `a`, moves past `k` tokens and adds children of the shapes
`ss` to the innermost open node. -/
def Builds (p : Parse α) (s : ParseState) (a : α) (k : Nat) (ss : List Shape) : Prop :=
  ∃ s', p s = .ok a s' ∧ s'.tokens = s.tokens ∧ s'.index = s.index + k ∧
    ∃ new, s'.children.toList = s.children.toList ++ new ∧ Node.shapes new = ss

theorem check_run (k : TokenKind) (s : ParseState) : check k s = .ok ((s.ahead 0).kind == k) s := rfl

theorem isWord_run (kw : String) (s : ParseState) : isWord kw s = .ok ((s.ahead 0).isWord kw) s := rfl

theorem isAny_run (kws : List String) (s : ParseState) : isAny kws s = .ok ((s.ahead 0).isAnyWord kws) s :=
  rfl

theorem isSeq_run (kws : List String) (s : ParseState) :
    isSeq kws s = .ok (kws.length ≤ 3 && kws.zipIdx.all fun (kw, i) => (s.ahead i).isWord kw) s := rfl

theorem number_advance (kind : (s.ahead 0).kind = .number) : number s = .ok () s.advance := by
  unfold number
  rw [bind_ok (check_run _ s)]
  simp only [kind, beq_self_eq_true]
  exact skip_advance (by rw [kind]; decide)

/-- `expect` at a token of the kind it expects consumes it. -/
theorem expect_advance {k : TokenKind} (kind : (s.ahead 0).kind = k) (notEof : k ≠ .eof) :
    expect k s = .ok () s.advance := by
  unfold expect
  rw [bind_ok (check_run k s)]
  simp only [kind, beq_self_eq_true]
  exact map_ok (next_advance (kind ▸ notEof))

/-- `accept` misses a token that is none of the words `kws`, among which it looks for `kw`. -/
theorem accept_miss {kw : String} {kws : List String} (miss : (s.ahead 0).isAnyWord kws = false)
    (listed : kw ∈ kws) : accept kw s = .ok false s := by
  have word : (s.ahead 0).isWord kw = false := by
    refine Bool.eq_false_iff.mpr fun hit => ?_
    have found : (s.ahead 0).isAnyWord kws = true := List.any_eq_true.mpr ⟨kw, listed, hit⟩
    rw [miss] at found
    cases found
  rw [accept, bind_ok (isWord_run _ _), word]
  rfl

theorem acceptSeq_pair {a b : String} (first : (s.ahead 0).isWord a = true) (second : (s.ahead 1).isWord b = true) :
    acceptSeq [a, b] s = .ok true s.advance.advance := by
  have notEof : (s.ahead 0).kind ≠ .eof := by rw [Token.kind_of_isWord first]; decide
  have notEof' : (s.advance.ahead 0).kind ≠ .eof := by
    rw [ParseState.ahead_advance, Token.kind_of_isWord second]; decide
  unfold acceptSeq
  rw [bind_ok (isSeq_run _ _)]
  simp [List.zipIdx, first, second]
  exact (bind_ok (skip_advance notEof)).trans (map_ok (skip_advance notEof'))

theorem ite_bind {c : Prop} [Decidable c] (x y : Parse α) (f : α → Parse β) :
    (if c then x else y) >>= f = if c then x >>= f else y >>= f :=
  apply_ite (· >>= f) c x y

namespace Builds

/-- A run that only reads the state builds nothing. -/
theorem reads {x : Parse α} {a : α} (ran : x s = .ok a s) : Builds x s a 0 [] :=
  ⟨s, ran, rfl, rfl, [], by simp, by rw [Node.shapes]⟩

/-- A run with the same outcome builds the same. -/
theorem of_eq {x y : Parse α} {a : α} {k : Nat} {ss : List Shape} (same : x s = y s)
    (built : Builds y s a k ss) : Builds x s a k ss := by
  obtain ⟨s', ran, rest⟩ := built
  exact ⟨s', same.trans ran, rest⟩

/-- Two runs one after the other: the second starts where the first stopped. -/
theorem bind {x : Parse α} {f : α → Parse β} {a : α} {b : β} {k k' n : Nat} {ss ss' all : List Shape}
    (first : Builds x s a k ss)
    (rest : ∀ s₁ : ParseState, s₁.tokens = s.tokens → s₁.index = s.index + k →
      (∃ new, s₁.children.toList = s.children.toList ++ new ∧ Node.shapes new = ss) → Builds (f a) s₁ b k' ss')
    (moved : k + k' = n) (shapes : ss ++ ss' = all) : Builds (x >>= f) s b n all := by
  obtain ⟨s₁, ran, tokens, index, built⟩ := first
  obtain ⟨s₂, ran', tokens', index', new', children', shapes'⟩ := rest s₁ tokens index built
  obtain ⟨new, children, shapes⟩ := built
  refine ⟨s₂, by rw [bind_ok ran, ran'], tokens'.trans tokens, by rw [index', index, ← moved, Nat.add_assoc],
    new ++ new', by rw [children', children, List.append_assoc], ?_⟩
  rw [Node.shapes_eq_map, List.map_append, ← Node.shapes_eq_map, ← Node.shapes_eq_map, shapes, shapes',
    ‹ss ++ ss' = all›]

/-- A run that only reads, followed by the rest from the same state. -/
theorem bind_reads {x : Parse α} {f : α → Parse β} {a : α} {b : β} {k : Nat} {ss : List Shape}
    (ran : x s = .ok a s) (rest : Builds (f a) s b k ss) : Builds (x >>= f) s b k ss := by
  obtain ⟨s', ran', rest⟩ := rest
  exact ⟨s', by rw [bind_ok ran, ran'], rest⟩

theorem map {x : Parse α} {f : α → β} {a : α} {k : Nat} {ss : List Shape} (built : Builds x s a k ss) :
    Builds (f <$> x) s (f a) k ss := by
  obtain ⟨s', ran, rest⟩ := built
  exact ⟨s', map_ok ran, rest⟩

/-- A run that moves past the current token builds its terminal. -/
theorem advance {x : Parse α} {a : α} (ran : x s = .ok a s.advance) :
    Builds x s a 1 [.token (s.ahead 0).kind (s.ahead 0).literal] :=
  ⟨s.advance, ran, rfl, rfl, [.terminal (s.ahead 0)], by simp [ParseState.advance], by simp [Node.shapes]⟩

theorem advance_spelled {x : Parse α} {a : α} (spells : s.Spells (p :: ps)) (ran : x s = .ok a s.advance) :
    Builds x s a 1 [.token p.1 p.2] := by
  rw [← spells.head]
  exact advance ran

/-- A run that agrees with another one started past the current token builds that token's
terminal first. -/
theorem cons_advance {x y : Parse α} {a : α} {k : Nat} {ss : List Shape} (spells : s.Spells (p :: ps))
    (ran : x s = y s.advance) (built : Builds y s.advance a k ss) :
    Builds x s a (k + 1) (.token p.1 p.2 :: ss) := by
  obtain ⟨s', ran', tokens, index, new, children, shapes⟩ := built
  refine ⟨s', ran.trans ran', tokens, by rw [index]; simp; omega, .terminal (s.ahead 0) :: new, ?_, ?_⟩
  · rw [children]
    simp [ParseState.advance]
  · rw [Node.shapes, shapes, Node.shape_terminal, ← spells.head]

/-- A node holds what its body built. -/
theorem node (kind : NodeKind) {body : Parse α} {a : α} {k : Nat} {ss : List Shape}
    (built : Builds body { s with children := #[] } a k ss) :
    Builds (Parse.node kind body) s a k [.branch kind ss] := by
  obtain ⟨s₁, ran, tokens, index, new, children, shapes⟩ := built
  refine ⟨s.closeNode kind s₁, node_ok kind ran, tokens, index,
    [.branch kind (s₁.spanFrom (s.ahead 0).pos).1 (s₁.spanFrom (s.ahead 0).pos).2 s₁.children.toList], ?_, ?_⟩
  · simp [ParseState.closeNode]
  · simp only [Node.shapes, Node.shape_branch]
    rw [children]
    simpa using shapes

/-- A run that moves past the current token and the next builds their terminals. -/
theorem advance_two {x : Parse α} {a : α} {q : TokenKind × Bytes} (spells : s.Spells (p :: q :: ps))
    (ran : x s = .ok a s.advance.advance) : Builds x s a 2 [.token p.1 p.2, .token q.1 q.2] :=
  Builds.cons_advance (y := fun t => .ok a t.advance) spells ran (Builds.advance_spelled spells.advance rfl)

end Builds

end Parse

end DdlCatalog.Syntax
