import Mathlib
import DdlCatalog.Proofs.Parsing.Bodies
import DdlCatalog.Proofs.Parsing.Errors
/-!
# What a successful production added

`Yields c p Q` reads a run backwards: every success of the step `p`, run from a ready state whose
window of tokens satisfies `c`, has appended to the innermost open node children of which `Q`
holds, with the step's result. A `do` block yields what its steps yield one after the other
(`Yields.bind`, where the rest is told what the first step added), a step that only reads the
window lets the rest know what it read (`Yields.read_bind`), a node holds what its body yielded
(`Yields.node`), whatever the body did (`Yields.node_any`), and a loop yields its rounds in
order (`Yields.loopFrom`). The steps that consume one token yield its terminal.
-/

namespace DdlCatalog.Syntax

open DdlCatalog.Sql

/-- A production of kind `k` whose children satisfy `P`. -/
def Node.Branch (k : NodeKind) (P : List Node → Prop) (n : Node) : Prop :=
  ∃ span text cs, P cs ∧ n = .branch k span text cs

/-- A production of kind `k`, whatever it holds. -/
def Node.IsBranch (k : NodeKind) (n : Node) : Prop := n.Branch k fun _ => True

/-- The identifier node `n` holds the one name token `t`. -/
def Node.NameOf (n : Node) (t : Token) : Prop :=
  n.Branch .identifier fun cs => t.isIdentifier = true ∧ cs = [.terminal t]

/-- Children that each read as some value give a branch that reads as one of them. -/
theorem Node.Branch.exists {β : Type} {k : NodeKind} {P : β → List Node → Prop} {n : Node}
    (branch : n.Branch k fun cs => ∃ b, P b cs) : ∃ b, n.Branch k (P b) :=
  let ⟨span, text, cs, ⟨b, held⟩, built⟩ := branch
  ⟨b, span, text, cs, held, built⟩

namespace Parse

variable {α β : Type}

/-- Every success of `p` from a ready state whose window satisfies `c` appends children `new` to
the innermost open node, and `Q` holds of the result and `new`. -/
def Yields (c : (Nat → Token) → Prop) (p : Parse α) (Q : α → List Node → Prop) : Prop :=
  ∀ s, s.Ready → c s.ahead → ∀ a s', p s = .ok a s' →
    ∃ new, s'.children.toList = s.children.toList ++ new ∧ Q a new

/-- The rounds of a loop from the value `b` to the value `b'`: each round `R` that asked to go on,
then one that asked to stop, with what each appended. -/
inductive Rounds {β : Type} (R : β → Bool × β → List Node → Prop) : β → β → List Node → Prop
  | last {b b' : β} {new : List Node} : R b (false, b') new → Rounds R b b' new
  | more {b b₁ b' : β} {first rest : List Node} :
      R b (true, b₁) first → Rounds R b₁ b' rest → Rounds R b b' (first ++ rest)

namespace Yields

variable {c c' : (Nat → Token) → Prop} {Q Q' : α → List Node → Prop}

theorem mono {p : Parse α} (yields : Yields c p Q) (weaker : ∀ w, c' w → c w)
    (stronger : ∀ a new, Q a new → Q' a new) : Yields c' p Q' := by
  intro s ready holds a s' ran
  obtain ⟨new, children, held⟩ := yields s ready (weaker _ holds) a s' ran
  exact ⟨new, children, stronger a new held⟩

theorem pure {a : α} (holds : Q a []) : Yields c (Pure.pure a : Parse α) Q := by
  intro s _ _ b s' ran
  obtain ⟨rfl, rfl⟩ := EStateM.Result.ok.inj ran
  exact ⟨[], by simp, holds⟩

/-- A step that never succeeds yields anything. -/
theorem of_fails {p : Parse α} (fails : ∀ s a s', p s ≠ .ok a s') : Yields c p Q :=
  fun s _ _ a s' ran => absurd ran (fails s a s')

/-- A step that stops with an error yields anything. -/
theorem failAt {p : String → ParseProblem} : Yields c (Parse.failAt p : Parse α) Q :=
  of_fails fun s a s' => by
    rw [failAt_run]
    nofun

/-- A step that only reads the window adds nothing. -/
theorem of_reads {x : Parse α} {value : (Nat → Token) → α} [reads : Reads x value] :
    Yields c x fun _ new => new = [] := by
  intro s _ _ a s' ran
  rw [reads.run, EStateM.Result.ok.injEq] at ran
  exact ⟨[], by rw [← ran.2, List.append_nil], rfl⟩

/-- From a window that never occurs, every step yields anything. -/
theorem of_absurd {p : Parse α} (never : ∀ w, c w → False) : Yields c p Q :=
  fun _ _ holds => absurd holds (never _)

/-- Two steps one after the other: the rest is told what the first step added. -/
theorem bind {x : Parse α} {f : α → Parse β} {Q₁ : α → List Node → Prop} {Q : β → List Node → Prop}
    [forward : Forward x] (first : Yields c x Q₁)
    (rest : ∀ a n₁, Q₁ a n₁ → Yields (fun _ => True) (f a) fun b n₂ => Q b (n₁ ++ n₂)) :
    Yields c (x >>= f) Q := by
  intro s ready holds b s₂ ran
  obtain ⟨a, s₁, firstRan, restRan⟩ := bind_eq_ok ran
  obtain ⟨n₁, children₁, held₁⟩ := first s ready holds a s₁ firstRan
  have moved := forward.moves s ready a s₁ firstRan
  obtain ⟨n₂, children₂, held₂⟩ := rest a n₁ held₁ s₁ moved.ready trivial b s₂ restRan
  exact ⟨n₁ ++ n₂, by rw [children₂, children₁, List.append_assoc], held₂⟩

/-- A step that only reads the window, then the rest, which knows what was read. -/
theorem read_bind {x : Parse α} {f : α → Parse β} {Q : β → List Node → Prop}
    {value : (Nat → Token) → α} [reads : Reads x value]
    (rest : ∀ a, Yields (fun w => c w ∧ value w = a) (f a) Q) : Yields c (x >>= f) Q := by
  intro s ready holds b s' ran
  rw [bind_ok (reads.run s)] at ran
  exact rest _ s ready ⟨holds, rfl⟩ b s' ran

/-- A test of the window chooses the branch, and the branch knows the outcome. -/
theorem read_ite {x : Parse Bool} {y z : Parse β} {Q : β → List Node → Prop}
    {value : (Nat → Token) → Bool} [Reads x value]
    (yes : Yields (fun w => c w ∧ value w = true) y Q)
    (no : Yields (fun w => c w ∧ value w = false) z Q) :
    Yields c (x >>= fun b => if b = true then y else z) Q :=
  read_bind fun b => by
    cases b with
    | true => exact yes
    | false => exact no

theorem ite {q : Prop} [Decidable q] {x y : Parse α} (yes : q → Yields c x Q) (no : ¬q → Yields c y Q) :
    Yields c (if q then x else y) Q := by
  by_cases holds : q
  · rw [if_pos holds]
    exact yes holds
  · rw [if_neg holds]
    exact no holds

theorem map {x : Parse α} {f : α → β} {Q : β → List Node → Prop}
    (yields : Yields c x fun a new => Q (f a) new) : Yields c (f <$> x) Q := by
  intro s ready holds b s' ran
  cases first : x s with
  | ok a s₁ =>
    rw [map_ok first, EStateM.Result.ok.injEq] at ran
    obtain ⟨rfl, rfl⟩ := ran
    exact yields s ready holds a s₁ first
  | error e s₁ =>
    rw [map_error first] at ran
    cases ran

theorem discard {x : Parse α} {Q : Unit → List Node → Prop} (yields : Yields c x fun _ new => Q () new) :
    Yields c (Functor.discard x) Q :=
  map yields

/-- A node holds what its body yielded: the body starts at the same window, with no children. -/
theorem node (kind : NodeKind) {body : Parse α} (yields : Yields c body Q) :
    Yields c (Parse.node kind body)
      fun a new => ∃ span text cs, new = [.branch kind span text cs] ∧ Q a cs := by
  intro s ready holds a s' ran
  cases bodyRan : body { s with children := #[] } with
  | ok b s₁ =>
    rw [node_ok kind bodyRan, EStateM.Result.ok.injEq] at ran
    obtain ⟨rfl, rfl⟩ := ran
    obtain ⟨cs, children, held⟩ := yields { s with children := #[] } ⟨ready.inside, ready.ends⟩ holds b s₁ bodyRan
    refine ⟨[.branch kind (s₁.spanFrom (s.ahead 0).pos).1 (s₁.spanFrom (s.ahead 0).pos).2 s₁.children.toList],
      by simp [ParseState.closeNode], _, _, _, rfl, ?_⟩
    simpa using children ▸ held
  | error e s₁ =>
    rw [node_error bodyRan] at ran
    cases ran

/-- A node whose body yields children of which `P` holds adds one branch with them. -/
theorem node_branch (kind : NodeKind) {body : Parse α} {P : List Node → Prop}
    (yields : Yields c body fun _ cs => P cs) :
    Yields c (Parse.node kind body) fun _ new => ∃ n, n.Branch kind P ∧ new = [n] :=
  (node kind yields).mono (fun _ h => h) fun _ _ ⟨span, text, cs, built, held⟩ =>
    ⟨_, ⟨span, text, cs, held, rfl⟩, built⟩

/-- A node whose body yields children read as some `b` adds one branch read as `b`. -/
theorem node_reading (kind : NodeKind) {β : Type} {body : Parse α} {P : β → List Node → Prop}
    (yields : Yields c body fun _ cs => ∃ b, P b cs) :
    Yields c (Parse.node kind body) fun _ new => ∃ n b, n.Branch kind (P b) ∧ new = [n] :=
  (node_branch kind yields).mono (fun _ h => h) fun _ _ ⟨n, branch, added⟩ =>
    let ⟨b, read⟩ := branch.exists
    ⟨n, b, read, added⟩

/-- Whatever its body does, a node adds itself alone. -/
theorem node_any (kind : NodeKind) {body : Parse α} :
    Yields c (Parse.node kind body) fun _ new => ∃ n, n.IsBranch kind ∧ new = [n] := by
  intro s _ _ a s' ran
  cases bodyRan : body { s with children := #[] } with
  | ok b s₁ =>
    rw [node_ok kind bodyRan, EStateM.Result.ok.injEq] at ran
    obtain ⟨rfl, rfl⟩ := ran
    exact ⟨[.branch kind (s₁.spanFrom (s.ahead 0).pos).1 (s₁.spanFrom (s.ahead 0).pos).2 s₁.children.toList],
      by simp [ParseState.closeNode], _, ⟨_, _, _, trivial, rfl⟩, rfl⟩
  | error e s₁ =>
    rw [node_error bodyRan] at ran
    cases ran

/-- A loop yields its rounds, when every round that asks to go on consumes a token: no round
stalls it. The loop is induced on as `loopFrom` recurses. -/
theorem loopFrom {step : β → Parse (Bool × β)} [each : ∀ b, Forward (step b)]
    {R : β → Bool × β → List Node → Prop} (rounds : ∀ b, Yields (fun _ => True) (step b) (R b))
    (progress : ∀ b, Advances (fun _ => True) (step b) (·.1 = true)) (b : β) :
    Yields c (loopFrom step b) (Rounds R b) := by
  intro s ready _
  -- the window at the start says nothing about the later rounds
  clear ‹c s.ahead›
  fun_induction Parse.loopFrom step b s with
  | case1 b s b₁ s₁ ran _ ih =>
    intro b' s' later
    obtain ⟨n₁, children₁, held₁⟩ := rounds b s ready trivial _ s₁ ran
    have moved := (each b).moves s ready _ s₁ ran
    obtain ⟨n₂, children₂, held₂⟩ := ih moved.ready b' s' later
    exact ⟨n₁ ++ n₂, by rw [children₂, children₁, List.append_assoc], .more held₁ held₂⟩
  | case2 b s b₁ s₁ ran stuck =>
    -- the round asked to go on, so it consumed a token and the loop did not stop here
    have moved := (each b).moves s ready _ s₁ ran
    have consumed := progress b s ready trivial _ s₁ ran rfl
    have inside := moved.ready.inside
    rw [moved.tokens] at inside
    exact absurd (show s₁.remaining < s.remaining by
      unfold ParseState.remaining
      rw [moved.tokens]
      omega) stuck
  | case3 b s b₁ s₁ ran =>
    intro b' s' stopped
    obtain ⟨rfl, rfl⟩ := EStateM.Result.ok.inj stopped
    obtain ⟨new, children, held⟩ := rounds b s ready trivial _ s₁ ran
    exact ⟨new, children, .last held⟩
  | case4 b s e s₁ ran =>
    intro b' s' failed
    cases failed

end Yields

/-! The steps that consume one token. -/

namespace Yields

variable {c : (Nat → Token) → Prop}

/-- `skip` at a token with `P` that does not end the script adds that token. -/
theorem skip_of {P : Token → Prop} :
    Yields (fun w => P (w 0) ∧ (w 0).kind ≠ .eof) skip fun _ new => ∃ t, P t ∧ new = [.terminal t] := by
  intro s _ holds a s' ran
  rw [skip_run holds.2, EStateM.Result.ok.injEq] at ran
  obtain ⟨-, rfl⟩ := ran
  exact ⟨[.terminal (s.ahead 0)], by simp, s.ahead 0, holds.1, rfl⟩

/-- `skip` at the word it tested for. -/
theorem skip_word {kw : String} :
    Yields (fun w => c w ∧ (w 0).isWord kw = true) skip fun _ new =>
      ∃ t, t.isWord kw = true ∧ new = [.terminal t] :=
  skip_of.mono (fun _ held => ⟨held.2, kind_ne_eof_of_isWord held.2⟩) fun _ _ h => h

/-- `skip` at one of the words it tested for. -/
theorem skip_anyWord {kws : List String} :
    Yields (fun w => c w ∧ (w 0).isAnyWord kws = true) skip fun _ new =>
      ∃ t, t.isAnyWord kws = true ∧ new = [.terminal t] :=
  skip_of.mono (fun _ held => ⟨held.2, kind_ne_eof_of_isAnyWord held.2⟩) fun _ _ h => h

/-- `skip` at a token of the kind it tested for. -/
theorem skip_kind {k : TokenKind} (notEof : k ≠ .eof) :
    Yields (fun w => c w ∧ ((w 0).kind == k) = true) skip fun _ new =>
      ∃ t, t.kind = k ∧ new = [.terminal t] :=
  (skip_of (P := fun t => t.kind = k)).mono
    (fun _ held => ⟨beq_iff_eq.mp held.2, by rw [beq_iff_eq.mp held.2]; exact notEof⟩)
    fun _ _ h => h

theorem accept_yields (kw : String) :
    Yields c (accept kw) fun b new =>
      b = true ∧ (∃ t, t.isWord kw = true ∧ new = [.terminal t]) ∨ b = false ∧ new = [] := by
  unfold accept
  refine read_ite ?_ (pure (.inr ⟨rfl, rfl⟩))
  refine bind skip_word fun _ n₁ added => pure ?_
  rw [List.append_nil]
  exact .inl ⟨rfl, added⟩

theorem accept?_yields {k : TokenKind} (notEof : k ≠ .eof) :
    Yields c (accept? k) fun b new =>
      b = true ∧ (∃ t, t.kind = k ∧ new = [.terminal t]) ∨ b = false ∧ new = [] := by
  unfold accept?
  refine read_ite ?_ (pure (.inr ⟨rfl, rfl⟩))
  refine bind (skip_kind notEof) fun _ n₁ added => pure ?_
  rw [List.append_nil]
  exact .inl ⟨rfl, added⟩

theorem expect_yields {k : TokenKind} (notEof : k ≠ .eof) :
    Yields c (expect k) fun _ new => ∃ t, t.kind = k ∧ new = [.terminal t] := by
  unfold expect
  refine read_bind fun found => ?_
  dsimp only
  split
  · next kind =>
    have kindIs : ∀ w : Nat → Token, ((w 0).kind == k) = found → (w 0).kind = k :=
      fun w held => beq_iff_eq.mp (held.trans kind)
    exact (skip_of (P := fun t => t.kind = k)).mono
      (fun w (held : c w ∧ ((w 0).kind == k) = found) =>
        ⟨kindIs w held.2, by rw [kindIs w held.2]; exact notEof⟩)
      fun _ _ h => h
  · exact of_fails (failAt_bind_ne_ok _ _)

theorem number_yields : Yields c number fun _ new => ∃ t, t.kind = .number ∧ new = [.terminal t] := by
  unfold number
  refine read_bind fun found => ?_
  dsimp only
  split
  · next kind =>
    have kindIs : ∀ w : Nat → Token, ((w 0).kind == .number) = found → (w 0).kind = .number :=
      fun w held => beq_iff_eq.mp (held.trans kind)
    exact (skip_of (P := fun t => t.kind = .number)).mono
      (fun w (held : c w ∧ ((w 0).kind == .number) = found) =>
        ⟨kindIs w held.2, by rw [kindIs w held.2]; decide⟩)
      fun _ _ h => h
  · exact of_fails (failAt_bind_ne_ok _ _)

/-- The keywords `kws`, one terminal each. -/
theorem expectKw_yields (kws : List String) :
    Yields c (expectKw kws) fun _ new =>
      List.Forall₂ (fun kw n => ∃ t, t.isWord kw = true ∧ n = .terminal t) kws new := by
  unfold expectKw
  refine bind ?_ fun _ n₁ words => pure (by rwa [List.append_nil])
  induction kws generalizing c with
  | nil => exact pure .nil
  | cons kw kws ih =>
    rw [List.forIn_cons]
    refine bind (?_ : Yields c _ fun r new => r = .yield () ∧ ∃ t, t.isWord kw = true ∧ new = [.terminal t])
      fun r n₁ ⟨yielded, word⟩ => ?_
    · refine read_bind fun named => ?_
      dsimp only
      split
      · next hit =>
        refine bind ((skip_of (P := fun t => t.isWord kw = true)).mono
          (fun w (held : c w ∧ (w 0).isWord kw = named) =>
            ⟨held.2.trans hit, kind_ne_eof_of_isWord (held.2.trans hit)⟩) fun _ _ h => h)
          fun _ n₁ added => pure ⟨rfl, by rwa [List.append_nil]⟩
      · exact of_fails (failAt_bind_ne_ok _ _)
    · subst yielded
      obtain ⟨t, isKw, rfl⟩ := word
      exact (ih (c := fun _ => True)).mono (fun _ _ => trivial) fun _ n₂ rest => .cons ⟨t, isKw, rfl⟩ rest

/-- One keyword, one terminal. -/
theorem expectKw_single (kw : String) :
    Yields c (expectKw [kw]) fun _ new => ∃ t, t.isWord kw = true ∧ new = [.terminal t] :=
  (expectKw_yields _).mono (fun _ h => h) fun _ _ words => by
    cases words with
    | cons word rest =>
      cases rest with
      | nil =>
        obtain ⟨t, isKw, rfl⟩ := word
        exact ⟨t, isKw, rfl⟩

/-- Two keywords, two terminals. -/
theorem expectKw_pair (kw₁ kw₂ : String) :
    Yields c (expectKw [kw₁, kw₂]) fun _ new =>
      ∃ t₁ t₂, t₁.isWord kw₁ = true ∧ t₂.isWord kw₂ = true ∧ new = [.terminal t₁, .terminal t₂] :=
  (expectKw_yields _).mono (fun _ h => h) fun _ _ words => by
    cases words with
    | cons first rest =>
      cases rest with
      | cons second rest =>
        cases rest with
        | nil =>
          obtain ⟨t₁, isFirst, rfl⟩ := first
          obtain ⟨t₂, isSecond, rfl⟩ := second
          exact ⟨t₁, t₂, isFirst, isSecond, rfl⟩

/-- A name: one identifier token in an identifier node. -/
theorem identifier_yields : Yields c identifier fun _ new => ∃ n t, n.NameOf t ∧ new = [n] := by
  unfold identifier
  refine (node_branch .identifier (P := fun cs => ∃ t, t.isIdentifier = true ∧ cs = [.terminal t]) ?_).mono
    (fun _ h => h) fun _ _ ⟨n, branch, added⟩ =>
      let ⟨t, named⟩ := Node.Branch.exists (P := fun (t : Token) cs => t.isIdentifier = true ∧ cs = [.terminal t]) branch
      ⟨n, t, named, added⟩
  refine read_bind fun t => ?_
  dsimp only
  split
  · next named =>
    exact (skip_of (P := fun t => t.isIdentifier = true)).mono
      (fun w (held : c w ∧ w 0 = t) => ⟨by rw [held.2]; exact named,
        by rw [held.2]; exact kind_ne_eof_of_isIdentifier named⟩)
      fun _ _ h => h
  · exact of_fails (failAt_bind_ne_ok _ _)

end Yields

/-! Items separated by commas. -/

/-- The children `cs` are the items, one node each, with a comma between two of them. -/
inductive Listed : List Node → List Node → Prop
  | one (n : Node) : Listed [n] [n]
  | cons (n : Node) {t : Token} {cs items : List Node} :
      t.kind = .comma → Listed cs items → Listed (n :: .terminal t :: cs) (n :: items)

/-- Items that each read as some value read as a list of values, one for each, in order. -/
theorem Listed.readings {β : Type} {R : Node → β → Prop} :
    ∀ {items : List Node}, (∀ n ∈ items, ∃ b, R n b) → ∃ bs, List.Forall₂ R items bs
  | [], _ => ⟨[], .nil⟩
  | n :: _, each =>
    let ⟨b, read⟩ := each n List.mem_cons_self
    let ⟨bs, rest⟩ := readings fun m mem => each m (List.mem_cons_of_mem n mem)
    ⟨b :: bs, .cons read rest⟩

/-- `( expr, ... )` over the expression nodes `es`. -/
def ExprList (es cs : List Node) : Prop :=
  ∃ l r items, l.kind = .lparen ∧ r.kind = .rparen ∧ Listed items es ∧ (∀ e ∈ es, e.IsBranch .expr) ∧
    cs = .terminal l :: items ++ [.terminal r]

namespace Yields

variable {c : (Nat → Token) → Prop}

/-- One round of a comma list: an item and a comma, which lets the list go on, or an item
alone, which ends it. -/
def commaRound (P : Node → Prop) (goes : Bool) (new : List Node) : Prop :=
  goes = true ∧ (∃ n t, P n ∧ t.kind = .comma ∧ new = [n, .terminal t]) ∨ goes = false ∧ ∃ n, P n ∧ new = [n]

theorem rounds_listed {P : Node → Prop} :
    ∀ {new : List Node}, Rounds (fun _ r new => commaRound P r.1 new) () () new →
      ∃ items, Listed new items ∧ ∀ n ∈ items, P n
  | _, .last held => by
    obtain ⟨-, n, item, rfl⟩ := held.resolve_left fun ⟨goes, _⟩ => Bool.false_ne_true goes
    exact ⟨[n], .one n, by simpa using item⟩
  | _, .more held rest => by
    obtain ⟨-, n, t, item, comma, rfl⟩ := held.resolve_right fun ⟨stops, _⟩ => Bool.false_ne_true stops.symm
    obtain ⟨items, listed, each⟩ := rounds_listed rest
    exact ⟨n :: items, .cons n comma listed, by simpa [item] using each⟩

/-- Items separated by commas, where each item adds one node. -/
theorem commaList_yields {item : Parse Unit} [Sound item] {P : Node → Prop}
    (each : Yields (fun _ => True) item fun _ new => ∃ n, P n ∧ new = [n]) :
    Yields c (commaList item) fun _ new => ∃ items, Listed new items ∧ ∀ n ∈ items, P n := by
  have round : Yields (fun _ => True) (do item; accept? .comma) (commaRound P) := by
    refine bind each fun _ n₁ ⟨n, named, added⟩ => (accept?_yields TokenKind.noConfusion).mono
      (fun _ _ => trivial) fun b n₂ comma => ?_
    rcases comma with ⟨goes, t, kind, rfl⟩ | ⟨stops, rfl⟩
    · exact .inl ⟨goes, n, t, named, kind, by rw [added]; rfl⟩
    · exact .inr ⟨stops, n, named, by rw [added, List.append_nil]⟩
  unfold commaList loop
  refine (loopFrom (R := fun _ r new => commaRound P r.1 new) (fun _ => ?_) (fun _ =>
    (Advances.bind_keep fun _ => accept?_advances TokenKind.noConfusion).map_pair ()) ()).mono
    (fun _ _ => trivial) fun _ new rounds => rounds_listed rounds
  exact bind round fun b n₁ held => pure (by rwa [List.append_nil])

/-- A loop whose rounds add only nodes of which `P` holds adds only such nodes. -/
theorem loop_all {step : Parse Bool} [Forward step] {P : Node → Prop}
    (each : Yields (fun _ => True) step fun _ new => ∀ n ∈ new, P n)
    (progress : Advances (fun _ => True) step (· = true)) :
    Yields c (loop step) fun _ new => ∀ n ∈ new, P n := by
  have all : ∀ {b b' : Unit} {new : List Node}, Rounds (fun _ _ new => ∀ n ∈ new, P n) b b' new →
      ∀ n ∈ new, P n := by
    intro b b' new rounds
    induction rounds with
    | last held => exact held
    | more held _ ih =>
      intro n mem
      rcases List.mem_append.mp mem with first | later
      · exact held n first
      · exact ih n later
  unfold loop
  refine (loopFrom (R := fun _ _ new => ∀ n ∈ new, P n) (fun _ => ?_) (fun _ => progress.map_pair ()) ()).mono
    (fun _ _ => trivial) fun _ _ rounds => all rounds
  exact bind each fun _ n₁ held => pure (by simpa using held)

/-! Expressions and column lists: nodes whose content the readers of partitions do not look
into. -/

theorem exprUntil_yields (stop : Parse Bool) :
    Yields c (exprUntil stop) fun _ new => ∃ e, e.IsBranch .expr ∧ new = [e] :=
  node_any .expr

/-- `( expr )`: the parentheses and the expression node between them. -/
theorem parenExpr_yields :
    Yields c parenExpr fun _ new =>
      ∃ l e r, l.kind = .lparen ∧ e.IsBranch .expr ∧ r.kind = .rparen ∧ new = [.terminal l, e, .terminal r] := by
  unfold parenExpr expr
  refine bind (expect_yields TokenKind.noConfusion) fun _ n₁ ⟨l, open_, added₁⟩ =>
    bind (exprUntil_yields _) fun _ n₂ ⟨e, isExpr, added₂⟩ => (expect_yields TokenKind.noConfusion).mono
      (fun _ _ => trivial) fun _ n₃ ⟨r, close, added₃⟩ => ⟨l, e, r, open_, isExpr, close, ?_⟩
  rw [added₁, added₂, added₃]
  rfl

/-- `( expr, ... )`: the parentheses around the expression nodes, separated by commas. -/
theorem exprList_yields : Yields c exprList fun _ new => ∃ es, ExprList es new := by
  unfold exprList
  refine bind (expect_yields TokenKind.noConfusion) fun _ n₁ ⟨l, open_, added₁⟩ =>
    bind (commaList_yields (exprUntil_yields _)) fun _ n₂ ⟨es, listed, exprs⟩ =>
      (expect_yields TokenKind.noConfusion).mono (fun _ _ => trivial) fun _ n₃ ⟨r, close, added₃⟩ =>
        ⟨es, l, r, n₂, open_, close, listed, exprs, ?_⟩
  rw [added₁, added₃]
  rfl

theorem columnList_yields : Yields c columnList fun _ new => ∃ n, n.IsBranch .columnList ∧ new = [n] :=
  node_any .columnList

end Yields

end Parse

end DdlCatalog.Syntax
