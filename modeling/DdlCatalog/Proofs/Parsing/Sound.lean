import Mathlib
import DdlCatalog.Syntax.Parse.Script
import DdlCatalog.Proofs.Parsing.Layout
/-!
How parse steps behave. A parse runs over a token list that ends with `eof`; a step either
succeeds or fails. A *sound* step, run from a ready state, keeps the token list, never moves
back, never stalls a loop, and then either succeeds having added exactly the tokens it consumed,
in order, as leaves of the open node, or fails having recorded exactly one error. What it
adds lies over the tokens it consumed (`Lays`): each node it closes spans the run of tokens
consumed while the node was open. Every production of the parser is sound, which the modules
after this one show production by production from the rules here.

A loop is sound when its round is sound and a round that asks to go on has consumed a token;
`Advances` says when a step consumes one.
-/

namespace DdlCatalog.Syntax

open DdlCatalog.Sql

namespace Node

@[simp] theorem leavesAll_nil : leavesAll [] = [] := rfl

@[simp] theorem leavesAll_cons (n : Node) (ns : List Node) :
    leavesAll (n :: ns) = n.leaves ++ leavesAll ns := rfl

@[simp] theorem leaves_terminal (t : Token) : (terminal t).leaves = [t] := rfl

@[simp] theorem leaves_branch (kind : NodeKind) (span : Span) (text : String) (cs : List Node) :
    (branch kind span text cs).leaves = leavesAll cs := rfl

@[simp] theorem leavesAll_append (ns ms : List Node) :
    leavesAll (ns ++ ms) = leavesAll ns ++ leavesAll ms := by
  induction ns with
  | nil => rfl
  | cons n ns ih => simp [ih]

end Node

namespace ParseState

/-- The tokens under the children of the innermost open node, left to right. -/
def leaves (s : ParseState) : List Token := Node.leavesAll s.children.toList

/-- The tokens from the current token of `s` up to the current token of `s'`. -/
def consumedTo (s s' : ParseState) : List Token := (s.tokens.extract s.index s'.index).toList

/-- A state a parse can run from: the current token is one of the tokens, and the last token
ends the script. -/
structure Ready (s : ParseState) : Prop where
  inside : s.index < s.tokens.size
  ends : s.tokens.back?.map Token.kind = some .eof

/-- `s'` comes after `s` in one parse: the same tokens, the current token no earlier, and
ready. -/
structure Moves (s s' : ParseState) : Prop where
  ready : s'.Ready
  tokens : s'.tokens = s.tokens
  index : s.index ≤ s'.index

/-- A successful run from `s` to `s'`: no loop stalled in between unless one had before, the
errors are kept, and the consumed tokens are added as leaves, under nodes that lie over them. -/
structure Parsed (s s' : ParseState) : Prop where
  moves : s.Moves s'
  stalled : s'.stalled = s.stalled
  errors : s'.errors = s.errors
  leaves : s'.leaves = s.leaves ++ s.consumedTo s'
  follows : s.Follows s'
  laid : s.Tracks → s.Lays s'

/-- A failed run from `s` to `s'`: no loop stalled in between unless one had before, and one
error is recorded, at the token where the run stopped. -/
structure Failed (s s' : ParseState) : Prop where
  moves : s.Moves s'
  stalled : s'.stalled = s.stalled
  recorded : ∃ p, s'.errors = s.errors.push ⟨(s'.ahead 0).pos, p⟩
  follows : s.Follows s'

variable {s s₁ s₂ : ParseState}

/-- The current token of a ready state. -/
theorem Ready.ahead_zero (ready : s.Ready) :
    s.ahead 0 = s.tokens[(⟨s.index, ready.inside⟩ : Fin s.tokens.size)] := by
  simp [ahead, Array.getD, ready.inside]

/-- The current token of a ready state, as the runs of `Laid` name it. -/
theorem Ready.ahead_zero_getD (ready : s.Ready) : s.ahead 0 = s.tokens.getD s.index default := by
  simp [ahead, Array.getD, ready.inside]

/-- A ready state whose current token is not `eof` has a token after it. -/
theorem Ready.next_inside (ready : s.Ready) (notEof : (s.ahead 0).kind ≠ .eof) :
    s.index + 1 < s.tokens.size := by
  have inside := ready.inside
  refine Nat.lt_of_le_of_ne inside fun last => notEof ?_
  have ends := ready.ends
  rw [ready.ahead_zero]
  simp only [Array.back?, Option.map_eq_some_iff] at ends
  obtain ⟨t, found, kind⟩ := ends
  rw [← last, Nat.add_sub_cancel, Array.getElem?_eq_getElem inside] at found
  rw [← kind, ← Option.some.inj found]
  rfl

theorem Moves.refl (ready : s.Ready) : s.Moves s := ⟨ready, rfl, Nat.le_refl _⟩

theorem Moves.trans (first : s.Moves s₁) (second : s₁.Moves s₂) : s.Moves s₂ :=
  ⟨second.ready, second.tokens.trans first.tokens, Nat.le_trans first.index second.index⟩

/-- Moving looks only at the tokens and the position of the two states. -/
theorem Moves.congr {t t₁ : ParseState} (moves : s.Moves s₁) (tokens : t.tokens = s.tokens)
    (index : t.index = s.index) (tokens₁ : t₁.tokens = s₁.tokens) (index₁ : t₁.index = s₁.index) :
    t.Moves t₁ :=
  ⟨⟨index₁ ▸ tokens₁ ▸ moves.ready.inside, tokens₁ ▸ moves.ready.ends⟩,
    tokens₁.trans (moves.tokens.trans tokens.symm), index ▸ index₁ ▸ moves.index⟩

@[simp] theorem consumedTo_self (s : ParseState) : s.consumedTo s = [] := by
  simp [consumedTo]

/-- Two states with the same tokens and position see the same window. -/
theorem Moves.ahead_eq (moves : s.Moves s₁) (still : s₁.index = s.index) : s₁.ahead = s.ahead := by
  funext k
  unfold ahead
  rw [moves.tokens, still]

theorem consumedTo_append (first : s.Moves s₁) (second : s₁.Moves s₂) :
    s.consumedTo s₁ ++ s₁.consumedTo s₂ = s.consumedTo s₂ := by
  unfold consumedTo
  rw [first.tokens, ← Array.toList_append, Array.extract_append_extract,
    Nat.min_eq_left first.index, Nat.max_eq_right second.index]

/-- Nothing is added on the way from a ready state to itself. -/
theorem Lays.refl (ready : s.Ready) : s.Lays s := Lays.none (Nat.le_refl _) (Nat.le_of_lt ready.inside) rfl

theorem Parsed.refl (ready : s.Ready) : s.Parsed s :=
  ⟨Moves.refl ready, rfl, rfl, by simp, Follows.refl s, fun _ => Lays.refl ready⟩

theorem Parsed.trans (first : s.Parsed s₁) (second : s₁.Parsed s₂) : s.Parsed s₂ :=
  ⟨first.moves.trans second.moves, second.stalled.trans first.stalled,
    second.errors.trans first.errors, by
    rw [second.leaves, first.leaves, List.append_assoc, consumedTo_append first.moves second.moves],
    first.follows.trans second.follows, fun tracks =>
    (first.laid tracks).trans (second.laid (first.follows.tracks tracks)) first.moves.tokens
      first.follows.source⟩

theorem Parsed.failed (first : s.Parsed s₁) (second : s₁.Failed s₂) : s.Failed s₂ :=
  ⟨first.moves.trans second.moves, second.stalled.trans first.stalled, by
    obtain ⟨p, recorded⟩ := second.recorded
    exact ⟨p, by rw [recorded, first.errors]⟩, first.follows.trans second.follows⟩

/-- The state once a node of kind `kind`, opened at `s`, closes at `s'`: the node, with the span
and text of what was consumed since `s` and the children built since, is added to the children
`s` had. -/
def closeNode (s : ParseState) (kind : NodeKind) (s' : ParseState) : ParseState :=
  { s' with
    children := s.children.push
      (.branch kind (s'.spanFrom (s.ahead 0).pos).1 (s'.spanFrom (s.ahead 0).pos).2 s'.children.toList) }

theorem leaves_closeNode (kind : NodeKind) : (s.closeNode kind s₁).leaves = s.leaves ++ s₁.leaves := by
  simp only [closeNode, ParseState.leaves, Array.toList_push, Node.leavesAll_append,
    Node.leavesAll_cons, Node.leaves_branch, Node.leavesAll_nil, List.append_nil]

/-- A node opened at `s`, whose last consumed token is just before it, spans the run of tokens
consumed while it was open. -/
theorem closeNode_span (ready : s.Ready) (moves : ({ s with children := #[] } : ParseState).Moves s₁)
    (follows : ({ s with children := #[] } : ParseState).Follows s₁) (tracks : s.Tracks) :
    s₁.spanFrom (s.ahead 0).pos = runSpan s.tokens s.source s.index s₁.index := by
  have tokens : s₁.tokens = s.tokens := moves.tokens
  have source : s₁.source = s.source := follows.source
  rw [ready.ahead_zero_getD, ← tokens, ← source]
  exact (follows.tracks tracks).spanFrom_eq _

/-- A node opened at the ready state `s` and closed at `s₁` lies over the run of tokens consumed
in between, when the run from `s` with no children keeps the tokens, the script and the last
consumed token, and lays what it builds. -/
theorem laid_closed (kind : NodeKind) (ready : s.Ready)
    (moves : ({ s with children := #[] } : ParseState).Moves s₁)
    (follows : ({ s with children := #[] } : ParseState).Follows s₁)
    (lays : ({ s with children := #[] } : ParseState).Tracks → ({ s with children := #[] } : ParseState).Lays s₁)
    (tracks : s.Tracks) :
    Laid s.tokens s.source s.index s₁.index
      [.branch kind (s₁.spanFrom (s.ahead 0).pos).1 (s₁.spanFrom (s.ahead 0).pos).2 s₁.children.toList] := by
  obtain ⟨added, children, laid⟩ := lays tracks
  rw [Array.empty_append] at children
  rw [closeNode_span ready moves follows tracks, children]
  exact Laid.single_branch kind ready.inside laid

theorem Lays.close (kind : NodeKind) (ready : s.Ready)
    (moves : ({ s with children := #[] } : ParseState).Moves s₁)
    (follows : ({ s with children := #[] } : ParseState).Follows s₁)
    (lays : ({ s with children := #[] } : ParseState).Tracks → ({ s with children := #[] } : ParseState).Lays s₁)
    (tracks : s.Tracks) : s.Lays (s.closeNode kind s₁) :=
  ⟨_, Array.push_eq_append, laid_closed kind ready moves follows lays tracks⟩

/-- Closing a node around what a run from the same position with no children built: the
node's leaves are the tokens consumed, and it spans them. -/
theorem Parsed.close (kind : NodeKind) (ready : s.Ready)
    (parsed : ({ s with children := #[] } : ParseState).Parsed s₁) : s.Parsed (s.closeNode kind s₁) := by
  refine ⟨parsed.moves.congr rfl rfl rfl rfl, parsed.stalled, parsed.errors, ?_,
    ⟨parsed.follows.source, parsed.follows.tracks⟩,
    Lays.close kind ready parsed.moves parsed.follows parsed.laid⟩
  have added := parsed.leaves
  simp only [ParseState.leaves, Node.leavesAll_nil, List.nil_append] at added
  rw [leaves_closeNode]
  exact congrArg (s.leaves ++ ·) added

end ParseState

namespace Parse

variable {α β γ : Type}

/-! Running the monad's operations. -/

theorem bind_ok {x : Parse α} {f : α → Parse β} {s s₁ : ParseState} {a : α}
    (first : x s = .ok a s₁) : (x >>= f) s = f a s₁ := by
  show EStateM.bind x f s = _
  simp only [EStateM.bind, first]

theorem bind_error {x : Parse α} {f : α → Parse β} {s s₁ : ParseState} {e : Unit}
    (first : x s = .error e s₁) : (x >>= f) s = .error e s₁ := by
  show EStateM.bind x f s = _
  simp only [EStateM.bind, first]

theorem map_ok {x : Parse α} {f : α → β} {s s₁ : ParseState} {a : α}
    (first : x s = .ok a s₁) : (f <$> x) s = .ok (f a) s₁ := by
  show EStateM.map f x s = _
  simp only [EStateM.map, first]

theorem map_error {x : Parse α} {f : α → β} {s s₁ : ParseState} {e : Unit}
    (first : x s = .error e s₁) : (f <$> x) s = .error e s₁ := by
  show EStateM.map f x s = _
  simp only [EStateM.map, first]

@[simp] theorem pure_run (a : α) (s : ParseState) : (Pure.pure a : Parse α) s = .ok a s := rfl

@[simp] theorem get_bind (f : ParseState → Parse β) (s : ParseState) :
    ((MonadState.get : Parse ParseState) >>= f) s = f s s := rfl

@[simp] theorem set_bind (s' : ParseState) (f : PUnit → Parse β) (s : ParseState) :
    ((set s' : Parse PUnit) >>= f) s = f () s' := rfl

@[simp] theorem map_set (s' : ParseState) (f : PUnit → β) (s : ParseState) :
    (f <$> (set s' : Parse PUnit)) s = .ok (f ()) s' := rfl

@[simp] theorem modify_bind (m : ParseState → ParseState) (f : PUnit → Parse β) (s : ParseState) :
    ((modify m : Parse PUnit) >>= f) s = f () (m s) := rfl

/-- `next` at `eof` stays. -/
theorem next_at_eof {s : ParseState} (eof : (s.ahead 0).kind = .eof) :
    next s = .ok (s.ahead 0) s := by
  simp [next, eof]

/-- `next` elsewhere makes the current token a terminal of the open node and moves past it. -/
theorem next_run {s : ParseState} (notEof : (s.ahead 0).kind ≠ .eof) :
    next s = .ok (s.ahead 0)
      { s with
        index := s.index + 1
        children := s.children.push (.terminal (s.ahead 0))
        prevEnd := (s.ahead 0).endOffset
        prevPos := (s.ahead 0).pos } := by
  simp [next, notEof]

theorem fail_run (p : ParseProblem) (s : ParseState) :
    (fail p : Parse α) s = .error () { s with errors := s.errors.push ⟨(s.ahead 0).pos, p⟩ } := rfl

/-- A node around a successful body holds what the body built. -/
theorem node_ok (kind : NodeKind) {body : Parse α} {s s₁ : ParseState} {a : α}
    (ran : body { s with children := #[] } = .ok a s₁) : node kind body s = .ok a (s.closeNode kind s₁) := by
  unfold node
  rw [get_bind, set_bind, bind_ok ran, modify_bind, pure_run]
  rfl

/-- A node around a failing body fails where the body failed. -/
theorem node_error {kind : NodeKind} {body : Parse α} {s s₁ : ParseState} {e : Unit}
    (ran : body { s with children := #[] } = .error e s₁) : node kind body s = .error e s₁ := by
  unfold node
  rw [get_bind, set_bind, bind_error ran]

/-! Sound steps. -/

/-- What a run from `s` leaves, by its outcome. -/
def Lands (s : ParseState) : EStateM.Result Unit ParseState α → Prop
  | .ok _ s' => s.Parsed s'
  | .error _ s' => s.Failed s'

/-- A successful run followed by a landing run lands. -/
theorem Lands.after {s s₁ : ParseState} {r : EStateM.Result Unit ParseState α} (first : s.Parsed s₁)
    (rest : Lands s₁ r) : Lands s r := by
  cases r with
  | ok a s₂ => exact first.trans rest
  | error e s₂ => exact first.failed rest

/-- From every ready state, the step lands. A class, so that the soundness of a production
follows from that of its parts by instance search along its `do` block. -/
class Sound (p : Parse α) : Prop where
  lands : ∀ s, s.Ready → Lands s (p s)

/-- From a ready state whose window of tokens satisfies `c`, every success with a result that
satisfies `goes` has consumed a token. -/
def Advances (c : (Nat → Token) → Prop) (p : Parse α) (goes : α → Prop) : Prop :=
  ∀ s, s.Ready → c s.ahead → ∀ a s', p s = .ok a s' → goes a → s.index < s'.index

namespace Sound

/-- A step that only reads the state. -/
theorem of_reads {p : Parse α} (value : ParseState → α) (reads : ∀ s, p s = .ok (value s) s) :
    Sound p := ⟨fun s ready => by
  rw [reads]
  exact ParseState.Parsed.refl ready⟩

instance pure (a : α) : Sound (Pure.pure a : Parse α) := of_reads (fun _ => a) fun _ => rfl

instance get : Sound (MonadState.get : Parse ParseState) := of_reads id fun _ => rfl

instance bind {x : Parse α} {f : α → Parse β} [first : Sound x] [rest : ∀ a, Sound (f a)] :
    Sound (x >>= f) := ⟨fun s ready => by
  have landed := first.lands s ready
  cases ran : x s with
  | ok a s₁ =>
    rw [ran] at landed
    rw [bind_ok ran]
    exact Lands.after landed ((rest a).lands s₁ landed.moves.ready)
  | error e s₁ =>
    rw [ran] at landed
    rw [bind_error ran]
    exact landed⟩

instance map {x : Parse α} (f : α → β) [first : Sound x] : Sound (f <$> x) := ⟨fun s ready => by
  have landed := first.lands s ready
  cases ran : x s with
  | ok a s₁ =>
    rw [ran] at landed
    rw [map_ok ran]
    exact landed
  | error e s₁ =>
    rw [ran] at landed
    rw [map_error ran]
    exact landed⟩

instance discard {x : Parse α} [Sound x] : Sound (Functor.discard x) := map _

instance ite {c : Prop} [Decidable c] {x y : Parse α} [yes : Sound x] [no : Sound y] :
    Sound (if c then x else y) := by
  by_cases holds : c
  · rw [if_pos holds]
    exact yes
  · rw [if_neg holds]
    exact no

/-- Runs `f` over a list: each round is sound. -/
instance forIn {xs : List β} {init : γ} {f : β → γ → Parse (ForInStep γ)}
    [each : ∀ x acc, Sound (f x acc)] : Sound (ForIn.forIn xs init f) := by
  induction xs generalizing init with
  | nil => exact pure init
  | cons x rest ih =>
    rw [List.forIn_cons]
    refine @bind _ _ _ _ (each x init) fun step => ?_
    cases step with
    | done acc => exact pure acc
    | yield acc => exact ih

end Sound

/-! The primitive steps. -/

instance next_sound : Sound next := ⟨fun s ready => by
  by_cases eof : (s.ahead 0).kind = .eof
  · rw [next_at_eof eof]
    exact ParseState.Parsed.refl ready
  · rw [next_run eof]
    have inside := ready.next_inside eof
    refine ⟨⟨⟨inside, ready.ends⟩, rfl, Nat.le_succ _⟩, rfl, rfl, ?_, ⟨rfl, fun _ => ?_⟩, fun _ => ?_⟩
    · -- the one token consumed is the current one, now the last leaf
      simp only [ParseState.leaves, ParseState.consumedTo, Array.toList_push, Node.leavesAll_append,
        Node.leavesAll_cons, Node.leaves_terminal, Node.leavesAll_nil, List.append_nil,
        ready.ahead_zero, Array.toList_extract, List.extract_eq_take_drop, Nat.add_sub_cancel_left]
      rw [List.drop_eq_getElem_cons (by simpa using ready.inside)]
      simp
    · -- the token consumed is now the last one before the current token
      rw [ready.ahead_zero]
      exact ⟨(endBefore_succ ready.inside).symm, (posBefore_succ ready.inside).symm⟩
    · refine ⟨#[.terminal (s.ahead 0)], Array.push_eq_append, ?_⟩
      rw [ready.ahead_zero]
      exact Laid.single_terminal ready.inside⟩

instance fail_sound (p : ParseProblem) : Sound (fail p : Parse α) := ⟨fun s ready => by
  rw [fail_run]
  exact ⟨(ParseState.Moves.refl ready).congr rfl rfl rfl rfl, rfl, ⟨_, rfl⟩, ⟨rfl, fun tracks => tracks⟩⟩⟩

instance node_sound (kind : NodeKind) {body : Parse α} [inner : Sound body] :
    Sound (node kind body) := ⟨fun s ready => by
  -- the body runs with no children from a state just as ready
  have landed := inner.lands { s with children := #[] } ⟨ready.inside, ready.ends⟩
  cases ran : body { s with children := #[] } with
  | ok a s₁ =>
    rw [ran] at landed
    rw [node_ok kind ran]
    exact landed.close kind ready
  | error e s₁ =>
    rw [ran] at landed
    rw [node_error ran]
    exact ⟨landed.moves.congr rfl rfl rfl rfl, landed.stalled, landed.recorded,
      ⟨landed.follows.source, landed.follows.tracks⟩⟩⟩

/-- A loop whose rounds are sound, and whose rounds that ask to go on consume a token, is
sound: it never stalls. -/
theorem loopFrom_sound {step : β → Parse (Bool × β)} [each : ∀ b, Sound (step b)]
    (progress : ∀ b, Advances (fun _ => True) (step b) (·.1 = true)) (b : β) :
    Sound (loopFrom step b) := by
  refine ⟨fun s ready => ?_⟩
  fun_induction loopFrom step b s with
  | case1 b s b' s' ran _ ih =>
    have landed := (each b).lands s ready
    rw [ran] at landed
    exact Lands.after landed (ih landed.moves.ready)
  | case2 b s b' s' ran stuck =>
    -- the round asked to go on, so it consumed a token and the loop did not stop here
    have landed := (each b).lands s ready
    rw [ran] at landed
    have consumed := progress b s ready trivial _ s' ran rfl
    have inside := landed.moves.ready.inside
    rw [landed.moves.tokens] at inside
    exact absurd (show s'.remaining < s.remaining by
      unfold ParseState.remaining
      rw [landed.moves.tokens]
      omega) stuck
  | case3 b s b' s' ran =>
    have landed := (each b).lands s ready
    rw [ran] at landed
    exact landed
  | case4 b s e s' ran =>
    have landed := (each b).lands s ready
    rw [ran] at landed
    exact landed

/-- Every success from a ready state moves forward. This is weaker than soundness and holds of
every loop, whether or not its rounds consume, so it is all that the rules for consuming a
token ask of the steps around the one that consumes. -/
class Forward (p : Parse α) : Prop where
  moves : ∀ s, s.Ready → ∀ a s', p s = .ok a s' → s.Moves s'

namespace Forward

instance (priority := low) of_sound {p : Parse α} [sound : Sound p] : Forward p :=
  ⟨fun s ready a s' ran => by
    have landed := sound.lands s ready
    rw [ran] at landed
    exact landed.moves⟩

instance bind {x : Parse α} {f : α → Parse β} [first : Forward x] [rest : ∀ a, Forward (f a)] :
    Forward (x >>= f) := ⟨fun s ready b s₂ ran => by
  cases firstRan : x s with
  | ok a s₁ =>
    rw [bind_ok firstRan] at ran
    have moved := first.moves s ready a s₁ firstRan
    exact moved.trans ((rest a).moves s₁ moved.ready b s₂ ran)
  | error e s₁ =>
    rw [bind_error firstRan] at ran
    cases ran⟩

instance map {x : Parse α} (f : α → β) [first : Forward x] : Forward (f <$> x) :=
  ⟨fun s ready b s' ran => by
    cases firstRan : x s with
    | ok a s₁ =>
      rw [map_ok firstRan, EStateM.Result.ok.injEq] at ran
      obtain ⟨-, rfl⟩ := ran
      exact first.moves s ready a s₁ firstRan
    | error e s₁ =>
      rw [map_error firstRan] at ran
      cases ran⟩

instance ite {q : Prop} [Decidable q] {x y : Parse α} [yes : Forward x] [no : Forward y] :
    Forward (if q then x else y) := by
  by_cases holds : q
  · rw [if_pos holds]
    exact yes
  · rw [if_neg holds]
    exact no

instance node (kind : NodeKind) {body : Parse α} [inner : Forward body] : Forward (node kind body) :=
  ⟨fun s ready a s' ran => by
    cases bodyRan : body { s with children := #[] } with
    | ok b s₁ =>
      rw [node_ok kind bodyRan, EStateM.Result.ok.injEq] at ran
      obtain ⟨-, rfl⟩ := ran
      exact (inner.moves { s with children := #[] } ⟨ready.inside, ready.ends⟩ b s₁ bodyRan).congr
        rfl rfl rfl rfl
    | error e s₁ =>
      rw [node_error bodyRan] at ran
      cases ran⟩

/-- Every loop moves forward: a round that consumes nothing ends it. -/
instance loopFrom {step : β → Parse (Bool × β)} [each : ∀ b, Forward (step b)] (b : β) :
    Forward (loopFrom step b) := by
  refine ⟨fun s ready => ?_⟩
  fun_induction Parse.loopFrom step b s with
  | case1 b s b' s' ran _ ih =>
    intro a s₂ later
    have moved := (each b).moves s ready _ s' ran
    exact moved.trans (ih moved.ready a s₂ later)
  | case2 b s b' s' ran _ =>
    intro a s₂ stopped
    obtain ⟨-, rfl⟩ := EStateM.Result.ok.inj stopped
    exact ((each b).moves s ready _ s' ran).congr rfl rfl rfl rfl
  | case3 b s b' s' ran =>
    intro a s₂ stopped
    obtain ⟨-, rfl⟩ := EStateM.Result.ok.inj stopped
    exact (each b).moves s ready _ s' ran
  | case4 b s e s' ran =>
    intro a s₂ failed
    cases failed

instance loop {step : Parse Bool} [Forward step] : Forward (loop step) := by
  unfold Parse.loop
  infer_instance

end Forward

/-! Reading the window. -/

/-- Whether a token ends the statement: a statement delimiter, a `DELIMITER` line or the end of
the script. -/
def ending (t : Token) : Bool := t.kind == .endStmt || t.kind == .eof || t.kind == .delimiter

/-- A step that only reads the window of tokens and returns `value` of it. The value is an
output of instance search, so the value of a reader built from others is computed. -/
class Reads (x : Parse α) (value : outParam ((Nat → Token) → α)) : Prop where
  run : ∀ s, x s = .ok (value s.ahead) s

namespace Reads

instance pure (a : α) : Reads (Pure.pure a : Parse α) fun _ => a := ⟨fun _ => rfl⟩

instance bind {x : Parse α} {f : α → Parse β} {v : (Nat → Token) → α}
    {g : α → (Nat → Token) → β} [first : Reads x v] [rest : ∀ a, Reads (f a) (g a)] :
    Reads (x >>= f) fun w => g (v w) w :=
  ⟨fun s => by rw [bind_ok (first.run s)]; exact (rest _).run s⟩

instance ite {q : Prop} [Decidable q] {x y : Parse α} {v u : (Nat → Token) → α} [yes : Reads x v]
    [no : Reads y u] : Reads (if q then x else y) fun w => if q then v w else u w := by
  by_cases holds : q
  · simpa only [if_pos holds] using yes
  · simpa only [if_neg holds] using no

instance cur : Reads cur fun w => w 0 := ⟨fun _ => rfl⟩

instance peek : Reads peek fun w => w 1 := ⟨fun _ => rfl⟩

instance check (k : TokenKind) : Reads (check k) fun w => (w 0).kind == k := ⟨fun _ => rfl⟩

instance isWord (kw : String) : Reads (isWord kw) fun w => (w 0).isWord kw := ⟨fun _ => rfl⟩

instance isAny (kws : List String) : Reads (isAny kws) fun w => (w 0).isAnyWord kws :=
  ⟨fun _ => rfl⟩

instance isSeq (kws : List String) :
    Reads (isSeq kws) fun w => decide (kws.length ≤ 3) &&
      kws.zipIdx.all fun (kw, i) => (w i).isWord kw := ⟨fun _ => rfl⟩

instance atEnd : Reads atEnd fun w => ending (w 0) := ⟨fun _ => rfl⟩

end Reads

/-- The test `x` passes at the window `w`: from every state with that window it returns `true`
and leaves the state as it was. -/
def Passes (x : Parse Bool) (w : Nat → Token) : Prop :=
  ∀ s : ParseState, s.ahead = w → x s = .ok true s

theorem Reads.passes {x : Parse Bool} {v : (Nat → Token) → Bool} [reads : Reads x v]
    {w : Nat → Token} (holds : v w = true) : Passes x w := by
  intro s window
  rw [reads.run, window, holds]

theorem Reads.of_passes {x : Parse Bool} {v : (Nat → Token) → Bool} [reads : Reads x v]
    {s : ParseState} (passes : Passes x s.ahead) : v s.ahead = true := by
  have ran := passes s rfl
  rw [reads.run] at ran
  exact (EStateM.Result.ok.inj ran).1

instance (priority := low) Sound.of_window {x : Parse α} {v : (Nat → Token) → α}
    [reads : Reads x v] : Sound x :=
  Sound.of_reads (fun s => v s.ahead) reads.run

instance firstWordSoFar_sound : Sound firstWordSoFar :=
  Sound.of_reads (fun s => (Node.branch .expr ⟨default, default⟩ "" s.children.toList).firstKeyword)
    fun _ => rfl

namespace Advances

variable {c : (Nat → Token) → Prop} {goes : α → Prop}

theorem mono {c' : (Nat → Token) → Prop} {p : Parse α} (advances : Advances c' p goes)
    (weaker : ∀ w, c w → c' w) : Advances c p goes :=
  fun s ready holds => advances s ready (weaker _ holds)

/-- The first step consumes a token, and the rest cannot move back. -/
theorem bind_left {x : Parse α} {f : α → Parse β} {goes' : β → Prop} [forward : Forward x]
    [rest : ∀ a, Forward (f a)] (first : Advances c x fun _ => True) :
    Advances c (x >>= f) goes' := by
  intro s ready holds b s₂ ran _
  cases firstRan : x s with
  | ok a s₁ =>
    rw [bind_ok firstRan] at ran
    have moved := forward.moves s ready a s₁ firstRan
    have later := (rest a).moves s₁ moved.ready b s₂ ran
    exact Nat.lt_of_lt_of_le (first s ready holds a s₁ firstRan trivial) later.index
  | error e s₁ =>
    rw [bind_error firstRan] at ran
    cases ran

/-- The rest consumes a token from the window the step started at: either the first step
consumed one already, or it consumed none and left the window as it was. -/
theorem bind_keep {x : Parse α} {f : α → Parse β} {goes' : β → Prop} [forward : Forward x]
    [rest : ∀ a, Forward (f a)] (after : ∀ a, Advances c (f a) goes') :
    Advances c (x >>= f) goes' := by
  intro s ready holds b s₂ ran going
  cases firstRan : x s with
  | ok a s₁ =>
    rw [bind_ok firstRan] at ran
    have moved := forward.moves s ready a s₁ firstRan
    rcases Nat.lt_or_eq_of_le moved.index with further | stayed
    · exact Nat.lt_of_lt_of_le further ((rest a).moves s₁ moved.ready b s₂ ran).index
    · have window : s₁.ahead = s.ahead := moved.ahead_eq stayed.symm
      rw [stayed]
      exact after a s₁ moved.ready (window ▸ holds) b s₂ ran going
  | error e s₁ =>
    rw [bind_error firstRan] at ran
    cases ran

/-- The first step consumes a token when it returns what `took` holds of; from any other
result, the rest consumes one. -/
theorem bind_taken {x : Parse α} {f : α → Parse β} {took : α → Prop} {goes' : β → Prop}
    [forward : Forward x] [rest : ∀ a, Forward (f a)] (first : Advances c x took)
    (after : ∀ a, ¬ took a → Advances c (f a) goes') : Advances c (x >>= f) goes' := by
  intro s ready holds b s₂ ran going
  cases firstRan : x s with
  | ok a s₁ =>
    rw [bind_ok firstRan] at ran
    have moved := forward.moves s ready a s₁ firstRan
    have later := (rest a).moves s₁ moved.ready b s₂ ran
    by_cases taken : took a
    · exact Nat.lt_of_lt_of_le (first s ready holds a s₁ firstRan taken) later.index
    rcases Nat.lt_or_eq_of_le moved.index with further | stayed
    · exact Nat.lt_of_lt_of_le further later.index
    · have window : s₁.ahead = s.ahead := moved.ahead_eq stayed.symm
      rw [stayed]
      exact after a taken s₁ moved.ready (window ▸ holds) b s₂ ran going
  | error e s₁ =>
    rw [bind_error firstRan] at ran
    cases ran

/-- Splitting the windows by `d`: where `d` fails the first step consumes a token, and where it
holds the rest does. -/
theorem bind_either {x : Parse α} {f : α → Parse β} {goes' : β → Prop} [Forward x]
    [∀ a, Forward (f a)] (d : (Nat → Token) → Prop) (first : Advances (fun w => c w ∧ ¬ d w) x fun _ => True)
    (after : ∀ a, Advances (fun w => c w ∧ d w) (f a) goes') : Advances c (x >>= f) goes' := by
  intro s ready holds b s₂ ran going
  by_cases split : d s.ahead
  · exact bind_keep (c := fun w => c w ∧ d w) after s ready ⟨holds, split⟩ b s₂ ran going
  · exact bind_left (c := fun w => c w ∧ ¬ d w) first s ready ⟨holds, split⟩ b s₂ ran going

/-- A step that only reads the window, followed by a rest that consumes a token from a window
with what was read. -/
theorem read_bind {x : Parse α} {f : α → Parse β} {goes' : β → Prop}
    {value : (Nat → Token) → α} [reads : Reads x value]
    (rest : ∀ a, Advances (fun w => c w ∧ value w = a) (f a) goes') :
    Advances c (x >>= f) goes' := by
  intro s ready holds b s₂ ran going
  rw [bind_ok (reads.run s)] at ran
  exact rest _ s ready ⟨holds, rfl⟩ b s₂ ran going

/-- A test of the window chooses the branch, and the branch knows the outcome. -/
theorem read_ite {x : Parse Bool} {y z : Parse β} {goes' : β → Prop}
    {value : (Nat → Token) → Bool} [Reads x value]
    (yes : Advances (fun w => c w ∧ value w = true) y goes')
    (no : Advances (fun w => c w ∧ value w = false) z goes') :
    Advances c (x >>= fun b => if b = true then y else z) goes' :=
  read_bind fun b => by
    cases b with
    | true => exact yes
    | false => exact no

theorem pure_not {a : α} (stops : ¬ goes a) : Advances c (Pure.pure a : Parse α) goes := by
  intro s _ _ b s' ran going
  cases ran
  exact absurd going stops

theorem ite {q : Prop} [Decidable q] {x y : Parse α} (yes : q → Advances c x goes)
    (no : ¬ q → Advances c y goes) : Advances c (if q then x else y) goes := by
  by_cases holds : q
  · rw [if_pos holds]
    exact yes holds
  · rw [if_neg holds]
    exact no holds

theorem map {x : Parse α} {f : α → β} {goes' : β → Prop} (advances : Advances c x (goes' ∘ f)) :
    Advances c (f <$> x) goes' := by
  intro s ready holds b s' ran going
  cases first : x s with
  | ok a s₁ =>
    rw [map_ok first, EStateM.Result.ok.injEq] at ran
    obtain ⟨rfl, rfl⟩ := ran
    exact advances s ready holds a s₁ first going
  | error e s₁ =>
    rw [map_error first] at ran
    cases ran

/-- A node consumes what its body consumes: the body starts at the same window. -/
theorem inside {kind : NodeKind} {body : Parse α} (advances : Advances c body goes) :
    Advances c (node kind body) goes := by
  intro s ready holds a s' ran going
  cases bodyRan : body { s with children := #[] } with
  | ok b s₁ =>
    rw [node_ok kind bodyRan, EStateM.Result.ok.injEq] at ran
    obtain ⟨rfl, rfl⟩ := ran
    exact advances { s with children := #[] } ⟨ready.inside, ready.ends⟩ holds _ s₁ bodyRan going
  | error e s₁ =>
    rw [node_error bodyRan] at ran
    cases ran

/-- A run over a list whose first round consumes a token. -/
theorem forIn_cons {x : β} {xs : List β} {init : γ} {f : β → γ → Parse (ForInStep γ)} {goes : γ → Prop}
    [each : ∀ x acc, Sound (f x acc)] (first : Advances c (f x init) fun _ => True) :
    Advances c (ForIn.forIn (x :: xs) init f) goes := by
  rw [List.forIn_cons]
  have rest : ∀ step : ForInStep γ, Forward (match step with
      | .done b => Pure.pure b
      | .yield b => ForIn.forIn xs b f) := by
    intro step
    cases step <;> infer_instance
  exact bind_left first

/-- A step that never succeeds. -/
theorem of_fails {x : Parse α} (fails : ∀ s a s', x s ≠ .ok a s') : Advances c x goes :=
  fun s _ _ a s' ran _ => absurd ran (fails s a s')

/-- From a window that never occurs, every step consumes a token. -/
theorem of_absurd {x : Parse α} (never : ∀ w, c w → False) : Advances c x goes :=
  fun _ _ holds => absurd holds (never _)

/-- The loop's round consumed a token if it asked to go on, whatever else it returned. -/
theorem map_pair {p : Parse Bool} {β : Type} (b : β) (advances : Advances c p (· = true)) :
    Advances c (p >>= fun x => Pure.pure (x, b)) (·.1 = true) := by
  intro s ready holds r s' ran going
  cases first : p s with
  | ok x s₁ =>
    rw [bind_ok first, pure_run, EStateM.Result.ok.injEq] at ran
    obtain ⟨rfl, rfl⟩ := ran
    exact advances s ready holds x s₁ first going
  | error e s₁ =>
    rw [bind_error first] at ran
    cases ran

/-- A loop consumes a token when its first round does. -/
theorem loopFrom_first {step : β → Parse (Bool × β)} [each : ∀ b, Forward (step b)] {b : β}
    (first : Advances c (step b) fun _ => True) : Advances c (loopFrom step b) fun _ => True := by
  intro s ready holds b' s' ran _
  cases firstRan : step b s with
  | ok r s₁ =>
    have moved := (each b).moves s ready r s₁ firstRan
    have advanced := first s ready holds r s₁ firstRan trivial
    obtain ⟨go, b₁⟩ := r
    rw [loopFrom, firstRan] at ran
    cases go with
    | false =>
      obtain ⟨-, rfl⟩ := EStateM.Result.ok.inj ran
      exact advanced
    | true =>
      dsimp only at ran
      split at ran
      · -- the loop goes on from where the first round left it
        have later := (Forward.loopFrom b₁).moves s₁ moved.ready b' s' ran
        exact Nat.lt_of_lt_of_le advanced later.index
      · obtain ⟨-, rfl⟩ := EStateM.Result.ok.inj ran
        exact advanced
  | error e s₁ =>
    rw [loopFrom, firstRan] at ran
    cases ran

end Advances

/-! Consuming and failing. -/

instance skip_sound : Sound skip := Sound.discard

instance failAt_sound (p : String → ParseProblem) : Sound (failAt p : Parse α) := by
  unfold failAt
  infer_instance

instance accept?_sound (k : TokenKind) : Sound (accept? k) := by
  unfold accept?
  infer_instance

instance expect_sound (k : TokenKind) : Sound (expect k) := by
  unfold expect
  infer_instance

instance accept_sound (kw : String) : Sound (accept kw) := by
  unfold accept
  infer_instance

instance acceptSeq_sound (kws : List String) : Sound (acceptSeq kws) := by
  unfold acceptSeq
  infer_instance

instance expectKw_sound (kws : List String) : Sound (expectKw kws) := by
  unfold expectKw
  infer_instance

/-! What consumes a token. -/

theorem next_advances : Advances (fun w => (w 0).kind ≠ .eof) next fun _ => True := by
  intro s _ notEof t s' ran _
  rw [next_run notEof, EStateM.Result.ok.injEq] at ran
  obtain ⟨-, rfl⟩ := ran
  exact Nat.lt_succ_self _

theorem skip_advances : Advances (fun w => (w 0).kind ≠ .eof) skip fun _ => True :=
  Advances.map next_advances

variable {c : (Nat → Token) → Prop}

theorem failAt_advances (p : String → ParseProblem) {goes : α → Prop} :
    Advances c (failAt p : Parse α) goes :=
  Advances.of_fails fun s a s' => by
    show fail _ s ≠ _
    rw [fail_run]
    intro ran
    cases ran

/-- A word is no `eof`. -/
theorem kind_ne_eof_of_isWord {t : Token} {kw : String} (word : t.isWord kw = true) :
    t.kind ≠ .eof := by
  simp only [Token.isWord, Bool.and_eq_true, beq_iff_eq] at word
  rw [word.1]
  exact TokenKind.noConfusion

theorem kind_ne_eof_of_isAnyWord {t : Token} {kws : List String} (word : t.isAnyWord kws = true) :
    t.kind ≠ .eof := by
  obtain ⟨kw, -, found⟩ := List.any_eq_true.mp word
  exact kind_ne_eof_of_isWord found

theorem kind_ne_eof_of_isIdentifier {t : Token} (named : t.isIdentifier = true) :
    t.kind ≠ .eof := by
  intro eof
  rw [Token.isIdentifier, eof] at named
  exact Bool.false_ne_true named

/-- A token that does not end the statement does not end the script. -/
theorem kind_ne_eof_of_notAtEnd {t : Token} (going : ending t = false) : t.kind ≠ .eof := by
  intro eof
  rw [ending, eof] at going
  exact Bool.noConfusion going

/-- Consuming the current token once a test has found it to be a word. -/
theorem skip_advances_of_isWord {kw : String} :
    Advances (fun w => c w ∧ (w 0).isWord kw = true) skip fun _ => True :=
  skip_advances.mono fun _ held => kind_ne_eof_of_isWord held.2

theorem skip_advances_of_isAnyWord {kws : List String} :
    Advances (fun w => c w ∧ (w 0).isAnyWord kws = true) skip fun _ => True :=
  skip_advances.mono fun _ held => kind_ne_eof_of_isAnyWord held.2

theorem skip_advances_of_check {k : TokenKind} (notEof : k ≠ .eof) :
    Advances (fun w => c w ∧ ((w 0).kind == k) = true) skip fun _ => True :=
  skip_advances.mono fun _ held => by
    rw [beq_iff_eq] at held
    rw [held.2]
    exact notEof

theorem accept?_advances {k : TokenKind} (notEof : k ≠ .eof) :
    Advances c (accept? k) (· = true) :=
  Advances.read_ite (Advances.bind_left (skip_advances_of_check notEof))
    (Advances.pure_not Bool.false_ne_true)

/-- At a token of kind `k`, accepting one consumes it. -/
theorem accept?_consumes {k : TokenKind} (notEof : k ≠ .eof) :
    Advances (fun w => c w ∧ (w 0).kind = k) (accept? k) fun _ => True :=
  Advances.read_ite (Advances.bind_left (skip_advances_of_check notEof))
    (Advances.of_absurd fun w held => by
      rw [held.1.2, beq_self_eq_true] at held
      exact Bool.false_ne_true held.2.symm)

theorem accept_advances (kw : String) : Advances c (accept kw) (· = true) :=
  Advances.read_ite (Advances.bind_left skip_advances_of_isWord)
    (Advances.pure_not Bool.false_ne_true)

theorem expect_advances {k : TokenKind} (notEof : k ≠ .eof) : Advances c (expect k) fun _ => True :=
  Advances.read_bind fun _ =>
    Advances.ite
      (fun found => skip_advances.mono fun w held => by
        rw [found, beq_iff_eq] at held
        rw [held.2]
        exact notEof)
      fun _ => Advances.bind_left (failAt_advances _)

/-- The first word is consumed, or the step fails. -/
theorem expectKw_advances (kw : String) (kws : List String) :
    Advances c (expectKw (kw :: kws)) fun _ => True := by
  unfold expectKw
  exact Advances.bind_left (Advances.forIn_cons
    (Advances.read_bind fun _ =>
      Advances.ite (fun found => Advances.bind_left (skip_advances.mono fun _ held =>
          kind_ne_eof_of_isWord (held.2.trans found)))
        fun _ => Advances.bind_left (failAt_advances _)))

/-- Words that come next start with a word. -/
theorem isWord_of_isSeq {kw : String} {kws : List String} {w : Nat → Token}
    (seq : (decide ((kw :: kws).length ≤ 3) &&
      (kw :: kws).zipIdx.all fun (kw, i) => (w i).isWord kw) = true) : (w 0).isWord kw = true := by
  simp only [List.zipIdx_cons, List.all_cons, Bool.and_eq_true] at seq
  exact seq.2.1

theorem kind_ne_eof_of_isSeq {kw : String} {kws : List String} {w : Nat → Token}
    (seq : (decide ((kw :: kws).length ≤ 3) &&
      (kw :: kws).zipIdx.all fun (kw, i) => (w i).isWord kw) = true) : (w 0).kind ≠ .eof :=
  kind_ne_eof_of_isWord (isWord_of_isSeq seq)

theorem acceptSeq_advances (kw : String) (kws : List String) :
    Advances c (acceptSeq (kw :: kws)) (· = true) :=
  Advances.read_ite
    (Advances.bind_left (Advances.forIn_cons (Advances.bind_left
      (skip_advances.mono fun _ held => kind_ne_eof_of_isSeq held.2))))
    (Advances.pure_not Bool.false_ne_true)

/-- A loop whose round is sound and consumes a token whenever it asks to go on. -/
theorem loop_sound {step : Parse Bool} [each : Sound step]
    (progress : Advances (fun _ => True) step (· = true)) : Sound (loop step) :=
  loopFrom_sound (fun _ => progress.map_pair ()) ()

/-- A loop consumes a token when its first round does. -/
theorem loop_advances {step : Parse Bool} [each : Forward step]
    (first : Advances c step fun _ => True) : Advances c (loop step) fun _ => True :=
  Advances.loopFrom_first (Advances.bind_left first)

/-- Items separated by commas: the comma consumed is what lets the list go on. -/
instance commaList_sound {item : Parse Unit} [each : Sound item] : Sound (commaList item) :=
  loop_sound (Advances.bind_keep fun _ => accept?_advances TokenKind.noConfusion)

end Parse

end DdlCatalog.Syntax
