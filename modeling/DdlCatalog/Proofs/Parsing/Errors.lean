import Mathlib
import DdlCatalog.Proofs.Parsing.Spans
/-!
# Parse errors and the statements that failed

A script is parsed round by round. A statement delimiter is kept as a terminal of the script, a
`DELIMITER` line as a node of its own, and the tokens from any other token to the end of a
statement as one statement. `Items` says what the rounds leave, from a token to the end of the
script, together with the errors they record. A statement whose productions succeed keeps all
its tokens and records no error. One whose productions fail becomes an `otherStatement` over the
same run of tokens, keeps the tokens from the failure on, and records exactly one error, at the
token where its productions stopped, which is one of its own tokens or the token that ends it.

So the errors of a parse are those of the failed statements, one each and in their order, and
`parseStatement` answers the first of them.
-/

namespace DdlCatalog.Syntax

open DdlCatalog.Sql

/-- What one round of a script leaves, from the token at `i` to the token at `j`: the node it
adds to the script, and the errors it records. -/
inductive Item (toks : Array Token) (src : ByteArray) : Nat → Nat → Node → List ParseError → Prop
  /-- A statement delimiter, kept as a terminal. -/
  | stmtEnd {i : Nat} (kind : (toks.getD i default).kind = .endStmt) :
      Item toks src i (i + 1) (.terminal (toks.getD i default)) []
  /-- A `DELIMITER` line. -/
  | directive {i : Nat} (kind : (toks.getD i default).kind = .delimiter) :
      Item toks src i (i + 1)
        (.branch .delimiterStatement (runSpan toks src i (i + 1)).1 (runSpan toks src i (i + 1)).2
          [.terminal (toks.getD i default)]) []
  /-- A statement whose productions succeed: its node spans it, keeps all its tokens, and no
  error is recorded. -/
  | parsed {i j : Nat} {kind : NodeKind} {cs : List Node} (starts : Parse.ending (toks.getD i default) = false)
      (before : i < j) (stops : Parse.ending (toks.getD j default) = true)
      (kept : Node.leavesAll cs = (toks.extract i j).toList) :
      Item toks src i j (.branch kind (runSpan toks src i j).1 (runSpan toks src i j).2 cs) []
  /-- A statement whose productions fail at the token `k`: an `otherStatement` that spans it
  and keeps the tokens from `k` on, and one error, at `k`. -/
  | failed {i j k : Nat} {cs : List Node} {e : ParseError} (starts : Parse.ending (toks.getD i default) = false)
      (before : i < j) (stops : Parse.ending (toks.getD j default) = true) (after : i ≤ k) (upto : k ≤ j)
      (site : e.pos = (toks.getD k default).pos) (kept : Node.leavesAll cs = (toks.extract k j).toList) :
      Item toks src i j (.branch .otherStatement (runSpan toks src i j).1 (runSpan toks src i j).2 cs) [e]

/-- What the rounds of a script leave from the token at `i` to the end: the nodes, and the errors
of each round in the order of the rounds. -/
inductive Items (toks : Array Token) (src : ByteArray) : Nat → List Node → List ParseError → Prop
  | eof {i : Nat} (atEof : (toks.getD i default).kind = .eof) : Items toks src i [] []
  | cons {i j : Nat} {n : Node} {ns : List Node} {es es' : List ParseError}
      (item : Item toks src i j n es) (rest : Items toks src j ns es') :
      Items toks src i (n :: ns) (es ++ es')

/-- Every round consumes a token. -/
theorem Item.lt {toks : Array Token} {src : ByteArray} {i j : Nat} {n : Node} {es : List ParseError}
    (item : Item toks src i j n es) : i < j := by
  cases item with
  | stmtEnd => exact Nat.lt_succ_self i
  | directive => exact Nat.lt_succ_self i
  | parsed _ before => exact before
  | failed _ before => exact before

namespace ParseState

/-- One round from `s` to `s₁`: it moves forward, keeps the script and the last consumed token
just before the current one, adds the node `n` to the open node and records the errors `es`. -/
structure Adds (s s₁ : ParseState) (n : Node) (es : List ParseError) : Prop where
  moves : s.Moves s₁
  follows : s.Follows s₁
  children : s₁.children = s.children.push n
  errors : s₁.errors = s.errors ++ es.toArray
  item : Item s.tokens s.source s.index s₁.index n es

/-- What one round of a script does from `s`: at the end of the script it stops where it is;
elsewhere it goes on, having added the node `n` and recorded the errors `es`. -/
inductive Round (s : ParseState) : Bool → ParseState → Prop
  | stop (atEof : (s.ahead 0).kind = .eof) : Round s false s
  | add {s₁ : ParseState} (n : Node) (es : List ParseError) (adds : s.Adds s₁ n es) : Round s true s₁

variable {s s₁ : ParseState} {kind : NodeKind} {es : List ParseError}

/-- A node closed over what a run from the same position, with no children, recovered: the node
spans the run of tokens consumed, and the round adds it. -/
theorem Adds.close (ready : s.Ready) (tracks : s.Tracks) (recovered : s.Recovered (s.closeNode kind s₁))
    (errors : s₁.errors = s.errors ++ es.toArray)
    (item : Item s.tokens s.source s.index s₁.index (.branch kind (runSpan s.tokens s.source s.index s₁.index).1
      (runSpan s.tokens s.source s.index s₁.index).2 s₁.children.toList) es) :
    s.Adds (s.closeNode kind s₁) (.branch kind (runSpan s.tokens s.source s.index s₁.index).1
      (runSpan s.tokens s.source s.index s₁.index).2 s₁.children.toList) es := by
  have moves : ({ s with children := #[] } : ParseState).Moves s₁ := recovered.moves.congr rfl rfl rfl rfl
  have follows : ({ s with children := #[] } : ParseState).Follows s₁ :=
    ⟨recovered.follows.source, recovered.follows.tracks⟩
  refine ⟨recovered.moves, recovered.follows, ?_, errors, item⟩
  rw [← closeNode_span ready moves follows tracks]
  rfl

end ParseState

namespace Parse

variable {α β : Type} {s s₁ : ParseState}

theorem bind_eq_ok {x : Parse α} {f : α → Parse β} {b : β} {s' : ParseState}
    (ran : (x >>= f) s = .ok b s') : ∃ a s₁, x s = .ok a s₁ ∧ f a s₁ = .ok b s' := by
  cases first : x s with
  | ok a s₁ =>
    rw [bind_ok first] at ran
    exact ⟨a, s₁, rfl, ran⟩
  | error e s₁ =>
    rw [bind_error first] at ran
    cases ran

theorem failAt_run (p : String → ParseProblem) (s : ParseState) :
    (failAt p : Parse α) s =
      .error () { s with errors := s.errors.push ⟨(s.ahead 0).pos, p (describeToken (s.ahead 0))⟩ } := rfl

theorem failAt_bind_ne_ok (p : String → ParseProblem) (f : α → Parse β) (s : ParseState) (b : β)
    (s' : ParseState) : (failAt p >>= f) s ≠ .ok b s' := by
  rw [bind_error (failAt_run p s)]
  nofun

/-- `skip` away from the end of the script consumes the current token as a terminal. -/
theorem skip_run (notEof : (s.ahead 0).kind ≠ .eof) :
    skip s = .ok ()
      { s with
        index := s.index + 1
        children := s.children.push (.terminal (s.ahead 0))
        prevEnd := (s.ahead 0).endOffset
        prevPos := (s.ahead 0).pos } :=
  map_ok (next_run notEof)

/-! Where a statement stops. -/

/-- Every success of `p` stops at a token that ends the statement. -/
def Ends (p : Parse α) : Prop := ∀ s a s', p s = .ok a s' → ending (s'.ahead 0) = true

namespace Ends

theorem bind {x : Parse α} {f : α → Parse β} (rest : ∀ a, Ends (f a)) : Ends (x >>= f) := by
  intro s b s' ran
  obtain ⟨a, s₁, -, later⟩ := bind_eq_ok ran
  exact rest a s₁ b s' later

theorem ite {q : Prop} [Decidable q] {x y : Parse α} (yes : Ends x) (no : Ends y) :
    Ends (if q then x else y) := by
  by_cases holds : q
  · rw [if_pos holds]
    exact yes
  · rw [if_neg holds]
    exact no

/-- The check that the statement has ended, with a step that fails where it has not. -/
theorem unless_atEnd {k : α} {y : Parse α} (fails : ∀ s a s', y s ≠ .ok a s') :
    Ends (atEnd >>= fun ended => if ended = true then Pure.pure k else y) := by
  intro s a s' ran
  rw [bind_ok (Reads.atEnd.run s)] at ran
  by_cases ended : ending (s.ahead 0) = true
  · rw [if_pos ended] at ran
    obtain ⟨-, rfl⟩ := EStateM.Result.ok.inj ran
    exact ended
  · rw [if_neg ended] at ran
    exact absurd ran (fails s a s')

end Ends

/-- A statement's productions that succeed stop at a token that ends it: each kind of statement
closes with the check that nothing is left. -/
theorem statementBody_ends : Ends statementBody := by
  unfold statementBody
  dsimp only
  have check : ∀ kind : NodeKind, Ends (atEnd >>= fun ended =>
      if ended = true then Pure.pure kind else (failAt .trailingInput : Parse Unit) >>= fun _ => Pure.pure kind) :=
    fun _ => Ends.unless_atEnd (failAt_bind_ne_ok _ _)
  refine Ends.bind fun _ => Ends.ite (Ends.bind check)
    (Ends.bind fun _ => Ends.ite ?_ (Ends.bind fun _ => Ends.ite ?_ ?_))
  · -- ALTER TABLE
    exact Ends.bind fun _ => Ends.bind check
  · -- USE
    exact Ends.bind fun _ => Ends.bind fun _ => Ends.bind check
  · -- any other statement
    exact Ends.bind fun _ => Ends.bind check

/-- Skipping to the end of a statement stops at a token that ends it. -/
theorem skipStatement_ends :
    Recovers (fun _ => True) skipStatement fun _ s' => ending (s'.ahead 0) = true := by
  unfold skipStatement
  refine Recovers.loop (Recovers.read_bind fun atEnd => ?_) (Advances.read_ite
    (Advances.pure_not Bool.false_ne_true)
    (Advances.bind_left (skip_advances.mono fun _ held => kind_ne_eof_of_notAtEnd held.2)))
  split
  next ended => exact Recovers.pure false fun s held _ => by rw [held.2, ended]
  next => exact Recovers.bind_pure Recovers.of_sound true nofun

/-! One round. -/

/-- A run from a state with no children built, which adds the tokens it consumed, has them as
its children's leaves. -/
theorem leavesAll_of_parsed (parsed : ({ s with children := #[] } : ParseState).Parsed s₁) :
    Node.leavesAll s₁.children.toList = (s.tokens.extract s.index s₁.index).toList := by
  simpa [ParseState.leaves, ParseState.consumedTo] using parsed.leaves

/-- The token a run stopped at, as the tokens of the run's start name it. -/
theorem ending_getD {s₀ : ParseState} (ready : s₁.Ready) (tokens : s₁.tokens = s₀.tokens)
    (ended : ending (s₁.ahead 0) = true) : ending (s₀.tokens.getD s₁.index default) = true := by
  rwa [← tokens, ← ready.ahead_zero_getD]

/-- A statement: its productions succeed and it keeps all its tokens, or they fail at a token
of it, and it records that one error and keeps the tokens from there on. Either way its node
spans the tokens up to the one that ends it. -/
theorem statement_adds (ready : s.Ready) (tracks : s.Tracks) (going : ending (s.ahead 0) = false) :
    ∃ s₁ n es, statement s = .ok () s₁ ∧ s.Adds s₁ n es := by
  have start : ({ s with children := #[] } : ParseState).Ready := ⟨ready.inside, ready.ends⟩
  have starts : ending (s.tokens.getD s.index default) = false := by rwa [← ready.ahead_zero_getD]
  obtain ⟨u, s', run, recovered, -⟩ := statement_recovers (c := fun _ => True) s ready trivial
  have consumed := statement_advances s ready going u s' run trivial
  have landed := statementBody_sound.lands { s with children := #[] } start
  cases body : statementBody { s with children := #[] } with
  | ok kind s₁ =>
    rw [body] at landed
    rw [statement_of_body body] at run
    obtain ⟨-, rfl⟩ := EStateM.Result.ok.inj run
    have stops := ending_getD landed.moves.ready landed.moves.tokens (statementBody_ends _ kind s₁ body)
    exact ⟨_, _, [], statement_of_body body, .close ready tracks recovered (by simpa using landed.errors)
      (.parsed starts consumed stops (leavesAll_of_parsed landed))⟩
  | error e s₁ =>
    rw [body] at landed
    -- the tokens from the failure to the end of the statement are skipped
    have resumed : ({ s₁ with children := #[] } : ParseState).Ready :=
      ⟨landed.moves.ready.inside, landed.moves.ready.ends⟩
    obtain ⟨u, s₂, skipped, -, ended⟩ := skipStatement_ends _ resumed trivial
    have skipping := skipStatement_sound.lands _ resumed
    rw [skipped] at skipping
    rw [statement_of_failure body skipped] at run
    obtain ⟨-, rfl⟩ := EStateM.Result.ok.inj run
    obtain ⟨p, recorded⟩ := landed.recorded
    have tokens₁ : s₁.tokens = s.tokens := landed.moves.tokens
    have stops := ending_getD skipping.moves.ready (skipping.moves.tokens.trans tokens₁) ended
    have failedAt : (s₁.ahead 0).pos = (s.tokens.getD s₁.index default).pos := by
      rw [landed.moves.ready.ahead_zero_getD, tokens₁]
    have kept := leavesAll_of_parsed skipping
    rw [tokens₁] at kept
    exact ⟨_, _, [⟨(s₁.ahead 0).pos, p⟩], statement_of_failure body skipped,
      .close ready tracks recovered ((skipping.errors.trans recorded).trans Array.push_eq_append)
        (.failed starts consumed stops landed.moves.index skipping.moves.index failedAt kept)⟩

/-- A round of a script: at the end it stops where it is; elsewhere it adds one node, a
delimiter, a `DELIMITER` line or a statement, as `Item` says. -/
theorem scriptRound_round (ready : s.Ready) (tracks : s.Tracks) :
    ∃ go s₁, scriptRound s = .ok go s₁ ∧ s.Round go s₁ := by
  unfold scriptRound
  rw [bind_ok (Reads.cur.run s)]
  dsimp only
  cases kind : (s.ahead 0).kind
  all_goals dsimp only
  case eof => exact ⟨false, s, rfl, .stop kind⟩
  case endStmt =>
    have notEof : (s.ahead 0).kind ≠ .eof := by rw [kind]; decide
    have landed := skip_sound.lands s ready
    rw [skip_run notEof] at landed
    have item : Item s.tokens s.source s.index (s.index + 1) (.terminal (s.ahead 0)) [] := by
      rw [ready.ahead_zero_getD] at kind ⊢
      exact .stmtEnd kind
    exact ⟨true, _, by rw [bind_ok (skip_run notEof)]; rfl,
      .add _ [] ⟨landed.moves, landed.follows, rfl, by simp, item⟩⟩
  case delimiter =>
    have notEof : (s.ahead 0).kind ≠ .eof := by rw [kind]; decide
    have start : ({ s with children := #[] } : ParseState).Ready := ⟨ready.inside, ready.ends⟩
    have skipped := skip_run (s := { s with children := #[] }) notEof
    have landed := skip_sound.lands _ start
    rw [skipped] at landed
    have item : Item s.tokens s.source s.index (s.index + 1) (.branch .delimiterStatement
        (runSpan s.tokens s.source s.index (s.index + 1)).1 (runSpan s.tokens s.source s.index (s.index + 1)).2
        [.terminal (s.ahead 0)]) [] := by
      rw [ready.ahead_zero_getD] at kind ⊢
      exact .directive kind
    exact ⟨true, _, by rw [bind_ok (node_ok .delimiterStatement skipped)]; rfl,
      .add _ [] (.close ready tracks (landed.close .delimiterStatement ready).recovered (by simp) item)⟩
  -- any other token starts a statement
  all_goals
    obtain ⟨s₁, n, es, ran, adds⟩ := statement_adds ready tracks (by simp [ending, kind])
    exact ⟨true, s₁, by rw [bind_ok ran]; rfl, .add n es adds⟩

/-- The rounds of a script, from a ready state to its end: they leave what `Items` says, the
nodes added to the open node and the errors recorded in order. -/
theorem rounds_items (b : Unit) (ready : s.Ready) (tracks : s.Tracks) :
    ∃ s₁ ns es, loopFrom (fun _ => do return (← scriptRound, ())) b s = .ok () s₁ ∧
      s₁.children = s.children ++ ns.toArray ∧ s₁.errors = s.errors ++ es.toArray ∧
      Items s.tokens s.source s.index ns es := by
  -- the loop runs rounds until one stops; each case first runs the round from where it is
  fun_induction loopFrom (fun _ => do return (← scriptRound, ())) b s with
  | case1 b s b' s' ran _ ih =>
    obtain ⟨go, s₁, round, rounded⟩ := scriptRound_round ready tracks
    rw [bind_ok round, pure_run] at ran
    cases ran
    cases rounded with
    | add n es adds =>
      obtain ⟨s₂, ns, es', run, children, errors, items⟩ :=
        ih adds.moves.ready (adds.follows.tracks tracks)
      have tokens : s'.tokens = s.tokens := adds.moves.tokens
      rw [tokens, adds.follows.source] at items
      refine ⟨s₂, n :: ns, es ++ es', run, ?_, ?_, .cons adds.item items⟩
      · rw [children, adds.children]
        simp
      · rw [errors, adds.errors]
        simp
  | case2 b s b' s' ran stuck =>
    -- a round that goes on consumes a token, so the loop does not stall
    obtain ⟨go, s₁, round, rounded⟩ := scriptRound_round ready tracks
    rw [bind_ok round, pure_run] at ran
    cases ran
    cases rounded with
    | add n es adds =>
      have consumed := adds.item.lt
      have inside := adds.moves.ready.inside
      rw [adds.moves.tokens] at inside
      exact absurd (show s'.remaining < s.remaining by
        unfold ParseState.remaining
        rw [adds.moves.tokens]
        omega) stuck
  | case3 b s b' s' ran =>
    obtain ⟨go, s₁, round, rounded⟩ := scriptRound_round ready tracks
    rw [bind_ok round, pure_run] at ran
    cases ran
    cases rounded with
    | stop atEof =>
      rw [ready.ahead_zero_getD] at atEof
      exact ⟨s, [], [], rfl, by simp, by simp, .eof atEof⟩
  | case4 b s e s' ran =>
    obtain ⟨go, s₁, round, -⟩ := scriptRound_round ready tracks
    rw [bind_ok round, pure_run] at ran
    cases ran

end Parse

/-- The errors of a parse are those of the statements that failed, one each and in order: the
root is a script node whose children the rounds of the script leave as `Items` says, with the
errors the parse returns; and parsing a single statement answers the first of them. -/
theorem parse_errors_follow_failed_statements (sql : String) (opts : LexOptions) :
    ∃ span text cs, (parse sql opts).1 = .branch .script span text cs ∧
      Items (tokenize sql opts).toArray (Utf8.encode sql).toByteArray 0 cs (parse sql opts).2 ∧
      ∀ e rest, (parse sql opts).2 = e :: rest → parseStatement sql opts = .error e := by
  have ready : (ParseState.init (Utf8.encode sql).toByteArray (tokenize sql opts).toArray).Ready := by
    obtain ⟨toks, last, split, eof, -⟩ := tokenize_ends sql opts
    rw [split]
    exact ParseState.init_ready _ toks eof
  obtain ⟨s₁, ns, es, run, children, errors, items⟩ :=
    Parse.rounds_items () (s := { ParseState.init (Utf8.encode sql).toByteArray (tokenize sql opts).toArray with
      children := #[] }) ⟨ready.inside, ready.ends⟩ ⟨rfl, rfl⟩
  have parsed : parse sql opts = (.branch .script
      (s₁.spanFrom (ParseState.init (Utf8.encode sql).toByteArray (tokenize sql opts).toArray |>.ahead 0).pos).1
      (s₁.spanFrom (ParseState.init (Utf8.encode sql).toByteArray (tokenize sql opts).toArray |>.ahead 0).pos).2
      ns, es) := by
    unfold parse
    dsimp only
    have rounds : Parse.loop Parse.scriptRound
        { ParseState.init (Utf8.encode sql).toByteArray (tokenize sql opts).toArray with children := #[] } =
        .ok () s₁ := run
    rw [Parse.script_eq, Parse.node_ok .script rounds]
    simp [ParseState.closeNode, children, errors, ParseState.init]
  refine ⟨_, _, ns, by rw [parsed], by rw [parsed]; exact items, fun e rest first => ?_⟩
  -- a single statement's parse answers the script's first error
  unfold parseStatement
  generalize parse sql opts = result at first ⊢
  obtain ⟨root, errs⟩ := result
  dsimp only at first
  subst first
  rfl

end DdlCatalog.Syntax
