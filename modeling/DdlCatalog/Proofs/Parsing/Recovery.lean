import Mathlib
import DdlCatalog.Proofs.Parsing.Statements
import DdlCatalog.Proofs.Parsing.Tokens
/-!
Parsing a script never fails. A statement is not sound in the sense of the productions: when
its productions fail, it records the error, drops what they built and keeps the tokens from the
failure to the end of the statement. What a run that may recover keeps is `Recovered`: the
tokens it consumed, some left out, in order, and all of them when it recorded no error; and
the nodes it adds lie over the tokens it consumed, as those of a sound step do.

From it: the run of a script over the tokens of any input returns normally, with no loop
stalled and one root node, and the leaves of the parsed tree are the tokens of the input, some
left out when a statement failed, all of them when none did.
-/

namespace DdlCatalog.Syntax

open DdlCatalog.Sql

namespace ParseState

/-- A run from `s` to `s'` that may have recovered from failures: it moves forward without
stalling, only adds errors, adds as leaves some of the tokens it consumed, in order, and all of
them when it added no error, under nodes that lie over them. -/
structure Recovered (s s' : ParseState) : Prop where
  moves : s.Moves s'
  stalled : s'.stalled = s.stalled
  errors : s.errors.toList.IsPrefix s'.errors.toList
  leaves : ∃ kept, s'.leaves = s.leaves ++ kept ∧ kept.Sublist (s.consumedTo s')
  lossless : s'.errors = s.errors → s'.leaves = s.leaves ++ s.consumedTo s'
  follows : s.Follows s'
  laid : s.Tracks → s.Lays s'

variable {s s₁ s₂ : ParseState}

theorem Parsed.recovered (parsed : s.Parsed s₁) : s.Recovered s₁ :=
  ⟨parsed.moves, parsed.stalled, by rw [parsed.errors], ⟨_, parsed.leaves, List.Sublist.refl _⟩,
    fun _ => parsed.leaves, parsed.follows, parsed.laid⟩

theorem Recovered.trans (first : s.Recovered s₁) (second : s₁.Recovered s₂) : s.Recovered s₂ := by
  refine ⟨first.moves.trans second.moves, second.stalled.trans first.stalled,
    first.errors.trans second.errors, ?_, fun same => ?_, first.follows.trans second.follows,
    fun tracks => (first.laid tracks).trans (second.laid (first.follows.tracks tracks))
      first.moves.tokens first.follows.source⟩
  · obtain ⟨kept₁, leaves₁, sub₁⟩ := first.leaves
    obtain ⟨kept₂, leaves₂, sub₂⟩ := second.leaves
    refine ⟨kept₁ ++ kept₂, by rw [leaves₂, leaves₁, List.append_assoc], ?_⟩
    rw [← consumedTo_append first.moves second.moves]
    exact sub₁.append sub₂
  · -- no error added in all means none added in either part
    have kept : s₁.errors = s.errors := by
      have shorter := first.errors.length_le
      have longer := second.errors.length_le
      rw [same] at longer
      exact Array.toList_inj.mp (first.errors.eq_of_length (by omega)).symm
    rw [second.lossless (same.trans kept.symm), first.lossless kept, List.append_assoc,
      consumedTo_append first.moves second.moves]

/-- A failure from the same position with no children, with the children put back: the errors
grow and no leaf is added. -/
theorem Failed.abandon (failed : ({ s with children := #[] } : ParseState).Failed s₁) :
    s.Recovered { s₁ with children := s.children } := by
  obtain ⟨p, recorded⟩ := failed.recorded
  have within : s₁.index ≤ s.tokens.size := by
    have inside := failed.moves.ready.inside
    rw [failed.moves.tokens] at inside
    exact Nat.le_of_lt inside
  refine ⟨failed.moves.congr rfl rfl rfl rfl, failed.stalled, ?_, ⟨[], by simp [ParseState.leaves], ?_⟩,
    fun same => ?_, ⟨failed.follows.source, failed.follows.tracks⟩,
    fun _ => Lays.none failed.moves.index within rfl⟩
  · rw [show s₁.errors = s.errors.push ⟨(s₁.ahead 0).pos, p⟩ from recorded, Array.toList_push]
    exact List.prefix_append _ _
  · exact List.nil_sublist _
  · -- an error was added, so the errors are not the same
    have longer := congrArg Array.size (recorded.symm.trans same)
    simp at longer

/-- Closing a node around what a run from the same position with no children recovered: the
node keeps what the run kept, and spans the tokens it consumed. -/
theorem Recovered.close (kind : NodeKind) (ready : s.Ready)
    (recovered : ({ s with children := #[] } : ParseState).Recovered s₁) :
    s.Recovered (s.closeNode kind s₁) := by
  obtain ⟨kept, leaves, sub⟩ := recovered.leaves
  simp only [ParseState.leaves, Node.leavesAll_nil, List.nil_append] at leaves
  refine ⟨recovered.moves.congr rfl rfl rfl rfl, recovered.stalled, recovered.errors,
    ⟨kept, ?_, sub⟩, fun same => ?_, ⟨recovered.follows.source, recovered.follows.tracks⟩,
    Lays.close kind ready recovered.moves recovered.follows recovered.laid⟩
  · rw [leaves_closeNode]
    exact congrArg (s.leaves ++ ·) leaves
  · have all := recovered.lossless same
    simp only [ParseState.leaves, Node.leavesAll_nil, List.nil_append] at all
    rw [leaves_closeNode]
    exact congrArg (s.leaves ++ ·) all

/-- The start of a parse over tokens that end with `eof` is ready. -/
theorem init_ready (source : ByteArray) (toks : List Token) {last : Token} (eof : last.kind = .eof) :
    (init source (toks ++ [last]).toArray).Ready :=
  ⟨by simp [init], by simp [init, eof]⟩

/-- Over tokens whose only `eof` is the last, a ready state at `eof` is at the last token. -/
theorem Ready.index_of_eof {s : ParseState} {toks : List Token} {last : Token} (ready : s.Ready)
    (tokens : s.tokens = (toks ++ [last]).toArray) (only : ∀ t ∈ toks, t.kind ≠ .eof)
    (atEof : (s.ahead 0).kind = .eof) : s.index = toks.length := by
  have inside := ready.inside
  rw [tokens, List.size_toArray, List.length_append, List.length_singleton] at inside
  refine Nat.le_antisymm (Nat.lt_succ_iff.mp inside) (Nat.not_lt.mp fun before => ?_)
  -- an earlier token is one of toks, none of which is eof
  apply only toks[s.index] (List.getElem_mem before)
  simpa [ahead, tokens, Array.getD, before, Nat.le_of_lt before] using atEof

end ParseState

namespace Parse

variable {α β γ : Type}

/-! Steps that never fail. -/

/-- A step that succeeds from every state. -/
class Succeeds (p : Parse α) : Prop where
  ok : ∀ s, ∃ a s', p s = .ok a s'

namespace Succeeds

instance of_window {x : Parse α} {v : (Nat → Token) → α} [reads : Reads x v] : Succeeds x :=
  ⟨fun s => ⟨_, _, reads.run s⟩⟩

instance bind {x : Parse α} {f : α → Parse β} [first : Succeeds x] [rest : ∀ a, Succeeds (f a)] :
    Succeeds (x >>= f) := ⟨fun s => by
  obtain ⟨a, s₁, ran⟩ := first.ok s
  rw [bind_ok ran]
  exact (rest a).ok s₁⟩

instance map {x : Parse α} (f : α → β) [first : Succeeds x] : Succeeds (f <$> x) := ⟨fun s => by
  obtain ⟨a, s₁, ran⟩ := first.ok s
  exact ⟨_, _, map_ok ran⟩⟩

instance ite {q : Prop} [Decidable q] {x y : Parse α} [yes : Succeeds x] [no : Succeeds y] :
    Succeeds (if q then x else y) := by
  by_cases holds : q
  · rw [if_pos holds]
    exact yes
  · rw [if_neg holds]
    exact no

instance next : Succeeds next := ⟨fun s => by
  by_cases eof : (s.ahead 0).kind = .eof
  · exact ⟨_, _, next_at_eof eof⟩
  · exact ⟨_, _, next_run eof⟩⟩

instance skip : Succeeds skip := map _

instance node (kind : NodeKind) {body : Parse α} [inner : Succeeds body] :
    Succeeds (node kind body) := ⟨fun s => by
  obtain ⟨a, s₁, ran⟩ := inner.ok { s with children := #[] }
  exact ⟨_, _, node_ok kind ran⟩⟩

/-- A loop whose rounds never fail never fails. -/
instance loopFrom {step : β → Parse (Bool × β)} [each : ∀ b, Succeeds (step b)] (b : β) :
    Succeeds (loopFrom step b) := by
  refine ⟨fun s => ?_⟩
  fun_induction Parse.loopFrom step b s with
  | case1 => assumption
  | case2 b s b' s' => exact ⟨b', _, rfl⟩
  | case3 b s b' s' => exact ⟨b', s', rfl⟩
  | case4 b s e s' ran =>
    obtain ⟨r, s₁, ok⟩ := (each b).ok s
    rw [ran] at ok
    cases ok

instance loop {step : Parse Bool} [Succeeds step] : Succeeds (Parse.loop step) := by
  unfold Parse.loop
  infer_instance

end Succeeds

instance skipStatement_succeeds : Succeeds skipStatement := by
  unfold skipStatement
  infer_instance

/-! Steps that recover. -/

/-- From every ready state whose window satisfies `c`, the step succeeds, recovers, and ends
where `done` holds of its result. -/
def Recovers (c : (Nat → Token) → Prop) (p : Parse α) (done : α → ParseState → Prop) : Prop :=
  ∀ s, s.Ready → c s.ahead → ∃ a s', p s = .ok a s' ∧ s.Recovered s' ∧ done a s'

namespace Recovers

variable {c : (Nat → Token) → Prop} {done : α → ParseState → Prop}

/-- A sound step that never fails. -/
theorem of_sound {p : Parse α} [sound : Sound p] [succeeds : Succeeds p] :
    Recovers c p fun _ _ => True := by
  intro s ready _
  obtain ⟨a, s', ran⟩ := succeeds.ok s
  have landed := sound.lands s ready
  rw [ran] at landed
  exact ⟨a, s', ran, landed.recovered, trivial⟩

theorem pure (a : α) (holds : ∀ s : ParseState, c s.ahead → done a s) :
    Recovers c (Pure.pure a : Parse α) done :=
  fun s ready held => ⟨a, s, rfl, (ParseState.Parsed.refl ready).recovered, holds s held⟩

/-- A step that recovers, followed by a fixed result. -/
theorem bind_pure {x : Parse γ} (first : Recovers c x fun _ _ => True) (b : α)
    (holds : ∀ s, done b s) : Recovers c (x >>= fun _ => Pure.pure b) done := by
  intro s ready held
  obtain ⟨a, s', ran, recovered, -⟩ := first s ready held
  exact ⟨b, s', by rw [bind_ok ran]; rfl, recovered, holds s'⟩

/-- A step that only reads the window, followed by a rest that recovers from a window with what
was read. -/
theorem read_bind {x : Parse γ} {f : γ → Parse α} {value : (Nat → Token) → γ} [reads : Reads x value]
    (rest : ∀ a, Recovers (fun w => c w ∧ value w = a) (f a) done) : Recovers c (x >>= f) done := by
  intro s ready held
  rw [bind_ok (reads.run s)]
  exact rest _ s ready ⟨held, rfl⟩

/-- A loop whose rounds recover, and consume a token when they ask to go on, recovers; it ends
where its last round, the one that asked to stop, left `stop` holding. -/
theorem loopFrom {step : β → Parse (Bool × β)} {stop : ParseState → Prop}
    (each : ∀ b, Recovers (fun _ => True) (step b) fun r s' => r.1 = false → stop s')
    (progress : ∀ b, Advances (fun _ => True) (step b) (·.1 = true)) (b : β) :
    Recovers (fun _ => True) (loopFrom step b) fun _ s' => stop s' := by
  intro s ready _
  fun_induction Parse.loopFrom step b s with
  | case1 b s b' s' ran _ ih =>
    obtain ⟨r, s₁, first, recovered, -⟩ := each b s ready trivial
    rw [ran] at first
    obtain ⟨rfl, rfl⟩ := EStateM.Result.ok.inj first
    obtain ⟨b'', s'', rest, recovered', stopped⟩ := ih recovered.moves.ready
    exact ⟨b'', s'', rest, recovered.trans recovered', stopped⟩
  | case2 b s b' s' ran stuck =>
    -- the round asked to go on, so it consumed a token and the loop did not stop here
    obtain ⟨r, s₁, first, recovered, -⟩ := each b s ready trivial
    rw [ran] at first
    obtain ⟨rfl, rfl⟩ := EStateM.Result.ok.inj first
    have consumed := progress b s ready trivial _ s' ran rfl
    have inside := recovered.moves.ready.inside
    rw [recovered.moves.tokens] at inside
    exact absurd (show s'.remaining < s.remaining by
      unfold ParseState.remaining
      rw [recovered.moves.tokens]
      omega) stuck
  | case3 b s b' s' ran =>
    obtain ⟨r, s₁, first, recovered, stopped⟩ := each b s ready trivial
    rw [ran] at first
    obtain ⟨rfl, rfl⟩ := EStateM.Result.ok.inj first
    exact ⟨b', s', rfl, recovered, stopped rfl⟩
  | case4 b s e s' ran =>
    obtain ⟨r, s₁, first, -⟩ := each b s ready trivial
    rw [ran] at first
    cases first

theorem loop {step : Parse Bool} {stop : ParseState → Prop}
    (each : Recovers (fun _ => True) step fun go s' => go = false → stop s')
    (progress : Advances (fun _ => True) step (· = true)) :
    Recovers (fun _ => True) (Parse.loop step) fun _ s' => stop s' := by
  refine Recovers.loopFrom (fun _ s ready held => ?_) (fun _ => progress.map_pair ()) ()
  obtain ⟨go, s', ran, recovered, stopped⟩ := each s ready held
  exact ⟨(go, ()), s', by rw [bind_ok ran]; rfl, recovered, stopped⟩

end Recovers

/-! A statement. -/

/-- A statement whose productions succeed closes a node of their kind around what they built. -/
theorem statement_of_body {s s₁ : ParseState} {kind : NodeKind}
    (ran : statementBody { s with children := #[] } = .ok kind s₁) :
    statement s = .ok () (s.closeNode kind s₁) := by
  unfold statement
  dsimp only
  rw [ran]
  rfl

/-- A statement whose productions fail skips to its end from where they failed, and closes an
`otherStatement` around the skipped tokens alone; its span still starts at its first token. -/
theorem statement_of_failure {s s₁ s₂ : ParseState} {e u : Unit}
    (failed : statementBody { s with children := #[] } = .error e s₁)
    (skipped : skipStatement { s₁ with children := #[] } = .ok u s₂) :
    statement s = .ok () (s.closeNode .otherStatement s₂) := by
  unfold statement
  dsimp only
  rw [failed]
  dsimp only
  rw [skipped]
  rfl

/-- A statement never fails: it keeps its tokens when its productions succeed, and after a
failure it records the error and keeps the tokens from the failure on. -/
theorem statement_recovers {c : (Nat → Token) → Prop} : Recovers c statement fun _ _ => True := by
  intro s ready _
  have landed := statementBody_sound.lands { s with children := #[] } ⟨ready.inside, ready.ends⟩
  cases body : statementBody { s with children := #[] } with
  | ok kind s₁ =>
    rw [body] at landed
    exact ⟨(), _, statement_of_body body, (landed.close kind ready).recovered, trivial⟩
  | error e s₁ =>
    rw [body] at landed
    obtain ⟨u, s₂, skipped⟩ := skipStatement_succeeds.ok { s₁ with children := #[] }
    have rest := skipStatement_sound.lands { s₁ with children := #[] }
      ⟨landed.moves.ready.inside, landed.moves.ready.ends⟩
    rw [skipped] at rest
    -- the failed part is dropped; what comes after the failure is kept
    have dropped : ({ s with children := #[] } : ParseState).Recovered { s₁ with children := #[] } :=
      ParseState.Failed.abandon (s := { s with children := #[] }) landed
    have resumed : ({ s with children := #[] } : ParseState).Recovered s₂ := dropped.trans rest.recovered
    exact ⟨(), _, statement_of_failure body skipped, resumed.close .otherStatement ready, trivial⟩

instance statement_forward : Forward statement := ⟨fun s ready a s' ran => by
  obtain ⟨u, s₁, run, recovered, -⟩ := statement_recovers (c := fun _ => True) s ready trivial
  rw [run] at ran
  obtain ⟨-, rfl⟩ := EStateM.Result.ok.inj ran
  exact recovered.moves⟩

/-- A statement that has tokens consumes one: its productions do, or else they failed where
they started and the tokens skipped after the failure include that one. -/
theorem statement_advances :
    Advances (fun w => ending (w 0) = false) statement fun _ => True := by
  intro s ready going a s' ran _
  have landed := statementBody_sound.lands { s with children := #[] } ⟨ready.inside, ready.ends⟩
  cases body : statementBody { s with children := #[] } with
  | ok kind s₁ =>
    rw [statement_of_body body] at ran
    obtain ⟨-, rfl⟩ := EStateM.Result.ok.inj ran
    exact statementBody_advances { s with children := #[] } ⟨ready.inside, ready.ends⟩ going kind s₁
      body trivial
  | error e s₁ =>
    rw [body] at landed
    obtain ⟨u, s₂, skipped⟩ := skipStatement_succeeds.ok { s₁ with children := #[] }
    rw [statement_of_failure body skipped] at ran
    obtain ⟨-, rfl⟩ := EStateM.Result.ok.inj ran
    have resumed : ({ s₁ with children := #[] } : ParseState).Ready :=
      ⟨landed.moves.ready.inside, landed.moves.ready.ends⟩
    have skipping := Forward.moves (p := skipStatement) _ resumed u s₂ skipped
    rcases Nat.lt_or_eq_of_le landed.moves.index with further | stayed
    · exact Nat.lt_of_lt_of_le further skipping.index
    · -- the failure was at the first token, which the skipping then consumes
      have window : s₁.ahead = s.ahead := landed.moves.ahead_eq stayed.symm
      rw [stayed]
      exact skipStatement_advances _ resumed (window ▸ going) u s₂ skipped trivial

/-! A script. -/

/-- One round of a script: a statement delimiter, a `DELIMITER` line or a statement, or `false`
at the end of the script. -/
def scriptRound : Parse Bool := do
  let t ← cur
  match t.kind with
  | .eof => return false
  | .endStmt => skip
  | .delimiter => node .delimiterStatement skip
  | _ => statement
  return true

theorem script_eq : script = node .script (loop scriptRound) := rfl

/-- A round that goes on consumes a token. -/
theorem scriptRound_advances : Advances (fun _ => True) scriptRound (· = true) := by
  unfold scriptRound
  refine Advances.read_bind fun t => ?_
  split
  next => exact Advances.pure_not Bool.false_ne_true
  next kind =>
    exact Advances.bind_left (skip_advances.mono fun w held => by rw [held.2, kind]; decide)
  next kind =>
    exact Advances.bind_left
      (Advances.inside (skip_advances.mono fun w held => by rw [held.2, kind]; decide))
  next =>
    refine Advances.bind_left (statement_advances.mono fun w held => ?_)
    rw [held.2]
    simp_all [ending]

/-- A script never fails and never stalls: each round that goes on consumes a token, and the
rounds stop only at the end of the script. The root node holds what the rounds recovered. -/
theorem script_recovers {s : ParseState} (ready : s.Ready) :
    ∃ s₁, script s = .ok () (s.closeNode .script s₁) ∧
      ({ s with children := #[] } : ParseState).Recovered s₁ ∧ (s₁.ahead 0).kind = .eof := by
  have recovers : Recovers (fun _ => True) (loop scriptRound) fun _ s' => (s'.ahead 0).kind = .eof := by
    refine Recovers.loop ?_ scriptRound_advances
    -- the round stops only at the end of the script
    unfold scriptRound
    refine Recovers.read_bind fun t => ?_
    split
    next eof => exact Recovers.pure false fun s held _ => by rw [held.2, eof]
    next => exact Recovers.bind_pure Recovers.of_sound true nofun
    next => exact Recovers.bind_pure Recovers.of_sound true nofun
    next => exact Recovers.bind_pure statement_recovers true nofun
  obtain ⟨u, s₁, ran, recovered, atEof⟩ :=
    recovers { s with children := #[] } ⟨ready.inside, ready.ends⟩ trivial
  exact ⟨s₁, node_ok .script ran, recovered, atEof⟩

end Parse

/-- The run of a script over the tokens of an input: it succeeds with one root node, having
recovered from the start over every token but the final `eof`. -/
theorem script_run (sql : String) (opts : LexOptions) :
    ∃ s₁ span text,
      Parse.script (ParseState.init (Utf8.encode sql).toByteArray (tokenize sql opts).toArray) =
        .ok () { s₁ with children := #[.branch .script span text s₁.children.toList] } ∧
      (ParseState.init (Utf8.encode sql).toByteArray (tokenize sql opts).toArray).Recovered s₁ ∧
      (ParseState.init (Utf8.encode sql).toByteArray (tokenize sql opts).toArray).consumedTo s₁ =
        (tokenize sql opts).dropLast := by
  obtain ⟨toks, last, split, eof, only⟩ := tokenize_ends sql opts
  rw [split]
  obtain ⟨s₁, ran, recovered, atEof⟩ :=
    Parse.script_recovers (ParseState.init_ready (Utf8.encode sql).toByteArray toks eof)
  have index := recovered.moves.ready.index_of_eof recovered.moves.tokens only atEof
  refine ⟨s₁, _, _, ran, recovered, ?_⟩
  unfold ParseState.consumedTo
  simp [ParseState.init, index]

/-- Parsing always ends normally: the script's run returns, no loop of the parser was cut
short for want of progress, and the parse stack is down to the one root node. -/
theorem script_returns_root (sql : String) (opts : LexOptions) :
    ∃ s, Parse.script (ParseState.init (Utf8.encode sql).toByteArray (tokenize sql opts).toArray) =
        .ok () s ∧ s.stalled = false ∧ ∃ span text cs, s.children = #[.branch .script span text cs] := by
  obtain ⟨s₁, span, text, ran, recovered, -⟩ := script_run sql opts
  exact ⟨_, ran, recovered.stalled, span, text, _, rfl⟩

/-- The tree's leaves are the tokens of the input, but the final `eof`, in order, with some
left out; when no statement failed none is left out. A statement that fails loses the tokens
its productions consumed before the failure. -/
theorem parse_leaves_sublist (sql : String) (opts : LexOptions) :
    (parse sql opts).1.leaves.Sublist (tokenize sql opts).dropLast ∧
      ((parse sql opts).2 = [] → (parse sql opts).1.leaves = (tokenize sql opts).dropLast) := by
  obtain ⟨s₁, span, text, ran, recovered, consumed⟩ := script_run sql opts
  have parsed : parse sql opts = (.branch .script span text s₁.children.toList, s₁.errors.toList) := by
    unfold parse
    dsimp only
    rw [ran]
    rfl
  have start : (ParseState.init (Utf8.encode sql).toByteArray (tokenize sql opts).toArray).leaves = [] :=
    rfl
  obtain ⟨kept, leaves, sub⟩ := recovered.leaves
  rw [parsed, Node.leaves_branch]
  refine ⟨?_, fun none => ?_⟩
  · rw [← consumed]
    change s₁.leaves.Sublist _
    rw [leaves, start]
    exact sub
  · have same := recovered.lossless (Array.toList_eq_nil_iff.mp none)
    change s₁.leaves = _
    rw [same, start, consumed]
    rfl

/-- A statement that fails after consuming tokens loses them: here `CREATE TABLE` fails at the
parenthesis, and its first two tokens are not in the tree. -/
theorem parse_loses_failed_prefix :
    (parse "CREATE TABLE (;\nCREATE DATABASE db2;").1.leaves =
        ((tokenize "CREATE TABLE (;\nCREATE DATABASE db2;").dropLast).drop 2 ∧
      (parse "CREATE TABLE (;\nCREATE DATABASE db2;").1.leaves ≠
        (tokenize "CREATE TABLE (;\nCREATE DATABASE db2;").dropLast := by
  decide +kernel

end DdlCatalog.Syntax
