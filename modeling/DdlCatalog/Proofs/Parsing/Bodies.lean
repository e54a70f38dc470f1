import Mathlib
import DdlCatalog.Proofs.Parsing.Clauses
/-!
Compound bodies. A routine, trigger or event body is read as a run of tokens with a count of the
blocks open in it: `BEGIN` and `CASE` open one, and `END` closes one unless the word after it
makes it the end of an `IF` or of a loop. The body stops at the end of the script, at a
`DELIMITER` line, and at a statement delimiter met with no block open.

`Blocks` is the grammar of what a compound statement holds: tokens other than `BEGIN`, `CASE` and
`END`, nested `BEGIN ... END` blocks and `CASE ... END` expressions, `IF ... END IF` and the loops
`LOOP`, `WHILE` and `REPEAT`. The main statement: over a compound statement `BEGIN ... END` of
that grammar followed by a statement delimiter, whatever the delimiter's text, the body ends
with the `END` that closes the `BEGIN`, and the parse stands at the delimiter, where the
statement ends. A `CASE` statement, which ends with `END CASE`, is not of that grammar: its
`END` closes the count of the `CASE` and the `CASE` after it opens another one, so the body runs
on over the delimiters that follow.
-/

namespace DdlCatalog.Sql

/-- Equality of words without regard to ASCII case is equality of their uppercase forms. -/
theorem equalFoldAscii_iff : ∀ {xs ys : Bytes},
    equalFoldAscii xs ys = true ↔ xs.map asciiUpperByte = ys.map asciiUpperByte
  | [], [] => by simp [equalFoldAscii]
  | [], _ :: _ => by simp [equalFoldAscii]
  | _ :: _, [] => by simp [equalFoldAscii]
  | x :: xs, y :: ys => by
    simp only [equalFoldAscii, Bool.and_eq_true, beq_iff_eq, List.map_cons, List.cons.injEq,
      equalFoldAscii_iff]

namespace Token

theorem kind_of_isWord {t : Token} {kw : String} (word : t.isWord kw = true) : t.kind = .ident := by
  simp only [isWord, Bool.and_eq_true, beq_iff_eq] at word
  exact word.1

theorem kind_of_isAnyWord {t : Token} {kws : List String} (word : t.isAnyWord kws = true) :
    t.kind = .ident := by
  obtain ⟨kw, -, found⟩ := List.any_eq_true.mp word
  exact kind_of_isWord found

theorem isAnyWord_of_kind {t : Token} (kws : List String) (notWord : t.kind ≠ .ident) :
    t.isAnyWord kws = false :=
  Bool.eq_false_iff.mpr fun word => notWord (kind_of_isAnyWord word)

/-- A token is one word only, up to case: a word of another uppercase form is not among its
spellings. -/
theorem isAnyWord_eq_false_of_isWord {t : Token} {w : String} {kws : List String}
    (word : t.isWord w = true)
    (apart : ∀ kw ∈ kws, (Utf8.encode kw).map asciiUpperByte ≠ (Utf8.encode w).map asciiUpperByte) :
    t.isAnyWord kws = false := by
  refine Bool.eq_false_iff.mpr fun found => ?_
  obtain ⟨kw, listed, other⟩ := List.any_eq_true.mp found
  simp only [isWord, Bool.and_eq_true, equalFoldAscii_iff] at word other
  exact apart kw listed (other.2.symm.trans word.2)

end Token

end DdlCatalog.Sql

namespace DdlCatalog.Syntax

open DdlCatalog.Sql

namespace ParseState

/-- The state once the current token is consumed as a terminal of the innermost open node. -/
def advance (s : ParseState) : ParseState :=
  { s with index := s.index + 1, children := s.children.push (.terminal (s.ahead 0)),
           prevEnd := (s.ahead 0).endOffset, prevPos := (s.ahead 0).pos }

/-- The state once the next `n` tokens are consumed. -/
def advanceBy : Nat → ParseState → ParseState
  | 0, s => s
  | n + 1, s => advanceBy n s.advance

/-- The tokens from the current one on start with `ts`. -/
def Upcoming (s : ParseState) (ts : List Token) : Prop :=
  ∀ k (inside : k < ts.length), s.ahead k = ts[k]

instance (s : ParseState) (ts : List Token) : Decidable (s.Upcoming ts) :=
  inferInstanceAs (Decidable (∀ k (inside : k < ts.length), s.ahead k = ts[k]))

variable {s : ParseState}

@[simp] theorem advance_tokens : s.advance.tokens = s.tokens := rfl

@[simp] theorem advance_index : s.advance.index = s.index + 1 := rfl

theorem ahead_advance (k : Nat) : s.advance.ahead k = s.ahead (k + 1) := by
  unfold ahead
  rw [advance_tokens, advance_index, Nat.add_right_comm, Nat.add_assoc]

@[simp] theorem advanceBy_tokens : ∀ (n : Nat) (s : ParseState), (s.advanceBy n).tokens = s.tokens
  | 0, _ => rfl
  | n + 1, s => (advanceBy_tokens n s.advance).trans advance_tokens

@[simp] theorem advanceBy_index : ∀ (n : Nat) (s : ParseState), (s.advanceBy n).index = s.index + n
  | 0, _ => rfl
  | n + 1, s => by
    rw [advanceBy, advanceBy_index n s.advance, advance_index]
    omega

theorem ahead_advanceBy (n k : Nat) (s : ParseState) : (s.advanceBy n).ahead k = s.ahead (n + k) := by
  simp only [ahead, advanceBy_tokens, advanceBy_index, Nat.add_assoc]

@[simp] theorem ahead_advanceBy_zero (n : Nat) (s : ParseState) : (s.advanceBy n).ahead 0 = s.ahead n :=
  ahead_advanceBy n 0 s

theorem advance_advanceBy (n : Nat) (s : ParseState) : s.advance.advanceBy n = s.advanceBy (n + 1) := rfl

theorem advanceBy_add : ∀ (m n : Nat) (s : ParseState), s.advanceBy (m + n) = (s.advanceBy m).advanceBy n
  | 0, n, s => by rw [Nat.zero_add]; rfl
  | m + 1, n, s => by
    rw [Nat.add_right_comm]
    exact advanceBy_add m n s.advance

theorem advanceBy_advance (n : Nat) (s : ParseState) : (s.advanceBy n).advance = s.advanceBy (n + 1) := by
  rw [advanceBy_add n 1]
  rfl

theorem Upcoming.cons_iff {t : Token} {ts : List Token} :
    s.Upcoming (t :: ts) ↔ s.ahead 0 = t ∧ s.advance.Upcoming ts := by
  constructor
  · intro upcoming
    refine ⟨upcoming 0 (Nat.succ_pos _), fun k inside => ?_⟩
    rw [ahead_advance]
    exact upcoming (k + 1) (Nat.succ_lt_succ inside)
  · rintro ⟨first, rest⟩ k inside
    cases k with
    | zero => exact first
    | succ k =>
      rw [← ahead_advance]
      exact rest k (Nat.lt_of_succ_lt_succ inside)

theorem Upcoming.append_iff {ts us : List Token} :
    s.Upcoming (ts ++ us) ↔ s.Upcoming ts ∧ (s.advanceBy ts.length).Upcoming us := by
  constructor
  · intro upcoming
    refine ⟨fun k inside => ?_, fun k inside => ?_⟩
    · rw [upcoming k (by simp; omega), List.getElem_append_left inside]
    · rw [ahead_advanceBy, upcoming (ts.length + k) (by simp; omega),
        List.getElem_append_right (by omega)]
      simp
  · rintro ⟨first, rest⟩ k inside
    by_cases early : k < ts.length
    · rw [first k early, List.getElem_append_left early]
    · have later := rest (k - ts.length) (by simp at inside; omega)
      rw [ahead_advanceBy, Nat.add_sub_cancel' (by omega)] at later
      rw [later, List.getElem_append_right (by omega)]

/-- Consuming a token other than `eof` keeps a state ready. -/
theorem Ready.advance (ready : s.Ready) (notEof : (s.ahead 0).kind ≠ .eof) : s.advance.Ready :=
  ⟨ready.next_inside notEof, ready.ends⟩

/-- Consuming tokens other than `eof` keeps a state ready. -/
theorem Ready.advanceBy {ts : List Token} (ready : s.Ready) (upcoming : s.Upcoming ts)
    (noEof : ∀ t ∈ ts, t.kind ≠ .eof) : (s.advanceBy ts.length).Ready := by
  induction ts generalizing s with
  | nil => exact ready
  | cons t ts ih =>
    obtain ⟨first, rest⟩ := Upcoming.cons_iff.mp upcoming
    have notEof : (s.ahead 0).kind ≠ .eof := first ▸ noEof t (List.mem_cons_self ..)
    exact ih (ready.advance notEof) rest fun u later => noEof u (List.mem_cons_of_mem _ later)

theorem Ready.remaining_advance (ready : s.Ready) (notEof : (s.ahead 0).kind ≠ .eof) :
    s.advance.remaining < s.remaining := by
  have inside := ready.next_inside notEof
  unfold remaining
  rw [advance_tokens, advance_index]
  omega

/-- Consuming a run of tokens adds one terminal for each, and the last one is the last consumed. -/
theorem advanceBy_cons (t : Token) (ts : List Token) (upcoming : s.Upcoming (t :: ts)) :
    (s.advanceBy (ts.length + 1)).children = s.children ++ ((t :: ts).map Node.terminal).toArray ∧
      (s.advanceBy (ts.length + 1)).prevEnd = ((t :: ts).getLast (List.cons_ne_nil _ _)).endOffset ∧
      (s.advanceBy (ts.length + 1)).prevPos = ((t :: ts).getLast (List.cons_ne_nil _ _)).pos := by
  induction ts generalizing s t with
  | nil =>
    have first := upcoming 0 (Nat.succ_pos _)
    simp only [List.getElem_cons_zero] at first
    simp [advanceBy, advance, first]
  | cons u us ih =>
    obtain ⟨first, rest⟩ := Upcoming.cons_iff.mp upcoming
    obtain ⟨children, prevEnd, prevPos⟩ := ih u rest
    refine ⟨?_, ?_, ?_⟩
    · rw [List.length_cons, advanceBy, children]
      simp [advance, first]
    · rw [List.length_cons, advanceBy, prevEnd, List.getLast_cons (List.cons_ne_nil _ _)]
    · rw [List.length_cons, advanceBy, prevPos, List.getLast_cons (List.cons_ne_nil _ _)]

end ParseState

namespace Parse

/-- `END` followed by one of these words ends an `IF` or a loop. -/
def blockEndWords : List String := ["IF", "LOOP", "WHILE", "REPEAT"]

/-- The count of open blocks after the token `t` of a body, with `after` the token that follows
it. -/
def bodyDepth (depth : Nat) (t after : Token) : Nat :=
  if t.isAnyWord ["BEGIN", "CASE"] then depth + 1
  else if t.isWord "END" && depth > 0 && !after.isAnyWord blockEndWords then depth - 1
  else depth

/-- One round of a body: stop at the end of the script, at a `DELIMITER` line, or at a statement
delimiter with no block open; else consume the token and count it. -/
def bodyRound (depth : Nat) : Parse (Bool × Nat) := do
  let t ← cur
  if t.kind == .eof || t.kind == .delimiter then return (false, depth)
  if depth == 0 && t.kind == .endStmt then return (false, depth)
  let after ← peek
  skip
  return (true, bodyDepth depth t after)

theorem body_eq : body = node .body (do
    if (← atEnd) then fail .unexpectedEnd
    discard <| loopFrom bodyRound 0) := rfl

variable {β : Type} {step : β → Parse (Bool × β)} {b b' : β} {s s' : ParseState}

/-- A round that asks to go on and consumes a token leaves the rest to the next round. -/
theorem loopFrom_continue (ran : step b s = .ok (true, b') s') (shorter : s'.remaining < s.remaining) :
    loopFrom step b s = loopFrom step b' s' := by
  rw [loopFrom, ran]
  simp only [shorter, ↓reduceIte]

/-- A round that asks to stop ends the loop. -/
theorem loopFrom_stop (ran : step b s = .ok (false, b') s') : loopFrom step b s = .ok b' s' := by
  rw [loopFrom, ran]

theorem next_advance (notEof : (s.ahead 0).kind ≠ .eof) : next s = .ok (s.ahead 0) s.advance :=
  next_run notEof

theorem skip_advance (notEof : (s.ahead 0).kind ≠ .eof) : skip s = .ok () s.advance :=
  map_ok (next_advance notEof)

/-- The round consumes the current token and counts it, unless the body ends there. -/
theorem bodyRound_goes {depth : Nat} (notEof : (s.ahead 0).kind ≠ .eof)
    (notLine : (s.ahead 0).kind ≠ .delimiter) (inBlock : (s.ahead 0).kind = .endStmt → 0 < depth) :
    bodyRound depth s = .ok (true, bodyDepth depth (s.ahead 0) (s.ahead 1)) s.advance := by
  have going : ¬ ((s.ahead 0).kind == .eof || (s.ahead 0).kind == .delimiter) = true := by
    simp [notEof, notLine]
  have open_ : ¬ (depth == 0 && (s.ahead 0).kind == .endStmt) = true := by
    simp only [Bool.and_eq_true, beq_iff_eq, not_and]
    intro closed delimited
    exact absurd (inBlock delimited) (by omega)
  unfold bodyRound
  rw [bind_ok (show cur s = .ok (s.ahead 0) s from rfl), if_neg going, if_neg open_,
    bind_ok (show peek s = .ok (s.ahead 1) s from rfl), bind_ok (skip_advance notEof)]
  rfl

/-- With no block open, the round stops at a statement delimiter. -/
theorem bodyRound_stops (delimited : (s.ahead 0).kind = .endStmt) : bodyRound 0 s = .ok (false, 0) s := by
  simp [bodyRound, cur, delimited]

/-- A round at a word: the word is consumed and counted. -/
theorem loopFrom_word {depth : Nat} (ready : s.Ready) (word : (s.ahead 0).kind = .ident) :
    loopFrom bodyRound depth s = loopFrom bodyRound (bodyDepth depth (s.ahead 0) (s.ahead 1)) s.advance := by
  have notEof : (s.ahead 0).kind ≠ .eof := by rw [word]; decide
  refine loopFrom_continue (bodyRound_goes notEof (by rw [word]; decide) fun delimited => ?_)
    (ready.remaining_advance notEof)
  rw [word] at delimited
  cases delimited

/-- A token that a body keeps without counting it: neither the end of the script nor a
`DELIMITER` line, and none of the words `BEGIN`, `CASE` and `END`. Statement delimiters are
plain: inside a block they end the statements of the body. -/
def Plain (t : Token) : Prop :=
  t.kind ≠ .eof ∧ t.kind ≠ .delimiter ∧ t.isAnyWord ["BEGIN", "CASE", "END"] = false

instance (t : Token) : Decidable (Plain t) := inferInstanceAs (Decidable (_ ∧ _ ∧ _))

/-- What follows the `END` of a block: a token that does not make it the end of an `IF` or of a
loop, if anything follows within the run. -/
def Separated (ts : List Token) : Prop := ∀ t ∈ ts.head?, t.isAnyWord blockEndWords = false

/-- The runs of tokens a compound statement holds, block by block: plain tokens, `BEGIN ... END`
blocks and `CASE ... END` expressions, and `IF ... END IF` and the loops, each closed by `END`
and its own word. -/
inductive Blocks : List Token → Prop
  | nil : Blocks []
  | plain {t : Token} {ts : List Token} (plain : Plain t) (rest : Blocks ts) : Blocks (t :: ts)
  | block {opener closer : Token} {inner ts : List Token}
      (opens : opener.isAnyWord ["BEGIN", "CASE"] = true) (closes : closer.isWord "END" = true)
      (body : Blocks inner) (apart : Separated ts) (rest : Blocks ts) :
      Blocks (opener :: inner ++ closer :: ts)
  | keyed {kw : String} {opener closer last : Token} {inner ts : List Token}
      (keyword : kw ∈ blockEndWords) (opens : opener.isWord kw = true)
      (closes : closer.isWord "END" = true) (ends : last.isWord kw = true)
      (body : Blocks inner) (rest : Blocks ts) :
      Blocks (opener :: inner ++ closer :: last :: ts)

/-- A run of blocks holds no `eof`. -/
theorem Blocks.kind_ne_eof {ts : List Token} (blocks : Blocks ts) : ∀ t ∈ ts, t.kind ≠ .eof := by
  induction blocks with
  | nil => simp
  | plain plain _ ih =>
    rintro u (_ | ⟨_, later⟩)
    · exact plain.1
    · exact ih u later
  | block opens closes _ _ _ ihInner ihRest =>
    intro u found
    simp only [List.cons_append, List.mem_cons, List.mem_append] at found
    rcases found with rfl | inner | rfl | later
    · rw [Token.kind_of_isAnyWord opens]; decide
    · exact ihInner u inner
    · rw [Token.kind_of_isWord closes]; decide
    · exact ihRest u later
  | keyed _ opens closes ends _ _ ihInner ihRest =>
    intro u found
    simp only [List.cons_append, List.mem_cons, List.mem_append] at found
    rcases found with rfl | inner | rfl | rfl | later
    · rw [Token.kind_of_isWord opens]; decide
    · exact ihInner u inner
    · rw [Token.kind_of_isWord closes]; decide
    · rw [Token.kind_of_isWord ends]; decide
    · exact ihRest u later

/-- The words that open or close a block and those that end an `IF` or a loop differ. -/
theorem blockWords_apart :
    ∀ kw ∈ blockEndWords, ∀ w ∈ ["BEGIN", "CASE", "END"],
      (Utf8.encode w).map asciiUpperByte ≠ (Utf8.encode kw).map asciiUpperByte := by
  decide +kernel

theorem end_apart :
    ∀ kw ∈ blockEndWords ++ ["BEGIN", "CASE"],
      (Utf8.encode kw).map asciiUpperByte ≠ (Utf8.encode "END").map asciiUpperByte := by
  decide +kernel

/-- `END` is none of the words that open a block or end an `IF` or a loop. -/
theorem end_isAnyWord {t : Token} {kws : List String} (closes : t.isWord "END" = true)
    (listed : ∀ kw ∈ kws, kw ∈ blockEndWords ++ ["BEGIN", "CASE"]) : t.isAnyWord kws = false :=
  Token.isAnyWord_eq_false_of_isWord closes fun kw member => end_apart kw (listed kw member)

/-- A plain token leaves the count as it is. -/
theorem bodyDepth_plain {depth : Nat} {t : Token} (after : Token)
    (plain : t.isAnyWord ["BEGIN", "CASE", "END"] = false) : bodyDepth depth t after = depth := by
  have unopened : t.isAnyWord ["BEGIN", "CASE"] = false := by
    simp only [Token.isAnyWord, List.any_cons, List.any_nil, Bool.or_false, Bool.or_eq_false_iff] at plain ⊢
    exact ⟨plain.1, plain.2.1⟩
  have unclosed : t.isWord "END" = false := by
    simp only [Token.isAnyWord, List.any_cons, List.any_nil, Bool.or_false, Bool.or_eq_false_iff] at plain
    exact plain.2.2
  simp [bodyDepth, unopened, unclosed]

/-- `END` with a block open, not followed by a word that ends an `IF` or a loop, closes it. -/
theorem bodyDepth_close {depth : Nat} {t after : Token} (closes : t.isWord "END" = true)
    (apart : after.isAnyWord blockEndWords = false) : bodyDepth (depth + 1) t after = depth := by
  have unopened : t.isAnyWord ["BEGIN", "CASE"] = false := end_isAnyWord closes fun _ => List.mem_append_right _
  simp [bodyDepth, unopened, closes, apart]

/-- `END IF` and the ends of the loops close nothing. -/
theorem bodyDepth_keyed_end {depth : Nat} {t after : Token} (closes : t.isWord "END" = true)
    (keyed : after.isAnyWord blockEndWords = true) : bodyDepth depth t after = depth := by
  have unopened : t.isAnyWord ["BEGIN", "CASE"] = false := end_isAnyWord closes fun _ => List.mem_append_right _
  simp [bodyDepth, unopened, keyed]

/-- Over an upcoming block `BEGIN ... END` or `CASE ... END`, whose inside the body passes with
one more block open, the body passes back to the count it had, provided the token after the
`END` does not end an `IF` or a loop; it then stands, ready, after the block. -/
theorem loopFrom_block {depth : Nat} {opener closer : Token} {inner : List Token}
    (opens : opener.isAnyWord ["BEGIN", "CASE"] = true) (closes : closer.isWord "END" = true)
    (noEof : ∀ t ∈ inner, t.kind ≠ .eof)
    (inside : ∀ {s : ParseState}, s.Ready → s.Upcoming inner →
      (s.ahead inner.length).isAnyWord blockEndWords = false →
      loopFrom bodyRound (depth + 1) s = loopFrom bodyRound (depth + 1) (s.advanceBy inner.length))
    (ready : s.Ready) (upcoming : s.Upcoming (opener :: inner ++ [closer]))
    (separated : (s.ahead (inner.length + 1 + 1)).isAnyWord blockEndWords = false) :
    loopFrom bodyRound depth s = loopFrom bodyRound depth (s.advanceBy (inner.length + 1 + 1)) ∧
      (s.advanceBy (inner.length + 1 + 1)).Ready := by
  rw [List.cons_append] at upcoming
  obtain ⟨first, upcoming₁⟩ := ParseState.Upcoming.cons_iff.mp upcoming
  obtain ⟨upcomingInner, upcoming₂⟩ := ParseState.Upcoming.append_iff.mp upcoming₁
  rw [ParseState.advance_advanceBy] at upcoming₂
  have atCloser := upcoming₂ 0 (Nat.succ_pos _)
  rw [ParseState.ahead_advanceBy_zero, List.getElem_singleton] at atCloser
  have word : (s.ahead 0).kind = .ident := first ▸ Token.kind_of_isAnyWord opens
  have ready₁ := ready.advance (by rw [word]; decide)
  have ready₂ := ready₁.advanceBy upcomingInner noEof
  rw [ParseState.advance_advanceBy] at ready₂
  have closing : ((s.advanceBy (inner.length + 1)).ahead 0).kind = .ident := by
    rw [ParseState.ahead_advanceBy_zero, atCloser]
    exact Token.kind_of_isWord closes
  have ready₃ := ready₂.advance (by rw [closing]; decide)
  rw [ParseState.advanceBy_advance] at ready₃
  refine ⟨?_, ready₃⟩
  -- the opener opens a block, its inside keeps it open, and the closer closes it
  rw [loopFrom_word ready word, first, bodyDepth, if_pos opens,
    inside ready₁ upcomingInner (by
      rw [ParseState.ahead_advance, atCloser]
      exact end_isAnyWord closes fun _ => List.mem_append_left _),
    ParseState.advance_advanceBy, loopFrom_word ready₂ closing, ParseState.ahead_advanceBy_zero,
    atCloser, bodyDepth_close closes (by rwa [ParseState.ahead_advanceBy]), ParseState.advanceBy_advance]

/-- Over an upcoming `IF ... END IF` or loop, whose inside the body passes with the count it has,
the body keeps the count: the opening word and the closing one count nothing, nor does the
`END` before the closing word. It then stands, ready, after the block. -/
theorem loopFrom_keyed {depth : Nat} {kw : String} {opener closer last : Token} {inner : List Token}
    (keyword : kw ∈ blockEndWords) (opens : opener.isWord kw = true)
    (closes : closer.isWord "END" = true) (ends : last.isWord kw = true)
    (noEof : ∀ t ∈ inner, t.kind ≠ .eof)
    (inside : ∀ {s : ParseState}, s.Ready → s.Upcoming inner →
      (s.ahead inner.length).isAnyWord blockEndWords = false →
      loopFrom bodyRound depth s = loopFrom bodyRound depth (s.advanceBy inner.length))
    (ready : s.Ready) (upcoming : s.Upcoming (opener :: inner ++ [closer, last])) :
    loopFrom bodyRound depth s = loopFrom bodyRound depth (s.advanceBy (inner.length + 1 + 1 + 1)) ∧
      (s.advanceBy (inner.length + 1 + 1 + 1)).Ready := by
  rw [List.cons_append] at upcoming
  obtain ⟨first, upcoming₁⟩ := ParseState.Upcoming.cons_iff.mp upcoming
  obtain ⟨upcomingInner, upcoming₂⟩ := ParseState.Upcoming.append_iff.mp upcoming₁
  rw [ParseState.advance_advanceBy] at upcoming₂
  obtain ⟨atCloser, upcoming₃⟩ := ParseState.Upcoming.cons_iff.mp upcoming₂
  rw [ParseState.advanceBy_advance] at upcoming₃
  have atLast := upcoming₃ 0 (Nat.succ_pos _)
  rw [ParseState.ahead_advanceBy_zero, List.getElem_singleton] at atLast
  rw [ParseState.ahead_advanceBy_zero] at atCloser
  -- neither the opening word nor the closing one is `BEGIN`, `CASE` or `END`
  have unnamed : ∀ {t : Token}, t.isWord kw = true → t.isAnyWord ["BEGIN", "CASE", "END"] = false :=
    fun word => Token.isAnyWord_eq_false_of_isWord word (blockWords_apart kw keyword)
  have word : (s.ahead 0).kind = .ident := first ▸ Token.kind_of_isWord opens
  have ready₁ := ready.advance (by rw [word]; decide)
  have ready₂ := ready₁.advanceBy upcomingInner noEof
  rw [ParseState.advance_advanceBy] at ready₂
  have closing : ((s.advanceBy (inner.length + 1)).ahead 0).kind = .ident := by
    rw [ParseState.ahead_advanceBy_zero, atCloser]
    exact Token.kind_of_isWord closes
  have ready₃ := ready₂.advance (by rw [closing]; decide)
  rw [ParseState.advanceBy_advance] at ready₃
  have ending : ((s.advanceBy (inner.length + 1 + 1)).ahead 0).kind = .ident := by
    rw [ParseState.ahead_advanceBy_zero, atLast]
    exact Token.kind_of_isWord ends
  have ready₄ := ready₃.advance (by rw [ending]; decide)
  rw [ParseState.advanceBy_advance] at ready₄
  have keyedEnd : ((s.advanceBy (inner.length + 1)).ahead 1).isAnyWord blockEndWords = true := by
    rw [ParseState.ahead_advanceBy, atLast]
    exact List.any_eq_true.mpr ⟨kw, keyword, ends⟩
  refine ⟨?_, ready₄⟩
  -- the opening word counts nothing, nor does `END` before the closing word, nor that word
  rw [loopFrom_word ready word, first, bodyDepth_plain _ (unnamed opens),
    inside ready₁ upcomingInner (by
      rw [ParseState.ahead_advance, atCloser]
      exact end_isAnyWord closes fun _ => List.mem_append_left _),
    ParseState.advance_advanceBy, loopFrom_word ready₂ closing, ParseState.ahead_advanceBy_zero,
    atCloser, bodyDepth_keyed_end closes keyedEnd, ParseState.advanceBy_advance,
    loopFrom_word ready₃ ending, ParseState.ahead_advanceBy_zero, atLast,
    bodyDepth_plain _ (unnamed ends), ParseState.advanceBy_advance]

/-- Over a run of blocks with a block open, the body counts back to where it started and goes on
after the run, provided the token after the run does not end an `IF` or a loop. The induction
follows the grammar: a block's `END` sees the token after it, which the rest of the run or the
token after the run provides. -/
theorem loopFrom_blocks {ts : List Token} (blocks : Blocks ts) :
    ∀ {depth : Nat} {s : ParseState}, 0 < depth → s.Ready → s.Upcoming ts →
      (s.ahead ts.length).isAnyWord blockEndWords = false →
      loopFrom bodyRound depth s = loopFrom bodyRound depth (s.advanceBy ts.length) := by
  induction blocks with
  | nil => intro depth s _ _ _ _; rfl
  | @plain t ts plain rest ih =>
    intro depth s open_ ready upcoming follows
    obtain ⟨first, upcoming'⟩ := ParseState.Upcoming.cons_iff.mp upcoming
    obtain ⟨notEof, notLine, unnamed⟩ := plain
    rw [← first] at notEof notLine unnamed
    have goes := bodyRound_goes notEof notLine fun _ => open_
    rw [bodyDepth_plain _ unnamed] at goes
    rw [loopFrom_continue goes (ready.remaining_advance notEof)]
    refine ih open_ (ready.advance notEof) upcoming' ?_
    rwa [ParseState.ahead_advance]
  | @block opener closer inner ts opens closes body apart rest ihInner ihRest =>
    intro depth s open_ ready upcoming follows
    have split : opener :: inner ++ closer :: ts = (opener :: inner ++ [closer]) ++ ts := by simp
    have length : (opener :: inner ++ [closer]).length = inner.length + 1 + 1 := by simp
    rw [split, ParseState.Upcoming.append_iff, length] at upcoming
    rw [split, List.length_append, length] at follows ⊢
    obtain ⟨upcomingBlock, upcomingRest⟩ := upcoming
    -- what follows the block's `END`: the rest of the run, or the token after the run
    have separated : (s.ahead (inner.length + 1 + 1)).isAnyWord blockEndWords = false := by
      cases ts with
      | nil => simpa using follows
      | cons t ts =>
        rw [← ParseState.ahead_advanceBy_zero, upcomingRest 0 (Nat.succ_pos _)]
        exact apart t rfl
    obtain ⟨passed, ready₁⟩ := loopFrom_block opens closes body.kind_ne_eof
      (fun ready upcoming follows => ihInner (Nat.succ_pos depth) ready upcoming follows)
      ready upcomingBlock separated
    rw [passed, ihRest open_ ready₁ upcomingRest (by rwa [ParseState.ahead_advanceBy]),
      ← ParseState.advanceBy_add]
  | @keyed kw opener closer last inner ts keyword opens closes ends body rest ihInner ihRest =>
    intro depth s open_ ready upcoming follows
    have split : opener :: inner ++ closer :: last :: ts = (opener :: inner ++ [closer, last]) ++ ts := by
      simp
    have length : (opener :: inner ++ [closer, last]).length = inner.length + 1 + 1 + 1 := by simp
    rw [split, ParseState.Upcoming.append_iff, length] at upcoming
    rw [split, List.length_append, length] at follows ⊢
    obtain ⟨upcomingBlock, upcomingRest⟩ := upcoming
    obtain ⟨passed, ready₁⟩ := loopFrom_keyed keyword opens closes ends body.kind_ne_eof
      (fun ready upcoming follows => ihInner open_ ready upcoming follows) ready upcomingBlock
    rw [passed, ihRest open_ ready₁ upcomingRest (by rwa [ParseState.ahead_advanceBy]),
      ← ParseState.advanceBy_add]

/-- Over a compound statement followed by a statement delimiter, the rounds of a body consume
the statement and stop at the delimiter: `BEGIN` opens the one block, the blocks inside keep it
open, and the `END` before the delimiter closes it. -/
theorem loopFrom_compound {opener closer : Token} {inner : List Token}
    (opens : opener.isWord "BEGIN" = true) (blocks : Blocks inner) (closes : closer.isWord "END" = true)
    {s : ParseState} (ready : s.Ready) (upcoming : s.Upcoming (opener :: inner ++ [closer]))
    (delimited : (s.ahead (inner.length + 1 + 1)).kind = .endStmt) :
    loopFrom bodyRound 0 s = .ok 0 (s.advanceBy (inner.length + 1 + 1)) := by
  have opening : opener.isAnyWord ["BEGIN", "CASE"] = true :=
    List.any_eq_true.mpr ⟨"BEGIN", List.mem_cons_self .., opens⟩
  -- the delimiter after the `END` is no word, so the `END` closes the block
  have separated : (s.ahead (inner.length + 1 + 1)).isAnyWord blockEndWords = false :=
    Token.isAnyWord_of_kind _ (by rw [delimited]; decide)
  obtain ⟨passed, -⟩ := loopFrom_block opening closes blocks.kind_ne_eof
    (fun ready upcoming follows => loopFrom_blocks blocks (Nat.succ_pos 0) ready upcoming follows)
    ready upcoming separated
  rw [passed]
  exact loopFrom_stop (bodyRound_stops (by rwa [ParseState.ahead_advanceBy_zero]))

end Parse

/-- A body that is a compound statement `BEGIN ... END` of the block grammar, followed by a
statement delimiter, ends with the `END` that closes the `BEGIN`, whatever delimiters the
statement holds and whatever the text of the one after it: the body node holds exactly the
statement's tokens, its span ends at that `END`, and the parse stands at the delimiter, which
ends the enclosing statement. -/
theorem body_ends_at_closing_end {s : ParseState} {opener closer : Token} {inner : List Token}
    (ready : s.Ready) (opens : opener.isWord "BEGIN" = true) (blocks : Parse.Blocks inner)
    (closes : closer.isWord "END" = true) (upcoming : s.Upcoming (opener :: inner ++ [closer]))
    (delimited : (s.ahead (inner.length + 1 + 1)).kind = .endStmt) :
    ∃ s', Parse.body s = .ok () s' ∧ s'.index = s.index + (inner.length + 1 + 1) ∧
      (s'.ahead 0).kind = .endStmt ∧ s'.prevEnd = closer.endOffset ∧ s'.prevPos = closer.pos ∧
      s'.children = s.children.push (.branch .body (s'.spanFrom opener.pos).1 (s'.spanFrom opener.pos).2
        ((opener :: inner ++ [closer]).map .terminal)) := by
  have first := upcoming 0 (Nat.succ_pos _)
  simp only [List.cons_append, List.getElem_cons_zero] at first
  -- the body runs from the same tokens with no children yet
  let s₀ : ParseState := { s with children := #[] }
  have ready₀ : s₀.Ready := ⟨ready.inside, ready.ends⟩
  have going : Parse.atEnd s₀ = .ok false s₀ := by
    have word : (s.ahead 0).kind = .ident := first ▸ Token.kind_of_isWord opens
    show EStateM.Result.ok (Parse.ending (s.ahead 0)) s₀ = _
    simp [Parse.ending, word]
  have rounds := Parse.loopFrom_compound opens blocks closes ready₀ upcoming delimited
  have ran : (do
      if (← Parse.atEnd) then Parse.fail .unexpectedEnd
      discard <| Parse.loopFrom Parse.bodyRound 0 : Parse Unit) s₀ =
      .ok () (s₀.advanceBy (inner.length + 1 + 1)) := by
    rw [Parse.bind_ok going]
    exact Parse.map_ok rounds
  have length : (inner ++ [closer]).length + 1 = inner.length + 1 + 1 := by simp
  have last : (opener :: (inner ++ [closer])).getLast (List.cons_ne_nil _ _) = closer := by simp
  obtain ⟨children, prevEnd, prevPos⟩ :=
    @ParseState.advanceBy_cons s₀ opener (inner ++ [closer]) upcoming
  rw [length] at children prevEnd prevPos
  rw [last] at prevEnd prevPos
  refine ⟨s.closeNode .body (s₀.advanceBy (inner.length + 1 + 1)), ?_, ?_, ?_, prevEnd, prevPos, ?_⟩
  · rw [Parse.body_eq]
    exact Parse.node_ok .body ran
  · simp [ParseState.closeNode, s₀]
  · show ((s₀.advanceBy (inner.length + 1 + 1)).ahead 0).kind = _
    rw [ParseState.ahead_advanceBy_zero]
    exact delimited
  · -- closing the node changes only the children, so its span is that of the body's run
    have span : (s.closeNode .body (s₀.advanceBy (inner.length + 1 + 1))).spanFrom opener.pos =
        (s₀.advanceBy (inner.length + 1 + 1)).spanFrom opener.pos := rfl
    rw [span]
    simp only [ParseState.closeNode, first, children]
    simp [s₀]

/-- The body of a `BEGIN ... END` holding an `IF ... END IF` with a delimiter inside ends with the
`END` of the `BEGIN`, and the parse stands at the delimiter after it. -/
theorem if_block_body_ends_at_end :
    let word (w : String) : Token := ⟨.ident, Utf8.encode w, default, 0⟩
    let delimiter : Token := ⟨.endStmt, [0x3B], default, 0⟩
    let inner := [word "IF", word "x", word "THEN", word "y", delimiter, word "END", word "IF", delimiter]
    let toks := word "BEGIN" :: inner ++ [word "END", delimiter, ⟨.eof, [], default, 0⟩]
    ∃ s', Parse.body (ParseState.init ByteArray.empty toks.toArray) = .ok () s' ∧ s'.index = 10 ∧
      (s'.ahead 0).kind = .endStmt := by
  intro word delimiter inner toks
  have ready : (ParseState.init ByteArray.empty toks.toArray).Ready := ⟨by decide, by decide⟩
  have blocks : Parse.Blocks inner :=
    @Parse.Blocks.keyed "IF" _ _ _ _ _ (by decide) (by decide +kernel) (by decide +kernel) (by decide +kernel)
      (.plain (by decide +kernel) (.plain (by decide +kernel) (.plain (by decide +kernel)
        (.plain (by decide +kernel) .nil))))
      (.plain (by decide +kernel) .nil)
  obtain ⟨s', ran, index, delimited, -⟩ := @body_ends_at_closing_end
    (ParseState.init ByteArray.empty toks.toArray) (word "BEGIN") (word "END") inner ready
    (by decide +kernel) blocks (by decide +kernel) (by decide +kernel) (by decide +kernel)
  exact ⟨s', ran, index, delimited⟩

namespace Parse

/-- `END CASE` closes no block: its `END` closes the count of the `CASE` it ends, and the `CASE`
after it opens another. -/
theorem bodyDepth_end_case {depth : Nat} {closer word after : Token} (closes : closer.isWord "END" = true)
    (case_ : word.isWord "CASE" = true) :
    bodyDepth (bodyDepth (depth + 1) closer word) word after = depth + 1 := by
  have unkeyed : word.isAnyWord blockEndWords = false :=
    Token.isAnyWord_eq_false_of_isWord case_ fun kw listed => by
      revert kw
      decide +kernel
  have opening : word.isAnyWord ["BEGIN", "CASE"] = true :=
    List.any_eq_true.mpr ⟨"CASE", by simp, case_⟩
  rw [bodyDepth_close closes unkeyed, bodyDepth, if_pos opening]

end Parse

/-- A `CASE` statement inside a compound body leaves the body's count open after its
`END CASE`, so the body runs over the `END` of the `BEGIN` and the statement delimiter after it
and takes in the next statement: the script parses as one `CREATE PROCEDURE`, with no error. -/
theorem case_statement_body_takes_next_statement :
    (parse "CREATE PROCEDURE p() BEGIN CASE x WHEN 1 THEN SELECT 1; END CASE; END;\nCREATE TABLE t (a INT);").1.children.map
        Node.kind? = [some .createProcedure] ∧
      (parse "CREATE PROCEDURE p() BEGIN CASE x WHEN 1 THEN SELECT 1; END CASE; END;\nCREATE TABLE t (a INT);").2 = [] := by
  decide +kernel

end DdlCatalog.Syntax
