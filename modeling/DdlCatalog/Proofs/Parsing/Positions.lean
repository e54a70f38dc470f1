import Mathlib
import DdlCatalog.Proofs.Parsing.Lexing
/-!
# Lines and columns of tokens

The lexer keeps a token's line and column by counting as it reads: each byte read moves the
column on by one, and a newline byte moves to the next line, where it stands itself at column 0.
`Position.locate` is that count from the first byte of a script to a given offset, and every
scanner the lexer reaches stands at the position the count gives its offset (`Scanner.Located`).

In closed form, the line of an offset is one more than the newlines before it, and one more again
when the byte there is a newline; its column is its distance from the last newline before it, or
0 on a newline. The lexer skips blanks before each token, so no token starts on a newline: a
token's line is one more than the newlines before it, and its column the distance back to the
last of them.
-/

namespace DdlCatalog.Sql

/-- The offset of the last newline byte before offset `n`, or -1 when the bytes before `n` hold
none. -/
def lastNewlineBefore (bs : Bytes) (n : Nat) : Int :=
  ((List.range n).filter fun i => bs[i]? == some 0x0A).getLast?.elim (-1) (↑)

@[simp] theorem lastNewlineBefore_zero (bs : Bytes) : lastNewlineBefore bs 0 = -1 := rfl

theorem lastNewlineBefore_succ (bs : Bytes) (n : Nat) :
    lastNewlineBefore bs (n + 1) = if bs[n]? = some 0x0A then (n : Int) else lastNewlineBefore bs n := by
  unfold lastNewlineBefore
  rw [List.range_succ, List.filter_append]
  by_cases newline : bs[n]? = some 0x0A
  · simp [newline]
  · simp [newline]

namespace Position

@[simp] theorem step_line (p : Position) (next : Option UInt8) :
    (p.step next).line = if next = some 0x0A then p.line + 1 else p.line := by
  unfold step
  by_cases newline : next = some 0x0A <;> simp [newline]

@[simp] theorem step_column (p : Position) (next : Option UInt8) :
    (p.step next).column = if next = some 0x0A then 0 else p.column + 1 := by
  unfold step
  by_cases newline : next = some 0x0A <;> simp [newline]

/-- The position the lexer gives offset `n` of the script `bs`: where it starts, then one step
for each byte read. -/
def locate (bs : Bytes) : Nat → Position
  | 0 => (Scanner.start bs).pos
  | n + 1 => (locate bs n).step bs[n + 1]?

@[simp] theorem locate_offset (bs : Bytes) : ∀ n, (locate bs n).offset = n
  | 0 => Scanner.start_offset bs
  | n + 1 => by rw [locate, Scanner.step_offset, locate_offset bs n]

theorem locate_zero_line (bs : Bytes) :
    (locate bs 0).line = if bs[0]? = some 0x0A then 2 else 1 := by
  cases bs with
  | nil => rfl
  | cons b rest => by_cases newline : b = 0x0A <;> simp [locate, Scanner.start, newline]

theorem locate_zero_column (bs : Bytes) :
    (locate bs 0).column = if bs[0]? = some 0x0A then 0 else 1 := by
  cases bs with
  | nil => rfl
  | cons b rest => by_cases newline : b = 0x0A <;> simp [locate, Scanner.start, newline]

/-- The newlines among the first `n + 1` bytes: those before offset `n`, and the byte at `n`. -/
theorem count_take_succ (bs : Bytes) (n : Nat) :
    (bs.take (n + 1)).count 0x0A = (bs.take n).count 0x0A + if bs[n]? = some 0x0A then 1 else 0 := by
  rw [List.take_add_one, List.count_append]
  cases bs[n]? with
  | none => simp
  | some b => by_cases newline : b = 0x0A <;> simp [newline]

/-- The line of an offset: one more than the newlines before it, and one more again on a
newline. -/
theorem locate_line (bs : Bytes) :
    ∀ n, (locate bs n).line = 1 + (bs.take n).count 0x0A + if bs[n]? = some 0x0A then 1 else 0
  | 0 => by
    rw [locate_zero_line]
    split <;> simp
  | n + 1 => by
    rw [locate, step_line, locate_line bs n, count_take_succ]
    split <;> omega

/-- The column of an offset: its distance from the last newline before it, or 0 on a
newline. -/
theorem locate_column (bs : Bytes) :
    ∀ n, ((locate bs n).column : Int) = if bs[n]? = some 0x0A then 0 else n - lastNewlineBefore bs n
  | 0 => by
    rw [locate_zero_column]
    split <;> simp
  | n + 1 => by
    have previous := locate_column bs n
    rw [locate, step_column, lastNewlineBefore_succ]
    by_cases here : bs[n]? = some 0x0A <;> by_cases next : bs[n + 1]? = some 0x0A <;>
      simp only [here, next, if_true, if_false] at previous ⊢ <;> push_cast <;> omega

end Position

theorem Skipped.length_pos {opts : LexOptions} {v v' : Bool} {piece : Bytes}
    (skipped : Skipped opts v piece v') : 0 < piece.length := by
  cases skipped <;> simp [commentEnd]

namespace Scanner

variable {opts : LexOptions} {bs : Bytes}

/-- The scanner stands where counting from the start of the script `bs` puts its offset, over
the bytes of `bs` after it. -/
structure Located (bs : Bytes) (s : Scanner) : Prop where
  rest : s.rest = bs.drop s.pos.offset
  pos : s.pos = Position.locate bs s.pos.offset

theorem start_located (bs : Bytes) : (start bs).Located bs := by
  constructor
  · rw [start_offset]
    rfl
  · rw [start_offset]
    rfl

/-- Reading bytes keeps the count: the position after each byte is one step on. -/
theorem Located.skip : ∀ (n : Nat) {s : Scanner}, s.Located bs → (s.skip n).Located bs
  | 0, _, located => located
  | n + 1, s, located => by
    unfold Scanner.skip
    split
    · exact located
    · rename_i b tail read
      apply Located.skip n
      have tail_eq : tail = bs.drop (s.pos.offset + 1) := by
        rw [← List.drop_drop, ← located.rest, read]
        rfl
      refine ⟨by simpa using tail_eq, ?_⟩
      simp only [step_offset]
      rw [Position.locate, ← located.pos, tail_eq, List.head?_drop]

/-- A step from `s` that starts its token where `s` stands and leaves a scanner that still
stands where the count puts it. -/
def Reads (s : Scanner) (r : Token × Scanner) : Prop :=
  r.1.pos = s.pos ∧ ∀ bs, s.Located bs → r.2.Located bs

theorem Reads.ite {s : Scanner} {c : Prop} [Decidable c] {x y : Token × Scanner}
    (yes : c → s.Reads x) (no : ¬ c → s.Reads y) : s.Reads (if c then x else y) := by
  by_cases holds : c
  · rw [if_pos holds]
    exact yes holds
  · rw [if_neg holds]
    exact no holds

theorem emit_reads (s : Scanner) (kind : TokenKind) (literal : Bytes) (n : Nat) :
    s.Reads (s.emit kind literal n) :=
  ⟨rfl, fun _ located => Located.skip n located⟩

/-- Whether the scanner stands at the start of a line plays no part in where it stands. -/
theorem Reads.reset {t : Scanner} {r : Token × Scanner} (reads : Reads { t with lineStart := false } r) :
    t.Reads r :=
  ⟨reads.1, fun bs located => reads.2 bs ⟨located.rest, located.pos⟩⟩

theorem tokenHere_reads (s : Scanner) : s.Reads (s.tokenHere opts) := by
  unfold tokenHere
  dsimp only
  show s.Reads _
  repeat' with_reducible refine Reads.ite (fun _ => ?_) (fun _ => ?_)
  all_goals try exact emit_reads _ _ _ _
  exact ⟨rfl, fun _ located => located⟩

theorem triviaStep_located {s s' : Scanner} (step : s.triviaStep opts = some s') (located : s.Located bs) :
    s'.Located bs := by
  unfold triviaStep at step
  dsimp only at step
  split_ifs at step <;> cases step
  all_goals exact ⟨(Located.skip _ located).rest, (Located.skip _ located).pos⟩

theorem skipTrivia_located (opts : LexOptions) (s : Scanner) (located : s.Located bs) :
    (s.skipTrivia opts).Located bs := by
  fun_induction skipTrivia opts s with
  | case1 s _ => exact located
  | case2 s s' step _ ih => exact ih (triviaStep_located step located)
  | case3 s s' step _ => exact triviaStep_located step located

/-- The walk over blanks and comments stops on no newline: a newline is a blank, and every step
over trivia reads a byte. -/
theorem skipTrivia_cur_ne_newline (opts : LexOptions) (s : Scanner) : (s.skipTrivia opts).cur ≠ 0x0A := by
  fun_induction skipTrivia opts s with
  | case1 s none =>
    intro newline
    simp [triviaStep, newline, isSpaceByte] at none
  | case2 s s' _ _ ih => exact ih
  | case3 s s' step stuck =>
    obtain ⟨piece, skipped, split, -, -⟩ := triviaStep_skips step
    have longer := congrArg List.length split
    rw [List.length_append] at longer
    have := skipped.length_pos
    omega

/-- The token of a step starts where the walk over trivia stopped, and the scanner after it has
read on from there. -/
theorem nextToken_reads (opts : LexOptions) (s : Scanner) : (s.skipTrivia opts).Reads (s.nextToken opts) := by
  unfold nextToken
  dsimp only
  split
  · -- a `DELIMITER` line: the rest of the line
    refine ⟨rfl, fun _ located => ?_⟩
    have after := Located.skip (lineSpan (s.skipTrivia opts).rest) located
    exact ⟨after.rest, after.pos⟩
  · refine Reads.reset ?_
    split
    · exact emit_reads _ _ _ _
    · exact tokenHere_reads _

/-- Every token of a scan from a located scanner stands at the position its offset counts to,
and on a byte other than a newline. -/
theorem scan_located (s : Scanner) (located : s.Located bs) :
    ∀ t ∈ (s.scan opts).1, t.pos = Position.locate bs t.pos.offset ∧ bs[t.pos.offset]? ≠ some 0x0A := by
  -- each token is the first of a step from a located scanner
  have first : ∀ {s s' : Scanner} {tok : Token}, s.Located bs → s.nextToken opts = (tok, s') →
      tok.pos = Position.locate bs tok.pos.offset ∧ bs[tok.pos.offset]? ≠ some 0x0A := by
    intro s s' tok located next
    have trivia := skipTrivia_located opts s located
    have start := (nextToken_reads opts s).1
    rw [next] at start
    rw [start]
    refine ⟨trivia.pos, fun newline => skipTrivia_cur_ne_newline opts s ?_⟩
    rw [cur, trivia.rest, byteAt_drop, byteAt, Nat.add_zero, List.getD_eq_getElem?_getD, newline]
    rfl
  fun_induction scan opts s with
  | case1 s tok s' next _ => exact List.forall_mem_singleton.mpr (first located next)
  | case2 s tok s' next _ _ toks d scanned ih =>
    have after : s'.Located bs := by
      have reads := nextToken_reads opts s
      rw [next] at reads
      exact reads.2 bs (skipTrivia_located opts s located)
    rw [scanned] at ih
    rintro t (_ | ⟨_, later⟩)
    · exact first located next
    · exact ih after t later
  | case3 s tok s' next _ _ => exact List.forall_mem_singleton.mpr (first located next)

end Scanner

/-- Every token of a script starts on a byte other than a newline, its line is one more than the
newlines before it, and its column is its distance from the last of them (the offset plus one
when there is none). -/
theorem tokenize_line_column (input : String) (opts : LexOptions) :
    ∀ t ∈ tokenize input opts,
      t.pos.line = 1 + ((Utf8.encode input).take t.pos.offset).count 0x0A ∧
      (t.pos.column : Int) = t.pos.offset - lastNewlineBefore (Utf8.encode input) t.pos.offset ∧
      (Utf8.encode input)[t.pos.offset]? ≠ some 0x0A := by
  intro t found
  obtain ⟨counted, apart⟩ := Scanner.scan_located _ (Scanner.start_located (Utf8.encode input)) t found
  refine ⟨?_, ?_, apart⟩
  · rw [counted, Position.locate_line, if_neg apart, Position.locate_offset, Nat.add_zero]
  · rw [counted, Position.locate_column, if_neg apart, Position.locate_offset]

/-- In `a`, a newline, two blanks and `b`, the word `b` is on line 2, at column 3. -/
theorem word_after_newline_position :
    (⟨.ident, [0x62], ⟨2, 3, 4⟩, 5⟩ : Token) ∈ tokenize "a\n  b" ∧
      ((⟨.ident, [0x62], ⟨2, 3, 4⟩, 5⟩ : Token).pos.line =
          1 + ((Utf8.encode "a\n  b").take 4).count 0x0A ∧
        ((⟨.ident, [0x62], ⟨2, 3, 4⟩, 5⟩ : Token).pos.column : Int) = 4 - lastNewlineBefore (Utf8.encode "a\n  b") 4 ∧
        (Utf8.encode "a\n  b")[4]? ≠ some 0x0A) :=
  have found : (⟨.ident, [0x62], ⟨2, 3, 4⟩, 5⟩ : Token) ∈ tokenize "a\n  b" := by decide +kernel
  ⟨found, tokenize_line_column "a\n  b" {} _ found⟩

end DdlCatalog.Sql
