import Mathlib
import DdlCatalog.Sql.Lexer
/-!
The lexer ends every token list with `eof`, and puts no other `eof` in it. The scan stops early
when a token reads no byte, so what has to be shown is that none does: blanks and comments are
skipped without going back, every token other than `eof` covers at least one byte of the
script, and the statement delimiter, which a `DELIMITER` line may replace by one of its words,
is never empty.

The tokens also tile the script: each starts no earlier than the one before it ends, and none
ends before it starts or past the script's last byte. The scanner's offset and the bytes it has
left always add up to the script's length, and a token runs from where the scanner stands after
the blanks and comments to where the scanner stands after it.
-/

namespace DdlCatalog

namespace Text

/-- The words of a string are not empty. -/
theorem splitBlank_ne_nil : ∀ (cs word : List Char), ∀ w ∈ splitBlank cs word, w ≠ []
  | [], word => by
    unfold splitBlank
    split
    · simp
    · rename_i nonempty
      simp only [List.mem_singleton]
      rintro w rfl
      simpa using nonempty
  | c :: cs, word => by
    unfold splitBlank
    split
    · split
      · exact splitBlank_ne_nil cs []
      · rename_i nonempty
        simp only [List.mem_cons]
        rintro w (rfl | later)
        · simpa using nonempty
        · exact splitBlank_ne_nil cs [] w later
    · exact splitBlank_ne_nil cs (c :: word)

theorem field_ne_empty {str d : String} (found : d ∈ fields str) : d ≠ "" := by
  unfold fields at found
  obtain ⟨w, inside, rfl⟩ := List.mem_map.mp found
  intro empty
  have chars := congrArg String.toList empty
  rw [String.toList_ofList] at chars
  exact splitBlank_ne_nil _ _ w inside (chars.trans String.toList_empty)

end Text

namespace Utf8

theorem toList_loop_ne_nil (bs : ByteArray) (i : Nat) (r : List UInt8) (some : r ≠ [] ∨ i < bs.size) :
    ByteArray.toList.loop bs i r ≠ [] := by
  fun_induction ByteArray.toList.loop bs i r with
  | case1 i r inside ih => exact ih (Or.inl (List.cons_ne_nil _ _))
  | case2 i r outside =>
    simpa [outside] using some

/-- A non-empty string has bytes. -/
theorem encode_ne_nil {d : String} (nonempty : d ≠ "") : Utf8.encode d ≠ [] := by
  unfold Utf8.encode ByteArray.toList
  refine toList_loop_ne_nil _ 0 [] (Or.inr ?_)
  rw [String.toUTF8_eq_toByteArray, String.size_toByteArray]
  exact Nat.pos_of_ne_zero (mt String.utf8ByteSize_eq_zero_iff.mp nonempty)

/-- Every byte decodes to at least one character: a sequence, or a replacement. -/
theorem decodeChars_ne_nil {bs : Bytes} (nonempty : bs ≠ []) : decodeChars bs ≠ [] := by
  cases bs with
  | nil => exact absurd rfl nonempty
  | cons b bs =>
    unfold decodeChars
    split
    · exact List.cons_ne_nil _ _
    · split <;> exact List.cons_ne_nil _ _

theorem decode_ne_empty {bs : Bytes} (nonempty : bs ≠ []) : decode bs ≠ "" := by
  intro empty
  have chars := congrArg String.toList empty
  rw [decode, String.toList_ofList] at chars
  exact decodeChars_ne_nil nonempty (chars.trans String.toList_empty)

/-- Bytes taken from a non-empty range inside a byte array. -/
theorem extract_ne_nil {src : ByteArray} {b e : Nat} (lt : b < e) (within : e ≤ src.size) :
    (src.extract b e).toList ≠ [] := by
  unfold ByteArray.toList
  refine toList_loop_ne_nil _ 0 [] (Or.inr ?_)
  rw [ByteArray.size_extract]
  omega

end Utf8

namespace Sql

/-- Tokens that follow one another from offset `o` on: each starts no earlier than the end of
the one before, and ends no earlier than it starts. -/
def Tiles : Nat → List Token → Prop
  | _, [] => True
  | o, t :: ts => o ≤ t.pos.offset ∧ t.pos.offset ≤ t.endOffset ∧ Tiles t.endOffset ts

namespace Tiles

theorem start_le_end : ∀ {o : Nat} {l : List Token}, Tiles o l →
    ∀ k (inside : k < l.length), l[k].pos.offset ≤ l[k].endOffset
  | _, [], _, _, inside => absurd inside (Nat.not_lt_zero _)
  | _, _ :: _, ⟨_, within, _⟩, 0, _ => within
  | _, _ :: _, ⟨_, _, rest⟩, k + 1, inside => start_le_end rest k (Nat.lt_of_succ_lt_succ inside)

theorem end_le_start : ∀ {o : Nat} {l : List Token}, Tiles o l →
    ∀ k (inside : k + 1 < l.length), l[k].endOffset ≤ l[k + 1].pos.offset
  | _, [], _, _, inside => absurd inside (Nat.not_lt_zero _)
  | _, [_], _, _, inside => absurd inside (by simp)
  | _, _ :: _ :: _, ⟨_, _, rest⟩, 0, _ => rest.1
  | _, _ :: _ :: _, ⟨_, _, rest⟩, k + 1, inside => end_le_start rest k (Nat.lt_of_succ_lt_succ inside)

end Tiles

namespace Scanner

variable {opts : LexOptions}

@[simp] theorem skip_rest : ∀ (n : Nat) (s : Scanner), (s.skip n).rest = s.rest.drop n
  | 0, _ => rfl
  | n + 1, s => by
    unfold skip
    split
    · rename_i empty
      simp [empty]
    · rename_i b tail cons
      rw [skip_rest n, cons]
      rfl

@[simp] theorem skip_delimiter : ∀ (n : Nat) (s : Scanner), (s.skip n).delimiter = s.delimiter
  | 0, _ => rfl
  | n + 1, s => by
    unfold skip
    split
    · rfl
    · rw [skip_delimiter n]

/-- One step over trivia reads no byte twice and keeps the delimiter. -/
theorem triviaStep_shrinks {s s' : Scanner} (step : s.triviaStep opts = some s') :
    s'.rest.length ≤ s.rest.length ∧ s'.delimiter = s.delimiter := by
  unfold triviaStep at step
  dsimp only at step
  split_ifs at step <;> (cases step; simp)

theorem skipTrivia_shrinks (opts : LexOptions) (s : Scanner) :
    (s.skipTrivia opts).rest.length ≤ s.rest.length ∧ (s.skipTrivia opts).delimiter = s.delimiter := by
  fun_induction skipTrivia opts s with
  | case1 s none => exact ⟨le_rfl, rfl⟩
  | case2 s s' step shorter ih =>
    have once := triviaStep_shrinks step
    exact ⟨ih.1.trans once.1, ih.2.trans once.2⟩
  | case3 s s' step _ => exact triviaStep_shrinks step

theorem rest_ne_nil {s : Scanner} (notEnd : s.cur ≠ 0) : s.rest ≠ [] := by
  intro empty
  simp [cur, byteAt, empty] at notEnd

/-- A scan step from `s` to the token and scanner `r`: the delimiter stays non-empty, and a
token other than `eof` reads at least one byte. -/
def Steps (s : Scanner) (r : Token × Scanner) : Prop :=
  r.2.delimiter ≠ [] ∧ (r.1.kind ≠ .eof → r.2.rest.length < s.rest.length)

theorem Steps.ite {s : Scanner} {c : Prop} [Decidable c] {x y : Token × Scanner}
    (yes : c → s.Steps x) (no : ¬ c → s.Steps y) : s.Steps (if c then x else y) := by
  by_cases holds : c
  · rw [if_pos holds]
    exact yes holds
  · rw [if_neg holds]
    exact no holds

/-- A step from after the trivia is a step from before it. -/
theorem Steps.after {s t : Scanner} {r : Token × Scanner} (steps : t.Steps r)
    (trivia : t.rest.length ≤ s.rest.length) : s.Steps r :=
  ⟨steps.1, fun notEof => Nat.lt_of_lt_of_le (steps.2 notEof) trivia⟩

theorem emit_steps {s : Scanner} {kind : TokenKind} {literal : Bytes} {n : Nat}
    (delimited : s.delimiter ≠ []) (nonempty : s.rest ≠ []) (reads : 0 < n) :
    s.Steps (s.emit kind literal n) := by
  have some := List.length_pos_iff.mpr nonempty
  refine ⟨by simpa [emit] using delimited, fun _ => ?_⟩
  simp only [emit, skip_rest, List.length_drop]
  omega

theorem spanWhile_pos {p : UInt8 → Bool} {bs : Bytes} (nonzero : byteAt bs 0 ≠ 0)
    (holds : p (byteAt bs 0) = true) : 0 < spanWhile p bs := by
  cases bs with
  | nil => exact absurd rfl nonzero
  | cons b bs =>
    have nonzero' : b ≠ 0 := nonzero
    have holds' : p b = true := holds
    simp [spanWhile, nonzero', holds']

/-- A number token covers at least its first byte: a digit, or a dot before a digit. -/
theorem numberSpan_pos {bs : Bytes}
    (starts : isDigit (byteAt bs 0) = true ∨ (byteAt bs 0 = 0x2E ∧ isDigit (byteAt bs 1) = true)) :
    0 < numberSpan bs := by
  unfold numberSpan
  dsimp only
  rcases starts with digit | ⟨dot, digit⟩
  · have whole := spanWhile_pos (by rintro zero; rw [zero] at digit; exact absurd digit (by decide))
      digit
    omega
  · have none : spanWhile isDigit bs = 0 := by
      cases bs with
      | nil => rfl
      | cons b bs =>
        have dot' : b = 0x2E := dot
        simp [spanWhile, dot', isDigit]
    simp only [none, List.drop_zero, dot, digit, beq_self_eq_true, Bool.and_self, ↓reduceIte]
    omega

/-- A word token covers at least its first byte, which starts no delimiter. -/
theorem wordSpan_pos {d bs : Bytes} (nonzero : byteAt bs 0 ≠ 0) (word : isWordStart (byteAt bs 0) = true)
    (apart : d.isPrefixOf bs = false) : 0 < wordSpan d bs := by
  cases bs with
  | nil => exact absurd rfl nonzero
  | cons b bs =>
    have nonzero' : b ≠ 0 := nonzero
    have word' : isWordStart b = true := word
    simp [wordSpan, nonzero', isWordPart, word', apart]

/-- Away from a delimiter and before the end, a token reads at least one byte. -/
theorem tokenHere_steps (s : Scanner) (delimited : s.delimiter ≠ []) (notEnd : s.cur ≠ 0)
    (apart : s.atDelimiter = false) : s.Steps (s.tokenHere opts) := by
  have nonempty := rest_ne_nil notEnd
  unfold tokenHere
  dsimp only
  show s.Steps _
  repeat' with_reducible refine Steps.ite (fun _ => ?_) (fun _ => ?_)
  all_goals try exact emit_steps delimited nonempty (by omega)
  · exact absurd (beq_iff_eq.mp ‹(s.cur == 0) = true›) notEnd
  · exact emit_steps delimited nonempty
      (numberSpan_pos (Or.inr ⟨beq_iff_eq.mp ‹(s.cur == 46) = true›, ‹isDigit (s.peekAt 1) = true›⟩))
  · -- other hypotheses here mention the scanner after the number; matching them against the
    -- digit test by unfolding is slow, so the lookup stays syntactic
    have digit : isDigit s.cur = true := by with_reducible assumption
    have digits : 0 < numberSpan s.rest := numberSpan_pos (Or.inl digit)
    exact emit_steps delimited nonempty (Nat.lt_of_lt_of_le digits (Nat.le_add_right _ _))
  · exact emit_steps delimited nonempty (numberSpan_pos (Or.inl ‹isDigit s.cur = true›))
  · have apart' : s.delimiter.isPrefixOf s.rest = false := by
      simpa [atDelimiter, notEnd] using apart
    exact emit_steps delimited nonempty (wordSpan_pos notEnd ‹isWordStart s.cur = true› apart')

/-- A `DELIMITER` line is not empty and its first byte ends no line. -/
theorem directive_reads {rest : Bytes} (directive : atDirective rest = true) :
    rest ≠ [] ∧ 0 < lineSpan rest := by
  unfold atDirective at directive
  simp only [Bool.and_eq_true, decide_eq_true_eq] at directive
  obtain ⟨⟨long, word⟩, -⟩ := directive
  cases rest with
  | nil => simp at long
  | cons b bs =>
    refine ⟨List.cons_ne_nil _ _, ?_⟩
    have encoded : Utf8.encode "delimiter" = [100, 101, 108, 105, 109, 105, 116, 101, 114] := by
      decide +kernel
    rw [encoded, List.take_succ_cons, equalFoldAscii, Bool.and_eq_true, beq_iff_eq] at word
    -- the first byte is a `d` in some case, so neither NUL nor a newline
    have upper := word.1
    refine spanWhile_pos (fun zero => ?_) ?_
    · change b = 0 at zero
      rw [zero] at upper
      exact absurd upper (by decide)
    · change (b != 10) = true
      rw [bne_iff_ne]
      rintro rfl
      exact absurd upper (by decide)

theorem tokenHere_at_end (s : Scanner) (zero : s.cur = 0) :
    s.tokenHere opts = (⟨.eof, [], s.pos, s.pos.offset⟩, s) := by
  unfold tokenHere
  simp only [zero, beq_self_eq_true, ↓reduceIte]

/-- From a scanner with a non-empty delimiter, the next token keeps one, and reads at least one
byte unless it is `eof`. -/
theorem nextToken_steps (opts : LexOptions) (s : Scanner) (delimited : s.delimiter ≠ []) :
    s.Steps (s.nextToken opts) := by
  have trivia := skipTrivia_shrinks opts s
  have delimited' : (s.skipTrivia opts).delimiter ≠ [] := trivia.2 ▸ delimited
  unfold nextToken
  dsimp only
  refine Steps.after ?_ trivia.1
  refine Steps.ite (fun directive => ?_) (fun _ => Steps.ite (fun found => ?_) (fun apart => ?_))
  · -- a DELIMITER line: the rest of the line, and a new delimiter that is a word of it
    rw [Bool.and_eq_true] at directive
    obtain ⟨nonempty, reads⟩ := directive_reads directive.2
    refine ⟨?_, fun _ => ?_⟩
    · dsimp only
      split
      · rename_i fields
        exact Utf8.encode_ne_nil (Text.field_ne_empty (by rw [fields]; simp))
      · exact delimited'
    · have some := List.length_pos_iff.mpr nonempty
      simp only [skip_rest, List.length_drop]
      omega
  · -- the delimiter: at least one byte, as it is not empty
    have notEnd : (s.skipTrivia opts).cur ≠ 0 := by
      simp only [atDelimiter, Bool.and_eq_true, bne_iff_ne] at found
      exact found.1
    have nonempty := rest_ne_nil notEnd
    exact emit_steps delimited' nonempty (List.length_pos_iff.mpr delimited')
  · by_cases zero : (s.skipTrivia opts).cur = 0
    · rw [tokenHere_at_end { s.skipTrivia opts with lineStart := false } zero]
      exact ⟨delimited', fun notEof => absurd rfl notEof⟩
    · -- the token starts here, on the same bytes as after the trivia
      exact (tokenHere_steps _ delimited' zero (Bool.eq_false_iff.mpr apart) :
        Steps { s.skipTrivia opts with lineStart := false } _)

/-- The tokens from a scanner with a non-empty delimiter end with `eof`, and only there. -/
theorem scan_ends (s : Scanner) (delimited : s.delimiter ≠ []) :
    ∃ toks last, (s.scan opts).1 = toks ++ [last] ∧ last.kind = .eof ∧ ∀ t ∈ toks, t.kind ≠ .eof := by
  fun_induction scan opts s with
  | case1 s tok s' next eof =>
    exact ⟨[], tok, rfl, beq_iff_eq.mp eof, by simp⟩
  | case2 s tok s' next going _ rest d scanned ih =>
    have steps := nextToken_steps opts s delimited
    rw [next] at steps
    obtain ⟨toks, last, ends, eof, before⟩ := ih steps.1
    rw [scanned] at ends
    dsimp only at ends
    refine ⟨tok :: toks, last, by rw [ends]; rfl, eof, ?_⟩
    rintro t (_ | ⟨_, later⟩)
    · exact fun eof => going (beq_iff_eq.mpr eof)
    · exact before t later
  | case3 s tok s' next going stuck =>
    -- a token other than eof always reads a byte, so the scan never stops early
    have steps := nextToken_steps opts s delimited
    rw [next] at steps
    exact absurd (steps.2 fun eof => going (beq_iff_eq.mpr eof)) stuck
@[simp] theorem step_offset (p : Position) (next : Option UInt8) : (p.step next).offset = p.offset + 1 := by
  unfold Position.step
  split <;> rfl

/-- Skipping moves the position by the bytes skipped, which stop at the end. -/
theorem skip_offset : ∀ (n : Nat) (s : Scanner), (s.skip n).pos.offset = s.pos.offset + min n s.rest.length
  | 0, _ => by simp [skip]
  | n + 1, s => by
    unfold skip
    split
    · rename_i empty
      simp [empty]
    · rename_i b tail cons
      rw [skip_offset n, cons]
      simp only [step_offset, List.length_cons]
      omega

/-- The offset of the scanner plus the bytes it has left: the length of the script. -/
def reach (s : Scanner) : Nat := s.pos.offset + s.rest.length

/-- The delimiter plays no part in how far the scanner has read. -/
theorem reach_delimiter (s : Scanner) (d : Bytes) : ({ s with delimiter := d }).reach = s.reach := rfl

@[simp] theorem skip_reach (n : Nat) (s : Scanner) : (s.skip n).reach = s.reach := by
  unfold reach
  rw [skip_offset, skip_rest, List.length_drop]
  omega

theorem skip_offset_le (n : Nat) (s : Scanner) : s.pos.offset ≤ (s.skip n).pos.offset := by
  rw [skip_offset]
  omega

theorem triviaStep_reach {s s' : Scanner} (step : s.triviaStep opts = some s') :
    s'.reach = s.reach ∧ s.pos.offset ≤ s'.pos.offset := by
  unfold triviaStep at step
  dsimp only at step
  split_ifs at step <;> (cases step; exact ⟨skip_reach _ _, skip_offset_le _ _⟩)

theorem skipTrivia_reach (opts : LexOptions) (s : Scanner) :
    (s.skipTrivia opts).reach = s.reach ∧ s.pos.offset ≤ (s.skipTrivia opts).pos.offset := by
  fun_induction skipTrivia opts s with
  | case1 s none => exact ⟨rfl, le_rfl⟩
  | case2 s s' step shorter ih =>
    have once := triviaStep_reach step
    exact ⟨ih.1.trans once.1, once.2.trans ih.2⟩
  | case3 s s' step _ => exact triviaStep_reach step

/-- A scan step from `s` to the token and scanner `r`: the token starts no earlier than `s`
and ends where `r` goes on, and the script's length stays. -/
def Emits (s : Scanner) (r : Token × Scanner) : Prop :=
  s.pos.offset ≤ r.1.pos.offset ∧ r.1.pos.offset ≤ r.1.endOffset ∧ r.1.endOffset = r.2.pos.offset ∧
    r.2.reach = s.reach

theorem Emits.ite {s : Scanner} {c : Prop} [Decidable c] {x y : Token × Scanner}
    (yes : c → s.Emits x) (no : ¬ c → s.Emits y) : s.Emits (if c then x else y) := by
  by_cases holds : c
  · rw [if_pos holds]
    exact yes holds
  · rw [if_neg holds]
    exact no holds

theorem emit_emits (s : Scanner) (kind : TokenKind) (literal : Bytes) (n : Nat) :
    s.Emits (s.emit kind literal n) :=
  ⟨le_rfl, skip_offset_le n s, rfl, skip_reach n s⟩

theorem tokenHere_emits (opts : LexOptions) (s : Scanner) : s.Emits (s.tokenHere opts) := by
  unfold tokenHere
  dsimp only
  show s.Emits _
  repeat' with_reducible refine Emits.ite (fun _ => ?_) (fun _ => ?_)
  all_goals try exact emit_emits _ _ _ _
  exact ⟨le_rfl, le_rfl, rfl, rfl⟩

theorem nextToken_emits (opts : LexOptions) (s : Scanner) : s.Emits (s.nextToken opts) := by
  obtain ⟨reach, later⟩ := skipTrivia_reach opts s
  unfold nextToken
  dsimp only
  refine Emits.ite (fun _ => ?_) (fun _ => Emits.ite (fun _ => ?_) (fun _ => ?_))
  · -- a `DELIMITER` line runs to the end of its line
    refine ⟨later, skip_offset_le _ _, rfl, ?_⟩
    exact (reach_delimiter _ _).trans ((skip_reach _ _).trans reach)
  · obtain ⟨start, within, ends, same⟩ := emit_emits { s.skipTrivia opts with lineStart := false } .endStmt
      (s.skipTrivia opts).delimiter (s.skipTrivia opts).delimiter.length
    exact ⟨later.trans start, within, ends, same.trans reach⟩
  · obtain ⟨start, within, ends, same⟩ :=
      tokenHere_emits opts { s.skipTrivia opts with lineStart := false }
    exact ⟨later.trans start, within, ends, same.trans reach⟩

/-- The end of a token emitted from `s` is no later than the script's last byte. -/
theorem Emits.end_le {s : Scanner} {r : Token × Scanner} (emits : s.Emits r) : r.1.endOffset ≤ s.reach := by
  obtain ⟨-, -, ends, same⟩ := emits
  rw [ends, ← same]
  exact Nat.le_add_right _ _

/-- The tokens of a scan tile the script from the scanner's offset, and none ends past it. -/
theorem scan_tiles (opts : LexOptions) (s : Scanner) :
    Tiles s.pos.offset (s.scan opts).1 ∧ ∀ t ∈ (s.scan opts).1, t.endOffset ≤ s.reach := by
  fun_induction scan opts s with
  | case1 s tok s' next eof =>
    have emits := nextToken_emits opts s
    rw [next] at emits
    refine ⟨⟨emits.1, emits.2.1, trivial⟩, ?_⟩
    simpa only [List.mem_singleton, forall_eq] using emits.end_le
  | case2 s tok s' next going _ rest d scanned ih =>
    have emits := nextToken_emits opts s
    rw [next] at emits
    obtain ⟨start, within, ends, same⟩ := emits
    rw [scanned] at ih
    refine ⟨⟨start, within, ?_⟩, ?_⟩
    · rw [ends]
      exact ih.1
    · rintro t (_ | ⟨_, later⟩)
      · exact Emits.end_le ⟨start, within, ends, same⟩
      · exact same ▸ ih.2 t later
  | case3 s tok s' next going stuck =>
    have emits := nextToken_emits opts s
    rw [next] at emits
    refine ⟨⟨emits.1, emits.2.1, trivial⟩, ?_⟩
    simpa only [List.mem_singleton, forall_eq] using emits.end_le

end Scanner

/-- The tokens of every script end with `eof`, and only there. -/
theorem tokenize_ends (input : String) (opts : LexOptions) :
    ∃ toks last, tokenize input opts = toks ++ [last] ∧ last.kind = .eof ∧
      ∀ t ∈ toks, t.kind ≠ .eof :=
  Scanner.scan_ends _ (by simp [Scanner.start, defaultDelimiter])

/-- The tokens of a script tile it: each starts no earlier than the end of the one before and
ends no earlier than it starts, and none ends past the script's last byte. -/
theorem tokenize_tiles (input : String) (opts : LexOptions) :
    Tiles 0 (tokenize input opts) ∧ ∀ t ∈ tokenize input opts, t.endOffset ≤ (Utf8.encode input).length := by
  have tiles := Scanner.scan_tiles opts (Scanner.start (Utf8.encode input))
  have origin : (Scanner.start (Utf8.encode input)).pos.offset = 0 := by
    unfold Scanner.start
    dsimp only
    split <;> rfl
  have length : (Scanner.start (Utf8.encode input)).reach = (Utf8.encode input).length := by
    rw [Scanner.reach, origin, Nat.zero_add]
    rfl
  rw [origin, length] at tiles
  exact tiles

end Sql

end DdlCatalog
