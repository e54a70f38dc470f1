import Mathlib
import DdlCatalog.Proofs.Parsing.Tokens
/-!
# What the lexer reads

The tokens of a script and the trivia between them account for every byte of it up to the end
marker, which is the script's end or its first NUL byte: the tokenizer relates the script to
its tokens by `Lexes`, a relation with one step for each token. Before each token stands trivia
(`Trivia`: blanks, comments, and the opener and closer of an accepted versioned comment); every
token but the last reads at least one byte; the last is `eof`, and it stands at the first NUL
byte, or at the end when the script has none. A NUL byte therefore ends the script: the bytes
after it are neither tokens nor trivia.

The delimiter is tracked along the way: an `endStmt` token reads the active delimiter from the
script and holds it as its value, a `DELIMITER` line installs its value, and the delimiter
active after the last token is the one the scan returns.

The invariant of the scan (`Scanner.Valid`) is that the scanner's bytes are the script's after
its offset, that no byte before the offset is NUL, and that the delimiter is a non-empty word
with no NUL in it. The last part rests on the text of a `DELIMITER` line: its bytes have no NUL,
so neither do the characters they decode to, the words of those characters, nor the bytes of
a word.
-/
namespace DdlCatalog

namespace Utf8

theorem toList_loop_eq (bs : ByteArray) (i : Nat) (r : List UInt8) :
    ByteArray.toList.loop bs i r = r.reverse ++ bs.data.toList.drop i := by
  fun_induction ByteArray.toList.loop bs i r with
  | case1 i r inside ih =>
    have inside' : i < bs.data.toList.length := by simpa using inside
    rw [ih, List.reverse_cons, List.append_assoc, List.singleton_append,
      List.drop_eq_getElem_cons inside']
    simp [ByteArray.get!, inside]
  | case2 i r outside =>
    have past : bs.data.toList.length ≤ i := by simpa using outside
    simp [List.drop_eq_nil_of_le past]

/-- The bytes of a string are those of its characters, one after another. -/
theorem encode_eq_flatMap (d : String) : encode d = d.toList.flatMap String.utf8EncodeChar := by
  rw [encode, ByteArray.toList, toList_loop_eq, String.toUTF8_eq_toByteArray, ← String.utf8Encode_toList,
    List.utf8Encode, List.toList_data_toByteArray]
  rfl

theorem ofNat_ne_zero {n : Nat} (pos : 0 < n) (small : n < 256) : UInt8.ofNat n ≠ 0 := by
  intro zero
  have value := congrArg UInt8.toNat zero
  rw [UInt8.toNat_ofNat_of_lt' small, UInt8.toNat_zero] at value
  omega

/-- Only the NUL character is written with a NUL byte: every byte of a longer sequence has its
high bit set. -/
theorem zero_mem_encodeChar {c : Char} (zero : (0 : UInt8) ∈ String.utf8EncodeChar c) : c.toNat = 0 := by
  unfold String.utf8EncodeChar at zero
  simp only at zero
  split_ifs at zero with one two three
  all_goals simp only [List.mem_cons, List.not_mem_nil, or_false] at zero
  · by_contra pos
    unfold Char.toNat at pos
    exact ofNat_ne_zero (Nat.pos_of_ne_zero pos) (by omega) zero.symm
  · rcases zero with zero | zero <;> exact absurd zero.symm (ofNat_ne_zero (by omega) (by omega))
  · rcases zero with zero | zero | zero <;> exact absurd zero.symm (ofNat_ne_zero (by omega) (by omega))
  · rcases zero with zero | zero | zero | zero <;>
      exact absurd zero.symm (ofNat_ne_zero (by omega) (by omega))

theorem zero_not_mem_encode {d : String} (plain : ∀ c ∈ d.toList, c.toNat ≠ 0) : 0 ∉ encode d := by
  rw [encode_eq_flatMap, List.mem_flatMap]
  rintro ⟨c, inside, zero⟩
  exact plain c inside (zero_mem_encodeChar zero)

theorem toNat_ofNat_ne_zero {v : Nat} (valid : v.isValidChar) (pos : 0 < v) : (Char.ofNat v).toNat ≠ 0 := by
  simp only [Char.ofNat, valid, ↓reduceDIte]
  simp [Char.ofNatAux, Char.toNat]
  omega

theorem and_low (b m : UInt8) (k : Nat) (mask : m.toNat = 2 ^ k - 1) : (b &&& m).toNat = b.toNat % 2 ^ k := by
  rw [UInt8.toNat_and, mask, Nat.and_two_pow_sub_one_eq_mod]

/-- A well-formed sequence stands for a character other than NUL: the shortest sequences only,
and no surrogates, so its value is valid and at least `0x80`. -/
theorem decodeLead_ne_nul {b0 : UInt8} {bs : Bytes} {c : Char} {n : Nat}
    (lead : decodeLead b0 bs = some (c, n)) : c.toNat ≠ 0 := by
  have low : ∀ b : UInt8, (b &&& 0x3F).toNat = b.toNat % 64 ∧ (b &&& 0x1F).toNat = b.toNat % 32 ∧
      (b &&& 0x0F).toNat = b.toNat % 16 ∧ (b &&& 0x07).toNat = b.toNat % 8 := fun b =>
    ⟨and_low b _ 6 rfl, and_low b _ 5 rfl, and_low b _ 4 rfl, and_low b _ 3 rfl⟩
  unfold decodeLead at lead
  simp only [Bool.and_eq_true, decide_eq_true_eq] at lead
  split_ifs at lead <;> (try split at lead) <;> (try split_ifs at lead) <;> try cases lead
  all_goals
    simp only [beq_iff_eq, ← UInt8.toNat_inj, UInt8.lt_iff_toNat_lt, UInt8.le_iff_toNat_le, UInt8.reduceToNat,
      not_lt, low] at *
    refine toNat_ofNat_ne_zero (by unfold Nat.isValidChar; omega) (by omega)

/-- Bytes with no NUL among them decode to characters with no NUL among them. -/
theorem decodeChars_ne_nul {bs : Bytes} (clean : 0 ∉ bs) : ∀ c ∈ decodeChars bs, c.toNat ≠ 0 := by
  fun_induction decodeChars bs with
  | case1 => simp
  | case2 b0 bs ascii ih =>
    have b0_ne : b0.toNat ≠ 0 := by
      intro zero
      exact clean (List.mem_cons.mpr (Or.inl (UInt8.toNat_inj.mp zero).symm))
    have b0_lt : b0.toNat < 128 := by simpa [UInt8.lt_iff_toNat_lt] using ascii
    rintro c (_ | ⟨_, later⟩)
    · exact toNat_ofNat_ne_zero (by unfold Nat.isValidChar; omega) (by omega)
    · exact ih (fun inside => clean (List.mem_cons_of_mem _ inside)) c later
  | case3 b0 bs _ c' n lead ih =>
    rintro c (_ | ⟨_, later⟩)
    · exact decodeLead_ne_nul lead
    · exact ih (fun inside => clean (List.mem_cons_of_mem _ (List.mem_of_mem_drop inside))) c later
  | case4 b0 bs _ _ ih =>
    rintro c (_ | ⟨_, later⟩)
    · decide
    · exact ih (fun inside => clean (List.mem_cons_of_mem _ inside)) c later

end Utf8

namespace Text

/-- Each character of a word comes from the text split or from the word being read. -/
theorem splitBlank_chars : ∀ (cs word : List Char), ∀ w ∈ splitBlank cs word, ∀ c ∈ w, c ∈ cs ∨ c ∈ word
  | [], word => by
    unfold splitBlank
    split
    · simp
    · simp only [List.mem_singleton]
      rintro w rfl c inside
      exact Or.inr (List.mem_reverse.mp inside)
  | d :: cs, word => by
    unfold splitBlank
    split
    · -- after a blank, the words come from the rest of the text
      have later : ∀ w ∈ splitBlank cs [], ∀ c ∈ w, c ∈ d :: cs ∨ c ∈ word := fun w inside c found =>
        Or.inl (List.mem_cons_of_mem d ((splitBlank_chars cs [] w inside c found).resolve_right
          List.not_mem_nil))
      split
      · exact later
      · rintro w (_ | ⟨_, inside⟩) c found
        · exact Or.inr (List.mem_reverse.mp found)
        · exact later w inside c found
    · intro w inside c found
      rcases splitBlank_chars cs (d :: word) w inside c found with old | (_ | ⟨_, read⟩)
      · exact Or.inl (List.mem_cons_of_mem d old)
      · exact Or.inl List.mem_cons_self
      · exact Or.inr read

theorem fields_chars {str d : String} (found : d ∈ fields str) : ∀ c ∈ d.toList, c ∈ str.toList := by
  unfold fields at found
  obtain ⟨w, inside, rfl⟩ := List.mem_map.mp found
  intro c read
  rw [String.toList_ofList] at read
  exact (splitBlank_chars _ [] w inside c read).resolve_right List.not_mem_nil

theorem trimBlank_chars (str : String) : ∀ c ∈ (trimBlank str).toList, c ∈ str.toList := by
  intro c inside
  rw [trimBlank, String.toList_ofList, List.mem_reverse] at inside
  exact (List.dropWhile_sublist _).subset (List.mem_reverse.mp ((List.dropWhile_sublist _).subset inside))

end Text

namespace Sql

/-- The next `n` bytes are there and none of them is NUL. As `byteAt` reads 0 past the end,
this also says that at least `n` bytes are left. -/
def Clean (bs : Bytes) (n : Nat) : Prop := ∀ i < n, byteAt bs i ≠ 0

@[simp] theorem byteAt_cons_zero (b : UInt8) (bs : Bytes) : byteAt (b :: bs) 0 = b := rfl

@[simp] theorem byteAt_cons_succ (b : UInt8) (bs : Bytes) (i : Nat) : byteAt (b :: bs) (i + 1) = byteAt bs i := rfl

theorem byteAt_drop (bs : Bytes) (m i : Nat) : byteAt (bs.drop m) i = byteAt bs (m + i) := by
  simp [byteAt, List.getD_eq_getElem?_getD, List.getElem?_drop]

theorem byteAt_tail (bs : Bytes) (i : Nat) : byteAt bs.tail i = byteAt bs (i + 1) := by
  cases bs <;> rfl

theorem ne_zero_of_beq {b c : UInt8} (same : (b == c) = true) (nonzero : c ≠ 0) : b ≠ 0 := by
  rw [beq_iff_eq.mp same]
  exact nonzero

theorem ne_zero_of_isDigit {b : UInt8} (digit : isDigit b = true) : b ≠ 0 := by
  rintro rfl
  exact absurd digit (by decide)

namespace Clean

variable {bs : Bytes} {m n : Nat}

theorem zero (bs : Bytes) : Clean bs 0 := fun _ none => absurd none (Nat.not_lt_zero _)

theorem one (first : byteAt bs 0 ≠ 0) : Clean bs 1 := fun i inside => by
  rwa [Nat.lt_one_iff.mp inside]

theorem two (first : byteAt bs 0 ≠ 0) (second : byteAt bs 1 ≠ 0) : Clean bs 2
  | 0, _ => first
  | 1, _ => second

theorem three (first : byteAt bs 0 ≠ 0) (second : byteAt bs 1 ≠ 0) (third : byteAt bs 2 ≠ 0) : Clean bs 3
  | 0, _ => first
  | 1, _ => second
  | 2, _ => third

theorem cons {b : UInt8} (head : b ≠ 0) (rest : Clean bs n) : Clean (b :: bs) (n + 1)
  | 0, _ => head
  | i + 1, inside => rest i (Nat.lt_of_succ_lt_succ inside)

theorem head (first : byteAt bs 0 ≠ 0) (rest : Clean bs.tail n) : Clean bs (n + 1)
  | 0, _ => first
  | i + 1, inside => byteAt_tail bs i ▸ rest i (Nat.lt_of_succ_lt_succ inside)

theorem add (first : Clean bs m) (second : Clean (bs.drop m) n) : Clean bs (m + n) := by
  intro i inside
  by_cases early : i < m
  · exact first i early
  · have late := second (i - m) (by omega)
    rwa [byteAt_drop, Nat.add_sub_cancel' (Nat.le_of_not_lt early)] at late

theorem mono (le : m ≤ n) (clean : Clean bs n) : Clean bs m := fun i inside => clean i (by omega)

theorem le_length (clean : Clean bs n) : n ≤ bs.length := by
  by_contra short
  exact clean bs.length (by omega) (by simp [byteAt])

theorem zero_not_mem (clean : Clean bs n) : 0 ∉ bs.take n := by
  intro inside
  obtain ⟨i, within, zero⟩ := List.mem_iff_getElem.mp inside
  rw [List.length_take] at within
  rw [List.getElem_take] at zero
  apply clean i (by omega)
  rw [byteAt, List.getD_eq_getElem _ _ (by omega), zero]

theorem of_prefix {d : Bytes} (pre : d <+: bs) (plain : 0 ∉ d) : Clean bs d.length := by
  intro i inside
  obtain ⟨rest, rfl⟩ := pre
  rw [byteAt, List.getD_eq_getElem _ _ (by simp; omega), List.getElem_append_left inside]
  exact fun zero => plain (zero ▸ List.getElem_mem inside)

end Clean

theorem spanWhile_clean (p : UInt8 → Bool) : ∀ bs, Clean bs (spanWhile p bs)
  | [] => Clean.zero _
  | b :: bs => by
    unfold spanWhile
    split
    · rename_i holds
      simp only [Bool.and_eq_true, bne_iff_ne] at holds
      exact Clean.cons holds.1 (spanWhile_clean p bs)
    · exact Clean.zero _

theorem spanWhile_holds (p : UInt8 → Bool) : ∀ bs : Bytes, ∀ b ∈ bs.take (spanWhile p bs), p b = true
  | [] => by simp
  | b :: bs => by
    unfold spanWhile
    split
    · rename_i holds
      simp only [Bool.and_eq_true] at holds
      rintro c (_ | ⟨_, later⟩)
      · exact holds.2
      · exact spanWhile_holds p bs c later
    · simp

theorem numberSpan_clean (bs : Bytes) : Clean bs (numberSpan bs) := by
  unfold numberSpan
  dsimp only
  refine Clean.add (Clean.add (spanWhile_clean _ _) ?_) ?_
  · -- the fraction: a dot, then digits
    generalize bs.drop (spanWhile isDigit bs) = r1
    split
    · rename_i dot
      simp only [Bool.and_eq_true] at dot
      exact Clean.add (Clean.one (ne_zero_of_beq dot.1 (by decide))) (spanWhile_clean _ _)
    · exact Clean.zero _
  · -- the exponent: a letter `e`, an optional sign, then digits
    rw [← List.drop_drop]
    generalize (bs.drop (spanWhile isDigit bs)).drop _ = r2
    split
    · rename_i mark
      have mark' : byteAt r2 0 ≠ 0 := by
        simp only [Bool.or_eq_true, beq_iff_eq] at mark
        rcases mark with e | e <;> rw [e] <;> decide
      split
      · exact Clean.add (Clean.one mark') (spanWhile_clean _ _)
      · split
        · rename_i signed
          simp only [Bool.and_eq_true, Bool.or_eq_true] at signed
          refine Clean.add (Clean.two mark' ?_) (spanWhile_clean _ _)
          rcases signed.1 with sign | sign <;> exact ne_zero_of_beq sign (by decide)
        · exact Clean.zero _
    · exact Clean.zero _

theorem wordSpan_clean (d : Bytes) : ∀ bs, Clean bs (wordSpan d bs)
  | [] => Clean.zero _
  | b :: bs => by
    unfold wordSpan
    split
    · rename_i holds
      simp only [Bool.and_eq_true, bne_iff_ne] at holds
      exact Clean.cons holds.1.1 (wordSpan_clean d bs)
    · exact Clean.zero _

/-- A quoted body stops at a NUL byte, and reads none. -/
theorem quotedBody_clean (q : UInt8) (escapes : Bool) (bs : Bytes) : Clean bs (quotedBody q escapes bs).2 := by
  fun_induction quotedBody q escapes bs with
  | case1 | case2 => exact Clean.zero _
  | case3 b nonzero _ | case8 b nonzero _ =>
    exact Clean.cons (mt beq_iff_eq.mpr nonzero) (Clean.zero _)
  | case4 b nonzero _ c rest _ | case7 b nonzero _ _ c rest _ =>
    exact Clean.mono (by omega) (Clean.cons (mt beq_iff_eq.mpr nonzero) (Clean.zero _))
  | case5 b nonzero _ c rest c_nonzero v n read ih =>
    rw [read] at ih
    exact Clean.cons (mt beq_iff_eq.mpr nonzero) (Clean.cons (mt beq_iff_eq.mpr c_nonzero) ih)
  | case6 b nonzero _ quote c rest doubled v n read ih =>
    -- a doubled quote: the second is the quote again, so not NUL either
    rw [read] at ih
    have c_nonzero : c ≠ 0 := by
      rw [beq_iff_eq.mp doubled, ← beq_iff_eq.mp quote]
      exact mt beq_iff_eq.mpr nonzero
    exact Clean.cons (mt beq_iff_eq.mpr nonzero) (Clean.cons c_nonzero ih)
  | case9 b rest nonzero _ _ v n read ih =>
    rw [read] at ih
    exact Clean.cons (mt beq_iff_eq.mpr nonzero) ih

/-- The closing `*/` of a block comment. -/
def commentEnd : Bytes := [0x2A, 0x2F]

/-- One piece of what the lexer skips between tokens, read in the state `v` (whether an accepted
versioned comment is open) and leaving the state `v'`. -/
inductive Skipped (opts : LexOptions) : Bool → Bytes → Bool → Prop
  /-- A space, tab, newline or carriage return. -/
  | blank {v : Bool} {b : UInt8} (space : isSpaceByte b = true) : Skipped opts v [b] v
  /-- `--` then a blank or nothing, and the rest of the line. -/
  | dashComment {v : Bool} {text : Bytes} (line : ∀ b ∈ text, b ≠ 0x0A) (inside : 0 ∉ text)
      (spaced : ∀ b ∈ text.head?, isSpaceByte b = true) : Skipped opts v (0x2D :: 0x2D :: text) v
  /-- `#` and the rest of the line. -/
  | hashComment {v : Bool} {text : Bytes} (line : ∀ b ∈ text, b ≠ 0x0A) (inside : 0 ∉ text) :
      Skipped opts v (0x23 :: text) v
  /-- `/*`, text with no `*/` in it, and `*/`. -/
  | blockComment {v : Bool} {text : Bytes} (inside : 0 ∉ text) (open_ : ¬ commentEnd <:+: text) :
      Skipped opts v (0x2F :: 0x2A :: text ++ commentEnd) v
  /-- `/*` and text with no `*/` in it, up to the end of the script or a NUL byte. -/
  | unclosedComment {v : Bool} {text : Bytes} (inside : 0 ∉ text) (open_ : ¬ commentEnd <:+: text) :
      Skipped opts v (0x2F :: 0x2A :: text) v
  /-- `/*!` and at most six digits, when the server version accepts their number and no versioned
  comment is open: what follows is read as part of the script. -/
  | versionOpener {digits : Bytes} (numeric : ∀ b ∈ digits, isDigit b = true) (short : digits.length ≤ 6)
      (accepted : ¬ (digitsValue digits ≠ 0 ∧ opts.serverVersion ≠ 0 ∧
        opts.serverVersion < (digitsValue digits : Int))) :
      Skipped opts false (0x2F :: 0x2A :: 0x21 :: digits) true
  /-- The `*/` that closes an open versioned comment. -/
  | versionCloser : Skipped opts true commentEnd false

/-- What the lexer skips between two tokens: pieces one after another, each read in the state
the one before it leaves. -/
inductive Trivia (opts : LexOptions) : Bool → Bytes → Bool → Prop
  | nil {v : Bool} : Trivia opts v [] v
  | cons {v v' v'' : Bool} {piece rest : Bytes} (first : Skipped opts v piece v') (more : Trivia opts v' rest v'') :
      Trivia opts v (piece ++ rest) v''

theorem Skipped.zero_not_mem {opts : LexOptions} {v v' : Bool} {piece : Bytes} (skipped : Skipped opts v piece v') :
    0 ∉ piece := by
  cases skipped with
  | blank space =>
    rintro (_ | ⟨_, ⟨⟩⟩)
    exact absurd space (by decide)
  | dashComment _ inside _ | hashComment _ inside => simpa using inside
  | blockComment inside _ => simpa [commentEnd] using inside
  | unclosedComment inside _ => simpa using inside
  | versionOpener numeric _ _ =>
    intro zero
    simp only [List.mem_cons] at zero
    rcases zero with opener | opener | opener | digit
    any_goals exact absurd opener (by decide)
    exact ne_zero_of_isDigit (numeric 0 digit) rfl
  | versionCloser => decide

theorem Trivia.zero_not_mem {opts : LexOptions} {v v' : Bool} {gap : Bytes} (trivia : Trivia opts v gap v') :
    0 ∉ gap := by
  induction trivia with
  | nil => exact List.not_mem_nil
  | cons first _ ih => exact List.mem_append.not.mpr (not_or.mpr ⟨first.zero_not_mem, ih⟩)

/-- A byte that starts no `*/` keeps a text free of `*/` free of it. -/
theorem not_infix_cons {b : UInt8} {u rest : Bytes} (pre : u <+: rest)
    (apart : ∀ tail, b = 0x2A → rest = 0x2F :: tail → False) (none : ¬ commentEnd <:+: u) :
    ¬ commentEnd <:+: b :: u := by
  rw [List.infix_cons_iff]
  rintro (starts | later)
  · obtain ⟨star, slash⟩ := List.cons_prefix_cons.mp starts
    obtain ⟨tail, rfl⟩ := slash.trans pre
    exact apart tail star.symm rfl
  · exact none later

/-- The body of a block comment reads no NUL byte, and either ends with the first `*/` or holds
none. -/
theorem blockBody_closes (bs : Bytes) : Clean bs (blockSpan.body bs) ∧
    ((∃ text, bs.take (blockSpan.body bs) = text ++ commentEnd ∧ ¬ commentEnd <:+: text) ∨
      ¬ commentEnd <:+: bs.take (blockSpan.body bs)) := by
  fun_induction blockSpan.body bs with
  | case1 | case2 => exact ⟨Clean.zero _, Or.inr (by simp [commentEnd])⟩
  | case3 tail =>
    exact ⟨Clean.cons (by decide) (Clean.cons (by decide) (Clean.zero _)), Or.inl ⟨[], rfl, by simp [commentEnd]⟩⟩
  | case4 b rest nonzero apart ih =>
    obtain ⟨clean, closes⟩ := ih
    refine ⟨Clean.cons nonzero clean, ?_⟩
    rw [List.take_succ_cons]
    rcases closes with ⟨text, read, none⟩ | none
    · refine Or.inl ⟨b :: text, by rw [read]; rfl, not_infix_cons ?_ apart none⟩
      exact (List.prefix_append text commentEnd).trans (read ▸ List.take_prefix _ rest)
    · exact Or.inr (not_infix_cons (List.take_prefix _ rest) apart none)

theorem exists_cons_of_byteAt {bs : Bytes} (nonzero : byteAt bs 0 ≠ 0) : ∃ b tail, bs = b :: tail := by
  cases bs with
  | nil => exact absurd rfl nonzero
  | cons b tail => exact ⟨b, tail, rfl⟩

/-- Bytes whose first is a known byte other than NUL start with it. -/
theorem eq_cons_of_byteAt {bs : Bytes} {b : UInt8} (first : byteAt bs 0 = b) (nonzero : b ≠ 0) :
    ∃ tail, bs = b :: tail := by
  obtain ⟨c, tail, rfl⟩ := exists_cons_of_byteAt (first ▸ nonzero)
  exact ⟨tail, by rw [← first, byteAt_cons_zero]⟩

theorem ne_zero_of_isSpaceByte {b : UInt8} (space : isSpaceByte b = true) : b ≠ 0 := by
  rintro rfl
  exact absurd space (by decide)

section Pieces

variable {opts : LexOptions} {bs : Bytes} {v : Bool}

theorem blank_piece (space : isSpaceByte (byteAt bs 0) = true) : Clean bs 1 ∧ Skipped opts v (bs.take 1) v := by
  obtain ⟨b, tail, rfl⟩ := exists_cons_of_byteAt (ne_zero_of_isSpaceByte space)
  exact ⟨Clean.one (ne_zero_of_isSpaceByte space), .blank space⟩

/-- The text of a line comment: up to a newline or a NUL byte. -/
theorem line_text (text : Bytes) : Clean text (lineSpan text) ∧ ∀ b ∈ text.take (lineSpan text), b ≠ 0x0A :=
  ⟨spanWhile_clean _ text, fun b inside => by simpa using spanWhile_holds _ text b inside⟩

theorem dash_piece (first : byteAt bs 0 = 0x2D) (second : byteAt bs 1 = 0x2D)
    (spaced : isSpaceByte (byteAt bs 2) = true ∨ byteAt bs 2 = 0) :
    Clean bs (lineSpan bs) ∧ Skipped opts v (bs.take (lineSpan bs)) v := by
  obtain ⟨tail, rfl⟩ := eq_cons_of_byteAt first (by decide)
  obtain ⟨text, rfl⟩ := eq_cons_of_byteAt (second : byteAt tail 0 = 0x2D) (by decide)
  simp only [byteAt_cons_succ] at spaced
  have span : lineSpan (0x2D :: 0x2D :: text) = lineSpan text + 1 + 1 := by
    simp [lineSpan, spanWhile]
  obtain ⟨clean, line⟩ := line_text text
  rw [span]
  refine ⟨Clean.cons (by decide) (Clean.cons (by decide) clean), .dashComment line clean.zero_not_mem ?_⟩
  -- the byte after `--` is the first of the text, and a NUL would have ended the text
  intro b head
  have inside : b ∈ text.take (lineSpan text) := List.mem_of_mem_head? head
  have starts : byteAt text 0 = b := by
    rw [List.head?_take] at head
    split at head
    · cases head
    · cases text with
      | nil => cases head
      | cons c rest => exact Option.some.inj head
  rw [starts] at spaced
  exact spaced.resolve_right fun zero => clean.zero_not_mem (zero ▸ inside)

theorem hash_piece (first : byteAt bs 0 = 0x23) :
    Clean bs (lineSpan bs) ∧ Skipped opts v (bs.take (lineSpan bs)) v := by
  obtain ⟨text, rfl⟩ := eq_cons_of_byteAt first (by decide)
  have span : lineSpan (0x23 :: text) = lineSpan text + 1 := by
    simp [lineSpan, spanWhile]
  obtain ⟨clean, line⟩ := line_text text
  rw [span]
  exact ⟨Clean.cons (by decide) clean, .hashComment line clean.zero_not_mem⟩

theorem block_piece (first : byteAt bs 0 = 0x2F) (second : byteAt bs 1 = 0x2A) :
    Clean bs (blockSpan bs) ∧ Skipped opts v (bs.take (blockSpan bs)) v := by
  obtain ⟨tail, rfl⟩ := eq_cons_of_byteAt first (by decide)
  obtain ⟨text, rfl⟩ := eq_cons_of_byteAt (second : byteAt tail 0 = 0x2A) (by decide)
  have span : blockSpan (0x2F :: 0x2A :: text) = blockSpan.body text + 1 + 1 := by
    simp only [blockSpan, List.drop_succ_cons, List.drop_zero]
    omega
  obtain ⟨clean, closes⟩ := blockBody_closes text
  rw [span]
  refine ⟨Clean.cons (by decide) (Clean.cons (by decide) clean), ?_⟩
  simp only [List.take_succ_cons]
  rcases closes with ⟨inner, read, none⟩ | none
  · rw [read]
    have plain : 0 ∉ inner := fun zero => clean.zero_not_mem (read ▸ List.mem_append_left _ zero)
    exact .blockComment plain none
  · exact .unclosedComment clean.zero_not_mem none

theorem opener_piece (first : byteAt bs 0 = 0x2F) (second : byteAt bs 1 = 0x2A) (third : byteAt bs 2 = 0x21)
    (accepted : (!(digitsValue ((bs.drop 3).take (versionDigits (bs.drop 3))) != 0 && opts.serverVersion != 0 &&
      decide (opts.serverVersion < (digitsValue ((bs.drop 3).take (versionDigits (bs.drop 3))) : Int)))) = true) :
    Clean bs (3 + versionDigits (bs.drop 3)) ∧
      Skipped opts false (bs.take (3 + versionDigits (bs.drop 3))) true := by
  obtain ⟨tail, rfl⟩ := eq_cons_of_byteAt first (by decide)
  obtain ⟨tail, rfl⟩ := eq_cons_of_byteAt (second : byteAt tail 0 = 0x2A) (by decide)
  obtain ⟨rest, rfl⟩ := eq_cons_of_byteAt (third : byteAt tail 0 = 0x21) (by decide)
  simp only [List.drop_succ_cons, List.drop_zero] at accepted ⊢
  -- the digits: the leading ones of the rest, at most six
  have within : versionDigits rest ≤ spanWhile isDigit rest := min_le_right _ _
  have digits : rest.take (versionDigits rest) <+: rest.take (spanWhile isDigit rest) :=
    List.take_prefix_take_left within
  rw [Nat.add_comm]
  refine ⟨Clean.cons (by decide) (Clean.cons (by decide) (Clean.cons (by decide)
    ((spanWhile_clean _ rest).mono within))), ?_⟩
  simp only [List.take_succ_cons]
  refine .versionOpener (fun b inside => spanWhile_holds _ rest b (digits.subset inside)) ?_ ?_
  · rw [List.length_take]
    exact (min_le_left _ _).trans (min_le_left _ _)
  · simp only [Bool.not_eq_true', Bool.and_eq_false_iff, bne_eq_false_iff_eq, decide_eq_false_iff_not,
      not_lt] at accepted
    omega

theorem closer_piece (first : byteAt bs 0 = 0x2A) (second : byteAt bs 1 = 0x2F) :
    Clean bs 2 ∧ Skipped opts true (bs.take 2) false := by
  obtain ⟨tail, rfl⟩ := eq_cons_of_byteAt first (by decide)
  obtain ⟨rest, rfl⟩ := eq_cons_of_byteAt (second : byteAt tail 0 = 0x2F) (by decide)
  exact ⟨Clean.cons (by decide) (Clean.cons (by decide) (Clean.zero _)), .versionCloser⟩

end Pieces

/-- The words of a `DELIMITER` line with no NUL in it have none. -/
theorem directive_word_plain {bs : Bytes} (clean : 0 ∉ bs) {d : String}
    (found : d ∈ Text.fields (Text.trimBlank (Utf8.decode bs))) : 0 ∉ Utf8.encode d := by
  refine Utf8.zero_not_mem_encode fun c inside => Utf8.decodeChars_ne_nul clean c ?_
  have chars := Text.trimBlank_chars _ c (Text.fields_chars found c inside)
  rwa [Utf8.decode, String.toList_ofList] at chars

/-- How a script's bytes `input` lex from offset `o` on, with the delimiter `d` active and the
versioned-comment state `v`, into the tokens `ts` and the delimiter `final` active at the end.
Before each token stands trivia, from where the last token ended; `eof` comes last, at the first
NUL byte of the script or at its end, and leaves the delimiter as it is; every other token reads
at least one byte; an `endStmt` token reads the active delimiter and holds it as its value; and a
`DELIMITER` token makes its value the active delimiter. -/
inductive Lexes (opts : LexOptions) (input : Bytes) : Nat → Bytes → Bool → List Token → Bytes → Prop
  | eof {o : Nat} {d : Bytes} {v v' : Bool} {t : Token}
      (gap : Trivia opts v (input.extract o t.pos.offset) v') (start : o ≤ t.pos.offset)
      (kind : t.kind = .eof) (atNul : t.pos.offset = input.idxOf 0) (empty : t.endOffset = t.pos.offset) :
      Lexes opts input o d v [t] d
  | token {o : Nat} {d : Bytes} {v v' : Bool} {t : Token} {ts : List Token} {final : Bytes}
      (gap : Trivia opts v (input.extract o t.pos.offset) v') (start : o ≤ t.pos.offset)
      (kind : t.kind ≠ .eof) (reads : t.pos.offset < t.endOffset)
      (delimits : t.kind = .endStmt → t.literal = d ∧ input.extract t.pos.offset t.endOffset = d)
      (rest : Lexes opts input t.endOffset (if t.kind = .delimiter then t.literal else d) v' ts final) :
      Lexes opts input o d v (t :: ts) final

namespace Scanner

variable {opts : LexOptions}

@[simp] theorem skip_inVersioned : ∀ (n : Nat) (s : Scanner), (s.skip n).inVersioned = s.inVersioned
  | 0, _ => rfl
  | n + 1, s => by
    unfold skip
    split
    · rfl
    · rw [skip_inVersioned n]

/-- Skipping `n` clean bytes moves past exactly those bytes. -/
theorem skip_splits {s : Scanner} {n : Nat} (clean : Clean s.rest n) :
    s.rest = s.rest.take n ++ (s.skip n).rest ∧ (s.skip n).pos.offset = s.pos.offset + (s.rest.take n).length := by
  have enough := clean.le_length
  rw [skip_rest, skip_offset, List.length_take]
  exact ⟨(List.take_append_drop n s.rest).symm, rfl⟩

/-- What one step over trivia reads: a piece of trivia, in the state of the versioned comments. -/
def SkipsPiece (opts : LexOptions) (s s' : Scanner) : Prop :=
  ∃ piece, Skipped opts s.inVersioned piece s'.inVersioned ∧ s.rest = piece ++ s'.rest ∧
    s'.pos.offset = s.pos.offset + piece.length ∧ s'.delimiter = s.delimiter

theorem skipsPiece_of_clean {s s' : Scanner} {n : Nat} {v' : Bool} (clean : Clean s.rest n)
    (piece : Skipped opts s.inVersioned (s.rest.take n) v') (rest : s'.rest = (s.skip n).rest)
    (pos : s'.pos = (s.skip n).pos) (delimiter : s'.delimiter = s.delimiter) (flag : s'.inVersioned = v') :
    SkipsPiece opts s s' := by
  obtain ⟨split, moved⟩ := skip_splits clean
  exact ⟨_, flag ▸ piece, rest ▸ split, pos ▸ moved, delimiter⟩

theorem triviaStep_skips {s s' : Scanner} (step : s.triviaStep opts = some s') : SkipsPiece opts s s' := by
  unfold triviaStep at step
  dsimp only at step
  split_ifs at step with space dash hash slash opener closer <;> cases step
  · obtain ⟨clean, piece⟩ := @blank_piece opts _ s.inVersioned space
    exact skipsPiece_of_clean clean piece rfl rfl (skip_delimiter _ _) (skip_inVersioned _ _)
  · simp only [Bool.and_eq_true, Bool.or_eq_true, beq_iff_eq] at dash
    obtain ⟨clean, piece⟩ := @dash_piece opts _ s.inVersioned dash.1.1 dash.1.2 dash.2
    exact skipsPiece_of_clean clean piece rfl rfl (skip_delimiter _ _) (skip_inVersioned _ _)
  · obtain ⟨clean, piece⟩ := @hash_piece opts _ s.inVersioned (beq_iff_eq.mp hash)
    exact skipsPiece_of_clean clean piece rfl rfl (skip_delimiter _ _) (skip_inVersioned _ _)
  · -- an accepted versioned comment opens: what follows is read as script
    simp only [Bool.and_eq_true, beq_iff_eq] at slash opener
    obtain ⟨⟨third, closed⟩, accepted⟩ := opener
    obtain ⟨clean, piece⟩ := @opener_piece opts _ slash.1 slash.2 third accepted
    have flag : s.inVersioned = false := by simpa using closed
    exact skipsPiece_of_clean clean (flag ▸ piece) rfl rfl (skip_delimiter _ _) rfl
  · simp only [Bool.and_eq_true, beq_iff_eq] at slash
    obtain ⟨clean, piece⟩ := @block_piece opts _ s.inVersioned slash.1 slash.2
    exact skipsPiece_of_clean clean piece rfl rfl (skip_delimiter _ _) (skip_inVersioned _ _)
  · simp only [Bool.and_eq_true, beq_iff_eq] at closer
    obtain ⟨⟨open_, first⟩, second⟩ := closer
    obtain ⟨clean, piece⟩ := @closer_piece opts _ first second
    exact skipsPiece_of_clean clean (open_ ▸ piece) rfl rfl (skip_delimiter _ _) rfl

/-- The walk over blanks and comments reads trivia, and keeps the delimiter. -/
theorem skipTrivia_gap (opts : LexOptions) (s : Scanner) :
    ∃ gap, Trivia opts s.inVersioned gap (s.skipTrivia opts).inVersioned ∧ s.rest = gap ++ (s.skipTrivia opts).rest ∧
      (s.skipTrivia opts).pos.offset = s.pos.offset + gap.length ∧ (s.skipTrivia opts).delimiter = s.delimiter := by
  fun_induction skipTrivia opts s with
  | case1 s _ => exact ⟨[], .nil, rfl, rfl, rfl⟩
  | case2 s s' step _ ih =>
    obtain ⟨piece, skipped, split, moved, keeps⟩ := triviaStep_skips step
    obtain ⟨gap, trivia, split', moved', keeps'⟩ := ih
    refine ⟨piece ++ gap, .cons skipped trivia, by rw [split, split', List.append_assoc], ?_, keeps'.trans keeps⟩
    rw [moved', moved, List.length_append, Nat.add_assoc]
  | case3 s s' step _ =>
    obtain ⟨piece, skipped, split, moved, keeps⟩ := triviaStep_skips step
    exact ⟨piece, List.append_nil piece ▸ .cons skipped .nil, split, moved, keeps⟩

/-- A step from `s` that emits a token over the next `n ≥ 1` bytes, none of them NUL: neither
`eof` nor one of the two kinds that the delimiter makes. -/
def Consumes (s : Scanner) (r : Token × Scanner) : Prop :=
  ∃ kind literal n, (kind ≠ .eof ∧ kind ≠ .endStmt ∧ kind ≠ .delimiter) ∧ 0 < n ∧ Clean s.rest n ∧
    r = s.emit kind literal n

theorem Consumes.ite {s : Scanner} {c : Prop} [Decidable c] {x y : Token × Scanner}
    (yes : c → s.Consumes x) (no : ¬ c → s.Consumes y) : s.Consumes (if c then x else y) := by
  by_cases holds : c
  · rw [if_pos holds]
    exact yes holds
  · rw [if_neg holds]
    exact no holds

theorem emit_consumes {s : Scanner} {kind : TokenKind} {literal : Bytes} {n : Nat}
    (notEof : kind ≠ .eof ∧ kind ≠ .endStmt ∧ kind ≠ .delimiter)
    (reads : 0 < n) (clean : Clean s.rest n) : s.Consumes (s.emit kind literal n) :=
  ⟨kind, literal, n, notEof, reads, clean, rfl⟩

theorem emit_two {s : Scanner} {kind : TokenKind} {literal : Bytes} {b : UInt8}
    (notEof : kind ≠ .eof ∧ kind ≠ .endStmt ∧ kind ≠ .delimiter)
    (notEnd : byteAt s.rest 0 ≠ 0) (second : (s.peekAt 1 == b) = true) (nonzero : b ≠ 0) :
    s.Consumes (s.emit kind literal 2) :=
  emit_consumes notEof (by decide) (Clean.two notEnd (ne_zero_of_beq second nonzero))

theorem emit_three {s : Scanner} {kind : TokenKind} {literal : Bytes} {b c : UInt8}
    (notEof : kind ≠ .eof ∧ kind ≠ .endStmt ∧ kind ≠ .delimiter)
    (notEnd : byteAt s.rest 0 ≠ 0) (second : (s.peekAt 1 == b) = true) (nonzero : b ≠ 0) (third : (s.peekAt 2 == c) = true)
    (nonzero' : c ≠ 0) : s.Consumes (s.emit kind literal 3) :=
  emit_consumes notEof (by decide)
    (Clean.three notEnd (ne_zero_of_beq second nonzero) (ne_zero_of_beq third nonzero'))

theorem tokenHere_consumes (s : Scanner) (notEnd : s.cur ≠ 0) (apart : s.atDelimiter = false) :
    s.Consumes (s.tokenHere opts) := by
  have first : byteAt s.rest 0 ≠ 0 := notEnd
  unfold tokenHere
  dsimp only
  show s.Consumes _
  repeat' with_reducible refine Consumes.ite (fun _ => ?_) (fun _ => ?_)
  -- most tokens are one to three bytes that the tests have already read
  all_goals try with_reducible exact emit_consumes (by decide) (by decide) (Clean.one first)
  all_goals try with_reducible exact emit_two (by decide) first ‹_› (by decide)
  all_goals try with_reducible exact emit_three (by decide) first ‹_› (by decide) ‹_› (by decide)
  · exact absurd (beq_iff_eq.mp ‹(s.cur == 0) = true›) notEnd
  · exact emit_two (by decide) first ‹(s.peekAt 1 == s.cur) = true› notEnd
  · exact emit_consumes (by decide)
      (numberSpan_pos (Or.inr ⟨beq_iff_eq.mp ‹(s.cur == 46) = true›, ‹isDigit (s.peekAt 1) = true›⟩))
      (numberSpan_clean _)
  -- quoted tokens: the opening quote, then a body that stops at a NUL byte
  · exact emit_consumes (by decide) (Nat.succ_pos _) (Clean.head first (quotedBody_clean _ _ _))
  · exact emit_consumes (by split <;> decide) (Nat.succ_pos _) (Clean.head first (quotedBody_clean _ _ _))
  · exact emit_consumes (by decide) (Nat.succ_pos _) (Clean.head first (quotedBody_clean _ _ _))
  · have quote : (s.peekAt 1 == 39) = true := ((Bool.and_eq_true _ _).mp ‹(_ && s.peekAt 1 == 39) = true›).2
    refine emit_consumes (by decide) (by omega) ?_
    rw [Nat.add_comm]
    exact Clean.add (Clean.two first (ne_zero_of_beq quote (by decide))) (quotedBody_clean _ _ _)
  · have hex : (s.cur == 48 && (s.peekAt 1 == 120 || s.peekAt 1 == 88)) = true := by with_reducible assumption
    simp only [Bool.and_eq_true, Bool.or_eq_true] at hex
    have second : byteAt s.rest 1 ≠ 0 := by
      rcases hex.2 with x | x <;> exact ne_zero_of_beq x (by decide)
    exact emit_consumes (by decide) (by omega) (Clean.add (Clean.two first second) (spanWhile_clean _ _))
  · -- other hypotheses here mention the scanner after the number; matching them against the
    -- digit test by unfolding is slow, so the lookup stays syntactic
    have digit : isDigit s.cur = true := by with_reducible assumption
    have digits : 0 < numberSpan s.rest := numberSpan_pos (Or.inl digit)
    exact emit_consumes (by decide) (Nat.lt_of_lt_of_le digits (Nat.le_add_right _ _))
      (Clean.add (numberSpan_clean _) (wordSpan_clean _ _))
  · exact emit_consumes (by decide) (numberSpan_pos (Or.inl ‹isDigit s.cur = true›)) (numberSpan_clean _)
  · have apart' : s.delimiter.isPrefixOf s.rest = false := by
      simpa [atDelimiter, notEnd] using apart
    exact emit_consumes (by decide) (wordSpan_pos notEnd ‹isWordStart s.cur = true› apart') (wordSpan_clean _ _)

/-- The scanner stands in `input`: its bytes are those after its offset, none of the bytes before
it is NUL, and the delimiter is a non-empty word with no NUL in it. -/
structure Valid (input : Bytes) (s : Scanner) : Prop where
  rest : s.rest = input.drop s.pos.offset
  bound : s.pos.offset ≤ input.length
  clean : 0 ∉ input.take s.pos.offset
  delimited : s.delimiter ≠ []
  plain : 0 ∉ s.delimiter

@[simp] theorem start_offset (input : Bytes) : (start input).pos.offset = 0 := by
  unfold start
  dsimp only
  split <;> rfl

theorem start_valid (input : Bytes) : (start input).Valid input := by
  have origin := start_offset input
  refine ⟨?_, ?_, ?_, by simp [start, defaultDelimiter], by simp [start, defaultDelimiter]⟩
  all_goals rw [origin]
  · rfl
  · exact Nat.zero_le _
  · simp

section Valid

variable {input : Bytes} {s t : Scanner} {piece : Bytes}

/-- Moving past bytes with no NUL in them keeps the scanner in the script. -/
theorem Valid.advance (valid : s.Valid input) (split : s.rest = piece ++ t.rest)
    (moved : t.pos.offset = s.pos.offset + piece.length) (plain : 0 ∉ piece) (delimited : t.delimiter ≠ [])
    (plain' : 0 ∉ t.delimiter) : t.Valid input := by
  have long := congrArg List.length split
  rw [valid.rest, List.length_drop, List.length_append] at long
  have bound := valid.bound
  refine ⟨?_, by omega, ?_, delimited, plain'⟩
  · rw [moved, ← List.drop_drop, ← valid.rest, split, List.drop_left]
  · rw [moved, List.take_add, ← valid.rest, split, List.take_left]
    exact List.mem_append.not.mpr (not_or.mpr ⟨valid.clean, plain⟩)

/-- The bytes between two offsets of the scanner are the bytes it moved past. -/
theorem Valid.extract (valid : s.Valid input) (split : s.rest = piece ++ t.rest)
    (moved : t.pos.offset = s.pos.offset + piece.length) : input.extract s.pos.offset t.pos.offset = piece := by
  rw [List.extract_eq_take_drop, ← valid.rest, split, moved, Nat.add_sub_cancel_left, List.take_left]

/-- Where the scanner reads 0, the script ends or has its first NUL byte. -/
theorem Valid.idxOf_zero (valid : s.Valid input) (atEnd : byteAt s.rest 0 = 0) :
    input.idxOf 0 = s.pos.offset := by
  have whole := List.take_append_drop s.pos.offset input
  rw [← whole, List.idxOf_append_of_notMem valid.clean, List.length_take, Nat.min_eq_left valid.bound,
    ← valid.rest]
  cases rest : s.rest with
  | nil => rfl
  | cons b tail =>
    rw [rest] at atEnd
    change b = 0 at atEnd
    simp [atEnd]

end Valid

/-- What the token read at `t`, after the trivia, is: it starts at `t`; `eof` stands where the
scanner reads 0 and reads nothing; any other token reads `n ≥ 1` bytes with no NUL among them,
and leaves a delimiter that is a non-empty word with no NUL in it: the one it installs if it is
a `DELIMITER` line, the one before it otherwise. An `endStmt` token reads the delimiter. -/
structure TokenAt (t : Scanner) (r : Token × Scanner) : Prop where
  pos : r.1.pos = t.pos
  flag : r.2.inVersioned = t.inVersioned
  ending : r.1.kind = .eof → byteAt t.rest 0 = 0 ∧ r.1.endOffset = t.pos.offset ∧ r.2.delimiter = t.delimiter
  going : r.1.kind ≠ .eof → ∃ n, 0 < n ∧ Clean t.rest n ∧ r.1.endOffset = r.2.pos.offset ∧
    r.2.rest = t.rest.drop n ∧ r.2.pos.offset = t.pos.offset + n ∧ r.2.delimiter ≠ [] ∧ 0 ∉ r.2.delimiter ∧
    r.2.delimiter = (if r.1.kind = .delimiter then r.1.literal else t.delimiter) ∧
    (r.1.kind = .endStmt → r.1.literal = t.delimiter ∧ t.rest.take n = t.delimiter)

theorem skip_offset_of_clean {t : Scanner} {n : Nat} (clean : Clean t.rest n) :
    (t.skip n).pos.offset = t.pos.offset + n := by
  rw [skip_offset, Nat.min_eq_left clean.le_length]

theorem Consumes.tokenAt {t : Scanner} {r : Token × Scanner} (consumes : t.Consumes r)
    (delimited : t.delimiter ≠ []) (plain : 0 ∉ t.delimiter) : TokenAt t r := by
  obtain ⟨kind, literal, n, ⟨notEof, notEnd, notDirective⟩, reads, clean, rfl⟩ := consumes
  refine ⟨rfl, skip_inVersioned _ _, fun eof => absurd eof notEof, fun _ => ⟨n, reads, clean, rfl,
    skip_rest _ _, skip_offset_of_clean clean, ?_, ?_, ?_, fun stmt => absurd stmt notEnd⟩⟩
  all_goals simp only [emit, skip_delimiter]
  · exact delimited
  · exact plain
  · exact (if_neg notDirective).symm

theorem tokenHere_tokenAt (s : Scanner) (delimited : s.delimiter ≠ []) (plain : 0 ∉ s.delimiter)
    (apart : s.atDelimiter = false) : TokenAt s (s.tokenHere opts) := by
  by_cases atEnd : s.cur = 0
  · rw [tokenHere_at_end s atEnd]
    exact ⟨rfl, rfl, fun _ => ⟨atEnd, rfl, rfl⟩, fun notEof => absurd rfl notEof⟩
  · exact (tokenHere_consumes s atEnd apart).tokenAt delimited plain

/-- At the delimiter, the token is the delimiter itself, read from the script. -/
theorem endStmt_tokenAt (s : Scanner) (found : s.atDelimiter = true) (delimited : s.delimiter ≠ [])
    (plain : 0 ∉ s.delimiter) : TokenAt s (s.emit .endStmt s.delimiter s.delimiter.length) := by
  simp only [atDelimiter, Bool.and_eq_true, List.isPrefixOf_iff_prefix] at found
  have clean := Clean.of_prefix found.2 plain
  refine ⟨rfl, skip_inVersioned _ _, TokenKind.noConfusion, fun _ => ⟨_,
    List.length_pos_iff.mpr delimited, clean, rfl, skip_rest _ _, skip_offset_of_clean clean, ?_, ?_, ?_,
    fun _ => ⟨rfl, List.prefix_iff_eq_take.mp found.2 |>.symm⟩⟩⟩
  all_goals simp only [emit, skip_delimiter]
  · exact delimited
  · exact plain
  · rfl

/-- A `DELIMITER` line is one token, to the end of the line, whose value is the delimiter it
leaves. -/
theorem directive_tokenAt (s : Scanner) (directive : atDirective s.rest = true) {d : Bytes}
    (installed : d ≠ [] ∧ 0 ∉ d) :
    TokenAt s (⟨.delimiter, d, s.pos, (s.skip (lineSpan s.rest)).pos.offset⟩,
      { s.skip (lineSpan s.rest) with delimiter := d }) := by
  have clean : Clean s.rest (lineSpan s.rest) := spanWhile_clean _ _
  exact ⟨rfl, skip_inVersioned _ _, TokenKind.noConfusion, fun _ => ⟨_,
    (directive_reads directive).2, clean, rfl, skip_rest _ _, skip_offset_of_clean clean, installed.1, installed.2,
    (if_pos rfl).symm, TokenKind.noConfusion⟩⟩

/-- Whether the scanner stands at the start of a line plays no part in what the token reads. -/
theorem TokenAt.reset {t : Scanner} {r : Token × Scanner} (token : TokenAt { t with lineStart := false } r) :
    TokenAt t r :=
  ⟨token.pos, token.flag, token.ending, token.going⟩

/-- One step of the scan from `s`: the trivia before the token, and the token. `eof` stands at the
script's first NUL byte or its end, and reads nothing; any other token reads at least one byte,
and leaves the scanner in the script with the delimiter it installs. -/
structure Lexed (opts : LexOptions) (input : Bytes) (s : Scanner) (r : Token × Scanner) : Prop where
  gap : Trivia opts s.inVersioned (input.extract s.pos.offset r.1.pos.offset) r.2.inVersioned
  start : s.pos.offset ≤ r.1.pos.offset
  ending : r.1.kind = .eof →
    r.1.pos.offset = input.idxOf 0 ∧ r.1.endOffset = r.1.pos.offset ∧ r.2.delimiter = s.delimiter
  going : r.1.kind ≠ .eof → r.1.pos.offset < r.1.endOffset ∧ r.1.endOffset = r.2.pos.offset ∧
    r.2.Valid input ∧ r.2.delimiter = (if r.1.kind = .delimiter then r.1.literal else s.delimiter)
  delimits : r.1.kind = .endStmt →
    r.1.literal = s.delimiter ∧ input.extract r.1.pos.offset r.1.endOffset = s.delimiter

/-- Trivia from `s` to `t`, then a token at `t`, make one step of the scan. -/
theorem TokenAt.lexed {input gap : Bytes} {s t : Scanner} {r : Token × Scanner} (valid : s.Valid input)
    (trivia : Trivia opts s.inVersioned gap t.inVersioned) (split : s.rest = gap ++ t.rest)
    (moved : t.pos.offset = s.pos.offset + gap.length) (keeps : t.delimiter = s.delimiter)
    (token : TokenAt t r) : Lexed opts input s r := by
  have valid' : t.Valid input :=
    valid.advance split moved trivia.zero_not_mem (keeps ▸ valid.delimited) (keeps ▸ valid.plain)
  have pos : r.1.pos.offset = t.pos.offset := congrArg Position.offset token.pos
  -- a token other than `eof` reads its bytes from `t` on, as the trivia did from `s`
  have reads : r.1.kind ≠ .eof →
      (r.1.pos.offset < r.1.endOffset ∧ r.1.endOffset = r.2.pos.offset ∧ r.2.Valid input ∧
        r.2.delimiter = (if r.1.kind = .delimiter then r.1.literal else s.delimiter)) ∧
      (r.1.kind = .endStmt →
        r.1.literal = s.delimiter ∧ input.extract r.1.pos.offset r.1.endOffset = s.delimiter) := by
    intro notEof
    obtain ⟨n, positive, clean, ends, rest, offset, delimited, plain, installs, delimits⟩ := token.going notEof
    have split' : t.rest = t.rest.take n ++ r.2.rest := by
      rw [rest]
      exact (List.take_append_drop n t.rest).symm
    have moved' : r.2.pos.offset = t.pos.offset + (t.rest.take n).length := by
      rw [offset, List.length_take, Nat.min_eq_left clean.le_length]
    refine ⟨⟨by rw [pos, ends, offset]; omega, ends,
      valid'.advance split' moved' clean.zero_not_mem delimited plain, by rw [installs, keeps]⟩, fun stmt => ?_⟩
    obtain ⟨literal, text⟩ := delimits stmt
    refine ⟨literal.trans keeps, ?_⟩
    rw [pos, ends, valid'.extract split' moved', text, keeps]
  refine ⟨?_, ?_, fun eof => ?_, fun notEof => (reads notEof).1, fun stmt => (reads ?_).2 stmt⟩
  · rw [pos, valid.extract split moved, token.flag]
    exact trivia
  · rw [pos, moved]
    exact Nat.le_add_right _ _
  · obtain ⟨atEnd, ends, same⟩ := token.ending eof
    exact ⟨pos.trans (valid'.idxOf_zero atEnd).symm, ends.trans pos.symm, same.trans keeps⟩
  · rw [stmt]
    decide

/-- Each step of the scan is trivia, then a token. -/
theorem nextToken_lexed {input : Bytes} (s : Scanner) (valid : s.Valid input) : Lexed opts input s (s.nextToken opts) := by
  obtain ⟨gap, trivia, split, moved, keeps⟩ := skipTrivia_gap opts s
  have delimited : (s.skipTrivia opts).delimiter ≠ [] := keeps ▸ valid.delimited
  have plain : 0 ∉ (s.skipTrivia opts).delimiter := keeps ▸ valid.plain
  refine TokenAt.lexed valid trivia split moved keeps ?_
  unfold nextToken
  dsimp only
  split
  · rename_i directive
    rw [Bool.and_eq_true] at directive
    refine directive_tokenAt _ directive.2 ?_
    -- the delimiter the line leaves: its second word, or the one before it
    split
    · rename_i first d others fields
      have found := fields ▸ (List.mem_cons_of_mem first List.mem_cons_self : d ∈ first :: d :: others)
      have clean : Clean (s.skipTrivia opts).rest (lineSpan (s.skipTrivia opts).rest) := spanWhile_clean _ _
      exact ⟨Utf8.encode_ne_nil (Text.field_ne_empty found), directive_word_plain clean.zero_not_mem found⟩
    · exact ⟨delimited, plain⟩
  · refine TokenAt.reset ?_
    split
    · exact endStmt_tokenAt _ ‹_› delimited plain
    · exact tokenHere_tokenAt _ delimited plain (Bool.eq_false_iff.mpr ‹_›)

/-- A scan from a scanner in the script lexes the rest of it. -/
theorem scan_lexes {input : Bytes} (s : Scanner) (valid : s.Valid input) :
    Lexes opts input s.pos.offset s.delimiter s.inVersioned (s.scan opts).1 (s.scan opts).2 := by
  fun_induction scan opts s with
  | case1 s tok s' next eof =>
    have step := @nextToken_lexed opts _ s valid
    rw [next] at step
    obtain ⟨atNul, empty, same⟩ := step.ending (beq_iff_eq.mp eof)
    rw [same]
    exact .eof step.gap step.start (beq_iff_eq.mp eof) atNul empty
  | case2 s tok s' next going _ rest d scanned ih =>
    have step := @nextToken_lexed opts _ s valid
    rw [next] at step
    have notEof : tok.kind ≠ .eof := fun eof => going (beq_iff_eq.mpr eof)
    obtain ⟨reads, ends, valid', installs⟩ := step.going notEof
    have lexes := ih valid'
    rw [scanned, ← ends, installs] at lexes
    exact .token step.gap step.start notEof reads step.delimits lexes
  | case3 s tok s' next going stuck =>
    -- a token other than `eof` reads a byte, so the scanner has fewer left
    have step := @nextToken_lexed opts _ s valid
    rw [next] at step
    obtain ⟨reads, ends, valid', -⟩ := step.going fun eof => going (beq_iff_eq.mpr eof)
    have start := step.start
    have bound := valid'.bound
    rw [valid.rest, valid'.rest, List.length_drop, List.length_drop] at stuck
    omega

end Scanner

/-- How every script lexes: from its first byte, with `;` as the delimiter and no versioned
comment open. -/
theorem tokenize_lexes (input : String) (opts : LexOptions) :
    Lexes opts (Utf8.encode input) 0 defaultDelimiter false (tokenizeWithDelimiter input opts).1
      (tokenizeWithDelimiter input opts).2 := by
  have lexes := @Scanner.scan_lexes opts _ _ (Scanner.start_valid (Utf8.encode input))
  rwa [Scanner.start_offset] at lexes



/-- A NUL byte ends the script: in `a`, NUL, `b` the tokens are `a` and `eof`, which stands at the
NUL byte, and the `b` after it is neither a token nor trivia. -/
theorem nul_byte_ends_script :
    (Utf8.encode "a\x00b").length = 3 ∧
      (tokenize "a\x00b").map (fun t => (t.kind, t.pos.offset, t.endOffset)) = [(.ident, 0, 1), (.eof, 1, 1)] := by
  decide +kernel

end Sql

end DdlCatalog
