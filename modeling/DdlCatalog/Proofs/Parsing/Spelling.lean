import DdlCatalog.Proofs.Parsing.Quoting
/-!
# Plain texts lex piece by piece

A plain text is a word followed by pieces: words, each after a blank, numbers, and the marks
`(`, `)` and `,`, with no number right after a word or a number, where it would run on. Words
are ASCII: a letter, then letters, digits and `_`. The main statement, `tokenize_spelled`: such
a text lexes into one token per piece, in order, then `eof`, under any lexer options, unless its
first word starts a `DELIMITER` line.
-/

namespace DdlCatalog

namespace Utf8

/-- An ASCII text is the codes of its characters, one byte each. -/
theorem encode_ascii {s : String} (ascii : ∀ c ∈ s.toList, c.toNat < 0x80) :
    encode s = s.toList.map fun c => UInt8.ofNat c.toNat := by
  rw [encode_eq_flatMap, List.map_eq_flatMap]
  exact List.flatMap_congr fun c inside => encodeChar_of_lt (ascii c inside)

theorem decodeChars_ascii : ∀ {cs : List Char}, (∀ c ∈ cs, c.toNat < 0x80) →
    decodeChars (cs.map fun c => UInt8.ofNat c.toNat) = cs
  | [], _ => by simp [decodeChars]
  | c :: cs, ascii => by
    have small := ascii c List.mem_cons_self
    have byte : (UInt8.ofNat c.toNat).toNat = c.toNat := toNat_ofNat_small (by omega)
    rw [List.map_cons, decodeChars, if_pos (by rw [UInt8.lt_iff_toNat_lt, byte]; exact small), byte,
      Char.ofNat_toNat, decodeChars_ascii fun d inside => ascii d (List.mem_cons_of_mem c inside)]

theorem encode_append (a b : String) : encode (a ++ b) = encode a ++ encode b := by
  rw [encode_eq_flatMap, encode_eq_flatMap, encode_eq_flatMap, String.toList_append, List.flatMap_append]

/-- An ASCII text reads back from its bytes. -/
theorem decode_encode_ascii {s : String} (ascii : ∀ c ∈ s.toList, c.toNat < 0x80) :
    decode (encode s) = s := by
  rw [decode, encode_ascii ascii, decodeChars_ascii ascii, String.ofList_toList]

end Utf8

namespace Sql

/-! Bytes and characters of plain words. -/

/-- An ASCII letter. -/
def isLetterByte (b : UInt8) : Bool := (0x41 ≤ b && b ≤ 0x5A) || (0x61 ≤ b && b ≤ 0x7A)

/-- A byte that goes on a plain word: an ASCII letter, a digit or `_`. -/
def isNameByte (b : UInt8) : Bool := isLetterByte b || isDigit b || b == 0x5F

/-- A character that goes on a plain word. -/
def isNameChar (c : Char) : Bool := c.isAlphanum || c == '_'

/-- A plain word: an ASCII letter, then ASCII letters, digits and `_`. -/
def isPlainWord (w : String) : Bool :=
  match w.toList with
  | c :: cs => c.isAlpha && cs.all isNameChar
  | [] => false

theorem toNat_lt_of_isAlpha {c : Char} (alpha : c.isAlpha = true) : c.toNat < 0x80 := by
  simp only [Char.isAlpha, Char.isUpper, Char.isLower, Bool.or_eq_true, Bool.and_eq_true,
    decide_eq_true_eq] at alpha
  rcases alpha with ⟨_, le⟩ | ⟨_, le⟩
  all_goals
    have bound := UInt32.le_iff_toNat_le.mp le
    simp only [Char.toNat_val, Char.reduceToNat] at bound
    omega

theorem toNat_lt_of_isNameChar {c : Char} (name : isNameChar c = true) : c.toNat < 0x80 := by
  simp only [isNameChar, Char.isAlphanum, Char.isDigit, Bool.or_eq_true, Bool.and_eq_true,
    decide_eq_true_eq, beq_iff_eq] at name
  rcases name with (alpha | ⟨_, le⟩) | underscore
  · exact toNat_lt_of_isAlpha alpha
  · have bound := UInt32.le_iff_toNat_le.mp le
    simp only [Char.toNat_val, Char.reduceToNat] at bound
    omega
  · rw [underscore]
    decide

theorem isLetterByte_of_isAlpha {c : Char} (alpha : c.isAlpha = true) :
    isLetterByte (UInt8.ofNat c.toNat) = true := by
  have small := toNat_lt_of_isAlpha alpha
  have table : ∀ n < 0x80, (Char.ofNat n).isAlpha = true → isLetterByte (UInt8.ofNat n) = true := by
    decide
  exact table c.toNat small (by rwa [Char.ofNat_toNat])

theorem isNameByte_of_isNameChar {c : Char} (name : isNameChar c = true) :
    isNameByte (UInt8.ofNat c.toNat) = true := by
  have small := toNat_lt_of_isNameChar name
  have table : ∀ n < 0x80, isNameChar (Char.ofNat n) = true → isNameByte (UInt8.ofNat n) = true := by
    decide
  exact table c.toNat small (by rwa [Char.ofNat_toNat])

theorem isNameByte_of_isLetterByte {b : UInt8} (letter : isLetterByte b = true) : isNameByte b = true := by
  simp [isNameByte, letter]

/-- The characters of a plain word are ASCII. -/
theorem ascii_of_isPlainWord {w : String} (plain : isPlainWord w = true) : ∀ c ∈ w.toList, c.toNat < 0x80 := by
  unfold isPlainWord at plain
  split at plain
  · rename_i c cs split
    simp only [Bool.and_eq_true, List.all_eq_true] at plain
    rw [split]
    intro d inside
    rcases List.mem_cons.mp inside with rfl | later
    · exact toNat_lt_of_isAlpha plain.1
    · exact toNat_lt_of_isNameChar (plain.2 d later)
  · cases plain

/-- The bytes of a plain word: a letter, then bytes that go on a word. -/
theorem encode_plainWord {w : String} (plain : isPlainWord w = true) :
    ∃ b bs, Utf8.encode w = b :: bs ∧ isLetterByte b = true ∧ ∀ c ∈ bs, isNameByte c = true := by
  rw [Utf8.encode_ascii (ascii_of_isPlainWord plain)]
  unfold isPlainWord at plain
  split at plain
  · rename_i c cs split
    simp only [Bool.and_eq_true, List.all_eq_true] at plain
    refine ⟨_, _, by rw [split, List.map_cons], isLetterByte_of_isAlpha plain.1, fun b inside => ?_⟩
    obtain ⟨d, found, rfl⟩ := List.mem_map.mp inside
    exact isNameByte_of_isNameChar (plain.2 d found)
  · cases plain

/-- A plain word reads back from its bytes. -/
theorem decode_encode_plainWord {w : String} (plain : isPlainWord w = true) : Utf8.decode (Utf8.encode w) = w :=
  Utf8.decode_encode_ascii (ascii_of_isPlainWord plain)

theorem byte_isDigit_of_isDigit {c : Char} (digit : c.isDigit = true) : c.toNat < 0x80 ∧ isDigit (UInt8.ofNat c.toNat) = true := by
  have small : c.toNat < 0x80 := by
    have bound := (Char.isDigit_iff_toNat.mp digit).2
    simp only [Char.reduceToNat] at bound
    omega
  have table : ∀ n < 0x80, (Char.ofNat n).isDigit = true → isDigit (UInt8.ofNat n) = true := by
    decide
  exact ⟨small, table c.toNat small (by rwa [Char.ofNat_toNat])⟩

/-- The bytes of a number written in decimal: digits, at least one. -/
theorem encode_toString (n : Nat) :
    ∃ d ds, Utf8.encode (toString n) = d :: ds ∧ ∀ b ∈ d :: ds, isDigit b = true := by
  have digits : ∀ c ∈ (toString n).toList, c.isDigit = true := by
    rw [Nat.toString_eq_ofList_toDigits, String.toList_ofList]
    exact fun c inside => Nat.isDigit_of_mem_toDigits (by decide) (by decide) inside
  rw [Utf8.encode_ascii fun c inside => (byte_isDigit_of_isDigit (digits c inside)).1]
  cases written : (toString n).toList with
  | nil =>
    refine absurd written ?_
    rw [Nat.toString_eq_ofList_toDigits, String.toList_ofList]
    exact Nat.toDigits_ne_nil
  | cons c cs =>
    refine ⟨_, _, rfl, fun b inside => ?_⟩
    simp only [List.mem_cons, List.mem_map] at inside
    rcases inside with rfl | ⟨d, found, rfl⟩
    · exact (byte_isDigit_of_isDigit (digits c (written ▸ List.mem_cons_self))).2
    · exact (byte_isDigit_of_isDigit (digits d (written ▸ List.mem_cons_of_mem c found))).2

/-! What follows a word or a number, and the spans over them. -/

/-- What may follow a word or a number so that it ends there: nothing, a blank or a mark. -/
def Stops (tail : Bytes) : Prop := ∀ b ∈ tail.head?, b = 0x20 ∨ b = 0x28 ∨ b = 0x29 ∨ b = 0x2C

/-- What the byte after a word or a number is not: a byte that would continue it, or one that
would make it the start of another token. -/
structure StopByte (b : UInt8) : Prop where
  notPart : isWordPart b = false
  notDigit : isDigit b = false
  notDot : (b == 0x2E) = false
  notExp : (b == 0x65) = false
  notExp' : (b == 0x45) = false
  notStart : isWordStart b = false
  notQuote : (b == 0x27) = false
  notHex : (b == 0x78) = false
  notHex' : (b == 0x58) = false

theorem Stops.first {tail : Bytes} (stops : Stops tail) : StopByte (byteAt tail 0) := by
  have table : ∀ b : UInt8, b = 0 ∨ b = 0x20 ∨ b = 0x28 ∨ b = 0x29 ∨ b = 0x2C → StopByte b := by
    rintro b (rfl | rfl | rfl | rfl | rfl) <;> constructor <;> decide
  refine table _ ?_
  cases tail with
  | nil => exact .inl rfl
  | cons b bs => exact .inr (stops b rfl)

theorem spanWhile_append {p : UInt8 → Bool} {xs ys : Bytes} (holds : ∀ b ∈ xs, b ≠ 0 ∧ p b = true)
    (stops : p (byteAt ys 0) = false) : spanWhile p (xs ++ ys) = xs.length := by
  induction xs with
  | nil =>
    cases ys with
    | nil => rfl
    | cons b bs =>
      have fails : p b = false := stops
      simp [spanWhile, fails]
  | cons b bs ih =>
    obtain ⟨nonzero, holds'⟩ := holds b List.mem_cons_self
    simp [spanWhile, nonzero, holds', ih fun c inside => holds c (List.mem_cons_of_mem b inside)]

theorem wordSpan_append {xs ys : Bytes} (names : ∀ b ∈ xs, isNameByte b = true) (stops : Stops ys) :
    wordSpan defaultDelimiter (xs ++ ys) = xs.length := by
  have part : ∀ b : UInt8, isNameByte b = true → b ≠ 0 ∧ isWordPart b = true ∧ b ≠ 0x3B := by
    decide +kernel
  induction xs with
  | nil =>
    cases ys with
    | nil => rfl
    | cons b bs =>
      have fails : isWordPart b = false := stops.first.notPart
      simp [wordSpan, fails]
  | cons b bs ih =>
    obtain ⟨nonzero, word, apart⟩ := part b (names b List.mem_cons_self)
    have notDelimiter : defaultDelimiter.isPrefixOf (b :: (bs ++ ys)) = false := by
      simp [defaultDelimiter, List.isPrefixOf, Ne.symm apart]
    simp [wordSpan, nonzero, word, notDelimiter, ih fun c inside => names c (List.mem_cons_of_mem b inside)]

theorem numberSpan_append {ds ys : Bytes} (digits : ∀ b ∈ ds, isDigit b = true) (stops : Stops ys) :
    numberSpan (ds ++ ys) = ds.length := by
  have stop := stops.first
  have whole : spanWhile isDigit (ds ++ ys) = ds.length :=
    spanWhile_append (fun b inside => ⟨ne_zero_of_isDigit (digits b inside), digits b inside⟩) stop.notDigit
  unfold numberSpan
  simp only [whole, List.drop_left, stop.notDot, stop.notExp, stop.notExp', Bool.false_and, Bool.or_self,
    Bool.false_eq_true, ↓reduceIte, List.drop_zero, Nat.add_zero]

/-! Pieces of plain texts. -/

/-- A piece of a plain text. -/
inductive Lexeme
  | word (w : String)
  | number (n : Nat)
  | lparen
  | rparen
  | comma
deriving DecidableEq, Repr

namespace Lexeme

/-- How a piece is written after the one before it: a word after a blank. -/
def spelling : Lexeme → String
  | word w => " " ++ w
  | number n => toString n
  | lparen => "("
  | rparen => ")"
  | comma => ","

/-- The kind and value of the token a piece reads as. -/
def token : Lexeme → TokenKind × Bytes
  | word w => (.ident, Utf8.encode w)
  | number n => (.number, Utf8.encode (toString n))
  | lparen => (.lparen, [0x28])
  | rparen => (.rparen, [0x29])
  | comma => (.comma, [0x2C])

/-- Words and numbers, which a letter or a digit right after them would continue. -/
def isRun : Lexeme → Bool
  | word _ | number _ => true
  | _ => false

def isNumber : Lexeme → Bool
  | number _ => true
  | _ => false

/-- A piece whose word, if it is one, is plain. -/
def Plain : Lexeme → Prop
  | word w => isPlainWord w = true
  | _ => True

end Lexeme

/-- Pieces that go on a plain text: their words are plain, and no number comes right after a
word or a number; `afterRun` tells whether the piece before them was one. -/
def Spellable : Bool → List Lexeme → Prop
  | _, [] => True
  | afterRun, l :: ls => l.Plain ∧ (afterRun = true → l.isNumber = false) ∧ Spellable l.isRun ls

namespace Lexeme

theorem encode_spelling_word (w : String) : Utf8.encode (word w).spelling = 0x20 :: Utf8.encode w := by
  rw [spelling, Utf8.encode_append, show Utf8.encode " " = [0x20] by rw [Utf8.encode_eq_flatMap]; rfl]
  rfl

theorem encode_spelling_lparen : Utf8.encode lparen.spelling = [0x28] := by rw [Utf8.encode_eq_flatMap]; rfl

theorem encode_spelling_rparen : Utf8.encode rparen.spelling = [0x29] := by rw [Utf8.encode_eq_flatMap]; rfl

theorem encode_spelling_comma : Utf8.encode comma.spelling = [0x2C] := by rw [Utf8.encode_eq_flatMap]; rfl

end Lexeme

theorem encode_join_cons (l : Lexeme) (ls : List Lexeme) :
    Utf8.encode (String.join ((l :: ls).map Lexeme.spelling)) =
      Utf8.encode l.spelling ++ Utf8.encode (String.join (ls.map Lexeme.spelling)) := by
  rw [List.map_cons, String.join_cons, Utf8.encode_append]

/-- After a word or a number, the rest of a plain text starts with a blank or a mark. -/
theorem Spellable.stops {ls : List Lexeme} (spellable : Spellable true ls) :
    Stops (Utf8.encode (String.join (ls.map Lexeme.spelling))) := by
  cases ls with
  | nil => intro b found; simp [Utf8.encode, String.join] at found
  | cons l ls =>
    obtain ⟨-, notNumber, -⟩ := spellable
    intro b found
    rw [encode_join_cons] at found
    cases l with
    | word w =>
      rw [Lexeme.encode_spelling_word] at found
      exact .inl (Option.some.inj found).symm
    | number n => simp [Lexeme.isNumber] at notNumber
    | lparen =>
      rw [Lexeme.encode_spelling_lparen] at found
      exact .inr (.inl (Option.some.inj found).symm)
    | rparen =>
      rw [Lexeme.encode_spelling_rparen] at found
      exact .inr (.inr (.inl (Option.some.inj found).symm))
    | comma =>
      rw [Lexeme.encode_spelling_comma] at found
      exact .inr (.inr (.inr (Option.some.inj found).symm))

/-- A byte where a piece of a plain text starts: a letter, a digit, `(`, `)` or `,`. -/
def opensPiece (b : UInt8) : Bool := isLetterByte b || isDigit b || b == 0x28 || b == 0x29 || b == 0x2C

namespace Scanner

variable {opts : LexOptions}

@[simp] theorem skip_lineStart : ∀ (n : Nat) (s : Scanner), (s.skip n).lineStart = s.lineStart
  | 0, _ => rfl
  | n + 1, s => by
    unfold skip
    split
    · rfl
    · rw [skip_lineStart n]

theorem triviaStep_opensPiece {s : Scanner} (closed : s.inVersioned = false) (opens : opensPiece s.cur = true) :
    s.triviaStep opts = none := by
  have table : ∀ b : UInt8, opensPiece b = true →
      isSpaceByte b = false ∧ (b == 0x2D) = false ∧ (b == 0x23) = false ∧ (b == 0x2F) = false := by
    decide +kernel
  obtain ⟨notSpace, notDash, notHash, notSlash⟩ := table _ opens
  simp [triviaStep, notSpace, notDash, notHash, notSlash, closed]

theorem skipTrivia_opensPiece {s : Scanner} (closed : s.inVersioned = false) (opens : opensPiece s.cur = true) :
    s.skipTrivia opts = s := by
  rw [skipTrivia, triviaStep_opensPiece closed opens]

/-- Where a piece starts after the trivia, with `;` as the delimiter and no `DELIMITER` line, the
token is the one that starts there. -/
theorem nextToken_of_skipTrivia {s t : Scanner} (trivia : s.skipTrivia opts = t)
    (delimiter : t.delimiter = defaultDelimiter) (opens : opensPiece t.cur = true)
    (noDirective : t.lineStart = true → atDirective t.rest = false) :
    s.nextToken opts = ({ t with lineStart := false }).tokenHere opts := by
  have notSemicolon : ∀ b : UInt8, opensPiece b = true → b ≠ 0x3B := by decide +kernel
  have apart : ({ t with lineStart := false } : Scanner).atDelimiter = false := by
    cases rest : t.rest with
    | nil => simp [atDelimiter, cur, byteAt]
    | cons b bs =>
      have first : t.cur = b := by simp [cur, byteAt, rest]
      simp [atDelimiter, delimiter, defaultDelimiter, List.isPrefixOf,
        Ne.symm (notSemicolon b (first ▸ opens))]
  have directive : (t.lineStart && atDirective t.rest) = false := by
    cases start : t.lineStart
    · rfl
    · simp [noDirective start]
  unfold nextToken
  simp only [trivia, directive, Bool.false_eq_true, ↓reduceIte, apart]

/-- A letter opens a word, unless a quote follows it. -/
theorem tokenHere_letter {s : Scanner} (letter : isLetterByte s.cur = true) (notQuote : (s.peekAt 1 == 0x27) = false) :
    s.tokenHere opts = s.emit .ident (s.rest.take (wordSpan s.delimiter s.rest)) (wordSpan s.delimiter s.rest) := by
  have table : ∀ b : UInt8, isLetterByte b = true →
      b ∉ [0, 0x2B, 0x2D, 0x2A, 0x2F, 0x25, 0x3D, 0x3C, 0x3E, 0x21, 0x7C, 0x26, 0x5E, 0x7E, 0x3F, 0x3A, 0x2E,
        0x2C, 0x28, 0x29, 0x40, 0x3B, 0x27, 0x22, 0x60] ∧ isDigit b = false ∧ isWordStart b = true := by
    decide +kernel
  obtain ⟨notMark, notDigit, word⟩ := table _ letter
  simp only [List.mem_cons, List.not_mem_nil, or_false, not_or] at notMark
  unfold tokenHere
  simp [notMark, notDigit, word, notQuote]

/-- A digit opens a number, unless it is the `0` of `0x` or a word goes on from the digits. -/
theorem tokenHere_digit {s : Scanner} (digit : isDigit s.cur = true)
    (notHex : (s.peekAt 1 == 0x78) = false ∧ (s.peekAt 1 == 0x58) = false)
    (ends : isWordStart (byteAt (s.rest.drop (numberSpan s.rest)) 0) = false) :
    s.tokenHere opts = s.emit .number (s.rest.take (numberSpan s.rest)) (numberSpan s.rest) := by
  have table : ∀ b : UInt8, isDigit b = true →
      b ∉ [0, 0x2B, 0x2D, 0x2A, 0x2F, 0x25, 0x3D, 0x3C, 0x3E, 0x21, 0x7C, 0x26, 0x5E, 0x7E, 0x3F, 0x3A, 0x2E,
        0x2C, 0x28, 0x29, 0x40, 0x3B, 0x27, 0x22, 0x60, 0x78, 0x58, 0x62, 0x42, 0x6E, 0x4E] := by
    decide +kernel
  have notMark := table _ digit
  simp only [List.mem_cons, List.not_mem_nil, or_false, not_or] at notMark
  unfold tokenHere
  simp [notMark, digit, notHex]
  -- no word goes on after the digits
  intro start
  simp [cur, ends] at start

/-- `(`, `)` and `,` are tokens of one byte. -/
theorem tokenHere_mark {s : Scanner} {b : UInt8} {kind : TokenKind}
    (mark : (b, kind) = (0x28, .lparen) ∨ (b, kind) = (0x29, .rparen) ∨ (b, kind) = (0x2C, .comma))
    (first : s.cur = b) : s.tokenHere opts = s.emit kind (s.rest.take 1) 1 := by
  unfold tokenHere
  rcases mark with same | same | same <;> simp only [Prod.mk.injEq] at same <;>
    obtain ⟨rfl, rfl⟩ := same <;> simp [first]

/-- A scanner inside a plain text, past its first token: not at the start of a line, in no
versioned comment, with `;` as the delimiter. -/
structure Amid (s : Scanner) : Prop where
  lineStart : s.lineStart = false
  inVersioned : s.inVersioned = false
  delimiter : s.delimiter = defaultDelimiter

theorem Amid.skip {s : Scanner} (amid : s.Amid) (n : Nat) : (s.skip n).Amid :=
  ⟨by rw [skip_lineStart, amid.lineStart], by rw [skip_inVersioned, amid.inVersioned],
    by rw [skip_delimiter, amid.delimiter]⟩

theorem Amid.reset {s : Scanner} (amid : s.Amid) : ({ s with lineStart := false } : Scanner) = s := by
  cases s
  simp only [Scanner.mk.injEq, and_true, true_and]
  exact amid.lineStart.symm

/-- A step that read the piece `l` and stands before `tail`, inside the text. -/
def ReadsPiece (l : Lexeme) (tail : Bytes) (r : Token × Scanner) : Prop :=
  (r.1.kind, r.1.literal) = l.token ∧ r.2.rest = tail ∧ r.2.Amid

theorem emit_readsPiece {s : Scanner} (amid : s.Amid) {l : Lexeme} {piece tail : Bytes}
    (rest : s.rest = piece ++ tail) (token : l.token = (kind, piece)) :
    ReadsPiece l tail (s.emit kind (s.rest.take piece.length) piece.length) := by
  refine ⟨?_, ?_, amid.skip _⟩
  · simp [emit, rest, token]
  · simp [emit, rest]

/-- After a word or a number, a blank before a piece is the only trivia. -/
theorem skipTrivia_blank {s : Scanner} (amid : s.Amid) {bs : Bytes} (rest : s.rest = 0x20 :: bs)
    (opens : opensPiece (byteAt bs 0) = true) : s.skipTrivia opts = s.skip 1 := by
  have blank : s.cur = 0x20 := by simp [cur, rest]
  have step : s.triviaStep opts = some (s.skip 1) := by
    simpa [triviaStep, blank, isSpaceByte, amid.lineStart] using congrArg some (amid.skip 1).reset
  have shorter : (s.skip 1).rest.length < s.rest.length := by simp [rest]
  have none : (s.skip 1).triviaStep opts = none :=
    triviaStep_opensPiece (amid.skip 1).inVersioned (by simpa [cur, rest] using opens)
  rw [skipTrivia, step]
  simp only [shorter, ↓reduceIte]
  rw [skipTrivia, none]

/-- At a plain word, the token is the word, up to what follows it. -/
theorem tokenHere_word {s : Scanner} (amid : s.Amid) {w : String} (plain : isPlainWord w = true) {tail : Bytes}
    (rest : s.rest = Utf8.encode w ++ tail) (stops : Stops tail) : ReadsPiece (.word w) tail (s.tokenHere opts) := by
  obtain ⟨b, bs, bytes, letter, names⟩ := encode_plainWord plain
  rw [bytes, List.cons_append] at rest
  have first : s.cur = b := by rw [cur, rest]; rfl
  have notQuote : (s.peekAt 1 == 0x27) = false := by
    rw [peekAt, rest]
    cases bs with
    | nil => exact stops.first.notQuote
    | cons c cs =>
      have quote : ∀ c : UInt8, isNameByte c = true → (c == 0x27) = false := by decide +kernel
      exact quote c (names c List.mem_cons_self)
  -- the word runs over its own bytes and stops before what follows
  have span : wordSpan s.delimiter s.rest = (b :: bs).length := by
    rw [amid.delimiter, rest, ← List.cons_append]
    refine wordSpan_append (fun c inside => ?_) stops
    rcases List.mem_cons.mp inside with rfl | later
    · exact isNameByte_of_isLetterByte letter
    · exact names c later
  rw [tokenHere_letter (first ▸ letter) notQuote, span]
  exact emit_readsPiece amid (by rw [rest, List.cons_append]) (by rw [Lexeme.token, bytes])

/-- Inside a plain text, the next token reads the next piece, and the scanner stands before what
follows it. -/
theorem nextToken_piece {s : Scanner} (amid : s.Amid) {l : Lexeme} (plain : l.Plain) {tail : Bytes}
    (rest : s.rest = Utf8.encode l.spelling ++ tail) (stops : l.isRun = true → Stops tail) :
    ReadsPiece l tail (s.nextToken opts) := by
  have opensLetter : ∀ b : UInt8, isLetterByte b = true → opensPiece b = true := by decide +kernel
  have opensDigit : ∀ b : UInt8, isDigit b = true → opensPiece b = true := by decide +kernel
  cases l with
  | word w =>
    obtain ⟨b, bs, bytes, letter, -⟩ := encode_plainWord plain
    rw [Lexeme.encode_spelling_word, bytes, List.cons_append] at rest
    have start := @skipTrivia_blank opts _ amid _ rest (by simpa using opensLetter b letter)
    have word : (s.skip 1).rest = Utf8.encode w ++ tail := by simp [rest, bytes]
    have first : (s.skip 1).cur = b := by rw [cur, word, bytes]; rfl
    rw [nextToken_of_skipTrivia start (amid.skip 1).delimiter (first ▸ opensLetter b letter)
      fun fresh => absurd fresh (by rw [(amid.skip 1).lineStart]; decide), (amid.skip 1).reset]
    exact tokenHere_word (amid.skip 1) plain word (stops rfl)
  | number n =>
    obtain ⟨d, ds, bytes, digits⟩ := encode_toString n
    have tailStops := stops rfl
    rw [Lexeme.spelling, bytes, List.cons_append] at rest
    have first : s.cur = d := by simp [cur, rest]
    have digit : isDigit d = true := digits d List.mem_cons_self
    rw [nextToken_of_skipTrivia (skipTrivia_opensPiece amid.inVersioned (first ▸ opensDigit d digit))
      amid.delimiter (first ▸ opensDigit d digit) fun fresh => absurd fresh (by rw [amid.lineStart]; decide),
      amid.reset]
    have span : numberSpan s.rest = (d :: ds).length := by
      rw [rest, ← List.cons_append]
      exact numberSpan_append digits tailStops
    have notHex : (s.peekAt 1 == 0x78) = false ∧ (s.peekAt 1 == 0x58) = false := by
      cases ds with
      | nil =>
        simp only [peekAt, rest, List.nil_append, byteAt_cons_succ]
        exact ⟨tailStops.first.notHex, tailStops.first.notHex'⟩
      | cons c cs =>
        have hex : ∀ c : UInt8, isDigit c = true → (c == 0x78) = false ∧ (c == 0x58) = false := by
          decide +kernel
        simpa [peekAt, rest] using hex c (digits c (List.mem_cons_of_mem d List.mem_cons_self))
    have ends : isWordStart (byteAt (s.rest.drop (numberSpan s.rest)) 0) = false := by
      rw [span, rest, ← List.cons_append, List.drop_left]
      exact tailStops.first.notStart
    rw [tokenHere_digit (first ▸ digit) notHex ends, span]
    exact emit_readsPiece amid (by rw [rest, List.cons_append]) (by rw [Lexeme.token, bytes])
  | lparen =>
    rw [Lexeme.encode_spelling_lparen] at rest
    have first : s.cur = 0x28 := by simp [cur, rest]
    rw [nextToken_of_skipTrivia (skipTrivia_opensPiece amid.inVersioned (by rw [first]; decide))
      amid.delimiter (by rw [first]; decide) fun fresh => absurd fresh (by rw [amid.lineStart]; decide),
      amid.reset, tokenHere_mark (.inl rfl) first]
    exact emit_readsPiece amid rest rfl
  | rparen =>
    rw [Lexeme.encode_spelling_rparen] at rest
    have first : s.cur = 0x29 := by simp [cur, rest]
    rw [nextToken_of_skipTrivia (skipTrivia_opensPiece amid.inVersioned (by rw [first]; decide))
      amid.delimiter (by rw [first]; decide) fun fresh => absurd fresh (by rw [amid.lineStart]; decide),
      amid.reset, tokenHere_mark (.inr (.inl rfl)) first]
    exact emit_readsPiece amid rest rfl
  | comma =>
    rw [Lexeme.encode_spelling_comma] at rest
    have first : s.cur = 0x2C := by simp [cur, rest]
    rw [nextToken_of_skipTrivia (skipTrivia_opensPiece amid.inVersioned (by rw [first]; decide))
      amid.delimiter (by rw [first]; decide) fun fresh => absurd fresh (by rw [amid.lineStart]; decide),
      amid.reset, tokenHere_mark (.inr (.inr rfl)) first]
    exact emit_readsPiece amid rest rfl

theorem encode_join_nil : Utf8.encode (String.join (([] : List Lexeme).map Lexeme.spelling)) = [] := by
  simp [Utf8.encode, String.join]

/-- Inside a plain text, the scan reads the pieces one by one, then `eof`. -/
theorem scan_spelled : ∀ {afterRun : Bool} {ls : List Lexeme} {s : Scanner}, s.Amid → Spellable afterRun ls →
    s.rest = Utf8.encode (String.join (ls.map Lexeme.spelling)) →
    ((s.scan opts).1.map fun t => (t.kind, t.literal)) = ls.map Lexeme.token ++ [(.eof, [])]
  | _, [], s, _, _, rest => by
    rw [scan_at_end s (rest.trans encode_join_nil)]
    rfl
  | _, l :: ls, s, amid, ⟨plain, _, spellable⟩, rest => by
    rw [encode_join_cons] at rest
    obtain ⟨token, rest', amid'⟩ := @nextToken_piece opts _ amid _ plain _ rest fun run => (run ▸ spellable).stops
    have notEof : (s.nextToken opts).1.kind ≠ .eof := by
      have kind := congrArg Prod.fst token
      cases l <;> simp [Lexeme.token] at kind <;> rw [kind] <;> decide
    -- every piece is at least one byte
    have shorter : (s.nextToken opts).2.rest.length < s.rest.length := by
      have nonempty : Utf8.encode l.spelling ≠ [] := by
        cases l with
        | word w => simp [Lexeme.encode_spelling_word]
        | number n =>
          obtain ⟨d, ds, bytes, -⟩ := encode_toString n
          rw [Lexeme.spelling, bytes]
          exact List.cons_ne_nil d ds
        | lparen => simp [Lexeme.encode_spelling_lparen]
        | rparen => simp [Lexeme.encode_spelling_rparen]
        | comma => simp [Lexeme.encode_spelling_comma]
      rw [rest', rest, List.length_append]
      have := List.length_pos_iff.mpr nonempty
      omega
    rw [scan_of_nextToken (Prod.eta _).symm notEof shorter, List.map_cons, token,
      scan_spelled amid' spellable rest', List.map_cons, List.cons_append]

end Scanner

theorem equalFoldAscii_append : ∀ {xs zs : Bytes} (ys us : Bytes), xs.length = zs.length →
    equalFoldAscii (xs ++ ys) (zs ++ us) = (equalFoldAscii xs zs && equalFoldAscii ys us)
  | [], [], _, _, _ => by simp [equalFoldAscii]
  | _ :: xs, _ :: zs, ys, us, same => by
    simp only [List.cons_append, equalFoldAscii, Bool.and_assoc,
      equalFoldAscii_append ys us (Nat.succ.inj same)]

/-- A text that opens with a plain word other than `DELIMITER` opens no `DELIMITER` line: a
shorter word stops before a blank or a mark, a longer one goes on past the ninth byte. -/
theorem atDirective_word {w : String} (plain : isPlainWord w = true)
    (notDelimiter : equalFoldAscii (Utf8.encode w) (Utf8.encode "delimiter") = false) {tail : Bytes}
    (stops : Stops tail) : atDirective (Utf8.encode w ++ tail) = false := by
  obtain ⟨b, bs, bytes, letter, names⟩ := encode_plainWord plain
  have encoded : Utf8.encode "delimiter" = [100, 101, 108, 105, 109, 105, 116, 101, 114] := by decide +kernel
  have name : ∀ c ∈ Utf8.encode w, isNameByte c = true := by
    rw [bytes]
    intro c inside
    rcases List.mem_cons.mp inside with rfl | later
    · exact isNameByte_of_isLetterByte letter
    · exact names c later
  unfold atDirective
  rcases Nat.lt_or_ge (Utf8.encode w).length 9 with short | long
  · cases tail with
    | nil =>
      simp only [List.append_nil, gt_iff_lt, Bool.and_eq_false_iff]
      left; left
      simp only [decide_eq_false_iff_not]
      omega
    | cons c more =>
      -- the byte after the word is no letter of DELIMITER
      have apart : ∀ c : UInt8, c = 0x20 ∨ c = 0x28 ∨ c = 0x29 ∨ c = 0x2C →
          ∀ d ∈ [100, 101, 108, 105, 109, 105, 116, 101, 114], (asciiUpperByte c == asciiUpperByte d) = false := by
        decide +kernel
      obtain ⟨d, ds, split⟩ : ∃ d ds, [(100 : UInt8), 101, 108, 105, 109, 105, 116, 101, 114].drop (Utf8.encode w).length = d :: ds := by
        cases dropped : [(100 : UInt8), 101, 108, 105, 109, 105, 116, 101, 114].drop (Utf8.encode w).length with
        | nil => simp at dropped; omega
        | cons d ds => exact ⟨d, ds, rfl⟩
      have inside : d ∈ [(100 : UInt8), 101, 108, 105, 109, 105, 116, 101, 114] :=
        List.mem_of_mem_drop (split ▸ List.mem_cons_self)
      have differs : equalFoldAscii ((Utf8.encode w ++ c :: more).take 9) (Utf8.encode "delimiter") = false := by
        rw [List.take_append, List.take_of_length_le (Nat.le_of_lt short), encoded,
          ← List.take_append_drop (Utf8.encode w).length [(100 : UInt8), 101, 108, 105, 109, 105, 116, 101, 114],
          split, equalFoldAscii_append _ _ (by simp; omega), show 9 - (Utf8.encode w).length = (8 - (Utf8.encode w).length) + 1 by omega,
          List.take_succ_cons, equalFoldAscii, apart c (stops c rfl) d inside]
        simp
      simp [differs]
  · rcases Nat.lt_or_ge 9 (Utf8.encode w).length with longer | nine
    · -- the tenth byte is still part of the word
      have tenth : byteAt (Utf8.encode w ++ tail) 9 ∈ Utf8.encode w := by
        rw [byteAt, List.getD_append _ _ _ _ longer, List.getD_eq_getElem _ _ longer]
        exact List.getElem_mem longer
      have blank : ∀ c : UInt8, isNameByte c = true → (c == 0x20) = false ∧ (c == 0x09) = false := by
        decide +kernel
      obtain ⟨notSpace, notTab⟩ := blank _ (name _ tenth)
      simp [notSpace, notTab]
    · have nine : (Utf8.encode w).length = 9 := by omega
      rw [List.take_append, List.take_of_length_le (by omega), nine, Nat.sub_self, List.take_zero,
        List.append_nil, notDelimiter]
      simp

/-- A plain text lexes into its pieces, then `eof`, under any lexer options: its first word, unless
that is `DELIMITER`, then each piece after it. -/
theorem tokenize_spelled (w : String) (ls : List Lexeme) (opts : LexOptions) (first : isPlainWord w = true)
    (notDelimiter : equalFoldAscii (Utf8.encode w) (Utf8.encode "delimiter") = false)
    (spellable : Spellable true ls) :
    ((tokenize (w ++ String.join (ls.map Lexeme.spelling)) opts).map fun t => (t.kind, t.literal)) =
      (Lexeme.word w :: ls).map Lexeme.token ++ [(.eof, [])] := by
  have stops := spellable.stops
  obtain ⟨b, bs, bytes, letter, -⟩ := encode_plainWord first
  have opens : ∀ b : UInt8, isLetterByte b = true → opensPiece b = true := by decide +kernel
  rw [tokenize, tokenizeWithDelimiter, Utf8.encode_append]
  -- the first token is the word: no trivia and no `DELIMITER` line come before it
  have amid : ({ Scanner.start (Utf8.encode w ++ Utf8.encode (String.join (ls.map Lexeme.spelling)))
      with lineStart := false } : Scanner).Amid := ⟨rfl, rfl, rfl⟩
  have first' : (Scanner.start (Utf8.encode w ++ Utf8.encode (String.join (ls.map Lexeme.spelling)))).cur = b := by
    rw [Scanner.cur, bytes]
    rfl
  have next := @Scanner.nextToken_of_skipTrivia opts _
    (Scanner.start (Utf8.encode w ++ Utf8.encode (String.join (ls.map Lexeme.spelling))))
    (Scanner.skipTrivia_opensPiece rfl (first' ▸ opens b letter))
    rfl (first' ▸ opens b letter) fun _ => atDirective_word first notDelimiter stops
  obtain ⟨token, rest', amid'⟩ := @Scanner.tokenHere_word opts _ amid _ first _ rfl stops
  rw [← next] at token rest' amid'
  have notEof : ((Scanner.start (Utf8.encode w ++ Utf8.encode (String.join (ls.map Lexeme.spelling)))).nextToken
      opts).1.kind ≠ .eof := by
    have kind := congrArg Prod.fst token
    simp only [Lexeme.token] at kind
    rw [kind]
    decide
  have shorter : ((Scanner.start (Utf8.encode w ++ Utf8.encode (String.join (ls.map Lexeme.spelling)))).nextToken
      opts).2.rest.length < (Scanner.start (Utf8.encode w ++ Utf8.encode (String.join (ls.map Lexeme.spelling)))).rest.length := by
    rw [rest', bytes]
    simp [Scanner.start]
  rw [Scanner.scan_of_nextToken (Prod.eta _).symm notEof shorter, List.map_cons, token,
    Scanner.scan_spelled amid' spellable rest', List.map_cons, List.cons_append]

end Sql

end DdlCatalog
