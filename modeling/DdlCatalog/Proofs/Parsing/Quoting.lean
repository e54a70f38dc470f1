import Mathlib
import DdlCatalog.Proofs.Parsing.Lexing
/-!
# Quoted tokens read back what was quoted

A quoted name or string is written by putting the text between two quotes and doubling each
quote inside it, and, in a string whose backslashes are escapes, each backslash too. The lexer
undoes exactly that: the body of a quoted token read from such a text is the text itself, what
bytes it holds (newlines, delimiters, comment openers, bytes of no well-formed UTF-8 sequence)
notwithstanding, as long as it holds no NUL byte, which ends a script. A script that is one
quoted text is therefore that one token, then `eof`.
-/

namespace DdlCatalog

namespace Utf8

theorem toNat_ofNat_small {n : Nat} (small : n < 256) : (UInt8.ofNat n).toNat = n :=
  UInt8.toNat_ofNat_of_lt' small

/-- A byte below `0x80` stands in the bytes of a character only as the whole of that
character: every byte of a longer sequence has its high bit set. -/
theorem mem_encodeChar_of_lt {c : Char} {b : UInt8} (ascii : b.toNat < 0x80) :
    b ∈ String.utf8EncodeChar c ↔ c.toNat = b.toNat := by
  rw [show c.toNat = c.val.toNat from rfl]
  unfold String.utf8EncodeChar
  simp only
  split_ifs with one two three
  · simp only [List.mem_singleton]
    have small : c.val.toNat < 256 := by omega
    constructor
    · rintro rfl
      exact (toNat_ofNat_small small).symm
    · intro same
      apply UInt8.toNat_inj.mp
      rw [← same]
      exact (toNat_ofNat_small small).symm
  -- the bytes of a longer sequence are all `0x80` or more, and so is the character
  all_goals
    refine iff_of_false (fun inside => ?_) (by omega)
    simp only [List.mem_cons, List.not_mem_nil, or_false] at inside
    rcases inside with rfl | rfl | rfl | rfl <;> simp only [UInt8.toNat_ofNat', Nat.reducePow] at ascii <;> omega

/-- An ASCII character is the one byte of its code. -/
theorem encodeChar_of_lt {c : Char} (ascii : c.toNat < 0x80) :
    String.utf8EncodeChar c = [UInt8.ofNat c.toNat] := by
  unfold String.utf8EncodeChar
  rw [if_pos (show c.val.toNat ≤ 0x7f by exact Nat.le_of_lt_succ ascii)]
  rfl

end Utf8

namespace Sql

/-- The bytes `bs` with each of the bytes `doubled` written twice and every other byte once. -/
def doubleBytes (doubled : List UInt8) (bs : Bytes) : Bytes :=
  bs.flatMap fun b => if b ∈ doubled then [b, b] else [b]

@[simp] theorem doubleBytes_nil (doubled : List UInt8) : doubleBytes doubled [] = [] := rfl

theorem doubleBytes_cons (doubled : List UInt8) (b : UInt8) (bs : Bytes) :
    doubleBytes doubled (b :: bs) = (if b ∈ doubled then [b, b] else [b]) ++ doubleBytes doubled bs := rfl

/-- Bytes none of which is to be doubled stay as they are. -/
theorem doubleBytes_of_forall_not_mem {doubled : List UInt8} :
    ∀ {bs : Bytes}, (∀ b ∈ bs, b ∉ doubled) → doubleBytes doubled bs = bs
  | [], _ => rfl
  | b :: bs, apart => by
    rw [doubleBytes_cons, if_neg (apart b List.mem_cons_self),
      doubleBytes_of_forall_not_mem fun c inside => apart c (List.mem_cons_of_mem b inside)]
    rfl

/-- The bytes a quote `q` doubles inside its body: the quote itself, and the backslash too where
backslashes are escapes. -/
def escapedBy (q : UInt8) (escapes : Bool) : List UInt8 := if escapes then [q, 0x5C] else [q]

/-- A backslash escapes itself. -/
theorem unescape_backslash : unescape 0x5C = [0x5C] := by decide

section Body

variable {q : UInt8} {escapes : Bool} {rest v : Bytes} {n : Nat}

/-- A byte that is neither NUL, nor the quote, nor an escaping backslash stands for itself. -/
theorem quotedBody_plain {b : UInt8} (nonzero : b ≠ 0) (unescaped : (escapes && b == 0x5C) = false)
    (unquoted : b ≠ q) (read : quotedBody q escapes rest = (v, n)) :
    quotedBody q escapes (b :: rest) = (b :: v, n + 1) := by
  rw [quotedBody.eq_def]
  simp [nonzero, unescaped, unquoted, read]

/-- Two backslashes, where backslashes are escapes, stand for one. -/
theorem quotedBody_backslashes (read : quotedBody q true rest = (v, n)) :
    quotedBody q true (0x5C :: 0x5C :: rest) = (0x5C :: v, n + 2) := by
  rw [quotedBody.eq_def]
  simp [read, unescape_backslash]

/-- Two quotes stand for one. -/
theorem quotedBody_quotes (quote : q ≠ 0) (notBackslash : q ≠ 0x5C) (read : quotedBody q escapes rest = (v, n)) :
    quotedBody q escapes (q :: q :: rest) = (q :: v, n + 2) := by
  rw [quotedBody.eq_def]
  simp [read, quote, notBackslash]

/-- A quote that is not doubled closes the body. -/
theorem quotedBody_closing (quote : q ≠ 0) (notBackslash : q ≠ 0x5C) (closes : rest.head? ≠ some q) :
    quotedBody q escapes (q :: rest) = ([], 1) := by
  rw [quotedBody.eq_def]
  cases rest with
  | nil => simp [quote, notBackslash]
  | cons c rest' =>
    have apart : c ≠ q := fun same => closes (by rw [same]; rfl)
    simp [quote, notBackslash, apart]

/-- The body of a quoted token over a doubled text and its closing quote: the text, read to just
past the closing quote. What follows the closing quote must not be the quote again, which would
double it. -/
theorem quotedBody_doubleBytes (escapes : Bool) (quote : q ≠ 0) (notBackslash : q ≠ 0x5C)
    (closes : rest.head? ≠ some q) :
    ∀ s : Bytes, 0 ∉ s →
      quotedBody q escapes (doubleBytes (escapedBy q escapes) s ++ q :: rest) =
        (s, (doubleBytes (escapedBy q escapes) s).length + 1)
  | [], _ => quotedBody_closing quote notBackslash closes
  | b :: s, clean => by
    have nonzero : b ≠ 0 := fun zero => clean (zero ▸ List.mem_cons_self)
    have read := quotedBody_doubleBytes escapes quote notBackslash closes s
      (fun zero => clean (List.mem_cons_of_mem b zero))
    rw [doubleBytes_cons]
    by_cases backslash : escapes = true ∧ b = 0x5C
    · obtain ⟨rfl, rfl⟩ := backslash
      have inside : (0x5C : UInt8) ∈ escapedBy q true := by simp [escapedBy]
      simp only [if_pos inside, List.cons_append, List.nil_append]
      rw [quotedBody_backslashes read]
      simp only [List.length_cons]
    · by_cases quoted : b = q
      · subst quoted
        have inside : b ∈ escapedBy b escapes := by cases escapes <;> simp [escapedBy]
        simp only [if_pos inside, List.cons_append, List.nil_append]
        rw [quotedBody_quotes quote notBackslash read]
        simp only [List.length_cons]
      · have outside : b ∉ escapedBy q escapes := by
          cases escapes <;> simp_all [escapedBy]
        have unescaped : (escapes && b == 0x5C) = false := by
          cases escapes <;> simp_all
        simp only [if_neg outside, List.cons_append, List.nil_append]
        rw [quotedBody_plain nonzero unescaped quoted read]
        simp only [List.length_cons]

end Body

namespace Scanner

variable {opts : LexOptions}

theorem tokenHere_backtick (s : Scanner) (first : s.cur = 0x60) :
    s.tokenHere opts =
      s.emit .quotedIdent (quotedBody 0x60 false s.rest.tail).1 ((quotedBody 0x60 false s.rest.tail).2 + 1) := by
  unfold tokenHere
  simp only [first]
  simp

theorem tokenHere_doubleQuote (s : Scanner) (first : s.cur = 0x22) :
    s.tokenHere opts = s.emit (if opts.ansiQuotes then .quotedIdent else .string)
      (quotedBody 0x22 (!opts.ansiQuotes) s.rest.tail).1 ((quotedBody 0x22 (!opts.ansiQuotes) s.rest.tail).2 + 1) := by
  unfold tokenHere
  simp only [first]
  simp

theorem tokenHere_singleQuote (s : Scanner) (first : s.cur = 0x27) :
    s.tokenHere opts = s.emit .string (quotedBody 0x27 true s.rest.tail).1 ((quotedBody 0x27 true s.rest.tail).2 + 1) := by
  unfold tokenHere
  simp only [first]
  simp

/-- A script that starts with a byte other than a `d` in either case starts no `DELIMITER`
line. -/
theorem atDirective_cons {b : UInt8} (rest : Bytes) (notD : asciiUpperByte b ≠ 0x44) :
    atDirective (b :: rest) = false := by
  have encoded : Utf8.encode "delimiter" = [100, 101, 108, 105, 109, 105, 116, 101, 114] := by
    decide +kernel
  have upper : asciiUpperByte 100 = 0x44 := by decide
  simp [atDirective, encoded, equalFoldAscii, upper, notD]

/-- A script that opens with a quote starts its first token there: a quote is neither a blank
nor the start of a comment, a `DELIMITER` line or the statement delimiter. -/
theorem start_nextToken_quote {q : UInt8} (quote : q = 0x60 ∨ q = 0x22 ∨ q = 0x27) (tail : Bytes) :
    (start (q :: tail)).nextToken opts = ({ start (q :: tail) with lineStart := false }).tokenHere opts := by
  have first : (start (q :: tail)).cur = q := by simp [start, cur, byteAt]
  have none : (start (q :: tail)).triviaStep opts = none := by
    rcases quote with rfl | rfl | rfl <;> simp [triviaStep, first, isSpaceByte]
  have trivia : (start (q :: tail)).skipTrivia opts = start (q :: tail) := by rw [skipTrivia, none]
  have notD : asciiUpperByte q ≠ 0x44 := by rcases quote with rfl | rfl | rfl <;> decide
  unfold nextToken
  simp only [trivia]
  rw [if_neg (by simp [start, atDirective_cons tail notD]), if_neg ?_]
  rcases quote with rfl | rfl | rfl <;> simp [atDelimiter, start, cur, byteAt, defaultDelimiter, List.isPrefixOf]

/-- Where the script ends, the next token is `eof`, and the scanner stays. -/
theorem nextToken_at_end (s : Scanner) (empty : s.rest = []) :
    s.nextToken opts = (⟨.eof, [], s.pos, s.pos.offset⟩, { s with lineStart := false }) := by
  have atEnd : s.cur = 0 := by simp [cur, byteAt, empty]
  have trivia : s.skipTrivia opts = s := by
    rw [skipTrivia, show s.triviaStep opts = none by simp [triviaStep, atEnd, isSpaceByte]]
  unfold nextToken
  simp only [trivia]
  rw [if_neg (by simp [atDirective, empty]), if_neg (by simp [atDelimiter, cur, byteAt, empty])]
  exact tokenHere_at_end _ atEnd

/-- Where the script ends, the scan gives `eof` alone. -/
theorem scan_at_end (s : Scanner) (empty : s.rest = []) :
    ((s.scan opts).1.map fun t => (t.kind, t.literal)) = [(.eof, [])] := by
  rw [scan, nextToken_at_end s empty]
  simp

/-- A step that emits a token other than `eof` and reads a byte is the head of the scan. -/
theorem scan_of_nextToken {s s' : Scanner} {tok : Token} (next : s.nextToken opts = (tok, s'))
    (notEof : tok.kind ≠ .eof) (reads : s'.rest.length < s.rest.length) :
    (s.scan opts).1 = tok :: (s'.scan opts).1 := by
  rw [scan]
  simp only [next, reads, if_true]
  rw [if_neg (by simpa using notEof)]

/-- A script that is one quoted text, the quote and the escapes in it doubled: the quoted token
with the text as its value, then `eof`. -/
theorem scan_enclosed {q : UInt8} (escapes : Bool) {kind : TokenKind} {body : Bytes} (quote : q ≠ 0)
    (notBackslash : q ≠ 0x5C) (clean : 0 ∉ body) (notEof : kind ≠ .eof)
    (opens : ∀ tail, (start (q :: tail)).nextToken opts =
      ({ start (q :: tail) with lineStart := false }).emit kind (quotedBody q escapes tail).1
        ((quotedBody q escapes tail).2 + 1)) :
    (((start (q :: (doubleBytes (escapedBy q escapes) body ++ [q]))).scan opts).1.map
      fun t => (t.kind, t.literal)) = [(kind, body), (.eof, [])] := by
  have read := quotedBody_doubleBytes escapes quote notBackslash (show ([] : Bytes).head? ≠ some q by simp) body clean
  have next := opens (doubleBytes (escapedBy q escapes) body ++ [q])
  rw [read] at next
  -- the token runs to the end of the script
  have empty : (({ start (q :: (doubleBytes (escapedBy q escapes) body ++ [q])) with lineStart := false }).skip
      ((doubleBytes (escapedBy q escapes) body).length + 1 + 1)).rest = [] := by
    simp [start]
  rw [scan_of_nextToken next notEof (by rw [empty]; simp [start]), List.map_cons, scan_at_end _ empty]

end Scanner

/-- The text `s` between two quotes `q`, each character of `doubled` in it written twice. -/
def quoteText (q : Char) (doubled : List Char) (s : String) : String :=
  String.ofList (q :: s.toList.flatMap (fun c => if c ∈ doubled then [c, c] else [c]) ++ [q])

/-- Quoting with ASCII quotes and escapes quotes the bytes: a character to double is one byte,
and the bytes of any other character are not among the bytes to double. -/
theorem encode_quoteText {q : Char} {doubled : List Char} (asciiQuote : q.toNat < 0x80)
    (asciiDoubled : ∀ c ∈ doubled, c.toNat < 0x80) (s : String) :
    Utf8.encode (quoteText q doubled s) =
      UInt8.ofNat q.toNat ::
        (doubleBytes (doubled.map fun c => UInt8.ofNat c.toNat) (Utf8.encode s) ++ [UInt8.ofNat q.toNat]) := by
  rw [Utf8.encode_eq_flatMap, quoteText, String.toList_ofList, Utf8.encode_eq_flatMap, doubleBytes,
    List.flatMap_assoc]
  simp only [List.cons_append, List.flatMap_cons, List.flatMap_append, Utf8.encodeChar_of_lt asciiQuote,
    List.flatMap_nil, List.append_nil, List.nil_append, List.flatMap_assoc]
  congr 2
  apply List.flatMap_congr
  intro c _
  by_cases inside : c ∈ doubled
  · -- a character to double is the one byte of its code, which is doubled
    have byte : UInt8.ofNat c.toNat ∈ doubled.map fun c => UInt8.ofNat c.toNat := List.mem_map_of_mem inside
    simp only [if_pos inside, List.flatMap_cons, List.flatMap_nil, List.append_nil,
      Utf8.encodeChar_of_lt (asciiDoubled c inside), List.singleton_append, if_pos byte]
  · -- the bytes of any other character stay
    rw [if_neg inside, List.flatMap_singleton]
    refine (doubleBytes_of_forall_not_mem fun b found listed => inside ?_).symm
    obtain ⟨d, member, rfl⟩ := List.mem_map.mp listed
    have small := asciiDoubled d member
    have same := (Utf8.mem_encodeChar_of_lt (by rw [Utf8.toNat_ofNat_small (by omega)]; exact small)).mp found
    rw [Utf8.toNat_ofNat_small (by omega)] at same
    exact Char.toNat_inj.mp same ▸ member

/-- A script that is one quoted text, its quote and escapes ASCII characters, is the quoted token
the quote opens, holding the text, then `eof`. -/
theorem tokenize_quoteText {q : Char} {doubled : List Char} (b : UInt8) (escapes : Bool)
    {kind : TokenKind} (s : String) (clean : 0 ∉ Utf8.encode s) (opts : LexOptions)
    (asciiQuote : q.toNat < 0x80) (asciiDoubled : ∀ c ∈ doubled, c.toNat < 0x80)
    (byte : UInt8.ofNat q.toNat = b) (escaped : doubled.map (fun c => UInt8.ofNat c.toNat) = escapedBy b escapes)
    (quote : b ≠ 0) (notBackslash : b ≠ 0x5C) (notEof : kind ≠ .eof)
    (opens : ∀ tail, (Scanner.start (b :: tail)).nextToken opts =
      ({ Scanner.start (b :: tail) with lineStart := false }).emit kind (quotedBody b escapes tail).1
        ((quotedBody b escapes tail).2 + 1)) :
    ((tokenize (quoteText q doubled s) opts).map fun t => (t.kind, t.literal)) =
      [(kind, Utf8.encode s), (.eof, [])] := by
  rw [tokenize, tokenizeWithDelimiter, encode_quoteText asciiQuote asciiDoubled, byte, escaped]
  exact Scanner.scan_enclosed escapes quote notBackslash clean notEof opens

/-- A script that is one quoted text reads back as that text: between backticks, each backtick
doubled, it is a quoted name; between double quotes, each double quote doubled, it is a quoted
name too where double quotes quote names; and between single quotes, each single quote and each
backslash doubled, it is a string. Then comes `eof`. -/
theorem tokenize_quoted (s : String) (clean : 0 ∉ Utf8.encode s) (opts : LexOptions) :
    ((tokenize (quoteText '\x60' ['\x60'] s) opts).map fun t => (t.kind, t.literal)) =
        [(.quotedIdent, Utf8.encode s), (.eof, [])] ∧
      (opts.ansiQuotes = true →
        ((tokenize (quoteText '"' ['"'] s) opts).map fun t => (t.kind, t.literal)) =
          [(.quotedIdent, Utf8.encode s), (.eof, [])]) ∧
      ((tokenize (quoteText '\x27' ['\x27', '\\'] s) opts).map fun t => (t.kind, t.literal)) =
        [(.string, Utf8.encode s), (.eof, [])] := by
  refine ⟨?_, fun ansi => ?_, ?_⟩
  · refine tokenize_quoteText 0x60 false s clean opts (by decide) (by simp) rfl rfl (by decide) (by decide)
      TokenKind.noConfusion fun tail => ?_
    rw [Scanner.start_nextToken_quote (.inl rfl), Scanner.tokenHere_backtick _ rfl]
    rfl
  · refine tokenize_quoteText 0x22 false s clean opts (by decide) (by simp) rfl rfl (by decide) (by decide)
      TokenKind.noConfusion fun tail => ?_
    rw [Scanner.start_nextToken_quote (.inr (.inl rfl)), Scanner.tokenHere_doubleQuote _ rfl, ansi]
    rfl
  · refine tokenize_quoteText 0x27 true s clean opts (by decide) (by simp) rfl rfl (by decide) (by decide)
      TokenKind.noConfusion fun tail => ?_
    rw [Scanner.start_nextToken_quote (.inr (.inr rfl)), Scanner.tokenHere_singleQuote _ rfl]
    rfl

/-- A text with every kind of quote, a backslash, a delimiter and a newline in it reads back
from each of the three quotings. -/
theorem quoted_mixed_text_reads_back :
    0 ∉ Utf8.encode "a\x60b\x27c\"d\\e;\n" ∧
      (((tokenize (quoteText '\x60' ['\x60'] "a\x60b\x27c\"d\\e;\n") { ansiQuotes := true }).map
          fun t => (t.kind, t.literal)) = [(.quotedIdent, Utf8.encode "a\x60b\x27c\"d\\e;\n"), (.eof, [])] ∧
        (({ ansiQuotes := true } : LexOptions).ansiQuotes = true →
          ((tokenize (quoteText '"' ['"'] "a\x60b\x27c\"d\\e;\n") { ansiQuotes := true }).map
            fun t => (t.kind, t.literal)) = [(.quotedIdent, Utf8.encode "a\x60b\x27c\"d\\e;\n"), (.eof, [])]) ∧
        ((tokenize (quoteText '\x27' ['\x27', '\\'] "a\x60b\x27c\"d\\e;\n") { ansiQuotes := true }).map
          fun t => (t.kind, t.literal)) = [(.string, Utf8.encode "a\x60b\x27c\"d\\e;\n"), (.eof, [])]) :=
  have clean : 0 ∉ Utf8.encode "a\x60b\x27c\"d\\e;\n" := by decide +kernel
  ⟨clean, tokenize_quoted _ clean _⟩

end Sql

end DdlCatalog
