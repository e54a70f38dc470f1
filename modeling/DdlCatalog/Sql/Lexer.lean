import DdlCatalog.Sql.Token
import DdlCatalog.Text.Blank
/-!
The lexer: a script's bytes to tokens. Blanks and comments (`-- `, `#`, `/* */`) separate
tokens. A versioned comment `/*!NNNNN ... */` whose number the server version accepts is read
as part of the script, and its closing `*/` is skipped. A `DELIMITER xx` line at the start of a
line installs a new statement delimiter, and each occurrence of the active delimiter is an
`endStmt` token. A NUL byte ends the script.

`tokenize` returns every token up to and including the final `eof`, which sits where the
script ends.
-/

namespace DdlCatalog.Sql

/-- Lexer settings: whether `"..."` quotes an identifier, and the numeric server version that
decides which versioned comments are read (0 reads all of them). -/
structure LexOptions where
  ansiQuotes : Bool := false
  serverVersion : Int := 0
deriving Repr, Inhabited

/-- The byte at index `n`, or 0 past the end; a NUL byte and the end of input read alike. -/
def byteAt (bs : Bytes) (n : Nat) : UInt8 := bs.getD n 0

/-- An ASCII decimal digit. -/
def isDigit (b : UInt8) : Bool := 0x30 ≤ b && b ≤ 0x39

/-- An ASCII hexadecimal digit. -/
def isHexDigit (b : UInt8) : Bool :=
  isDigit b || (0x61 ≤ b && b ≤ 0x66) || (0x41 ≤ b && b ≤ 0x46)

/-- A byte that can start an unquoted word: a letter, `_`, `$` or any non-ASCII byte. -/
def isWordStart (b : UInt8) : Bool :=
  b == 0x5F || b == 0x24 || b ≥ 0x80 || (0x61 ≤ b && b ≤ 0x7A) || (0x41 ≤ b && b ≤ 0x5A)

/-- A byte that can continue an unquoted word. -/
def isWordPart (b : UInt8) : Bool := isWordStart b || isDigit b

/-- Space, tab, newline or carriage return. -/
def isSpaceByte (b : UInt8) : Bool := b == 0x20 || b == 0x09 || b == 0x0A || b == 0x0D

/-- The position of the next byte, given whether that byte is a newline. -/
def Position.step (p : Position) (next : Option UInt8) : Position :=
  if next == some 0x0A then { line := p.line + 1, column := 0, offset := p.offset + 1 }
  else { p with column := p.column + 1, offset := p.offset + 1 }

/-- The lexer's state: the unread bytes, the position of the first of them, the active
delimiter, whether only blanks were seen since the last newline, and whether an accepted
versioned comment is open. -/
structure Scanner where
  rest : Bytes
  pos : Position
  delimiter : Bytes
  lineStart : Bool
  inVersioned : Bool
deriving Repr, Inhabited

/-- The statement delimiter before any `DELIMITER` line. -/
def defaultDelimiter : Bytes := [0x3B]

namespace Scanner

/-- A scanner at the start of `input`. -/
def start (input : Bytes) : Scanner :=
  let pos : Position :=
    if input.head? == some 0x0A then { line := 2, column := 0, offset := 0 }
    else { line := 1, column := 1, offset := 0 }
  { rest := input, pos, delimiter := defaultDelimiter, lineStart := true, inVersioned := false }

/-- The current byte; 0 at the end. -/
def cur (s : Scanner) : UInt8 := byteAt s.rest 0

/-- The byte `n` places after the current one; 0 past the end. -/
def peekAt (s : Scanner) (n : Nat) : UInt8 := byteAt s.rest n

/-- Moves past `n` bytes, keeping track of lines and columns. -/
def skip : Nat → Scanner → Scanner
  | 0, s => s
  | n + 1, s =>
    match s.rest with
    | [] => s
    | _ :: tail => skip n { s with rest := tail, pos := s.pos.step tail.head? }

/-- Whether the active delimiter starts at the current byte. -/
def atDelimiter (s : Scanner) : Bool := s.cur != 0 && s.delimiter.isPrefixOf s.rest

end Scanner

/-- The number of leading bytes that satisfy `p`, stopping at a NUL byte. -/
def spanWhile (p : UInt8 → Bool) : Bytes → Nat
  | [] => 0
  | b :: bs => if b != 0 && p b then spanWhile p bs + 1 else 0

/-- The length of a line comment's text: everything up to the newline or the end. -/
def lineSpan : Bytes → Nat := spanWhile (· != 0x0A)

/-- The length of a block comment from its opening `/*`: up to and including the closing
`*/`, or up to the end when it is not closed. -/
def blockSpan (bs : Bytes) : Nat :=
  let rec body : Bytes → Nat
    | [] => 0
    | 0 :: _ => 0
    | 0x2A :: 0x2F :: _ => 2
    | _ :: rest => body rest + 1
  2 + body (bs.drop 2)

/-- The number of leading digits of a versioned comment's number, at most six. -/
def versionDigits (bs : Bytes) : Nat := min 6 (spanWhile isDigit bs)

/-- The value of decimal digits. -/
def digitsValue (bs : Bytes) : Nat := bs.foldl (fun acc b => acc * 10 + (b - 0x30).toNat) 0

/-- Whether `rest` starts a `DELIMITER` line: the word in any ASCII case, then a space or a
tab. -/
def atDirective (rest : Bytes) : Bool :=
  rest.length > 9 && equalFoldAscii (rest.take 9) (Utf8.encode "delimiter") &&
    (byteAt rest 9 == 0x20 || byteAt rest 9 == 0x09)

/-- The length of a number: digits, an optional fraction, and an exponent when digits follow
the `e`. -/
def numberSpan (bs : Bytes) : Nat :=
  let whole := spanWhile isDigit bs
  let r1 := bs.drop whole
  let frac := if byteAt r1 0 == 0x2E && isDigit (byteAt r1 1) then
      1 + spanWhile isDigit (r1.drop 1) else 0
  let r2 := r1.drop frac
  let e := byteAt r2 0
  let exp :=
    if e == 0x65 || e == 0x45 then
      if isDigit (byteAt r2 1) then 1 + spanWhile isDigit (r2.drop 1)
      else if (byteAt r2 1 == 0x2B || byteAt r2 1 == 0x2D) && isDigit (byteAt r2 2) then
        2 + spanWhile isDigit (r2.drop 2)
      else 0
    else 0
  whole + frac + exp

/-- The bytes that a backslash escape stands for. `\%` and `\_` keep their backslash; any other
byte stands for the character with that code. -/
def unescape (c : UInt8) : Bytes :=
  match c with
  | 0x6E => [0x0A]
  | 0x74 => [0x09]
  | 0x72 => [0x0D]
  | 0x30 => [0x00]
  | 0x62 => [0x08]
  | 0x5A => [0x1A]
  | 0x25 => [0x5C, 0x25]
  | 0x5F => [0x5C, 0x5F]
  | _ => Utf8.encodeChar (Char.ofNat c.toNat)

/-- The body of a quoted token after its opening quote `q`: the value, and the number of bytes
read including the closing quote. A doubled quote stands for one quote; with `escapes`,
backslash escapes are read too. An unclosed body runs to the end. -/
def quotedBody (q : UInt8) (escapes : Bool) : Bytes → Bytes × Nat
  | [] => ([], 0)
  | b :: rest =>
    if b == 0 then ([], 0)
    else if escapes && b == 0x5C then
      match rest with
      | [] => ([], 1)
      | c :: rest' =>
        if c == 0 then ([], 1)
        else
          let (v, n) := quotedBody q escapes rest'
          (unescape c ++ v, n + 2)
    else if b == q then
      match rest with
      | c :: rest' =>
        if c == q then
          let (v, n) := quotedBody q escapes rest'
          (q :: v, n + 2)
        else ([], 1)
      | [] => ([], 1)
    else
      let (v, n) := quotedBody q escapes rest
      (b :: v, n + 1)

/-- The length of an unquoted word, which stops before the active delimiter. -/
def wordSpan (delimiter : Bytes) : Bytes → Nat
  | [] => 0
  | b :: bs =>
    if b != 0 && isWordPart b && !delimiter.isPrefixOf (b :: bs) then wordSpan delimiter bs + 1
    else 0

namespace Scanner

/-- One step over blanks and comments, or `none` when a token starts here. -/
def triviaStep (opts : LexOptions) (s : Scanner) : Option Scanner :=
  let c := s.cur
  if isSpaceByte c then
    some { s.skip 1 with lineStart := s.lineStart || c == 0x0A }
  else if c == 0x2D && s.peekAt 1 == 0x2D && (isSpaceByte (s.peekAt 2) || s.peekAt 2 == 0) then
    some (s.skip (lineSpan s.rest))
  else if c == 0x23 then
    some (s.skip (lineSpan s.rest))
  else if c == 0x2F && s.peekAt 1 == 0x2A then
    let n := versionDigits (s.rest.drop 3)
    let version := digitsValue ((s.rest.drop 3).take n)
    if s.peekAt 2 == 0x21 && !s.inVersioned &&
        !(version != 0 && opts.serverVersion != 0 && opts.serverVersion < (version : Int)) then
      some { s.skip (3 + n) with inVersioned := true }
    else some (s.skip (blockSpan s.rest))
  else if s.inVersioned && c == 0x2A && s.peekAt 1 == 0x2F then
    some { s.skip 2 with inVersioned := false }
  else none

/-- Skips blanks and comments. A step that reads nothing ends the walk. -/
def skipTrivia (opts : LexOptions) (s : Scanner) : Scanner :=
  match triviaStep opts s with
  | none => s
  | some s' => if s'.rest.length < s.rest.length then skipTrivia opts s' else s'
termination_by s.rest.length

/-- A token of `n` bytes from the current position, with the given kind and value. -/
def emit (s : Scanner) (kind : TokenKind) (literal : Bytes) (n : Nat) : Token × Scanner :=
  let s' := s.skip n
  (⟨kind, literal, s.pos, s'.pos.offset⟩, s')

/-- The token that starts at the current byte, after blanks and comments have been skipped. -/
def tokenHere (opts : LexOptions) (s : Scanner) : Token × Scanner :=
  let c := s.cur
  let p1 := s.peekAt 1
  let p2 := s.peekAt 2
  let op (n : Nat) := s.emit .operator (s.rest.take n) n
  let punct (kind : TokenKind) (n : Nat) := s.emit kind (s.rest.take n) n
  if c == 0 then (⟨.eof, [], s.pos, s.pos.offset⟩, s)
  else if c == 0x2B then punct .plus 1
  else if c == 0x2D then
    if p1 == 0x3E then (if p2 == 0x3E then op 3 else op 2) else punct .minus 1
  else if c == 0x2A then punct .star 1
  else if c == 0x2F then punct .slash 1
  else if c == 0x25 then punct .percent 1
  else if c == 0x3D then punct .eq 1
  else if c == 0x3C then
    if p1 == 0x3D then (if p2 == 0x3E then op 3 else punct .le 2)
    else if p1 == 0x3E then punct .ne 2
    else if p1 == 0x3C then op 2
    else punct .lt 1
  else if c == 0x3E then
    if p1 == 0x3D then punct .ge 2 else if p1 == 0x3E then op 2 else punct .gt 1
  else if c == 0x21 then
    if p1 == 0x3D then punct .ne 2 else op 1
  else if c == 0x7C || c == 0x26 then
    if p1 == c then op 2 else op 1
  else if c == 0x5E || c == 0x7E || c == 0x3F then op 1
  else if c == 0x3A then
    if p1 == 0x3D then op 2 else punct .colon 1
  else if c == 0x2E then
    if isDigit p1 then
      let n := numberSpan s.rest
      s.emit .number (s.rest.take n) n
    else punct .dot 1
  else if c == 0x2C then punct .comma 1
  else if c == 0x28 then punct .lparen 1
  else if c == 0x29 then punct .rparen 1
  else if c == 0x40 then punct .at 1
  else if c == 0x3B then punct .semicolon 1
  else if c == 0x27 then
    let (v, n) := quotedBody 0x27 true s.rest.tail
    s.emit .string v (n + 1)
  else if c == 0x22 then
    let (v, n) := quotedBody 0x22 (!opts.ansiQuotes) s.rest.tail
    s.emit (if opts.ansiQuotes then .quotedIdent else .string) v (n + 1)
  else if c == 0x60 then
    let (v, n) := quotedBody 0x60 false s.rest.tail
    s.emit .quotedIdent v (n + 1)
  else if (c == 0x78 || c == 0x58 || c == 0x62 || c == 0x42 || c == 0x6E || c == 0x4E) &&
      p1 == 0x27 then
    let isNational := c == 0x6E || c == 0x4E
    let (v, n) := quotedBody 0x27 isNational (s.rest.drop 2)
    let prefixByte := if c < 0x61 then c + 0x20 else c
    let literal := if isNational then v else prefixByte :: 0x27 :: v ++ [0x27]
    s.emit .string literal (n + 2)
  else if isDigit c then
    if c == 0x30 && (p1 == 0x78 || p1 == 0x58) then
      let n := 2 + spanWhile isHexDigit (s.rest.drop 2)
      s.emit .number (s.rest.take n) n
    else
      let n := numberSpan s.rest
      let after := { s.skip n with lineStart := false }
      if isWordStart after.cur && !after.atDelimiter then
        let m := n + wordSpan s.delimiter (s.rest.drop n)
        s.emit .ident (s.rest.take m) m
      else s.emit .number (s.rest.take n) n
  else if isWordStart c then
    let n := wordSpan s.delimiter s.rest
    s.emit .ident (s.rest.take n) n
  else s.emit .illegal [c] 1

/-- The next token and the scanner after it. -/
def nextToken (opts : LexOptions) (s0 : Scanner) : Token × Scanner :=
  let s := s0.skipTrivia opts
  if s.lineStart && atDirective s.rest then
    let n := lineSpan s.rest
    let words := Text.fields (Text.trimBlank (Utf8.decode (s.rest.take n)))
    let delimiter := match words with
      | _ :: d :: _ => Utf8.encode d
      | _ => s.delimiter
    let s' := { s.skip n with delimiter }
    (⟨.delimiter, delimiter, s.pos, s'.pos.offset⟩, s')
  else
    let s := { s with lineStart := false }
    if s.atDelimiter then s.emit .endStmt s.delimiter s.delimiter.length
    else s.tokenHere opts

/-- The tokens from the scanner's position to the end, the final `eof` included, and the
delimiter active at the end. A token that reads no byte other than `eof` ends the list. -/
def scan (opts : LexOptions) (s : Scanner) : List Token × Bytes :=
  let (tok, s') := s.nextToken opts
  if tok.kind == .eof then ([tok], s'.delimiter)
  else if s'.rest.length < s.rest.length then
    let (toks, d) := scan opts s'
    (tok :: toks, d)
  else ([tok], s'.delimiter)
termination_by s.rest.length

end Scanner

/-- The tokens of a script, ending with `eof`, and the delimiter active after its last line. -/
def tokenizeWithDelimiter (input : String) (opts : LexOptions := {}) : List Token × Bytes :=
  (Scanner.start (Utf8.encode input)).scan opts

/-- The tokens of a script, ending with `eof`. -/
def tokenize (input : String) (opts : LexOptions := {}) : List Token :=
  (tokenizeWithDelimiter input opts).1

end DdlCatalog.Sql
