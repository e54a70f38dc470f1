import DdlCatalog.Config.Yaml.Token
/-!
The scanner: characters to tokens.

Block structure comes from indentation. The scanner keeps the columns of the open block
collections. When a line starts left of the innermost one, it closes blocks with `blockEnd`
tokens. When a key or an entry starts right of it, it opens a block with a start token.

A mapping key without `?` is only known as one when the `:` after it is reached. So each flow
level keeps one key candidate: the token number and mark where the last plain, quoted, anchor or
tag token began. When `:` arrives and the candidate is still possible, a `key` token (and, in
block context, a `blockMappingStart`) is inserted at the candidate's place. A candidate expires
at the end of its line or after 1024 characters. If the key was required (it stood at the
indentation of its block mapping), its expiry is the problem "could not find expected ':'".

Every loop consumes a character per round and runs on fuel of the characters left, so the
scanner is total.
-/

namespace DdlCatalog.Config.Yaml

/-- Where a mapping key may have begun. -/
structure KeyCandidate where
  possible : Bool := false
  required : Bool := false
  tokenNumber : Nat := 0
  mark : Mark := {}
deriving Repr, Inhabited

/-- The scanner's state: the text, the position, the tokens so far, the open block columns and
the key candidate of each flow level (innermost first). -/
structure Scanner where
  text : Array Char
  mark : Mark := {}
  tokens : Array Token := #[]
  indent : Int := -1
  indents : List Int := []
  flowLevel : Nat := 0
  keyAllowed : Bool := false
  candidates : List KeyCandidate := []
  started : Bool := false
  finished : Bool := false

namespace Scanner

/-- The character `k` places ahead, NUL past the end. -/
def charAt (s : Scanner) (k : Nat) : Char := s.text.getD (s.mark.index + k) '\x00'

/-- Whether the whole text has been read. -/
def atEnd (s : Scanner) : Bool := s.text.size ≤ s.mark.index

/-- Whether the line starts with `---` or `...` followed by a blank, a break or the end. -/
def atDocumentIndicator (s : Scanner) : Bool :=
  s.mark.column == 0 &&
    ((s.charAt 0 == '-' && s.charAt 1 == '-' && s.charAt 2 == '-') ||
      (s.charAt 0 == '.' && s.charAt 1 == '.' && s.charAt 2 == '.')) &&
    isBlankOrEnd (s.charAt 3)

end Scanner

/-- Scanning: a state over the scanner that may stop at a problem, keeping the tokens so far. -/
abbrev Scan := ExceptT Problem (StateM Scanner)

/-- The character `k` places ahead. -/
def peek (k : Nat := 0) : Scan Char := return (← get).charAt k

/-- The current position. -/
def here : Scan Mark := return (← get).mark

/-- Enough rounds for a loop that consumes a character per round. -/
def fuel : Scan Nat := return (← get).text.size - (← get).mark.index + 1

/-- Moves past one character of a line. -/
def skip : Scan Unit :=
  modify fun s => { s with mark := { s.mark with index := s.mark.index + 1, column := s.mark.column + 1 } }

/-- Moves past a line break, `\r\n` counting as one. -/
def skipBreak : Scan Unit := do
  let c ← peek
  let width := if c == '\r' && (← peek 1) == '\n' then 2 else if isBreak c then 1 else 0
  if width != 0 then
    modify fun s => { s with mark := ⟨s.mark.index + width, s.mark.line + 1, 0⟩ }

/-- Moves past a line break and returns its text: line and paragraph separators stay, every
other break reads as `\n`. -/
def readBreak : Scan String := do
  let c ← peek
  skipBreak
  return if c == '\u2028' || c == '\u2029' then c.toString else "\n"

/-- A scanner problem at the current position, about the construct that began at `context`. -/
def fail {α : Type} (context : Mark) (text : String) : Scan α := do
  throw (.located true context (← here) text)

/-- Appends a token. -/
def emit (kind : TokenKind) (start stop : Mark) : Scan Unit :=
  modify fun s => { s with tokens := s.tokens.push ⟨kind, start, stop⟩ }

/-- Forbids or allows a key candidate at the next token. -/
def allowKey (allowed : Bool) : Scan Unit :=
  modify fun s => { s with keyAllowed := allowed }

/-! ### Blanks, comments and breaks between tokens -/

/-- Skips spaces, and tabs where they cannot be indentation. -/
def skipSpaces : Nat → Scan Unit
  | 0 => pure ()
  | n + 1 => do
    let s ← get
    let c := s.charAt 0
    if c == ' ' || ((s.flowLevel > 0 || !s.keyAllowed) && c == '\t') then
      skip
      skipSpaces n

/-- Skips to the next line break or the end. -/
def skipToBreak : Nat → Scan Unit
  | 0 => pure ()
  | n + 1 => do
    if isBreakOrEnd (← peek) then return
    skip
    skipToBreak n

/-- Skips blanks. -/
def skipBlanks : Nat → Scan Unit
  | 0 => pure ()
  | n + 1 => do
    if !isBlank (← peek) then return
    skip
    skipBlanks n

/-- Skips blanks, comments and line breaks up to the next token. A line break in block context
allows a key candidate again. -/
def toNextToken : Nat → Scan Unit
  | 0 => pure ()
  | n + 1 => do
    let s ← get
    if s.mark.column == 0 && s.charAt 0 == '\uFEFF' then skip
    skipSpaces (← fuel)
    if (← peek) == '#' then skipToBreak (← fuel)
    if isBreak (← peek) then
      skipBreak
      if (← get).flowLevel == 0 then allowKey true
      toNextToken n

/-! ### Key candidates -/

/-- Marks candidates as impossible once they are past their line or 1024 characters old. -/
def expireCandidates (m : Mark) : List KeyCandidate → Except Problem (List KeyCandidate)
  | [] => .ok []
  | k :: rest => do
    let rest ← expireCandidates m rest
    if k.possible && (k.mark.line < m.line || k.mark.index + 1024 < m.index) then
      if k.required then throw (.located true k.mark m "could not find expected ':'")
      return { k with possible := false } :: rest
    return k :: rest

/-- Applies `expireCandidates` at the current position. -/
def dropStaleCandidates : Scan Unit := do
  let s ← get
  match expireCandidates s.mark s.candidates with
  | .ok ks => set { s with candidates := ks }
  | .error p => throw p

/-- Drops the candidate of the current flow level; a required one is a problem. -/
def removeCandidate : Scan Unit := do
  let s ← get
  match s.candidates with
  | k :: rest =>
    if k.possible then
      if k.required then throw (.located true k.mark s.mark "could not find expected ':'")
      set { s with candidates := { k with possible := false } :: rest }
  | [] => pure ()

/-- Records the next token as the candidate of the current flow level, if keys are allowed. -/
def saveCandidate : Scan Unit := do
  let s ← get
  if s.keyAllowed then
    let required := s.flowLevel == 0 && s.indent == (s.mark.column : Int)
    removeCandidate
    let k : KeyCandidate := ⟨true, required, s.tokens.size, s.mark⟩
    modify fun s => { s with candidates := k :: s.candidates.tail }

/-! ### Block indentation -/

/-- Opens a block collection at `column` if it is right of the innermost one, placing its start
token at `position` or at the end. Flow context opens none. -/
def rollIndent (column : Nat) (position : Option Nat) (kind : TokenKind) (m : Mark) : Scan Unit := do
  let s ← get
  if s.flowLevel == 0 && s.indent < column then
    let token : Token := ⟨kind, m, m⟩
    let tokens := match position with
      | some i => s.tokens.insertIdxIfInBounds i token
      | none => s.tokens.push token
    set { s with indents := s.indent :: s.indents, indent := column, tokens }

/-- Closes the blocks right of `column`, one `blockEnd` each. -/
def closeBlocks (column : Int) (m : Mark) : Int → List Int → Array Token → Int × List Int × Array Token
  | indent, [], tokens => (indent, [], tokens)
  | indent, next :: rest, tokens =>
    if column < indent then closeBlocks column m next rest (tokens.push ⟨.blockEnd, m, m⟩)
    else (indent, next :: rest, tokens)

/-- Applies `closeBlocks` at the current position, outside flow context. -/
def unrollIndent (column : Int) : Scan Unit := do
  let s ← get
  if s.flowLevel == 0 then
    let (indent, indents, tokens) := closeBlocks column s.mark s.indent s.indents s.tokens
    set { s with indent, indents, tokens }

/-! ### Indicators -/

/-- The first token. -/
def fetchStreamStart : Scan Unit := do
  modify fun s => { s with started := true, indent := -1, keyAllowed := true, candidates := [{}] }
  let m ← here
  emit .streamStart m m

/-- The last token, on the line after unterminated text. -/
def fetchStreamEnd : Scan Unit := do
  let s ← get
  if s.mark.column != 0 then
    set { s with mark := { s.mark with column := 0, line := s.mark.line + 1 } }
  unrollIndent (-1)
  removeCandidate
  modify fun s => { s with keyAllowed := false, finished := true }
  let m ← here
  emit .streamEnd m m

/-- A `%` directive line, kept as one token. -/
def fetchDirective : Scan Unit := do
  unrollIndent (-1)
  removeCandidate
  allowKey false
  let start ← here
  skipToBreak (← fuel)
  emit .directive start (← here)

/-- `---` or `...`. -/
def fetchDocumentIndicator (kind : TokenKind) : Scan Unit := do
  unrollIndent (-1)
  removeCandidate
  allowKey false
  let start ← here
  skip
  skip
  skip
  emit kind start (← here)

/-- `[` or `\x7b`: one flow level deeper. -/
def fetchFlowStart (kind : TokenKind) : Scan Unit := do
  saveCandidate
  modify fun s => { s with flowLevel := s.flowLevel + 1, candidates := {} :: s.candidates }
  allowKey true
  let start ← here
  skip
  emit kind start (← here)

/-- `]` or `\x7d`: one flow level out. -/
def fetchFlowEnd (kind : TokenKind) : Scan Unit := do
  removeCandidate
  modify fun s =>
    if s.flowLevel > 0 then { s with flowLevel := s.flowLevel - 1, candidates := s.candidates.tail }
    else s
  allowKey false
  let start ← here
  skip
  emit kind start (← here)

/-- `,` between flow entries. -/
def fetchFlowEntry : Scan Unit := do
  removeCandidate
  allowKey true
  let start ← here
  skip
  emit .flowEntry start (← here)

/-- `-` before a block sequence entry. -/
def fetchBlockEntry : Scan Unit := do
  let s ← get
  if s.flowLevel == 0 then
    if !s.keyAllowed then fail s.mark "block sequence entries are not allowed in this context"
    rollIndent s.mark.column none .blockSequenceStart s.mark
  removeCandidate
  allowKey true
  let start ← here
  skip
  emit .blockEntry start (← here)

/-- `?` before an explicit key. -/
def fetchKey : Scan Unit := do
  let s ← get
  if s.flowLevel == 0 then
    if !s.keyAllowed then fail s.mark "mapping keys are not allowed in this context"
    rollIndent s.mark.column none .blockMappingStart s.mark
  removeCandidate
  allowKey (s.flowLevel == 0)
  let start ← here
  skip
  emit .key start (← here)

/-- `:` after a key: the candidate, if still possible, becomes a `key` token. -/
def fetchValue : Scan Unit := do
  let s ← get
  match s.candidates with
  | k :: rest =>
    if k.possible then
      let keyToken : Token := ⟨.key, k.mark, k.mark⟩
      set { s with tokens := s.tokens.insertIdxIfInBounds k.tokenNumber keyToken }
      rollIndent k.mark.column (some k.tokenNumber) .blockMappingStart k.mark
      modify fun s => { s with candidates := { k with possible := false } :: rest }
      allowKey false
    else
      if s.flowLevel == 0 then
        if !s.keyAllowed then fail s.mark "mapping values are not allowed in this context"
        rollIndent s.mark.column none .blockMappingStart s.mark
      allowKey (s.flowLevel == 0)
  | [] => pure ()
  let start ← here
  skip
  emit .value start (← here)

/-! ### Anchors and tags -/

/-- Reads anchor name characters. -/
def readName : Nat → String → Scan String
  | 0, acc => pure acc
  | n + 1, acc => do
    let c ← peek
    if isNameChar c then
      skip
      readName n (acc.push c)
    else pure acc

/-- `*name` or `&name`. -/
def fetchAnchor (isAlias : Bool) : Scan Unit := do
  saveCandidate
  allowKey false
  let start ← here
  skip
  let name ← readName (← fuel) ""
  let c ← peek
  let ends := isBlankOrEnd c || c == '?' || c == ':' || c == ',' || c == ']' || c == '\x7d' ||
    c == '%' || c == '@' || c == '\x60'
  if name.isEmpty || !ends then fail start "did not find expected alphabetic or numeric character"
  emit (if isAlias then .alias name else .anchor name) start (← here)

/-- Characters that may stand in a tag. -/
def isTagChar (c : Char) : Bool :=
  c.isAlphanum || "-_;/?:@&=+$,.!~*'()[]%".toList.contains c

/-- Reads tag characters. -/
def readTag : Nat → String → Scan String
  | 0, acc => pure acc
  | n + 1, acc => do
    let c ← peek
    if isTagChar c then
      skip
      readTag n (acc.push c)
    else pure acc

/-- Splits a tag's text after `!` into handle and suffix: `!!str` has handle `!!`, `!x` has
handle `!`, a lone `!` has no handle and the suffix `!`. -/
def splitTag (body : String) : String × String :=
  let cs := body.toList
  let word := cs.takeWhile fun c => c.isAlphanum || c == '_' || c == '-'
  match cs.drop word.length with
  | '!' :: rest => ("!" ++ String.ofList word ++ "!", String.ofList rest)
  | _ => if cs.isEmpty then ("", "!") else ("!", body)

/-- `!handle!suffix`, `!suffix` or `!<uri>`. -/
def fetchTag : Scan Unit := do
  saveCandidate
  allowKey false
  let start ← here
  skip
  let (handle, suffix) ← if (← peek) == '<' then do
      skip
      let uri ← readTag (← fuel) ""
      if (← peek) != '>' then fail start "did not find the expected '>'"
      skip
      pure ("", uri)
    else do
      let body ← readTag (← fuel) ""
      pure (splitTag body)
  let c ← peek
  if !isBlankOrEnd c && ((← get).flowLevel == 0 || c != ',') then
    fail start "did not find expected whitespace or line break"
  emit (.tag handle suffix) start (← here)

/-! ### Folding of scalar lines -/

/-- The text of a scalar being read, with the blanks and breaks not yet placed. -/
structure Folding where
  text : String := ""
  leadingBreak : String := ""
  trailingBreaks : String := ""
  spaces : String := ""
  leadingBlanks : Bool := false

/-- Places pending blanks: after a line break the break folds to a space, or to the empty lines
that follow it; within a line the spaces stay. -/
def Folding.join (f : Folding) : Folding :=
  if f.leadingBlanks then
    let joined :=
      if f.leadingBreak.startsWith "\n" then
        if f.trailingBreaks.isEmpty then " " else f.trailingBreaks
      else f.leadingBreak ++ f.trailingBreaks
    { f with text := f.text ++ joined, leadingBreak := "", trailingBreaks := "", leadingBlanks := false }
  else { f with text := f.text ++ f.spaces, spaces := "" }

/-- Consumes blanks and line breaks inside a flow scalar, noting them. For a plain scalar
(`plain` holds its indentation and start) a tab left of the indentation on a continuation line
is a problem. -/
def eatBlanks (plain : Option (Int × Mark)) : Nat → Folding → Scan Folding
  | 0, f => pure f
  | n + 1, f => do
    let c ← peek
    if isBlank c then
      if let some (indent, start) := plain then
        if f.leadingBlanks && ((← here).column : Int) < indent && c == '\t' then
          fail start "found a tab character that violates indentation"
      skip
      eatBlanks plain n (if f.leadingBlanks then f else { f with spaces := f.spaces.push c })
    else if isBreak c then
      let b ← readBreak
      if f.leadingBlanks then
        eatBlanks plain n { f with trailingBreaks := f.trailingBreaks ++ b }
      else
        eatBlanks plain n { f with spaces := "", leadingBreak := f.leadingBreak ++ b, leadingBlanks := true }
    else pure f

/-! ### Plain scalars -/

/-- Copies the non-blank characters of one line of a plain scalar, up to `: ` or, in flow
context, a flow indicator. -/
def plainChars : Nat → Folding → Mark → Scan (Folding × Mark)
  | 0, f, stop => pure (f, stop)
  | n + 1, f, stop => do
    let s ← get
    let c := s.charAt 0
    if isBlankOrEnd c then return (f, stop)
    if (c == ':' && isBlankOrEnd (s.charAt 1)) ||
        (s.flowLevel > 0 && (c == ',' || c == '[' || c == ']' || c == '\x7b' || c == '\x7d')) then
      return (f, stop)
    let f := if f.leadingBlanks || !f.spaces.isEmpty then f.join else f
    skip
    plainChars n { f with text := f.text.push c } (← here)

/-- Reads the lines of a plain scalar while they are indented past the enclosing block. -/
def plainLines (start : Mark) (indent : Int) : Nat → Folding → Mark → Scan (Folding × Mark)
  | 0, f, stop => pure (f, stop)
  | n + 1, f, stop => do
    let s ← get
    if s.atDocumentIndicator || s.charAt 0 == '#' then return (f, stop)
    let (f, stop) ← plainChars (← fuel) f stop
    let c ← peek
    if !(isBlank c || isBreak c) then return (f, stop)
    let f ← eatBlanks (some (indent, start)) (← fuel) f
    let s ← get
    if s.flowLevel == 0 && (s.mark.column : Int) < indent then return (f, stop)
    plainLines start indent n f stop

/-- A plain scalar. After a line break inside it a key may follow. -/
def fetchPlain : Scan Unit := do
  saveCandidate
  allowKey false
  let start ← here
  let indent := (← get).indent + 1
  let (f, stop) ← plainLines start indent (← fuel) {} start
  emit (.scalar f.text .plain) start stop
  if f.leadingBlanks then allowKey true

/-! ### Quoted scalars -/

/-- The characters a one-letter escape stands for. -/
def simpleEscape : Char → Option Char
  | '0' => some '\x00'
  | 'a' => some '\x07'
  | 'b' => some '\x08'
  | 't' => some '\t'
  | '\t' => some '\t'
  | 'n' => some '\n'
  | 'v' => some '\x0b'
  | 'f' => some '\x0c'
  | 'r' => some '\r'
  | 'e' => some '\x1b'
  | ' ' => some ' '
  | '"' => some '"'
  | '\'' => some '\''
  | '\\' => some '\\'
  | '/' => some '/'
  | 'N' => some '\x85'
  | '_' => some '\xa0'
  | 'L' => some '\u2028'
  | 'P' => some '\u2029'
  | _ => none

/-- The number of hexadecimal digits after `\x`, `\u` and `\U`. -/
def escapeWidth : Char → Nat
  | 'x' => 2
  | 'u' => 4
  | 'U' => 8
  | _ => 0

/-- The value of the `width` hexadecimal digits ahead. -/
def hexCode (start : Mark) (width : Nat) : Scan Nat := do
  let s ← get
  let digits := (List.range width).map fun k => hexValue? (s.charAt k)
  if digits.all Option.isSome then
    return digits.foldl (fun acc d => acc * 16 + d.getD 0) 0
  else fail start "did not find expected hexdecimal number"

/-- Skips `n` characters. -/
def skipMany : Nat → Scan Unit
  | 0 => pure ()
  | n + 1 => do
    skip
    skipMany n

/-- Copies the non-blank characters of one line of a quoted scalar, decoding escapes. -/
def quotedChars (single : Bool) (start : Mark) : Nat → Folding → Scan Folding
  | 0, f => pure f
  | n + 1, f => do
    let c ← peek
    let d ← peek 1
    if isBlankOrEnd c then return f
    if single && c == '\'' && d == '\'' then
      skip
      skip
      quotedChars single start n { f with text := f.text.push '\'' }
    else if (single && c == '\'') || (!single && c == '"') then return f
    else if !single && c == '\\' && isBreak d then
      skip
      skipBreak
      return { f with leadingBlanks := true }
    else if !single && c == '\\' then
      match simpleEscape d with
      | some e =>
        skip
        skip
        quotedChars single start n { f with text := f.text.push e }
      | none =>
        let width := escapeWidth d
        if width == 0 then fail start "found unknown escape character"
        skip
        skip
        let value ← hexCode start width
        if (0xD800 ≤ value && value ≤ 0xDFFF) || 0x10FFFF < value then
          fail start "found invalid Unicode character escape code"
        skipMany width
        quotedChars single start n { f with text := f.text.push (Char.ofNat value) }
    else
      skip
      quotedChars single start n { f with text := f.text.push c }

/-- Reads the lines of a quoted scalar up to its closing quote. -/
def quotedLines (single : Bool) (start : Mark) : Nat → Folding → Scan Folding
  | 0, f => pure f
  | n + 1, f => do
    let s ← get
    if s.atDocumentIndicator then fail start "found unexpected document indicator"
    if s.atEnd then fail start "found unexpected end of stream"
    let f ← quotedChars single start (← fuel) { f with leadingBlanks := false }
    if (← peek) == (if single then '\'' else '"') then return f
    let f ← eatBlanks none (← fuel) f
    quotedLines single start n f.join

/-- A single- or double-quoted scalar. -/
def fetchQuoted (single : Bool) : Scan Unit := do
  saveCandidate
  allowKey false
  let start ← here
  skip
  let f ← quotedLines single start (← fuel) {}
  skip
  emit (.scalar f.text (if single then .singleQuoted else .doubleQuoted)) start (← here)

/-! ### Block scalars -/

/-- Skips indentation spaces up to `indent` (all of them while it is zero). -/
def skipIndentSpaces (indent : Nat) : Nat → Scan Unit
  | 0 => pure ()
  | n + 1 => do
    let s ← get
    if (indent == 0 || s.mark.column < indent) && s.charAt 0 == ' ' then
      skip
      skipIndentSpaces indent n

/-- Reads the indentation and the empty lines before a content line of a block scalar, and
settles the indentation when it is still open: the deepest of those lines, at least one past
the enclosing block and at least one. -/
def blockBreaks (indent : Nat) (start : Mark) : Nat → String → Nat → Mark → Scan (Nat × String × Mark)
  | 0, breaks, _, stop => pure (indent, breaks, stop)
  | n + 1, breaks, deepest, stop => do
    skipIndentSpaces indent (← fuel)
    let s ← get
    let deepest := max deepest s.mark.column
    if (indent == 0 || s.mark.column < indent) && s.charAt 0 == '\t' then
      fail start "found a tab character where an indentation space is expected"
    if !isBreak (s.charAt 0) then
      if indent != 0 then return (indent, breaks, stop)
      let floor := (s.indent + 1).toNat
      return (max (max deepest floor) 1, breaks, stop)
    let b ← readBreak
    blockBreaks indent start n (breaks ++ b) deepest (← here)

/-- Copies the rest of a line. -/
def lineChars : Nat → String → Scan String
  | 0, acc => pure acc
  | n + 1, acc => do
    let c ← peek
    if isBreakOrEnd c then return acc
    skip
    lineChars n (acc.push c)

/-- The state of a block scalar's lines: text so far, the break that ended the last line, the
empty lines after it, and whether the last line began with a blank. -/
structure BlockLines where
  text : String := ""
  leadingBreak : String := ""
  trailingBreaks : String := ""
  leadingBlank : Bool := false
  stop : Mark := {}

/-- Reads the content lines of a block scalar at `indent`. A folded scalar joins a break
between two lines that do not start with a blank into a space (nothing if empty lines follow). -/
def blockLines (literal : Bool) (indent : Nat) (start : Mark) : Nat → BlockLines → Scan BlockLines
  | 0, b => pure b
  | n + 1, b => do
    let s ← get
    if s.mark.column != indent || s.atEnd then return b
    let trailingBlank := isBlank (s.charAt 0)
    let text :=
      if !literal && b.leadingBreak.startsWith "\n" && !b.leadingBlank && !trailingBlank then
        if b.trailingBreaks.isEmpty then b.text.push ' ' else b.text
      else b.text ++ b.leadingBreak
    let text := text ++ b.trailingBreaks
    let leadingBlank := isBlank (s.charAt 0)
    let text ← lineChars (← fuel) text
    let leadingBreak ← if isBreak (← peek) then readBreak else pure ""
    let (_, trailingBreaks, stop) ← blockBreaks indent start (← fuel) "" 0 (← here)
    blockLines literal indent start n { text, leadingBreak, trailingBreaks, leadingBlank, stop }

/-- Reads a chomping indicator, if one is next. -/
def chompingIndicator : Scan (Option Int) := do
  let c ← peek
  if c == '+' || c == '-' then
    skip
    return some (if c == '+' then 1 else -1)
  return none

/-- Reads an indentation indicator, if one is next; zero is a problem. -/
def indentationIndicator (start : Mark) : Scan Nat := do
  let c ← peek
  if !c.isDigit then return 0
  if c == '0' then fail start "found an indentation indicator equal to 0"
  skip
  return c.toNat - 48

/-- A literal (`|`) or folded (`>`) block scalar. -/
def fetchBlockScalar (literal : Bool) : Scan Unit := do
  removeCandidate
  allowKey true
  let start ← here
  skip
  let (chomping, increment) ← do
    match ← chompingIndicator with
    | some ch => pure (ch, ← indentationIndicator start)
    | none =>
      let inc ← indentationIndicator start
      let ch ← chompingIndicator
      pure (ch.getD 0, inc)
  skipBlanks (← fuel)
  if (← peek) == '#' then skipToBreak (← fuel)
  if !isBreakOrEnd (← peek) then fail start "did not find expected comment or line break"
  if isBreak (← peek) then skipBreak
  let parent := (← get).indent
  let indent : Nat :=
    if increment == 0 then 0 else if 0 ≤ parent then (parent + increment).toNat else increment
  let (indent, trailingBreaks, stop) ← blockBreaks indent start (← fuel) "" 0 (← here)
  let b ← blockLines literal indent start (← fuel) { trailingBreaks, stop }
  let text := if chomping != -1 then b.text ++ b.leadingBreak else b.text
  let text := if chomping == 1 then text ++ b.trailingBreaks else text
  emit (.scalar text (if literal then .literal else .folded)) start b.stop

/-! ### The token loop -/

/-- Whether a plain scalar may start here. -/
def plainStart (s : Scanner) : Bool :=
  let c := s.charAt 0
  let next := s.charAt 1
  !(isBlankOrEnd c || "-?:,[]\x7b\x7d#&*!|>'\"%@\x60".toList.contains c) ||
    (c == '-' && !isBlank next) ||
    (s.flowLevel == 0 && (c == '?' || c == ':') && !isBlankOrEnd next)

/-- Reads the next token (or several, when indentation closes blocks). -/
def fetchNext : Scan Unit := do
  if !(← get).started then
    fetchStreamStart
    return
  toNextToken (← fuel)
  dropStaleCandidates
  unrollIndent (← here).column
  let s ← get
  let c := s.charAt 0
  let next := s.charAt 1
  if s.atEnd then fetchStreamEnd
  else if s.mark.column == 0 && c == '%' then fetchDirective
  else if s.atDocumentIndicator && c == '-' then fetchDocumentIndicator .documentStart
  else if s.atDocumentIndicator then fetchDocumentIndicator .documentEnd
  else if c == '[' then fetchFlowStart .flowSequenceStart
  else if c == '\x7b' then fetchFlowStart .flowMappingStart
  else if c == ']' then fetchFlowEnd .flowSequenceEnd
  else if c == '\x7d' then fetchFlowEnd .flowMappingEnd
  else if c == ',' then fetchFlowEntry
  else if c == '-' && isBlankOrEnd next then fetchBlockEntry
  else if c == '?' && (s.flowLevel > 0 || isBlankOrEnd next) then fetchKey
  else if c == ':' && (s.flowLevel > 0 || isBlankOrEnd next) then fetchValue
  else if c == '*' then fetchAnchor true
  else if c == '&' then fetchAnchor false
  else if c == '!' then fetchTag
  else if c == '|' && s.flowLevel == 0 then fetchBlockScalar true
  else if c == '>' && s.flowLevel == 0 then fetchBlockScalar false
  else if c == '\'' then fetchQuoted true
  else if c == '"' then fetchQuoted false
  else if plainStart s then fetchPlain
  else fail s.mark "found character that cannot start any token"

/-- Reads tokens until the end of the stream. -/
def fetchAll : Nat → Scan Unit
  | 0 => pure ()
  | n + 1 => do
    if (← get).finished then return
    fetchNext
    fetchAll n

/-- Characters a YAML stream may hold: tab, line feed, carriage return, the printable ASCII
range, next line, and the rest of Unicode but surrogates, `FFFE` and `FFFF`. -/
def isAllowedChar (c : Char) : Bool :=
  let v := c.toNat
  v == 0x09 || v == 0x0A || v == 0x0D || (0x20 ≤ v && v ≤ 0x7E) || v == 0x85 ||
    (0xA0 ≤ v && v ≤ 0xD7FF) || (0xE000 ≤ v && v ≤ 0xFFFD) || (0x10000 ≤ v && v ≤ 0x10FFFF)

/-- The tokens of a text: all of them up to the end of the stream, or those before the first
problem together with it. -/
def tokenize (text : String) : Array Token × Option Problem :=
  if !text.toList.all isAllowedChar then (#[], some (.plain "control characters are not allowed"))
  else
    let chars := text.toList.toArray
    let (result, s) := (fetchAll (chars.size + 3)).run.run { text := chars }
    match result with
    | .ok () => (s.tokens, none)
    | .error p => (s.tokens, some p)

end DdlCatalog.Config.Yaml
