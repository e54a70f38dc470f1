import DdlCatalog.Syntax.Node
import DdlCatalog.Sql.Lexer
/-!
The machinery of the statement parser. A parse runs over the token list of a script with a
three-token window. Every production opens a node, every consumed token becomes a terminal of
the innermost open node, and closing a node records its span and source text. A production
that meets a token it cannot accept records one parse error and abandons the statement; the
statement level then keeps the rest of the statement's tokens as an `otherStatement`.
-/

namespace DdlCatalog.Syntax

open DdlCatalog.Sql

/-- Why a statement failed to parse. `found` describes the offending token. -/
inductive ParseProblem where
  | unexpectedToken (found expected : String)
  | unexpectedWord (found expected : String)
  | expectedIdentifier (found : String)
  | expectedNumber (found : String)
  | unbalancedParens
  | unexpectedEnd
  | trailingInput (found : String)
  | unsupportedClause (found : String)
deriving DecidableEq, Repr, Inhabited

/-- The text of a parse problem. -/
def ParseProblem.message : ParseProblem → String
  | .unexpectedToken f e => "unexpected token " ++ f ++ ", expected " ++ e
  | .unexpectedWord f e => "unexpected " ++ f ++ ", expected " ++ e
  | .expectedIdentifier f => "expected identifier, got " ++ f
  | .expectedNumber f => "expected number, got " ++ f
  | .unbalancedParens => "unbalanced parentheses"
  | .unexpectedEnd => "unexpected end of statement"
  | .trailingInput f => "unexpected " ++ f ++ " after end of statement"
  | .unsupportedClause f => "unsupported clause starting at " ++ f

/-- A parse error: where the offending token starts, and the problem. -/
structure ParseError where
  pos : Position
  problem : ParseProblem
deriving DecidableEq, Repr, Inhabited

/-- The message of a parse error. -/
def ParseError.message (e : ParseError) : String := e.problem.message

/-- A parse error as one line: `parse error at line L, column C: message`. -/
def ParseError.render (e : ParseError) : String :=
  "parse error at line " ++ toString e.pos.line ++ ", column " ++ toString e.pos.column ++
    ": " ++ e.message

/-- How a token is named in a parse error: the end of a statement, the quoted value of a word,
number or string, or the name of its kind. -/
def describeToken (t : Token) : String :=
  match t.kind with
  | .eof | .endStmt => "end of statement"
  | .ident | .quotedIdent | .number | .string => Text.quoteBytes t.literal
  | k => k.name

/-- The state of a parse: the tokens and the index of the current one, the script's bytes, the
end offset and start of the last consumed token, the children of the innermost open node, and
the errors so far. -/
structure ParseState where
  tokens : Array Token
  index : Nat
  source : ByteArray
  prevEnd : Nat
  prevPos : Position
  children : Array Node
  errors : Array ParseError
  /-- Some loop ended because a round that asked to go on consumed nothing; such a loop would
  otherwise repeat that round forever. Nothing reads it: it records that the parse got stuck. -/
  stalled : Bool

/-- A parse step. Failing abandons the statement and keeps the state of the failure. -/
abbrev Parse := EStateM Unit ParseState

namespace ParseState

/-- A parse state at the first token of `tokens`. -/
def init (source : ByteArray) (tokens : Array Token) : ParseState :=
  { tokens, index := 0, source, prevEnd := 0, prevPos := default, children := #[], errors := #[],
    stalled := false }

/-- The token `k` places after the current one; past the end, the final `eof` again. -/
def ahead (s : ParseState) (k : Nat) : Token :=
  s.tokens.getD (s.index + k) (s.tokens.back?.getD default)

/-- The number of tokens from the current one to the end. -/
def remaining (s : ParseState) : Nat := s.tokens.size - s.index

/-- The span and text of a node that started at `start`, given the last consumed token. -/
def spanFrom (s : ParseState) (start : Position) : Span × String :=
  if s.prevEnd ≤ start.offset then (⟨start, start⟩, "")
  else
    (⟨start, { s.prevPos with offset := s.prevEnd }⟩,
      Utf8.decode (s.source.extract start.offset s.prevEnd).toList)

end ParseState

namespace Parse

/-- The current token. -/
def cur : Parse Token := do return (← get).ahead 0

/-- The token after the current one. -/
def peek : Parse Token := do return (← get).ahead 1

/-- Whether the current token has kind `k`. -/
def check (k : TokenKind) : Parse Bool := do return (← cur).kind == k

/-- Whether the current token is the word `kw`. -/
def isWord (kw : String) : Parse Bool := do return (← cur).isWord kw

/-- Whether the current token is one of the words `kws`. -/
def isAny (kws : List String) : Parse Bool := do return (← cur).isAnyWord kws

/-- Whether the next tokens are the words `kws`, at most three of them. -/
def isSeq (kws : List String) : Parse Bool := do
  let s ← get
  return kws.length ≤ 3 && (kws.zipIdx.all fun (kw, i) => (s.ahead i).isWord kw)

/-- Whether the statement has no more tokens: the current token ends it or the script. -/
def atEnd : Parse Bool := do
  let k := (← cur).kind
  return k == .endStmt || k == .eof || k == .delimiter

/-- Consumes the current token as a terminal of the innermost open node; `eof` stays. -/
def next : Parse Token := do
  let s ← get
  let t := s.ahead 0
  if t.kind == .eof then return t
  set { s with index := s.index + 1, children := s.children.push (.terminal t),
               prevEnd := t.endOffset, prevPos := t.pos }
  return t

/-- Records a problem at the current token and abandons the statement. -/
def fail (p : ParseProblem) : Parse α := do
  let s ← get
  set { s with errors := s.errors.push ⟨(s.ahead 0).pos, p⟩ }
  throw ()

/-- Fails with the problem built from the description of the current token. -/
def failAt (p : String → ParseProblem) : Parse α := do fail (p (describeToken (← cur)))

/-- Consumes the current token if it has kind `k`. -/
def accept? (k : TokenKind) : Parse Bool := do
  if (← check k) then discard next; return true
  return false

/-- Consumes a token of kind `k`, or fails. -/
def expect (k : TokenKind) : Parse Unit := do
  unless (← check k) do failAt (.unexpectedToken · k.name)
  discard next

/-- Consumes the current token if it is the word `kw`. -/
def accept (kw : String) : Parse Bool := do
  if (← isWord kw) then discard next; return true
  return false

/-- Consumes the words `kws` if all of them come next. -/
def acceptSeq (kws : List String) : Parse Bool := do
  if (← isSeq kws) then
    for _ in kws do discard next
    return true
  return false

/-- Consumes the words `kws` in order, failing at the first that is missing. -/
def expectKw (kws : List String) : Parse Unit := do
  for kw in kws do
    unless (← isWord kw) do failAt (.unexpectedWord · kw)
    discard next

/-- Consumes the current token, whatever it is. -/
def skip : Parse Unit := discard next

/-- Runs `body` inside a new node of kind `kind`: the node starts at the current token and
covers what `body` consumes. -/
def node (kind : NodeKind) (body : Parse α) : Parse α := do
  let s ← get
  let start := (s.ahead 0).pos
  set { s with children := #[] }
  let a ← body
  modify fun s' =>
    let (span, text) := s'.spanFrom start
    { s' with children := s.children.push (.branch kind span text s'.children.toList) }
  return a

/-- The uppercase first word among the children of the innermost open node, or `""`. -/
def firstWordSoFar : Parse String := do
  return (Node.branch .expr ⟨default, default⟩ "" (← get).children.toList).firstKeyword

/-- Runs `step` from `b` for as long as it asks to go on. A step that consumes no token ends
the loop and marks the state as stalled, so every loop ends. -/
def loopFrom (step : β → Parse (Bool × β)) (b : β) : Parse β := fun s =>
  match step b s with
  | .ok (true, b') s' =>
    if s'.remaining < s.remaining then loopFrom step b' s' else .ok b' { s' with stalled := true }
  | .ok (false, b') s' => .ok b' s'
  | .error e s' => .error e s'
termination_by s => s.remaining

/-- Runs `step` for as long as it returns `true`, as `loopFrom` does. -/
def loop (step : Parse Bool) : Parse Unit :=
  loopFrom (fun _ => do return (← step, ())) ()

/-- Runs `item` once, then again after each comma. -/
def commaList (item : Parse Unit) : Parse Unit :=
  loop do item; accept? .comma

end Parse

end DdlCatalog.Syntax
