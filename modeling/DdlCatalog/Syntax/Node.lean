import DdlCatalog.Syntax.Kind
import DdlCatalog.Sql.Token
/-!
The concrete syntax tree. Every production becomes a node of its kind and every consumed token
a `terminal` child of the production that consumed it, so the tree keeps every keyword and
punctuation mark of the script, and reading its terminals left to right gives back the tokens.

A node's span runs from the start of its first token to the start of its last token, with the
offset just past the last token; its text is the script between those offsets. A node that
consumed no token has an empty text and a span that ends where it starts.
-/

namespace DdlCatalog.Syntax

open DdlCatalog.Sql

/-- The range a node covers: the start of its first token, and the start of its last token
with the offset just past that token. -/
structure Span where
  start : Position
  stop : Position
deriving DecidableEq, Repr, Inhabited

/-- A syntax tree node: a consumed token, or a production with its span, the text it covers
and its children in source order. -/
inductive Node where
  | terminal (token : Token)
  | branch (kind : NodeKind) (span : Span) (text : String) (children : List Node)
deriving Repr, Inhabited

/-- One step of a depth-first walk: entering a production before its children, or leaving it
after them. -/
inductive Visit where
  | enter (n : Node)
  | exit (n : Node)
deriving Repr, Inhabited

namespace Node

/-- The kind of a production; terminals have none. -/
def kind? : Node → Option NodeKind
  | .terminal _ => none
  | .branch k _ _ _ => some k

/-- Whether the node is a production of kind `k`. -/
def isKind (k : NodeKind) (n : Node) : Bool := n.kind? == some k

/-- The children of a production; a terminal has none. -/
def children : Node → List Node
  | .terminal _ => []
  | .branch _ _ _ cs => cs

/-- The source text a production covers; empty for a terminal. -/
def text : Node → String
  | .terminal _ => ""
  | .branch _ _ t _ => t

/-- The span of a node; a terminal spans its token. -/
def span : Node → Span
  | .terminal t => ⟨t.pos, t.pos⟩
  | .branch _ s _ _ => s

/-- Where the node starts. -/
def start (n : Node) : Position := n.span.start

/-- The first child of kind `k`. -/
def child (k : NodeKind) (n : Node) : Option Node := n.children.find? (isKind k)

/-- The children of kind `k`, in order. -/
def childrenOf (k : NodeKind) (n : Node) : List Node := n.children.filter (isKind k)

/-- The tokens of the direct terminal children, in order. -/
def terminals (n : Node) : List Token :=
  n.children.filterMap fun
    | .terminal t => some t
    | _ => none

/-- Whether a direct terminal child is the keyword `kw`. -/
def hasKeyword (kw : String) (n : Node) : Bool := n.terminals.any (·.isWord kw)

/-- The uppercase forms of the direct unquoted words, in order. -/
def words (n : Node) : List String :=
  n.terminals.filterMap fun t => if t.kind == .ident then some (Text.upper t.text) else none

/-- The uppercase form of the first direct unquoted word, or `""`. -/
def firstKeyword (n : Node) : String := n.words.headD ""

/-- The value of the last direct terminal that carries one (a string, number, word or quoted
identifier), skipping punctuation; `""` when there is none. -/
def value (n : Node) : String :=
  match n.terminals.reverse.find? fun t =>
      t.kind == .string || t.kind == .number || t.kind == .ident || t.kind == .quotedIdent with
  | some t => t.text
  | none => ""

/-- Whether the node is a statement. -/
def isStatement (n : Node) : Bool := (n.kind?.map NodeKind.isStatement).getD false

mutual

/-- The first descendant of kind `k` in depth-first order. -/
def find (k : NodeKind) : Node → Option Node
  | .terminal _ => none
  | .branch _ _ _ cs => findIn k cs

/-- The first node of kind `k` among `ns` and their descendants, in depth-first order. -/
def findIn (k : NodeKind) : List Node → Option Node
  | [] => none
  | c :: cs =>
    if c.isKind k then some c
    else match find k c with
      | some f => some f
      | none => findIn k cs

end

mutual

/-- The visits of a depth-first walk of the productions under and including `n`. -/
def walk : Node → List Visit
  | .terminal _ => []
  | n@(.branch _ _ _ cs) => .enter n :: walkAll cs ++ [.exit n]

/-- The visits of the walks of `ns`, one after the other. -/
def walkAll : List Node → List Visit
  | [] => []
  | c :: cs => walk c ++ walkAll cs

end

mutual

/-- The tokens of all terminals under `n`, left to right. -/
def leaves : Node → List Token
  | .terminal t => [t]
  | .branch _ _ _ cs => leavesAll cs

/-- The tokens of all terminals under `ns`, left to right. -/
def leavesAll : List Node → List Token
  | [] => []
  | c :: cs => leaves c ++ leavesAll cs

end

/-- The first word, quoted name or string among the direct terminals. -/
def firstValueToken? (n : Node) : Option Token :=
  n.terminals.find? fun t => t.kind == .ident || t.kind == .quotedIdent || t.kind == .string

/-- The name parts of the identifiers in and under `n`, outermost qualifier first, at most the
last three. -/
def nameParts (n : Node) : List String :=
  let parts := n.walk.filterMap fun
    | .exit m => if m.isKind .identifier then m.firstValueToken?.map Token.text else none
    | .enter _ => none
  parts.drop (parts.length - 3)

end Node

end DdlCatalog.Syntax
