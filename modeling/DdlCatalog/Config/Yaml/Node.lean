import DdlCatalog.Config.Yaml.Scan
/-!
Tokens to the node tree of the first document.

The parser descends by recursion. It works from the token stream and, when that stream stops
early, from the scanner's problem. A problem is raised only when the parser reaches that
point, so a document that ends before a later fault still reads. After the first document's
root, one more token is looked at, which is how a stream that breaks right after it still
fails.

Structure problems name the construct being read and the token that did not fit. Their lines
follow `Problem.message`.
-/

namespace DdlCatalog.Config.Yaml

/-- A node of a YAML document, with the line (from one) where it starts. -/
inductive Node where
  | scalar (text : String) (style : ScalarStyle) (tag : String) (line : Nat)
  | sequence (items : List Node) (tag : String) (line : Nat)
  | mapping (entries : List (Node × Node)) (tag : String) (line : Nat)
deriving Inhabited

/-- The line where a node starts. -/
def Node.line : Node → Nat
  | .scalar _ _ _ line => line
  | .sequence _ _ line => line
  | .mapping _ _ line => line

/-- The empty plain scalar that stands for a missing node at a mark. -/
def Node.empty (m : Mark) : Node := .scalar "" .plain "" (m.line + 1)

/-- The tokens, and the problem that stopped the scanner if one did. -/
structure TokenStream where
  tokens : Array Token
  problem : Option Problem

/-- The parser's position and the anchors defined so far. -/
structure Cursor where
  position : Nat := 0
  anchors : List (String × Node) := []

/-- Parsing: reads the stream, moves the cursor, may stop at a problem. -/
abbrev Parse := ReaderT TokenStream (StateT Cursor (Except Problem))

/-- The next token; past the read tokens, the scanner's problem. -/
def peekToken : Parse Token := do
  let stream ← read
  match stream.tokens[(← get).position]? with
  | some t => return t
  | none => throw (stream.problem.getD (.plain "did not find expected node content"))

/-- Moves past the next token. -/
def skipToken : Parse Unit := modify fun c => { c with position := c.position + 1 }

/-- A structure problem at `fault`, about the construct that began at `context`. -/
def structureFail {α : Type} (context fault : Mark) (text : String) : Parse α :=
  throw (.located false context fault text)

/-- Whether a token is one of those that end a block mapping's key or value. -/
def TokenKind.closesBlockPart : TokenKind → Bool
  | .key | .value | .blockEnd => true
  | _ => false

/-- The full tag for a handle and suffix: `!!` is the core schema's prefix, `!` stays. -/
def resolveTag (context : Mark) (fault : Mark) (handle suffix : String) : Parse String :=
  if handle == "" then pure suffix
  else if handle == "!!" then pure ("tag:yaml.org,2002:" ++ suffix)
  else if handle == "!" then pure ("!" ++ suffix)
  else structureFail context fault "found undefined tag handle"

/-- Reads an anchor and a tag before a node, in either order. -/
def properties : Parse (Option String × Option (String × String × Mark)) := do
  let t ← peekToken
  match t.kind with
  | .anchor name =>
    skipToken
    let t2 ← peekToken
    match t2.kind with
    | .tag h s =>
      skipToken
      return (some name, some (h, s, t2.start))
    | _ => return (some name, none)
  | .tag h s =>
    skipToken
    let t2 ← peekToken
    match t2.kind with
    | .anchor name =>
      skipToken
      return (some name, some (h, s, t.start))
    | _ => return (none, some (h, s, t.start))
  | _ => return (none, none)

mutual

/-- A node: an alias, or properties followed by a scalar, a collection, or nothing. `block`
allows block collections; `indentless` allows a sequence of `-` entries at the indentation of
the mapping it is a value of. -/
def node : Nat → Bool → Bool → Parse Node
  | 0, _, _ => throw (.plain "document nested too deeply")
  | fuel + 1, block, indentless => do
    let first ← peekToken
    if let .alias name := first.kind then
      skipToken
      match (← get).anchors.lookup name with
      | some n => return n
      | none => throw (.plain ("unknown anchor '" ++ name ++ "' referenced"))
    let start := first.start
    let line := start.line + 1
    let (anchor, tagged) ← properties
    let tag ← match tagged with
      | some (h, s, m) => resolveTag start m h s
      | none => pure ""
    let t ← peekToken
    let result ← match t.kind with
      | .blockEntry =>
        if indentless then
          (fun items => Node.sequence items tag line) <$> indentlessSequence fuel []
        else emptyOrFail start t anchor.isSome tagged.isSome tag line
      | .scalar text style =>
        skipToken
        pure (Node.scalar text style tag line)
      | .flowSequenceStart =>
        skipToken
        let items ← flowSequence fuel t.start true []
        pure (Node.sequence items tag line)
      | .flowMappingStart =>
        skipToken
        let entries ← flowMapping fuel t.start true []
        pure (Node.mapping entries tag line)
      | .blockSequenceStart =>
        if block then do
          skipToken
          let items ← blockSequence fuel t.start []
          pure (Node.sequence items tag line)
        else emptyOrFail start t anchor.isSome tagged.isSome tag line
      | .blockMappingStart =>
        if block then do
          skipToken
          let entries ← blockMapping fuel t.start []
          pure (Node.mapping entries tag line)
        else emptyOrFail start t anchor.isSome tagged.isSome tag line
      | _ => emptyOrFail start t anchor.isSome tagged.isSome tag line
    if let some name := anchor then
      modify fun c => { c with anchors := (name, result) :: c.anchors }
    return result

/-- A node that is only properties is an empty scalar; with none it is missing. -/
def emptyOrFail (start : Mark) (t : Token) (anchored tagged : Bool) (tag : String)
    (line : Nat) : Parse Node :=
  if anchored || tagged then pure (Node.scalar "" .plain tag line)
  else structureFail start t.start "did not find expected node content"

/-- The entries of a block sequence, up to its `blockEnd`. -/
def blockSequence : Nat → Mark → List Node → Parse (List Node)
  | 0, _, _ => throw (.plain "document nested too deeply")
  | fuel + 1, opened, acc => do
    let t ← peekToken
    match t.kind with
    | .blockEntry =>
      skipToken
      let t2 ← peekToken
      let item ← match t2.kind with
        | .blockEntry | .blockEnd => pure (Node.empty t.stop)
        | _ => node fuel true false
      blockSequence fuel opened (item :: acc)
    | .blockEnd =>
      skipToken
      return acc.reverse
    | _ => structureFail opened t.start "did not find expected '-' indicator"

/-- The entries of a sequence written at its mapping's indentation. -/
def indentlessSequence : Nat → List Node → Parse (List Node)
  | 0, _ => throw (.plain "document nested too deeply")
  | fuel + 1, acc => do
    let t ← peekToken
    match t.kind with
    | .blockEntry =>
      skipToken
      let t2 ← peekToken
      let item ← match t2.kind with
        | .blockEntry | .key | .value | .blockEnd => pure (Node.empty t.stop)
        | _ => node fuel true false
      indentlessSequence fuel (item :: acc)
    | _ => return acc.reverse

/-- The entries of a block mapping, up to its `blockEnd`. -/
def blockMapping : Nat → Mark → List (Node × Node) → Parse (List (Node × Node))
  | 0, _, _ => throw (.plain "document nested too deeply")
  | fuel + 1, opened, acc => do
    let t ← peekToken
    match t.kind with
    | .key =>
      skipToken
      let t2 ← peekToken
      let k ← if t2.kind.closesBlockPart then pure (Node.empty t.stop) else node fuel true true
      let t3 ← peekToken
      let v ← match t3.kind with
        | .value => do
          skipToken
          let t4 ← peekToken
          if t4.kind.closesBlockPart then pure (Node.empty t3.stop) else node fuel true true
        | _ => pure (Node.empty t3.start)
      blockMapping fuel opened ((k, v) :: acc)
    | .blockEnd =>
      skipToken
      return acc.reverse
    | _ => structureFail opened t.start "did not find expected key"

/-- The entries of a flow sequence, up to `]`. A `key` token inside starts a one-entry
mapping. -/
def flowSequence : Nat → Mark → Bool → List Node → Parse (List Node)
  | 0, _, _, _ => throw (.plain "document nested too deeply")
  | fuel + 1, opened, first, acc => do
    let t ← peekToken
    if let .flowSequenceEnd := t.kind then
      skipToken
      return acc.reverse
    let t ← if first then pure t else
      match t.kind with
      | .flowEntry => do
        skipToken
        peekToken
      | _ => structureFail opened t.start "did not find expected ',' or ']'"
    match t.kind with
    | .flowSequenceEnd =>
      skipToken
      return acc.reverse
    | .key =>
      skipToken
      let t2 ← peekToken
      let k ← match t2.kind with
        | .value | .flowEntry | .flowSequenceEnd => do
          skipToken
          pure (Node.empty t2.stop)
        | _ => node fuel false false
      let t3 ← peekToken
      let v ← match t3.kind with
        | .value => do
          skipToken
          let t4 ← peekToken
          match t4.kind with
          | .flowEntry | .flowSequenceEnd => pure (Node.empty t4.start)
          | _ => node fuel false false
        | _ => pure (Node.empty t3.start)
      flowSequence fuel opened false (Node.mapping [(k, v)] "" (t.start.line + 1) :: acc)
    | _ =>
      let item ← node fuel false false
      flowSequence fuel opened false (item :: acc)

/-- The entries of a flow mapping, up to the closing brace. An entry without `:` has an empty
value. -/
def flowMapping : Nat → Mark → Bool → List (Node × Node) → Parse (List (Node × Node))
  | 0, _, _, _ => throw (.plain "document nested too deeply")
  | fuel + 1, opened, first, acc => do
    let t ← peekToken
    if let .flowMappingEnd := t.kind then
      skipToken
      return acc.reverse
    let t ← if first then pure t else
      match t.kind with
      | .flowEntry => do
        skipToken
        peekToken
      | _ => structureFail opened t.start "did not find expected ',' or '\x7d'"
    match t.kind with
    | .flowMappingEnd =>
      skipToken
      return acc.reverse
    | .key =>
      skipToken
      let t2 ← peekToken
      let k ← match t2.kind with
        | .value | .flowEntry | .flowMappingEnd => pure (Node.empty t2.start)
        | _ => node fuel false false
      let t3 ← peekToken
      let v ← match t3.kind with
        | .value => do
          skipToken
          let t4 ← peekToken
          match t4.kind with
          | .flowEntry | .flowMappingEnd => pure (Node.empty t4.start)
          | _ => node fuel false false
        | _ => pure (Node.empty t3.start)
      flowMapping fuel opened false ((k, v) :: acc)
    | _ =>
      let k ← node fuel false false
      let t3 ← peekToken
      flowMapping fuel opened false ((k, Node.empty t3.start) :: acc)

end

/-- Skips directive tokens. -/
def skipDirectives : Nat → Parse Unit
  | 0 => pure ()
  | n + 1 => do
    if let .directive := (← peekToken).kind then
      skipToken
      skipDirectives n

/-- The root node of the first document, `none` for an empty stream. -/
def firstDocument : Parse (Option Node) := do
  skipToken
  let fuel := 2 * (← read).tokens.size + 8
  let t ← peekToken
  let root ← match t.kind with
    | .streamEnd => pure none
    | .directive | .documentStart => do
      skipDirectives fuel
      let t ← peekToken
      match t.kind with
      | .documentStart => pure ()
      | _ => structureFail {} t.start "did not find expected <document start>"
      skipToken
      let t ← peekToken
      match t.kind with
      | .directive | .documentStart | .documentEnd | .streamEnd => pure (some (Node.empty t.start))
      | _ => some <$> node fuel true false
    | _ => some <$> node fuel true false
  if root.isSome then
    let _ ← peekToken
  return root

/-- Reads the first document of a text into its root node. -/
def Node.read? (text : String) : Except Problem (Option Node) :=
  let (tokens, problem) := tokenize text
  match (firstDocument.run ⟨tokens, problem⟩).run {} with
  | .ok (root, _) => .ok root
  | .error p => .error p

end DdlCatalog.Config.Yaml
