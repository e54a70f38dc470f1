import DdlCatalog.Proofs.Parsing.Shapes
import DdlCatalog.Catalog.DataType
/-!
# The tree of a type clause

A type clause is a built-in type name, an optional parameter clause, field options, `BINARY`, a
charset clause and a collation clause, in that order: the text a type descriptor is written as.
Over the tokens of such a clause, with the end of the script after them, the data type
production consumes every token and builds one tree whose shape the clause fixes:
`dataType_builds`. The production is cut at its optional clauses (`dataType_eq`) and each part
is run on its own; what follows each part is the start of a later one, or the end, and none of
those tokens continues the part.
-/

namespace DdlCatalog.Syntax

open DdlCatalog.Sql DdlCatalog.Catalog

/-! Type clauses and the trees they read as. -/

/-- The words of a field option clause. -/
def fieldOptionWords : List String := ["SIGNED", "UNSIGNED", "ZEROFILL"]

/-- The types whose single parameter is a fractional seconds precision. -/
def fractionalSecondsTypes : List String := ["TIME", "DATETIME", "TIMESTAMP"]

/-- The parameter clause of a type clause: none, one number, or a precision and a scale. -/
inductive TypeParams where
  | none
  | one (n : Nat)
  | two (p s : Nat)
deriving DecidableEq, Repr

namespace TypeParams

/-- The pieces of a parameter clause. -/
def lexemes : TypeParams → List Lexeme
  | none => []
  | one n => [.lparen, .number n, .rparen]
  | two p s => [.lparen, .number p, .comma, .number s, .rparen]

/-- The tree of a parameter clause after the type name `name`. -/
def shapes (name : String) : TypeParams → List Shape
  | none => []
  | one n =>
    [.branch (if fractionalSecondsTypes.contains name then .typeDatetimePrecision else .fieldLength)
      ((one n).lexemes.map Shape.lexeme)]
  | two p s => [.branch .precision ((two p s).lexemes.map Shape.lexeme)]

end TypeParams

/-- A type clause: a built-in type name, a parameter clause, field options, `BINARY`, a charset
clause and a collation clause; an empty charset or collation is no clause. The names of the
charset and the collation are plain words. -/
structure TypeClause where
  type : SimpleType
  builtin : type ∈ builtinTypes
  params : TypeParams
  options : List String
  optionWords : ∀ o ∈ options, o ∈ fieldOptionWords
  binary : Bool
  charset : String
  plainCharset : charset.isEmpty ∨ isPlainWord charset
  collation : String
  plainCollation : collation.isEmpty ∨ isPlainWord collation

namespace TypeClause

/-- The pieces of the charset shorthand `BINARY` and of the charset clause. -/
def charsetLexemes (c : TypeClause) : List Lexeme :=
  (if c.binary then [.word "BINARY"] else []) ++
    (if c.charset.isEmpty then [] else [.word "CHARACTER", .word "SET", .word c.charset])

/-- The pieces of the collation clause. -/
def collationLexemes (c : TypeClause) : List Lexeme :=
  if c.collation.isEmpty then [] else [.word "COLLATE", .word c.collation]

/-- The pieces after the type name. -/
def lexemes (c : TypeClause) : List Lexeme :=
  c.params.lexemes ++ c.options.map .word ++ c.charsetLexemes ++ c.collationLexemes

/-- The text of a type clause. -/
def text (c : TypeClause) : String := c.type.name ++ String.join (c.lexemes.map Lexeme.spelling)

/-- The field options node, if there are options. -/
def optionShapes (c : TypeClause) : List Shape :=
  if c.options.isEmpty then [] else [.branch .fieldOptions (c.options.map fun o => Shape.lexeme (.word o))]

/-- The charset shorthand node, if there is `BINARY` or a charset. -/
def charsetShapes (c : TypeClause) : List Shape :=
  if c.binary || !c.charset.isEmpty then
    [.branch .stringBinary ((if c.binary then [Shape.lexeme (.word "BINARY")] else []) ++
      (if c.charset.isEmpty then []
       else [Shape.lexeme (.word "CHARACTER"), Shape.lexeme (.word "SET"),
         .branch .charsetName [Shape.lexeme (.word c.charset)]]))]
  else []

/-- The `COLLATE` keyword and the collation name node, if there is a collation. -/
def collationShapes (c : TypeClause) : List Shape :=
  if c.collation.isEmpty then []
  else [Shape.lexeme (.word "COLLATE"), .branch .collationName [Shape.lexeme (.word c.collation)]]

/-- The tree of a type clause. -/
def shape (c : TypeClause) : Shape :=
  .branch .dataType (Shape.lexeme (.word c.type.name) :: c.params.shapes c.type.name ++ c.optionShapes ++
    c.charsetShapes ++ c.collationShapes)

end TypeClause

namespace Parse

variable {s : ParseState} {p : TokenKind × Bytes} {ps : List (TokenKind × Bytes)}

/-! The data type production, cut at its optional clauses. -/

/-- The parameter clause of a data type: a value list, a precision and scale, or one number, which
the types with fractional seconds read as their precision. -/
def typeParams : Parse Unit := do
  if (← check .lparen) then
    let s ← get
    if (s.ahead 1).kind == .string then stringList
    else if (s.ahead 1).kind == .number && (s.ahead 2).kind == .comma then precision
    else if fractionalSecondsTypes.contains (← firstWordSoFar) then fieldLength .typeDatetimePrecision
    else fieldLength .fieldLength

/-- One round of the field options: a field option word goes into the node. -/
def fieldOptionRound : Parse Bool := do
  if (← isAny fieldOptionWords) then skip; return true
  return false

/-- The field options of a data type. -/
def typeOptions : Parse Unit := do
  if (← isAny fieldOptionWords) then node .fieldOptions (loop fieldOptionRound)

/-- The charset shorthands and charset clause of a data type. -/
def typeCharset : Parse Unit := do
  if (← isAny ["ASCII", "UNICODE", "BYTE", "BINARY"]) || (← isCharsetKeyword) then stringBinary

/-- The collation clause of a data type. -/
def typeCollation : Parse Unit := do
  if (← isWord "COLLATE") then
    skip
    charsetName .collationName

/-- The data type production is its type name followed by its optional clauses. -/
theorem dataType_eq :
    dataType = node .dataType (do typeName; typeParams; typeOptions; typeCharset; typeCollation) := by
  unfold dataType typeParams typeOptions fieldOptionRound typeCharset typeCollation fieldOptionWords
    fractionalSecondsTypes
  simp only [bind_assoc, ite_bind, pure_bind]

/-- A type name that starts none of the names of several words, with no second word of such a
name after it, is one token. -/
theorem typeName_advance (word : (s.ahead 0).kind = .ident)
    (single : (s.ahead 0).isAnyWord ["NATIONAL", "NCHAR", "LONG"] = false)
    (follows : (s.ahead 1).isAnyWord ["PRECISION", "VARYING"] = false) :
    typeName s = .ok () s.advance := by
  have notEof : (s.ahead 0).kind ≠ .eof := by rw [word]; decide
  have miss : ∀ kw ∈ ["PRECISION", "VARYING"], accept kw s.advance = .ok false s.advance :=
    fun kw listed => accept_miss (by rwa [ParseState.ahead_advance]) listed
  simp only [Token.isAnyWord, List.any_cons, List.any_nil, Bool.or_false, Bool.or_eq_false_iff] at single
  obtain ⟨national, nchar, long⟩ := single
  unfold typeName
  rw [bind_ok (check_run _ _)]
  simp only [word, beq_self_eq_true, ↓reduceIte]
  rw [bind_ok (isWord_run _ _)]
  split
  · rw [bind_ok (skip_advance notEof)]
    exact map_ok (miss _ (by simp))
  rw [bind_ok (isAny_run _ _)]
  split
  · rw [bind_ok (skip_advance notEof)]
    exact map_ok (miss _ (by simp))
  rw [bind_ok (isWord_run _ _), national]
  simp only [Bool.false_eq_true, ↓reduceIte]
  rw [bind_ok (isWord_run _ _), nchar]
  simp only [Bool.false_eq_true, ↓reduceIte]
  rw [bind_ok (isWord_run _ _), long]
  exact skip_advance notEof

theorem typeName_builds {w : String} (spells : s.Spells ((Lexeme.word w).token :: p :: ps))
    (single : ["NATIONAL", "NCHAR", "LONG"].any (spellsWord (Lexeme.word w).token) = false)
    (follows : ["PRECISION", "VARYING"].any (spellsWord p) = false) :
    Builds typeName s () 1 [Shape.lexeme (.word w)] :=
  Builds.advance_spelled spells (typeName_advance spells.kind
    (by rw [Token.isAnyWord_of_spelled spells.head, single])
    (by rw [Token.isAnyWord_of_spelled spells.second, follows]))

theorem fieldLength_builds (kind : NodeKind) {lit : Bytes}
    (spells : s.Spells ((.lparen, [0x28]) :: (.number, lit) :: (.rparen, [0x29]) :: ps)) :
    Builds (fieldLength kind) s () 3
      [.branch kind [.token .lparen [0x28], .token .number lit, .token .rparen [0x29]]] := by
  have spells₀ := spells.reset
  refine Builds.node kind (Builds.cons_advance spells₀ (bind_ok (expect_advance spells₀.kind (by decide))) ?_)
  have spells₁ := spells₀.advance
  refine Builds.cons_advance spells₁ (bind_ok (number_advance spells₁.kind)) ?_
  have spells₂ := spells₁.advance
  exact Builds.advance_spelled spells₂ (expect_advance spells₂.kind (by decide))

theorem precision_builds {lit lit' : Bytes}
    (spells : s.Spells ((.lparen, [0x28]) :: (.number, lit) :: (.comma, [0x2C]) :: (.number, lit') ::
      (.rparen, [0x29]) :: ps)) :
    Builds precision s () 5
      [.branch .precision [.token .lparen [0x28], .token .number lit, .token .comma [0x2C],
        .token .number lit', .token .rparen [0x29]]] := by
  have spells₀ := spells.reset
  refine Builds.node .precision
    (Builds.cons_advance spells₀ (bind_ok (expect_advance spells₀.kind (by decide))) ?_)
  have spells₁ := spells₀.advance
  refine Builds.cons_advance spells₁ (bind_ok (number_advance spells₁.kind)) ?_
  have spells₂ := spells₁.advance
  refine Builds.cons_advance spells₂ (bind_ok (expect_advance spells₂.kind (by decide))) ?_
  have spells₃ := spells₂.advance
  refine Builds.cons_advance spells₃ (bind_ok (number_advance spells₃.kind)) ?_
  have spells₄ := spells₃.advance
  exact Builds.advance_spelled spells₄ (expect_advance spells₄.kind (by decide))

theorem typeParams_builds (params : TypeParams) {w : String}
    (spells : s.Spells (params.lexemes.map Lexeme.token ++ p :: ps)) (notParen : p.1 ≠ .lparen)
    (firstWord : firstWordSoFar s = .ok w s) :
    Builds typeParams s () params.lexemes.length (params.shapes w) := by
  unfold typeParams
  cases params with
  | none =>
    refine Builds.reads ?_
    have kind : (s.ahead 0).kind = p.1 := spells.kind
    rw [bind_ok (check_run _ _)]
    simp [kind, notParen]
  | one n =>
    have spells' : s.Spells ((.lparen, [0x28]) :: (.number, Utf8.encode (toString n)) :: (.rparen, [0x29]) ::
      p :: ps) := spells
    have k1 : (s.ahead 1).kind = .number := congrArg Prod.fst spells'.second
    have k2 : (s.ahead 2).kind = .rparen := congrArg Prod.fst (spells' 2 (by simp))
    refine Builds.bind_reads (check_run _ _) ?_
    simp only [spells'.kind, beq_self_eq_true, ↓reduceIte]
    refine Builds.bind_reads (x := get) rfl ?_
    simp only [k1, k2, beq_iff_eq, reduceCtorEq, Bool.and_eq_true, and_false, ↓reduceIte]
    refine Builds.bind_reads firstWord ?_
    unfold TypeParams.shapes
    by_cases fractional : fractionalSecondsTypes.contains w = true
    · rw [if_pos fractional, if_pos fractional]
      exact fieldLength_builds _ spells'
    · rw [if_neg fractional, if_neg fractional]
      exact fieldLength_builds _ spells'
  | two p' s' =>
    have spells' : s.Spells ((.lparen, [0x28]) :: (.number, Utf8.encode (toString p')) :: (.comma, [0x2C]) ::
      (.number, Utf8.encode (toString s')) :: (.rparen, [0x29]) :: p :: ps) := spells
    have k1 : (s.ahead 1).kind = .number := congrArg Prod.fst spells'.second
    have k2 : (s.ahead 2).kind = .comma := congrArg Prod.fst (spells' 2 (by simp))
    refine Builds.bind_reads (check_run _ _) ?_
    simp only [spells'.kind, beq_self_eq_true, ↓reduceIte]
    refine Builds.bind_reads (x := get) rfl ?_
    simp only [k1, k2, beq_iff_eq, reduceCtorEq, Bool.and_eq_true, and_self, ↓reduceIte]
    exact precision_builds spells'

theorem fieldOptionRound_goes {o : String} (spells : s.Spells ((Lexeme.word o).token :: ps))
    (listed : o ∈ fieldOptionWords) : fieldOptionRound s = .ok true s.advance := by
  have word : (s.ahead 0).isAnyWord fieldOptionWords = true := by
    rw [Token.isAnyWord_of_spelled spells.head]
    exact List.any_eq_true.mpr ⟨o, listed, spellsWord_self o⟩
  have notEof : (s.ahead 0).kind ≠ .eof := by rw [spells.kind]; simp [Lexeme.token]
  unfold fieldOptionRound
  rw [bind_ok (isAny_run _ _), word]
  simp only [↓reduceIte]
  rw [bind_ok (skip_advance notEof)]
  rfl

theorem fieldOptionRound_stops (spells : s.Spells (p :: ps)) (ends : fieldOptionWords.any (spellsWord p) = false) :
    fieldOptionRound s = .ok false s := by
  unfold fieldOptionRound
  rw [bind_ok (isAny_run _ _), Token.isAnyWord_of_spelled spells.head, ends]
  rfl

/-- The field options loop consumes the field option words up to the first other token. -/
theorem loop_fieldOptions : ∀ (os : List String) {s : ParseState}, (∀ o ∈ os, o ∈ fieldOptionWords) → s.Ready →
    s.Spells ((os.map Lexeme.word).map Lexeme.token ++ p :: ps) → fieldOptionWords.any (spellsWord p) = false →
    Builds (loop fieldOptionRound) s () os.length (os.map fun o => Shape.lexeme (.word o))
  | [], _, _, _, spells, ends =>
    Builds.reads (loopFrom_stop ((bind_ok (fieldOptionRound_stops spells ends)).trans rfl))
  | o :: os, s, listed, ready, spells, ends => by
    have spells' : s.Spells ((Lexeme.word o).token :: ((os.map Lexeme.word).map Lexeme.token ++ p :: ps)) :=
      spells
    have notEof : (s.ahead 0).kind ≠ .eof := by rw [spells'.kind]; simp [Lexeme.token]
    have goes := fieldOptionRound_goes spells' (listed o List.mem_cons_self)
    refine Builds.cons_advance spells'
      (loopFrom_continue ((bind_ok goes).trans rfl) (ready.remaining_advance notEof)) ?_
    exact loop_fieldOptions os (fun o' mem => listed o' (List.mem_cons_of_mem _ mem)) (ready.advance notEof)
      spells'.advance ends

theorem typeOptions_builds (os : List String) (listed : ∀ o ∈ os, o ∈ fieldOptionWords) (ready : s.Ready)
    (spells : s.Spells ((os.map Lexeme.word).map Lexeme.token ++ p :: ps))
    (ends : fieldOptionWords.any (spellsWord p) = false) :
    Builds typeOptions s () os.length
      (if os.isEmpty then [] else [.branch .fieldOptions (os.map fun o => Shape.lexeme (.word o))]) := by
  unfold typeOptions
  cases os with
  | nil =>
    refine Builds.reads ?_
    rw [bind_ok (isAny_run _ _), Token.isAnyWord_of_spelled spells.head, ends]
    rfl
  | cons o os =>
    have spells' : s.Spells ((Lexeme.word o).token :: ((os.map Lexeme.word).map Lexeme.token ++ p :: ps)) :=
      spells
    have word : (s.ahead 0).isAnyWord fieldOptionWords = true := by
      rw [Token.isAnyWord_of_spelled spells'.head]
      exact List.any_eq_true.mpr ⟨o, listed o List.mem_cons_self, spellsWord_self o⟩
    refine Builds.bind_reads (isAny_run _ _) ?_
    rw [word, if_pos rfl]
    exact Builds.node .fieldOptions (loop_fieldOptions (o :: os) listed ready.reset spells.reset ends)

theorem isCharsetKeyword_miss (miss : (s.ahead 0).isAnyWord ["CHARACTER", "CHAR", "CHARSET"] = false) :
    isCharsetKeyword s = .ok false s := by
  simp only [Token.isAnyWord, List.any_cons, List.any_nil, Bool.or_false, Bool.or_eq_false_iff] at miss
  obtain ⟨character, char, charset⟩ := miss
  unfold isCharsetKeyword
  rw [bind_ok (isSeq_run _ _), bind_ok (isSeq_run _ _), bind_ok (isWord_run _ _)]
  simp [List.zipIdx, character, char, charset]

theorem isCharsetKeyword_hit (character : (s.ahead 0).isWord "CHARACTER" = true)
    (set : (s.ahead 1).isWord "SET" = true) : isCharsetKeyword s = .ok true s := by
  unfold isCharsetKeyword
  rw [bind_ok (isSeq_run _ _), bind_ok (isSeq_run _ _), bind_ok (isWord_run _ _)]
  simp [List.zipIdx, character, set]

theorem charsetKeyword_advance (character : (s.ahead 0).isWord "CHARACTER" = true)
    (set : (s.ahead 1).isWord "SET" = true) : charsetKeyword s = .ok () s.advance.advance := by
  unfold charsetKeyword
  rw [bind_ok (acceptSeq_pair character set)]
  rfl

theorem charsetName_builds (kind : NodeKind) {w : String} (spells : s.Spells ((Lexeme.word w).token :: ps)) :
    Builds (charsetName kind) s () 1 [.branch kind [Shape.lexeme (.word w)]] := by
  have spells₀ := spells.reset
  have word : (({ s with children := #[] } : ParseState).ahead 0).kind = .ident := spells₀.kind
  refine Builds.node kind (Builds.bind_reads (x := cur) rfl ?_)
  simp only [word]
  exact Builds.advance_spelled spells₀ (skip_advance (by rw [word]; decide))

/-- `BINARY` alone, before a token that continues no charset clause. -/
theorem stringBinary_binary (spells : s.Spells ((Lexeme.word "BINARY").token :: p :: ps))
    (notKeyword : ["CHARACTER", "CHAR", "CHARSET"].any (spellsWord p) = false)
    (notShorthand : ["ASCII", "UNICODE"].any (spellsWord p) = false) :
    Builds stringBinary s () 1 [.branch .stringBinary [Shape.lexeme (.word "BINARY")]] := by
  have spells₀ := spells.reset
  have spells₁ := spells₀.advance
  unfold stringBinary
  refine Builds.node .stringBinary (Builds.bind_reads (isAny_run _ _) ?_)
  rw [Token.isAnyWord_of_spelled spells₀.head, (by decide +kernel :
    ["ASCII", "UNICODE"].any (spellsWord (Lexeme.word "BINARY").token) = false)]
  refine Builds.bind_reads (isWord_run _ _) ?_
  rw [Token.isWord_of_spelled spells₀.head, (by decide +kernel :
    spellsWord (Lexeme.word "BINARY").token "BYTE" = false)]
  refine Builds.bind_reads (isWord_run _ _) ?_
  rw [Token.isWord_of_spelled spells₀.head, spellsWord_self]
  refine Builds.cons_advance spells₀ (bind_ok (skip_advance (by rw [spells₀.kind]; decide))) ?_
  refine Builds.bind_reads (isCharsetKeyword_miss (by rw [Token.isAnyWord_of_spelled spells₁.head, notKeyword])) ?_
  refine Builds.bind_reads (isAny_run _ _) ?_
  rw [Token.isAnyWord_of_spelled spells₁.head, notShorthand]
  exact Builds.reads rfl

/-- `BINARY CHARACTER SET name`. -/
theorem stringBinary_binary_charset {w : String}
    (spells : s.Spells ((Lexeme.word "BINARY").token :: (Lexeme.word "CHARACTER").token ::
      (Lexeme.word "SET").token :: (Lexeme.word w).token :: ps)) :
    Builds stringBinary s () 4
      [.branch .stringBinary [Shape.lexeme (.word "BINARY"), Shape.lexeme (.word "CHARACTER"),
        Shape.lexeme (.word "SET"), .branch .charsetName [Shape.lexeme (.word w)]]] := by
  have spells₀ := spells.reset
  unfold stringBinary
  refine Builds.node .stringBinary ?_
  generalize ({ s with children := #[] } : ParseState) = s at spells₀ ⊢
  have spells₁ := spells₀.advance
  refine Builds.bind_reads (isAny_run _ _) ?_
  rw [Token.isAnyWord_of_spelled spells₀.head, (by decide +kernel :
    ["ASCII", "UNICODE"].any (spellsWord (Lexeme.word "BINARY").token) = false)]
  refine Builds.bind_reads (isWord_run _ _) ?_
  rw [Token.isWord_of_spelled spells₀.head, (by decide +kernel :
    spellsWord (Lexeme.word "BINARY").token "BYTE" = false)]
  refine Builds.bind_reads (isWord_run _ _) ?_
  rw [Token.isWord_of_spelled spells₀.head, spellsWord_self]
  refine Builds.cons_advance spells₀ (bind_ok (skip_advance (by rw [spells₀.kind]; decide))) ?_
  have character : (s.advance.ahead 0).isWord "CHARACTER" = true := by
    rw [Token.isWord_of_spelled spells₁.head, spellsWord_self]
  have set : (s.advance.ahead 1).isWord "SET" = true := by
    rw [Token.isWord_of_spelled spells₁.second, spellsWord_self]
  refine Builds.bind_reads (isCharsetKeyword_hit character set) ?_
  apply Builds.bind (Builds.advance_two spells₁ (charsetKeyword_advance character set))
  · intro s₂ tokens index _
    exact charsetName_builds .charsetName (@ParseState.Spells.drop _ _ [_, _] _ spells₁ tokens index)
  all_goals rfl

/-- `CHARACTER SET name`, before a token other than `BINARY`. -/
theorem stringBinary_charset {w : String}
    (spells : s.Spells ((Lexeme.word "CHARACTER").token :: (Lexeme.word "SET").token :: (Lexeme.word w).token ::
      p :: ps))
    (notBinary : spellsWord p "BINARY" = false) :
    Builds stringBinary s () 3
      [.branch .stringBinary [Shape.lexeme (.word "CHARACTER"), Shape.lexeme (.word "SET"),
        .branch .charsetName [Shape.lexeme (.word w)]]] := by
  have spells₀ := spells.reset
  unfold stringBinary
  refine Builds.node .stringBinary (Builds.bind_reads (isAny_run _ _) ?_)
  rw [Token.isAnyWord_of_spelled spells₀.head, (by decide +kernel :
    ["ASCII", "UNICODE"].any (spellsWord (Lexeme.word "CHARACTER").token) = false)]
  refine Builds.bind_reads (isWord_run _ _) ?_
  rw [Token.isWord_of_spelled spells₀.head, (by decide +kernel :
    spellsWord (Lexeme.word "CHARACTER").token "BYTE" = false)]
  refine Builds.bind_reads (isWord_run _ _) ?_
  rw [Token.isWord_of_spelled spells₀.head, (by decide +kernel :
    spellsWord (Lexeme.word "CHARACTER").token "BINARY" = false)]
  have character : (({ s with children := #[] } : ParseState).ahead 0).isWord "CHARACTER" = true := by
    rw [Token.isWord_of_spelled spells₀.head, spellsWord_self]
  have set : (({ s with children := #[] } : ParseState).ahead 1).isWord "SET" = true := by
    rw [Token.isWord_of_spelled spells₀.second, spellsWord_self]
  apply Builds.bind (Builds.advance_two spells₀ (charsetKeyword_advance character set))
  · intro s₂ tokens index _
    have spells₂ := @ParseState.Spells.drop _ _ [_, _] _ spells₀ tokens index
    apply Builds.bind (charsetName_builds .charsetName spells₂)
    · intro s₃ tokens₃ index₃ _
      have spells₃ := spells₂.tail tokens₃ index₃
      have miss : (s₃.ahead 0).isAnyWord ["BINARY"] = false := by
        rw [Token.isAnyWord_of_spelled spells₃.head]
        simp [notBinary]
      exact Builds.map (Builds.reads (accept_miss miss List.mem_cons_self))
    all_goals rfl
  all_goals rfl

theorem typeCharset_builds (c : TypeClause) (spells : s.Spells (c.charsetLexemes.map Lexeme.token ++ p :: ps))
    (ends : ["ASCII", "UNICODE", "BYTE", "BINARY", "CHARACTER", "CHAR", "CHARSET"].any (spellsWord p) = false) :
    Builds typeCharset s () c.charsetLexemes.length c.charsetShapes := by
  simp only [List.any_cons, List.any_nil, Bool.or_false, Bool.or_eq_false_iff] at ends
  obtain ⟨ascii, unicode, byte, binary, character, char, charset⟩ := ends
  unfold typeCharset TypeClause.charsetShapes
  unfold TypeClause.charsetLexemes at spells ⊢
  cases hb : c.binary <;> cases he : c.charset.isEmpty <;>
    simp only [hb, he, Bool.false_eq_true, ↓reduceIte, List.nil_append, List.map_nil, List.map_cons,
      List.cons_append, List.length_nil, List.length_cons, Bool.or_self, Bool.not_true, Bool.not_false,
      Bool.or_true, Bool.true_or] at spells ⊢
  case false.true =>
    -- no shorthand: the current token starts no charset clause
    refine Builds.bind_reads (isAny_run _ _) ?_
    refine Builds.bind_reads (isCharsetKeyword_miss ?_) ?_
    · simp [Token.isAnyWord_of_spelled spells.head, character, char, charset]
    rw [Token.isAnyWord_of_spelled spells.head]
    simp only [List.any_cons, List.any_nil, ascii, unicode, byte, binary, Bool.or_self]
    exact Builds.reads rfl
  case false.false =>
    refine Builds.bind_reads (isAny_run _ _) ?_
    refine Builds.bind_reads (isCharsetKeyword_hit (by rw [Token.isWord_of_spelled spells.head, spellsWord_self])
      (by rw [Token.isWord_of_spelled spells.second, spellsWord_self])) ?_
    rw [Token.isAnyWord_of_spelled spells.head, (by decide +kernel :
      ["ASCII", "UNICODE", "BYTE", "BINARY"].any (spellsWord (Lexeme.word "CHARACTER").token) = false)]
    exact stringBinary_charset spells binary
  case true.true =>
    refine Builds.bind_reads (isAny_run _ _) ?_
    refine Builds.bind_reads (isCharsetKeyword_miss ?_) ?_
    · rw [Token.isAnyWord_of_spelled spells.head]
      decide +kernel
    rw [Token.isAnyWord_of_spelled spells.head, (by decide +kernel :
      ["ASCII", "UNICODE", "BYTE", "BINARY"].any (spellsWord (Lexeme.word "BINARY").token) = true)]
    exact stringBinary_binary spells (by simp [character, char, charset]) (by simp [ascii, unicode])
  case true.false =>
    refine Builds.bind_reads (isAny_run _ _) ?_
    refine Builds.bind_reads (isCharsetKeyword_miss ?_) ?_
    · rw [Token.isAnyWord_of_spelled spells.head]
      decide +kernel
    rw [Token.isAnyWord_of_spelled spells.head, (by decide +kernel :
      ["ASCII", "UNICODE", "BYTE", "BINARY"].any (spellsWord (Lexeme.word "BINARY").token) = true)]
    exact stringBinary_binary_charset spells

theorem typeCollation_builds (c : TypeClause)
    (spells : s.Spells (c.collationLexemes.map Lexeme.token ++ p :: ps)) (ends : spellsWord p "COLLATE" = false) :
    Builds typeCollation s () c.collationLexemes.length c.collationShapes := by
  unfold typeCollation TypeClause.collationShapes
  unfold TypeClause.collationLexemes at spells ⊢
  cases he : c.collation.isEmpty <;>
    simp only [he, Bool.false_eq_true, ↓reduceIte, List.nil_append, List.map_nil, List.map_cons,
      List.cons_append, List.length_nil, List.length_cons] at spells ⊢
  case true =>
    refine Builds.reads ?_
    rw [bind_ok (isWord_run _ _), Token.isWord_of_spelled spells.head, ends]
    rfl
  case false =>
    refine Builds.bind_reads (isWord_run _ _) ?_
    rw [Token.isWord_of_spelled spells.head, spellsWord_self]
    exact Builds.cons_advance spells (bind_ok (skip_advance (by rw [spells.kind]; decide)))
      (charsetName_builds .collationName spells.advance)

/-- The built-in type names are plain uppercase words, none of which starts a name of several
words or reads as the `DELIMITER` directive. -/
theorem builtin_name : ∀ t ∈ builtinTypes, isPlainWord t.name = true ∧ Text.upper t.name = t.name ∧
    ["NATIONAL", "NCHAR", "LONG"].any (spellsWord (Lexeme.word t.name).token) = false ∧
    equalFoldAscii (Utf8.encode t.name) (Utf8.encode "delimiter") = false := by
  decide +kernel

/-! What comes after each part of a type clause: the start of a later part, or the end. -/

theorem lead_collation (c : TypeClause) :
    Lexeme.lead c.collationLexemes ∈ [(Lexeme.word "COLLATE").token, (.eof, [])] := by
  unfold TypeClause.collationLexemes
  split <;> simp [Lexeme.lead]

theorem lead_charset (c : TypeClause) :
    Lexeme.lead (c.charsetLexemes ++ c.collationLexemes) ∈
      [(Lexeme.word "BINARY").token, (Lexeme.word "CHARACTER").token, (Lexeme.word "COLLATE").token, (.eof, [])] := by
  have later := lead_collation c
  rw [Lexeme.lead_append]
  unfold TypeClause.charsetLexemes
  cases c.binary <;> cases c.charset.isEmpty <;> simp_all

theorem lead_options (c : TypeClause) :
    Lexeme.lead (c.options.map .word ++ (c.charsetLexemes ++ c.collationLexemes)) ∈
      [(Lexeme.word "SIGNED").token, (Lexeme.word "UNSIGNED").token, (Lexeme.word "ZEROFILL").token,
        (Lexeme.word "BINARY").token, (Lexeme.word "CHARACTER").token, (Lexeme.word "COLLATE").token,
        (.eof, [])] := by
  have later := lead_charset c
  rw [Lexeme.lead_append]
  cases h : c.options with
  | nil => simp_all
  | cons o os =>
    have listed := c.optionWords o (by rw [h]; exact List.mem_cons_self)
    simp only [fieldOptionWords, List.mem_cons, List.mem_nil_iff, or_false] at listed
    rcases listed with rfl | rfl | rfl <;> simp

theorem lead_params (c : TypeClause) :
    Lexeme.lead (c.params.lexemes ++ (c.options.map .word ++ (c.charsetLexemes ++ c.collationLexemes))) ∈
      [(.lparen, [0x28]), (Lexeme.word "SIGNED").token, (Lexeme.word "UNSIGNED").token,
        (Lexeme.word "ZEROFILL").token, (Lexeme.word "BINARY").token, (Lexeme.word "CHARACTER").token,
        (Lexeme.word "COLLATE").token, (.eof, [])] := by
  have later := lead_options c
  rw [Lexeme.lead_append]
  cases c.params <;> simp_all [TypeParams.lexemes, Lexeme.token]

/-- After a lone type name, the first word so far is that name in upper case. -/
theorem firstWordSoFar_name {w : String} {new : List Node} (plain : isPlainWord w = true)
    (children : s.children.toList = new) (shapes : Node.shapes new = [Shape.lexeme (.word w)]) :
    firstWordSoFar s = .ok (Text.upper w) s := by
  rw [Node.shapes_eq_map, List.map_eq_singleton_iff] at shapes
  obtain ⟨n, rfl, shape⟩ := shapes
  obtain ⟨t, rfl, kind, literal⟩ := Node.shape_eq_token.mp shape
  show EStateM.Result.ok (Node.branch .expr ⟨default, default⟩ "" s.children.toList).firstKeyword s = _
  rw [children]
  simp [Node.firstKeyword, Node.words, Node.terminals, Node.children, Token.text, kind, literal,
    Lexeme.token, decode_encode_plainWord plain]

/-- Over the tokens of a type clause and the end of the script, the data type production
consumes every token of the clause and builds the tree of the clause. -/
theorem dataType_builds (c : TypeClause) (ready : s.Ready)
    (spells : s.Spells (Lexeme.ended (.word c.type.name :: c.lexemes))) :
    Builds dataType s () (c.lexemes.length + 1) [c.shape] := by
  obtain ⟨plain, upper, single, -⟩ := builtin_name c.type c.builtin
  have parts : c.lexemes = c.params.lexemes ++ (c.options.map .word ++ (c.charsetLexemes ++ c.collationLexemes)) := by
    simp [TypeClause.lexemes]
  rw [parts] at spells ⊢
  rw [dataType_eq]
  unfold TypeClause.shape
  refine Builds.node .dataType ?_
  have spells₀ := spells.reset
  have ready₀ := ready.reset
  generalize named : ({ s with children := #[] } : ParseState) = s₀ at spells₀ ready₀ ⊢
  have empty : s₀.children = #[] := by rw [← named]
  rw [Lexeme.ended_cons, Lexeme.ended_eq_cons] at spells₀
  apply Builds.bind (typeName_builds spells₀ single (by
    have after := lead_params c
    revert after
    generalize Lexeme.lead _ = q
    revert q
    decide +kernel))
  · intro s₁ tokens₁ index₁ children₁
    have ready₁ := @ParseState.Ready.of_spells s₀ s₁ [_] _ ready₀ spells₀
      (by simp [Lexeme.token_ne_eof]) tokens₁ index₁
    have spells₁ := spells₀.tail tokens₁ index₁
    rw [← Lexeme.ended_eq_cons, Lexeme.ended_append, Lexeme.ended_eq_cons] at spells₁
    obtain ⟨new, named₁, shapes₁⟩ := children₁
    rw [empty, Array.toList_empty, List.nil_append] at named₁
    have first := firstWordSoFar_name plain named₁ shapes₁
    rw [upper] at first
    apply Builds.bind (typeParams_builds c.params spells₁ (by
      have after := lead_options c
      revert after
      generalize Lexeme.lead _ = q
      revert q
      decide +kernel) first)
    · intro s₂ tokens₂ index₂ _
      have index₂' : s₂.index = s₁.index + (c.params.lexemes.map Lexeme.token).length := by
        rw [List.length_map]; exact index₂
      have ready₂ := ready₁.of_spells spells₁ (by simp [Lexeme.token_ne_eof]) tokens₂ index₂'
      have spells₂ := spells₁.drop tokens₂ index₂'
      rw [← Lexeme.ended_eq_cons, Lexeme.ended_append, Lexeme.ended_eq_cons] at spells₂
      apply Builds.bind (typeOptions_builds c.options c.optionWords ready₂ spells₂ (by
        have after := lead_charset c
        revert after
        generalize Lexeme.lead _ = q
        revert q
        decide +kernel))
      · intro s₃ tokens₃ index₃ _
        have index₃' : s₃.index = s₂.index + ((c.options.map Lexeme.word).map Lexeme.token).length := by
          rw [List.length_map, List.length_map]; exact index₃
        have spells₃ := spells₂.drop tokens₃ index₃'
        rw [← Lexeme.ended_eq_cons, Lexeme.ended_append, Lexeme.ended_eq_cons] at spells₃
        apply Builds.bind (typeCharset_builds c spells₃ (by
          have after := lead_collation c
          revert after
          generalize Lexeme.lead _ = q
          revert q
          decide +kernel))
        · intro s₄ tokens₄ index₄ _
          have index₄' : s₄.index = s₃.index + (c.charsetLexemes.map Lexeme.token).length := by
            rw [List.length_map]; exact index₄
          have spells₄ := spells₃.drop tokens₄ index₄'
          rw [← Lexeme.ended_eq_cons, Lexeme.ended] at spells₄
          exact typeCollation_builds c spells₄ rfl
        all_goals rfl
      all_goals rfl
    all_goals rfl
  · simp only [List.length_append, List.length_map]
    omega
  · unfold TypeClause.optionShapes
    simp only [List.cons_append, List.nil_append, List.append_assoc]

end Parse

end DdlCatalog.Syntax
