import Mathlib
import DdlCatalog.Proofs.Parsing.TypeClauses
import DdlCatalog.Analysis.DataTypes
import DdlCatalog.Proofs.Spec
import DdlCatalog.Proofs.ObjectPass
/-!
How the analysis reads the tree of a type clause. It reads the children of a data type tree one
at a time (`readTypeChild`): the type name, the parameter clause, the field options, the charset
clause and the collation clause. For each part of a clause (`TypeClause`), the trees of the shape
the parser builds for it set in the descriptor what the part says, and the tree of a whole clause
reads, with no diagnostic and no change to the analyzer, as the descriptor the clause says
(`TypeClause.reading`) when the clause fits the server version.
-/

namespace DdlCatalog.Numeric

theorem splitSign_digits {c : Char} {cs : List Char} (digit : c.isDigit = true) :
    Numeric.splitSign (c :: cs) = (false, c :: cs) := by
  unfold Numeric.splitSign
  split
  · rename_i rest same
    cases same
    simp at digit
  · rename_i rest same
    cases same
    simp at digit
  · rfl

theorem digitsValue_toDigits (n : Nat) : Numeric.digitsValue? (Nat.toDigits 10 n) = some n := by
  have digits : (Nat.toDigits 10 n).all Char.isDigit = true :=
    List.all_eq_true.mpr fun c inside => Nat.isDigit_of_mem_toDigits (by decide) (by decide) inside
  have value : (Nat.toDigits 10 n).foldl (fun acc c => acc * 10 + (c.toNat - 48)) 0 = n := by
    have read := Nat.ofDigitChars_ten_toDigits (n := n)
    unfold Nat.ofDigitChars at read
    refine Eq.trans ?_ read
    congr 1
    funext acc c
    rw [Nat.mul_comm]
    rfl
  simp [Numeric.digitsValue?, digits, value, Nat.toDigits_ne_nil]

/-- A number written in decimal reads back as a count when it is below `2 ^ 31`. -/
theorem parseSmallCount_toString {n : Nat} (small : n < 2 ^ 31) :
    Numeric.parseSmallCount? (toString n) = some n := by
  unfold Numeric.parseSmallCount? Numeric.parseNonNegative?
  rw [Nat.toString_eq_ofList_toDigits, String.toList_ofList]
  obtain ⟨c, cs, split⟩ := List.exists_cons_of_ne_nil (Nat.toDigits_ne_nil (b := 10) (n := n))
  have digit : c.isDigit = true := Nat.isDigit_of_mem_toDigits (by decide) (by decide) (split ▸ List.mem_cons_self)
  rw [split, splitSign_digits digit, ← split]
  dsimp only
  rw [digitsValue_toDigits]
  have bound : n < Nat.pow 2 (32 - 1) := small
  simp [bound]

end DdlCatalog.Numeric

namespace DdlCatalog.Sql

/-- A number token reads as the number it spells. -/
theorem Token.text_number {t : Token} {m : Nat} (lit : t.literal = Utf8.encode (toString m)) :
    t.text = toString m := by
  have digits : ∀ c ∈ (toString m).toList, c.isDigit = true := by
    rw [Nat.toString_eq_ofList_toDigits, String.toList_ofList]
    exact fun c inside => Nat.isDigit_of_mem_toDigits (by decide) (by decide) inside
  rw [Token.text, lit, Utf8.decode_encode_ascii fun c inside => (byte_isDigit_of_isDigit (digits c inside)).1]

end DdlCatalog.Sql

namespace DdlCatalog.Text

/-- Lower case keeps a text empty or not. -/
theorem lower_isEmpty (s : String) : (Text.lower s).isEmpty = s.isEmpty := by
  rw [Bool.eq_iff_iff, String.isEmpty_iff, String.isEmpty_iff, lower, ← String.toList_inj,
    String.toList_ofList, String.toList_empty, List.map_eq_nil_iff, String.toList_eq_nil_iff]

end DdlCatalog.Text

namespace DdlCatalog.Syntax

open DdlCatalog.Sql DdlCatalog.Catalog

namespace Shape

/-- The word a terminal of this shape is, in upper case; none for a production or another
token. -/
def word? : Shape → Option String
  | .token kind literal => if kind == .ident then some (Text.upper (Utf8.decode literal)) else none
  | .branch _ _ => none

@[simp] theorem word?_lexeme_word {w : String} (plain : isPlainWord w = true) :
    (Shape.lexeme (.word w)).word? = some (Text.upper w) := by
  simp [Shape.lexeme, Lexeme.token, word?, decode_encode_plainWord plain]

@[simp] theorem word?_branch (k : NodeKind) (ss : List Shape) : (Shape.branch k ss).word? = none := rfl

end Shape

namespace Node

/-- The words of a production are read off the shapes of its children. -/
theorem words_eq (k : NodeKind) (span : Span) (text : String) (cs : List Node) :
    (Node.branch k span text cs).words = (Node.shapes cs).filterMap Shape.word? := by
  rw [shapes_eq_map, List.filterMap_map, words, terminals, children, List.filterMap_filterMap]
  congr 1
  funext n
  cases n <;> simp [Shape.word?, Token.text]

/-- Trees of the shapes of pieces are the terminals of tokens that spell them. -/
theorem shapes_eq_lexemes {cs : List Node} {ls : List Lexeme} (shapes : Node.shapes cs = ls.map Shape.lexeme) :
    ∃ ts : List Token, cs = ts.map Node.terminal ∧
      ts.map (fun t => (t.kind, t.literal)) = ls.map Lexeme.token := by
  induction ls generalizing cs with
  | nil =>
    rw [shapes_eq_map, List.map_nil, List.map_eq_nil_iff] at shapes
    exact ⟨[], shapes, rfl⟩
  | cons l ls ih =>
    rw [shapes_eq_map, List.map_cons, List.map_eq_cons_iff] at shapes
    obtain ⟨n, ns, rfl, shape, rest⟩ := shapes
    obtain ⟨t, rfl, kind, literal⟩ := shape_eq_token.mp shape
    obtain ⟨ts, rfl, spelled⟩ := ih (by rw [shapes_eq_map]; exact rest)
    exact ⟨t :: ts, rfl, by simp [kind, literal, spelled]⟩

/-- Trees whose shapes are split are split alike. -/
theorem shapes_eq_append {cs : List Node} {ss ss' : List Shape} (shapes : Node.shapes cs = ss ++ ss') :
    ∃ ds ds', cs = ds ++ ds' ∧ Node.shapes ds = ss ∧ Node.shapes ds' = ss' := by
  rw [shapes_eq_map, List.map_eq_append_iff] at shapes
  obtain ⟨ds, ds', rfl, first, second⟩ := shapes
  exact ⟨ds, ds', rfl, by rw [shapes_eq_map, first], by rw [shapes_eq_map, second]⟩

/-- A production over one plain word has that word as its value. -/
theorem value_of_word {k : NodeKind} {span : Span} {text : String} {ds : List Node} {w : String}
    (plain : isPlainWord w = true) (shapes : Node.shapes ds = [Shape.lexeme (.word w)]) :
    (Node.branch k span text ds).value = w := by
  obtain ⟨ts, rfl, spelled⟩ := shapes_eq_lexemes (show Node.shapes ds = [Lexeme.word w].map Shape.lexeme from shapes)
  rcases ts with _ | ⟨t, _ | ⟨_, _⟩⟩ <;> simp [Lexeme.token] at spelled
  obtain ⟨kind, literal⟩ := spelled
  simp [value, terminals, children, kind, Token.text, literal, decode_encode_plainWord plain]

end Node

/-- The numbers of a parameter clause. -/
def TypeParams.numbers : TypeParams → List Nat
  | .none => []
  | .one n => [n]
  | .two p s => [p, s]

/-- What a parameter clause after the name of the type `t` sets in a descriptor. One number is
the precision of the types with fractional seconds and of the numeric types that take a precision,
and the length of every other type; two numbers are the precision and the scale. -/
def TypeParams.set (t : SimpleType) : TypeParams → DataType → DataType
  | .none, d => d
  | .one n, d =>
    if fractionalSecondsTypes.contains t.name || t.numericPrecision then { d with precision := some n }
    else { d with length := some n }
  | .two p s, d => { d with precision := some p, scale := some s }

/-- A parameter clause sets the length, the precision and the scale, and nothing else. -/
theorem TypeParams.set_keeps (t : SimpleType) (params : TypeParams) (d : DataType) :
    (params.set t d).simple = d.simple ∧ (params.set t d).name = d.name ∧ (params.set t d).flags = d.flags ∧
      (params.set t d).charset = d.charset ∧ (params.set t d).collation = d.collation := by
  cases params with
  | one n =>
    simp only [TypeParams.set]
    split <;> exact ⟨rfl, rfl, rfl, rfl, rfl⟩
  | _ => exact ⟨rfl, rfl, rfl, rfl, rfl⟩

/-- What the parameter clause sets is all it sets. -/
theorem TypeParams.set_with (t : SimpleType) (params : TypeParams) (d : DataType) (flags : List String)
    (charset collation explicitParams : String) :
    params.set t { d with flags := flags, charset := charset, collation := collation, explicitParams := explicitParams } =
      { (params.set t d) with flags := flags, charset := charset, collation := collation,
                              explicitParams := explicitParams } := by
  cases params with
  | none => rfl
  | one n =>
    simp only [TypeParams.set]
    split <;> rfl
  | two p s => rfl

namespace TypeClause

/-- The flags a clause gives: its field options, each once, then `BINARY`. -/
def flags (c : TypeClause) : List String :=
  let options := c.options.foldl Analysis.addFlag []
  if c.binary then Analysis.addFlag options "BINARY" else options

/-- The descriptor a clause says; `dflt` is the charset of a character type written without one. -/
def reading (c : TypeClause) (dflt : String) : DataType :=
  c.params.set c.type
    { simple := some c.type, name := c.type.name,
      charset := if c.charset.isEmpty then (if c.type.characterType then dflt else "") else Text.lower c.charset,
      collation := Text.lower c.collation, explicitParams := " ".intercalate c.flags, flags := c.flags }

/-- A clause read without a diagnostic under the server version `v`: the version has the type,
and has fractional seconds when the clause gives them, and every number is below `2 ^ 31`. -/
structure Fits (c : TypeClause) (v : Version) : Prop where
  type : v.atLeast c.type.minVersion = true
  fractional : ∀ n, c.params = .one n → fractionalSecondsTypes.contains c.type.name = true →
    v.atLeast Analysis.fractionalSecondsVersion = true
  counts : ∀ n ∈ c.params.numbers, n < 2 ^ 31

/-- The reading of a clause, with the parameters set last. -/
theorem reading_eq (c : TypeClause) (dflt : String) :
    c.reading dflt = { (c.params.set c.type { simple := some c.type, name := c.type.name }) with
      flags := c.flags,
      charset := if c.charset.isEmpty then (if c.type.characterType then dflt else "") else Text.lower c.charset,
      collation := Text.lower c.collation, explicitParams := " ".intercalate c.flags } :=
  TypeParams.set_with c.type c.params { simple := some c.type, name := c.type.name } _ _ _ _

end TypeClause

end DdlCatalog.Syntax

namespace DdlCatalog.Analysis

open DdlCatalog.Sql DdlCatalog.Syntax DdlCatalog.Catalog

/-- The name of a built-in type resolves to that type, as no alias, and is not `COLLATE`. -/
theorem builtin_resolves : ∀ t ∈ builtinTypes, resolveType t.name = (some t, none) ∧ t.name ≠ "COLLATE" := by
  decide +kernel

namespace Analyze

section

variable (simple : Option SimpleType) (opts : Options) (owner : String) (acc : DataType × String)
  (a : Analyzer) (span : Span) (text : String)

theorem readTypeChild_terminal (t : Token) :
    (readTypeChild simple opts owner acc (.terminal t)).run a = (acc, a) := by
  simp [readTypeChild, Node.kind?]
  rfl

/-- The number of a clause `(m)`, read as a count. -/
theorem typeNumber_run (kind : NodeKind) {l t r : Token} {m : Nat} (lparen : l.kind = .lparen)
    (number : t.kind = .number) (lit : t.literal = Utf8.encode (toString m)) (small : m < 2 ^ 31) :
    (typeNumber (.branch kind span text [.terminal l, .terminal t, .terminal r]) owner).run a = (some m, a) := by
  have found : numberOf (.branch kind span text [.terminal l, .terminal t, .terminal r]) = some t := by
    simp only [numberOf, Node.terminals, Node.children, List.filterMap_cons, List.filterMap_nil,
      List.find?_cons, lparen, number]
    rfl
  simp only [typeNumber, intValue, countOf, found, Token.text_number lit, Numeric.parseSmallCount_toString small]
  rfl

/-- A length clause sets the length, or the precision of a numeric type that takes one. -/
theorem readTypeChild_fieldLength {l t r : Token} {m : Nat} (lparen : l.kind = .lparen)
    (number : t.kind = .number) (lit : t.literal = Utf8.encode (toString m)) (small : m < 2 ^ 31) :
    (readTypeChild simple opts owner acc (.branch .fieldLength span text [.terminal l, .terminal t, .terminal r])).run a =
      ((if (simple.map (·.numericPrecision)).getD false then { acc.1 with precision := some m }
        else { acc.1 with length := some m }, acc.2), a) := by
  simp only [readTypeChild, Node.kind?]
  rw [StateT.run_bind, typeNumber_run owner a span text .fieldLength lparen number lit small]
  split <;> rfl

/-- A fractional seconds clause sets the precision, when the server version has them. -/
theorem readTypeChild_datetimePrecision {l t r : Token} {m : Nat} (lparen : l.kind = .lparen)
    (number : t.kind = .number) (lit : t.literal = Utf8.encode (toString m)) (small : m < 2 ^ 31)
    (version : opts.serverVersion.atLeast fractionalSecondsVersion = true) :
    (readTypeChild simple opts owner acc
      (.branch .typeDatetimePrecision span text [.terminal l, .terminal t, .terminal r])).run a =
      (({ acc.1 with precision := some m }, acc.2), a) := by
  simp only [readTypeChild, Node.kind?, version, Bool.not_true, Bool.false_eq_true, if_false]
  rw [StateT.run_bind, typeNumber_run owner a span text .typeDatetimePrecision lparen number lit small]
  rfl

/-- A precision clause `(p,s)` sets the precision and the scale. -/
theorem readTypeChild_precision {l t c u r : Token} {p s : Nat} (lparen : l.kind = .lparen)
    (first : t.kind = .number) (firstLit : t.literal = Utf8.encode (toString p)) (comma : c.kind = .comma)
    (second : u.kind = .number) (secondLit : u.literal = Utf8.encode (toString s)) (rparen : r.kind = .rparen)
    (smallFirst : p < 2 ^ 31) (smallSecond : s < 2 ^ 31) :
    (readTypeChild simple opts owner acc
      (.branch .precision span text [.terminal l, .terminal t, .terminal c, .terminal u, .terminal r])).run a =
      (({ acc.1 with precision := some p, scale := some s }, acc.2), a) := by
  have numbers : (Node.branch .precision span text
      [.terminal l, .terminal t, .terminal c, .terminal u, .terminal r]).terminals.filter (·.kind == .number) = [t, u] := by
    simp [Node.terminals, Node.children, lparen, first, comma, second, rparen]
  simp only [readTypeChild, Node.kind?, numbers, List.forIn_cons, List.forIn_nil,
    Token.text_number firstLit, Token.text_number secondLit, Numeric.parseSmallCount_toString smallFirst,
    Numeric.parseSmallCount_toString smallSecond]
  rfl

end

section

variable (opts : Options) (owner : String) (a : Analyzer)

/-- The tree of a parameter clause sets what the clause says. -/
theorem foldlM_params (t : SimpleType) (params : TypeParams) {cs : List Node}
    (shapes : Node.shapes cs = params.shapes t.name) (counts : ∀ n ∈ params.numbers, n < 2 ^ 31)
    (fractional : ∀ n, params = .one n → fractionalSecondsTypes.contains t.name = true →
      opts.serverVersion.atLeast fractionalSecondsVersion = true)
    (d : DataType) (valueList : String) :
    (cs.foldlM (readTypeChild (some t) opts owner) (d, valueList)).run a = ((params.set t d, valueList), a) := by
  cases params with
  | none =>
    rw [TypeParams.shapes, Node.shapes_eq_map, List.map_eq_nil_iff] at shapes
    subst shapes
    rfl
  | one m =>
    rw [TypeParams.shapes, Node.shapes_eq_map, List.map_eq_singleton_iff] at shapes
    obtain ⟨node, rfl, shape⟩ := shapes
    obtain ⟨span, text, ds, rfl, inner⟩ := Node.shape_eq_branch.mp shape
    obtain ⟨ts, rfl, spelled⟩ := Node.shapes_eq_lexemes inner
    rcases ts with _ | ⟨l, _ | ⟨u, _ | ⟨r, _ | ⟨_, _⟩⟩⟩⟩ <;>
      simp [TypeParams.lexemes, Lexeme.token] at spelled
    obtain ⟨⟨lparen, -⟩, ⟨number, lit⟩, -⟩ := spelled
    have small : m < 2 ^ 31 := counts m (by simp [TypeParams.numbers])
    simp only [List.map_cons, List.map_nil, List.foldlM_cons, List.foldlM_nil, StateT.run_bind]
    by_cases timed : fractionalSecondsTypes.contains t.name = true
    · rw [if_pos timed, readTypeChild_datetimePrecision _ opts owner _ a span text lparen number lit small
        (fractional m rfl timed), TypeParams.set, timed, Bool.true_or, if_pos rfl]
      rfl
    · rw [if_neg timed, readTypeChild_fieldLength _ opts owner _ a span text lparen number lit small,
        TypeParams.set, Bool.eq_false_iff.mpr timed, Bool.false_or]
      rfl
  | two p s =>
    rw [TypeParams.shapes, Node.shapes_eq_map, List.map_eq_singleton_iff] at shapes
    obtain ⟨node, rfl, shape⟩ := shapes
    obtain ⟨span, text, ds, rfl, inner⟩ := Node.shape_eq_branch.mp shape
    obtain ⟨ts, rfl, spelled⟩ := Node.shapes_eq_lexemes inner
    rcases ts with _ | ⟨l, _ | ⟨u, _ | ⟨c, _ | ⟨v, _ | ⟨r, _ | ⟨_, _⟩⟩⟩⟩⟩⟩ <;>
      simp [TypeParams.lexemes, Lexeme.token] at spelled
    obtain ⟨⟨lparen, -⟩, ⟨first, firstLit⟩, ⟨comma, -⟩, ⟨second, secondLit⟩, ⟨rparen, -⟩⟩ := spelled
    simp only [List.map_cons, List.map_nil, List.foldlM_cons, List.foldlM_nil, StateT.run_bind]
    rw [readTypeChild_precision _ opts owner _ a span text lparen first firstLit comma second secondLit rparen
      (counts p (by simp [TypeParams.numbers])) (counts s (by simp [TypeParams.numbers]))]
    rfl

/-- A field options clause adds its options to the flags, each once. -/
theorem foldlM_options (t : SimpleType) (c : TypeClause) {cs : List Node} (shapes : Node.shapes cs = c.optionShapes)
    (d : DataType) (valueList : String) :
    (cs.foldlM (readTypeChild (some t) opts owner) (d, valueList)).run a =
      (({ d with flags := c.options.foldl addFlag d.flags }, valueList), a) := by
  unfold TypeClause.optionShapes at shapes
  split at shapes
  · rename_i none
    rw [Node.shapes_eq_map, List.map_eq_nil_iff] at shapes
    subst shapes
    rw [List.isEmpty_iff.mp none]
    rfl
  · rw [Node.shapes_eq_map, List.map_eq_singleton_iff] at shapes
    obtain ⟨node, rfl, shape⟩ := shapes
    obtain ⟨span, text, ds, rfl, inner⟩ := Node.shape_eq_branch.mp shape
    have words : (Node.branch .fieldOptions span text ds).words = c.options := by
      rw [Node.words_eq, inner, List.filterMap_map]
      conv => rhs; rw [← List.filterMap_some (l := c.options)]
      refine List.filterMap_congr fun o listed => ?_
      have upper : ∀ w ∈ fieldOptionWords, isPlainWord w = true ∧ Text.upper w = w := by decide
      obtain ⟨plain, same⟩ := upper o (c.optionWords o listed)
      simp [Shape.word?_lexeme_word plain, same]
    simp only [List.foldlM_cons, List.foldlM_nil, StateT.run_bind]
    simp [readTypeChild, Node.kind?, words]
    rfl

/-- The `BINARY` shorthand adds `BINARY` to the flags, and a charset clause sets the charset to
its name in lower case. -/
theorem applyStringBinary_clause (d : DataType) (c : TypeClause) {span : Span} {text : String} {ds : List Node}
    (shapes : Node.shapes ds = (if c.binary then [Shape.lexeme (.word "BINARY")] else []) ++
      (if c.charset.isEmpty then []
       else [Shape.lexeme (.word "CHARACTER"), Shape.lexeme (.word "SET"),
         .branch .charsetName [Shape.lexeme (.word c.charset)]])) :
    applyStringBinary d (.branch .stringBinary span text ds) =
      { d with flags := if c.binary then addFlag d.flags "BINARY" else d.flags,
               charset := if c.charset.isEmpty then d.charset else Text.lower c.charset } := by
  have words : (Node.branch .stringBinary span text ds).words =
      (if c.binary then ["BINARY"] else []) ++ (if c.charset.isEmpty then [] else ["CHARACTER", "SET"]) := by
    rw [Node.words_eq, shapes, List.filterMap_append]
    congr 1
    · split
      · simp [Shape.word?_lexeme_word (w := "BINARY") (by decide)]
        decide
      · rfl
    · split
      · rfl
      · simp [Shape.word?_lexeme_word (w := "CHARACTER") (by decide), Shape.word?_lexeme_word (w := "SET") (by decide)]
        decide
  obtain ⟨bs, rest, rfl, binaryShapes, restShapes⟩ := Node.shapes_eq_append shapes
  have marks : Node.shapes bs = (if c.binary then [Lexeme.word "BINARY"] else []).map Shape.lexeme := by
    rw [binaryShapes]
    split <;> rfl
  obtain ⟨ts, rfl, -⟩ := Node.shapes_eq_lexemes marks
  have skipped : (ts.map Node.terminal).find? (Node.isKind .charsetName) = none :=
    List.find?_eq_none.mpr fun u mem => by
      obtain ⟨tok, -, rfl⟩ := List.mem_map.mp mem
      simp [Node.isKind, Node.kind?]
  have binaryFlag : ((if c.binary then ["BINARY"] else []) ++
      (if c.charset.isEmpty then [] else ["CHARACTER", "SET"])).contains "BINARY" = c.binary := by
    cases c.binary <;> cases c.charset.isEmpty <;> decide
  unfold applyStringBinary
  simp only [words, binaryFlag]
  split at restShapes
  · rename_i unnamed
    rw [Node.shapes_eq_map, List.map_eq_nil_iff] at restShapes
    subst restShapes
    have child : (Node.branch .stringBinary span text (ts.map Node.terminal ++ [])).child .charsetName = none := by
      rw [Node.child, Node.children, List.append_nil]
      exact skipped
    rw [child]
    cases c.binary <;> simp +decide [unnamed]
  · rename_i named
    rw [Node.shapes_eq_map] at restShapes
    obtain ⟨n₁, n₂, n₃, rfl, first, second, shape⟩ : ∃ n₁ n₂ n₃, rest = [n₁, n₂, n₃] ∧
        n₁.shape = Shape.lexeme (.word "CHARACTER") ∧ n₂.shape = Shape.lexeme (.word "SET") ∧
        n₃.shape = .branch .charsetName [Shape.lexeme (.word c.charset)] := by
      rcases rest with _ | ⟨n₁, _ | ⟨n₂, _ | ⟨n₃, _ | ⟨_, _⟩⟩⟩⟩ <;> simp at restShapes
      exact ⟨n₁, n₂, n₃, rfl, restShapes⟩
    obtain ⟨t₁, rfl, -⟩ := Node.shape_eq_token.mp first
    obtain ⟨t₂, rfl, -⟩ := Node.shape_eq_token.mp second
    obtain ⟨nameSpan, nameText, nameDs, rfl, nameShapes⟩ := Node.shape_eq_branch.mp shape
    have plain : isPlainWord c.charset = true := c.plainCharset.resolve_left named
    have child : (Node.branch .stringBinary span text (ts.map Node.terminal ++
        [.terminal t₁, .terminal t₂, .branch .charsetName nameSpan nameText nameDs])).child .charsetName =
        some (.branch .charsetName nameSpan nameText nameDs) := by
      rw [Node.child, Node.children, List.find?_append, skipped]
      rfl
    rw [child]
    simp only [nameValue, Node.value_of_word plain nameShapes, named]
    cases c.binary <;> simp +decide

/-- A charset clause adds `BINARY` to the flags when it has it, and sets the charset to its
name in lower case when it has one. -/
theorem foldlM_charset (t : SimpleType) (c : TypeClause) {cs : List Node}
    (shapes : Node.shapes cs = c.charsetShapes) (d : DataType) (valueList : String) :
    (cs.foldlM (readTypeChild (some t) opts owner) (d, valueList)).run a =
      (({ d with flags := if c.binary then addFlag d.flags "BINARY" else d.flags,
                 charset := if c.charset.isEmpty then d.charset else Text.lower c.charset }, valueList), a) := by
  unfold TypeClause.charsetShapes at shapes
  split at shapes
  · rw [Node.shapes_eq_map, List.map_eq_singleton_iff] at shapes
    obtain ⟨node, rfl, shape⟩ := shapes
    obtain ⟨span, text, ds, rfl, inner⟩ := Node.shape_eq_branch.mp shape
    have read : applyStringBinary d (.branch .stringBinary span text ds) = _ :=
      applyStringBinary_clause d c (by rw [inner])
    simp only [List.foldlM_cons, List.foldlM_nil, StateT.run_bind]
    simp only [readTypeChild, Node.kind?, read]
    rfl
  · rename_i none
    rw [Node.shapes_eq_map, List.map_eq_nil_iff] at shapes
    subst shapes
    simp only [Bool.or_eq_true, Bool.not_eq_true', not_or, Bool.not_eq_true] at none
    obtain ⟨unmarked, unnamed⟩ := none
    simp [unmarked, unnamed]
    rfl

/-- A collation clause sets the collation to its name in lower case. -/
theorem foldlM_collation (t : SimpleType) (c : TypeClause) {cs : List Node}
    (shapes : Node.shapes cs = c.collationShapes) (d : DataType) (valueList : String) :
    (cs.foldlM (readTypeChild (some t) opts owner) (d, valueList)).run a =
      (({ d with collation := if c.collation.isEmpty then d.collation else Text.lower c.collation },
        valueList), a) := by
  unfold TypeClause.collationShapes at shapes
  split at shapes
  · rename_i none
    rw [Node.shapes_eq_map, List.map_eq_nil_iff] at shapes
    subst shapes
    simp [none]
    rfl
  · rename_i named
    rw [Node.shapes_eq_map] at shapes
    obtain ⟨n₁, n₂, rfl, first, shape⟩ : ∃ n₁ n₂, cs = [n₁, n₂] ∧ n₁.shape = Shape.lexeme (.word "COLLATE") ∧
        n₂.shape = .branch .collationName [Shape.lexeme (.word c.collation)] := by
      rcases cs with _ | ⟨n₁, _ | ⟨n₂, _ | ⟨_, _⟩⟩⟩ <;> simp at shapes
      exact ⟨n₁, n₂, rfl, shapes⟩
    obtain ⟨t₁, rfl, -⟩ := Node.shape_eq_token.mp first
    obtain ⟨nameSpan, nameText, nameDs, rfl, nameShapes⟩ := Node.shape_eq_branch.mp shape
    have plain : isPlainWord c.collation = true := c.plainCollation.resolve_left named
    simp only [List.foldlM_cons, List.foldlM_nil, StateT.run_bind, readTypeChild_terminal]
    simp only [readTypeChild, Node.kind?, nameValue, Node.value_of_word plain nameShapes, named]
    rfl

end

/-- The words of the tree of a clause, but `COLLATE`, are its type name. -/
theorem clause_name (c : TypeClause) (span : Span) (text : String) {cs : List Node}
    (shapes : Node.shapes cs = Shape.lexeme (.word c.type.name) :: c.params.shapes c.type.name ++
      c.optionShapes ++ c.charsetShapes ++ c.collationShapes) :
    " ".intercalate ((Node.branch .dataType span text cs).words.filter (· != "COLLATE")) = c.type.name := by
  obtain ⟨plain, upper, -, -⟩ := Parse.builtin_name c.type c.builtin
  have named := (builtin_resolves c.type c.builtin).2
  have params : (c.params.shapes c.type.name).filterMap Shape.word? = [] := by
    cases c.params <;> rfl
  have options : c.optionShapes.filterMap Shape.word? = [] := by
    unfold TypeClause.optionShapes
    split <;> rfl
  have charset : c.charsetShapes.filterMap Shape.word? = [] := by
    unfold TypeClause.charsetShapes
    split <;> rfl
  have collation : (c.collationShapes.filterMap Shape.word?).filter (· != "COLLATE") = [] := by
    unfold TypeClause.collationShapes
    split
    · rfl
    · simp [Shape.word?_lexeme_word (w := "COLLATE") (by decide)]
      decide
  rw [Node.words_eq, shapes]
  simp only [List.filterMap_append, List.filterMap_cons, Shape.word?_lexeme_word plain, upper, params, options,
    charset, List.filter_append, collation]
  simp [named]

/-- The tree of a type clause reads, with no diagnostic and no change to the analyzer, as the
descriptor the clause says, when the clause fits the server version. -/
theorem extractDataType_clause (c : TypeClause) {n : Node} (shape : n.shape = c.shape) (a : Analyzer)
    (owner dflt : String) (fits : c.Fits a.options.serverVersion) :
    (extractDataType n owner dflt).run a = (c.reading dflt, a) := by
  obtain ⟨span, text, cs, rfl, shapes⟩ := Node.shape_eq_branch.mp shape
  have resolved := (builtin_resolves c.type c.builtin).1
  have name := clause_name c span text shapes
  -- the children are the type name, then the parts of the clause in order
  obtain ⟨rest₃, collations, rfl, shapes₃, collationShapes⟩ := Node.shapes_eq_append shapes
  obtain ⟨rest₂, charsets, rfl, shapes₂, charsetShapes⟩ := Node.shapes_eq_append shapes₃
  obtain ⟨rest₁, options, rfl, shapes₁, optionShapes⟩ := Node.shapes_eq_append shapes₂
  rw [Node.shapes_eq_map, List.map_eq_cons_iff] at shapes₁
  obtain ⟨typeName, params, rfl, nameShape, paramShapes⟩ := shapes₁
  obtain ⟨nameToken, rfl, -⟩ := Node.shape_eq_token.mp nameShape
  rw [← Node.shapes_eq_map] at paramShapes
  have fold : ((Node.terminal nameToken :: params ++ options ++ charsets ++ collations).foldlM
      (readTypeChild (some c.type) a.options owner) ({ simple := some c.type, name := c.type.name }, "")).run a =
      (({ (c.params.set c.type { simple := some c.type, name := c.type.name }) with
          flags := c.flags, charset := if c.charset.isEmpty then "" else Text.lower c.charset,
          collation := if c.collation.isEmpty then "" else Text.lower c.collation }, ""), a) := by
    rw [List.foldlM_append, run_bind, List.foldlM_append, run_bind, List.foldlM_append, run_bind,
      List.foldlM_cons, run_bind, readTypeChild_terminal,
      foldlM_params a.options owner a c.type c.params paramShapes fits.counts fits.fractional,
      foldlM_options a.options owner a c.type c optionShapes, foldlM_charset a.options owner a c.type c charsetShapes,
      foldlM_collation a.options owner a c.type c collationShapes]
    obtain ⟨-, -, flags, charset, collation⟩ :=
      TypeParams.set_keeps c.type c.params { simple := some c.type, name := c.type.name }
    simp only [flags, charset, collation]
    rfl
  rw [extractDataType]
  dsimp only
  rw [name, resolved]
  dsimp only
  rw [run_bind, options_run]
  dsimp only
  rw [fits.type, Bool.not_true, if_neg Bool.false_ne_true, run_bind, Node.children, fold, TypeClause.reading_eq]
  have collated : (if c.collation.isEmpty = true then "" else Text.lower c.collation) = Text.lower c.collation := by
    split
    · rename_i none
      rw [String.isEmpty_iff.mp none]
      rfl
    · rfl
  rw [collated]
  dsimp only
  cases named : c.charset.isEmpty <;> cases character : c.type.characterType <;>
    simp [Text.lower_isEmpty, named, character] <;> rfl

end Analyze

end DdlCatalog.Analysis
