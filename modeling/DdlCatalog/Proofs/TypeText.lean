import DdlCatalog.Proofs.Steps
import DdlCatalog.Proofs.UniqueNames.Catalog
import DdlCatalog.Proofs.TypeReading
import DdlCatalog.Proofs.Parsing.Recovery
/-!
The text of a type descriptor, as a table definition shows it, and what reading it back gives.

The text writes one parameter clause: precision and scale, else the precision, else the length.
A descriptor that carries both a length and a precision therefore writes the same text as the
one without the length, and no reading of the text can give both back. The analysis makes such
descriptors: `BOOL` is `TINYINT` of length 1, and a precision clause on it adds a precision
beside that length.

A descriptor whose text avoids this and the other ways a text can read as something else
(`DataType.rereads`) reads back: it is the reading of a type clause whose text is the
descriptor's text, and the parse of that text builds the tree of the clause.
-/

namespace DdlCatalog.Catalog

namespace DataType

/-- Once a precision is set, the parameter clause does not depend on the length. -/
theorem sizeClause_length_hidden (d : DataType) {p : Nat} (precise : d.precision = some p)
    (l : Option Nat) : { d with length := l }.sizeClause = d.sizeClause := by
  unfold sizeClause
  rw [precise]
  cases d.scale <;> rfl

/-- Once a precision is set, the text of a descriptor does not show its length. -/
theorem render_length_hidden (d : DataType) {p : Nat} (precise : d.precision = some p)
    (l : Option Nat) : { d with length := l }.render = d.render := by
  unfold render
  rw [sizeClause_length_hidden d precise l]

end DataType

end DdlCatalog.Catalog

namespace DdlCatalog.Analysis

open DdlCatalog.Catalog

/-- `BOOL(3,2)` reads, with no diagnostic, as `TINYINT` of length 1, precision 3 and scale 2,
whose text is `TINYINT(3,2)`; a column declared with that text has no length. -/
theorem bool_precision_hides_length :
    let u := (AnalysisUnit.new "u" (Catalog.new {}) {}).run
      [.script "CREATE TABLE t (a BOOL(3,2), b TINYINT(3,2));"]
    u.diagnostics = [] ∧ u.parseErrors = #[] ∧
      (u.catalog.tables.flatMap (·.columns)).map (fun c => (c.name, c.dataType.length, c.dataType.render)) =
        [("a", some 1, "TINYINT(3,2)"), ("b", none, "TINYINT(3,2)")] := by
  set_option maxRecDepth 100000 in decide +kernel

end DdlCatalog.Analysis

namespace DdlCatalog.Sql

/-- Plain words go on a plain text wherever they stand. -/
theorem Spellable.words (b : Bool) {ws : List String} (plain : ∀ w ∈ ws, isPlainWord w = true) :
    Spellable b (ws.map Lexeme.word) := by
  induction ws generalizing b with
  | nil => trivial
  | cons w ws ih =>
    exact ⟨plain w List.mem_cons_self, fun _ => rfl, ih _ fun v mem => plain v (List.mem_cons_of_mem w mem)⟩

theorem Spellable.append_words {b : Bool} {ls : List Lexeme} (first : Spellable b ls) {ws : List String}
    (plain : ∀ w ∈ ws, isPlainWord w = true) : Spellable b (ls ++ ws.map Lexeme.word) := by
  induction ls generalizing b with
  | nil => exact Spellable.words b plain
  | cons l ls ih => exact ⟨first.1, first.2.1, ih first.2.2⟩

end DdlCatalog.Sql

namespace DdlCatalog.Syntax

open DdlCatalog.Sql

theorem TypeParams.spellable (params : TypeParams) : Spellable true params.lexemes := by
  cases params <;> simp [Spellable, TypeParams.lexemes, Lexeme.Plain, Lexeme.isNumber, Lexeme.isRun]

namespace TypeClause

/-- The words after the parameter clause of a clause. -/
def words (c : TypeClause) : List String :=
  c.options ++ (if c.binary then ["BINARY"] else []) ++
    (if c.charset.isEmpty then [] else ["CHARACTER", "SET", c.charset]) ++
    (if c.collation.isEmpty then [] else ["COLLATE", c.collation])

/-- The text of a clause: its type name, its parameter clause, its field options, `BINARY`, its
charset clause and its collation clause, each word after a blank. -/
theorem text_eq (c : TypeClause) :
    c.text = c.type.name ++ String.join (c.params.lexemes.map Lexeme.spelling) ++
      String.join (c.options.map (" " ++ ·)) ++ (if c.binary then " BINARY" else "") ++
      (if c.charset.isEmpty then "" else " CHARACTER SET " ++ c.charset) ++
      (if c.collation.isEmpty then "" else " COLLATE " ++ c.collation) := by
  have charset (x : String) : " CHARACTER" ++ (" SET" ++ (" " ++ x)) = " CHARACTER SET " ++ x := by
    simp only [← String.append_assoc]
    rfl
  have collation (x : String) : " COLLATE" ++ (" " ++ x) = " COLLATE " ++ x := by
    simp only [← String.append_assoc]
    rfl
  unfold text lexemes charsetLexemes collationLexemes
  cases c.binary <;> cases c.charset.isEmpty <;> cases c.collation.isEmpty <;>
    simp [String.join_append, Lexeme.spelling, Function.comp_def, String.append_assoc, charset, collation]

theorem lexemes_eq (c : TypeClause) : c.lexemes = c.params.lexemes ++ c.words.map Lexeme.word := by
  unfold lexemes words charsetLexemes collationLexemes
  cases c.binary <;> cases c.charset.isEmpty <;> cases c.collation.isEmpty <;> simp

/-- The pieces of a clause go on a plain text after its type name. -/
theorem spellable (c : TypeClause) : Spellable true c.lexemes := by
  rw [lexemes_eq]
  refine c.params.spellable.append_words fun w mem => ?_
  simp only [words, List.mem_append] at mem
  rcases mem with ((option | binary) | charset) | collation
  · have listed := c.optionWords w option
    simp only [fieldOptionWords, List.mem_cons, List.mem_nil_iff, or_false] at listed
    rcases listed with rfl | rfl | rfl <;> decide
  · split at binary
    · rw [List.mem_singleton.mp binary]
      decide
    · cases binary
  · split at charset
    · cases charset
    · rename_i named
      simp only [List.mem_cons, List.mem_nil_iff, or_false] at charset
      rcases charset with rfl | rfl | rfl
      · decide
      · decide
      · exact c.plainCharset.resolve_left named
  · split at collation
    · cases collation
    · rename_i named
      simp only [List.mem_cons, List.mem_nil_iff, or_false] at collation
      rcases collation with rfl | rfl
      · decide
      · exact c.plainCollation.resolve_left named

end TypeClause

end DdlCatalog.Syntax

namespace DdlCatalog.Catalog

open DdlCatalog.Sql DdlCatalog.Syntax

namespace DataType

/-- The parameter clause that writes the length, precision and scale of a descriptor of the type
`t` so that they read back under the server version `v`, if there is one: the precision and the
scale, or one number that the type reads as what the descriptor has, with every number below
`2 ^ 31`. -/
def readableParams (t : SimpleType) (v : Version) (d : DataType) : Option TypeParams :=
  match d.precision, d.scale, d.length with
  | some p, some s, none => if p < 2 ^ 31 ∧ s < 2 ^ 31 then some (.two p s) else none
  | some p, none, none =>
    if p < 2 ^ 31 ∧ (if fractionalSecondsTypes.contains t.name then v.atLeast Analysis.fractionalSecondsVersion
        else t.numericPrecision) = true then some (.one p) else none
  | none, none, some l =>
    if l < 2 ^ 31 ∧ fractionalSecondsTypes.contains t.name = false ∧ t.numericPrecision = false then some (.one l)
    else none
  | none, none, none => some .none
  | _, _, _ => none

/-- The field options of a list of flags: all of them, or all but a last `BINARY`. -/
def optionFlags (flags : List String) : List String :=
  if flags.getLast? = some "BINARY" then flags.dropLast else flags

/-- Flags that read back: field options, each once, then at most `BINARY`. -/
def flagsRead (flags : List String) : Bool :=
  (optionFlags flags).all (fieldOptionWords.contains ·) && (optionFlags flags).foldl Analysis.addFlag [] == optionFlags flags

/-- A charset or collation name that reads back: none, or a plain word in lower case. -/
def nameReads (name : String) : Bool := name.isEmpty || (isPlainWord name && Text.lower name == name)

/-- Whether the text of a descriptor reads back as the descriptor, under the server version `v`
and with `dflt` the charset of character types written without one: its type is a built-in type
the version has, under its own name; its parameters have a clause that reads back
(`readableParams`); its flags read back and are its explicit parameters, so it has no value list;
its charset and collation names are plain lower-case words; and a character type without a
charset is one the default gives none. -/
def rereads (v : Version) (dflt : String) (d : DataType) : Bool :=
  match d.simple with
  | none => false
  | some t =>
    builtinTypes.contains t && d.name == t.name && v.atLeast t.minVersion && (readableParams t v d).isSome &&
      flagsRead d.flags && d.explicitParams == " ".intercalate d.flags && nameReads d.charset &&
      nameReads d.collation && (!d.charset.isEmpty || !t.characterType || dflt.isEmpty)

/-- A parameter clause that writes a descriptor's length, precision and scale so that they read
back: its text is the descriptor's, the clause fits, and it sets what the descriptor has. -/
structure ParamsRead (t : SimpleType) (v : Version) (d : DataType) (params : TypeParams) : Prop where
  spelled : String.join (params.lexemes.map Lexeme.spelling) = d.sizeClause
  counts : ∀ n ∈ params.numbers, n < 2 ^ 31
  fractional : ∀ n, params = .one n → fractionalSecondsTypes.contains t.name = true →
    v.atLeast Analysis.fractionalSecondsVersion = true
  set : ∀ e : DataType, e.length = none → e.precision = none → e.scale = none →
    (params.set t e).length = d.length ∧ (params.set t e).precision = d.precision ∧ (params.set t e).scale = d.scale

theorem readableParams_read {t : SimpleType} {v : Version} {d : DataType} {params : TypeParams}
    (found : readableParams t v d = some params) : ParamsRead t v d params := by
  unfold readableParams at found
  split at found
  · -- a precision and a scale
    rename_i p s precise scaled long
    by_cases small : p < 2 ^ 31 ∧ s < 2 ^ 31
    · rw [if_pos small, Option.some.injEq] at found
      subst found
      refine ⟨?_, by simpa [TypeParams.numbers] using small, fun n same => TypeParams.noConfusion same,
        fun e noLength _ _ => ⟨noLength.trans long.symm, precise.symm, scaled.symm⟩⟩
      simp [TypeParams.lexemes, Lexeme.spelling, String.join, sizeClause, precise, scaled]
      rfl
    · rw [if_neg small] at found
      cases found
  · -- one number, which the type reads as a precision
    rename_i p precise unscaled short
    by_cases read : p < 2 ^ 31 ∧ (if fractionalSecondsTypes.contains t.name then
        v.atLeast Analysis.fractionalSecondsVersion else t.numericPrecision) = true
    · rw [if_pos read, Option.some.injEq] at found
      subst found
      obtain ⟨small, fits⟩ := read
      refine ⟨?_, by simpa [TypeParams.numbers] using small, fun n _ timed => ?_, fun e noLength _ noScale => ?_⟩
      · simp [TypeParams.lexemes, Lexeme.spelling, String.join, sizeClause, precise, unscaled]
        rfl
      · rwa [timed, if_pos rfl] at fits
      · have reads : (fractionalSecondsTypes.contains t.name || t.numericPrecision) = true := by
          revert fits
          cases fractionalSecondsTypes.contains t.name <;> simp
        simp only [TypeParams.set, reads, if_true]
        exact ⟨noLength.trans short.symm, precise.symm, noScale.trans unscaled.symm⟩
    · rw [if_neg read] at found
      cases found
  · -- one number, which the type reads as a length
    rename_i l unprecise unscaled long
    by_cases read : l < 2 ^ 31 ∧ fractionalSecondsTypes.contains t.name = false ∧ t.numericPrecision = false
    · rw [if_pos read, Option.some.injEq] at found
      subst found
      obtain ⟨small, untimed, plain⟩ := read
      refine ⟨?_, by simpa [TypeParams.numbers] using small, fun n _ timed => ?_, fun e _ noPrecision noScale => ?_⟩
      · simp [TypeParams.lexemes, Lexeme.spelling, String.join, sizeClause, unprecise, long]
        rfl
      · rw [untimed] at timed
        cases timed
      · simp only [TypeParams.set, untimed, plain, Bool.or_false, Bool.false_eq_true, if_false]
        exact ⟨long.symm, noPrecision.trans unprecise.symm, noScale.trans unscaled.symm⟩
    · rw [if_neg read] at found
      cases found
  · -- no parameters
    rename_i unprecise unscaled short
    rw [Option.some.injEq] at found
    subst found
    refine ⟨?_, fun n none => ?_, fun n same => TypeParams.noConfusion same,
      fun e noLength noPrecision noScale => ?_⟩
    · simp [TypeParams.lexemes, String.join, sizeClause, unprecise, short]
    · cases none
    · exact ⟨noLength.trans short.symm, noPrecision.trans unprecise.symm, noScale.trans unscaled.symm⟩
  · cases found

/-- Flags that read back are field options, each once, then at most `BINARY`. -/
theorem flagsRead_split {flags : List String} (read : flagsRead flags = true) :
    (∀ o ∈ optionFlags flags, o ∈ fieldOptionWords) ∧
      (optionFlags flags).foldl Analysis.addFlag [] = optionFlags flags ∧
      flags = optionFlags flags ++ (if flags.getLast? = some "BINARY" then ["BINARY"] else []) := by
  simp only [flagsRead, Bool.and_eq_true, List.all_eq_true, beq_iff_eq] at read
  obtain ⟨words, once⟩ := read
  refine ⟨fun o mem => by simpa using words o mem, once, ?_⟩
  unfold optionFlags
  split
  · rename_i last
    obtain ⟨ys, rfl⟩ := List.getLast?_eq_some_iff.mp last
    simp
  · simp

/-- A name that reads back is none or a plain word, and is its own lower case. -/
theorem nameReads_split {name : String} (read : nameReads name = true) :
    (name.isEmpty ∨ isPlainWord name = true) ∧ Text.lower name = name := by
  simp only [nameReads, Bool.or_eq_true, Bool.and_eq_true, beq_iff_eq] at read
  rcases read with empty | ⟨plain, lower⟩
  · rw [String.isEmpty_iff.mp empty]
    exact ⟨.inl rfl, rfl⟩
  · exact ⟨.inr plain, lower⟩

/-- Flags that are field options or `BINARY` make no value list: their text starts with a
letter. -/
theorem intercalate_flags_startsWith {flags : List String} (words : ∀ f ∈ flags, f ∈ fieldOptionWords ∨ f = "BINARY") :
    (" ".intercalate flags).startsWith "(" = false := by
  rw [String.startsWith_string_eq_false_iff, String.toList_intercalate]
  cases flags with
  | nil => simp
  | cons f rest =>
    have word := words f List.mem_cons_self
    simp only [fieldOptionWords, List.mem_cons, List.mem_nil_iff, or_false] at word
    cases rest <;> rcases word with (rfl | rfl | rfl) | rfl <;> simp [List.intercalate]

/-- A clause with the field options of flags that read back, and `BINARY` when they end with it,
has these flags. -/
theorem clause_flags {flags : List String} (read : flagsRead flags = true) (c : TypeClause)
    (options : c.options = optionFlags flags) (binary : c.binary = decide (flags.getLast? = some "BINARY")) :
    c.flags = flags := by
  obtain ⟨words, once, split⟩ := flagsRead_split read
  rw [TypeClause.flags, options, binary, once]
  conv => rhs; rw [split]
  by_cases last : flags.getLast? = some "BINARY"
  · have fresh : "BINARY" ∉ optionFlags flags := fun mem => by simpa [fieldOptionWords] using words _ mem
    simp [last, Analysis.addFlag, fresh]
  · simp [last]

/-- A descriptor whose text reads back is the reading of a clause whose text is the descriptor's
text. -/
theorem exists_clause {v : Version} {dflt : String} {d : DataType} (rereads : d.rereads v dflt = true) :
    ∃ c : TypeClause, c.text = d.render ∧ c.Fits v ∧ c.reading dflt = d := by
  unfold DataType.rereads at rereads
  split at rereads
  · cases rereads
  rename_i t simple
  simp only [Bool.and_eq_true, beq_iff_eq, List.contains_iff_mem] at rereads
  obtain ⟨⟨⟨⟨⟨⟨⟨⟨builtin, named⟩, version⟩, params⟩, flags⟩, explicit⟩, charset⟩, collation⟩, defaulted⟩ := rereads
  obtain ⟨params, found⟩ := Option.isSome_iff_exists.mp params
  have read := readableParams_read found
  obtain ⟨words, -, split⟩ := flagsRead_split flags
  obtain ⟨plainCharset, lowerCharset⟩ := nameReads_split charset
  obtain ⟨plainCollation, lowerCollation⟩ := nameReads_split collation
  refine ⟨{ type := t, builtin := builtin, params := params, options := optionFlags d.flags, optionWords := words,
            binary := decide (d.flags.getLast? = some "BINARY"), charset := d.charset,
            plainCharset := plainCharset, collation := d.collation, plainCollation := plainCollation },
    ?_, ⟨version, read.fractional, read.counts⟩, ?_⟩
  · -- the text: the flags are field options, then perhaps `BINARY`, and make no value list
    have flagWords : ∀ f ∈ d.flags, f ∈ fieldOptionWords ∨ f = "BINARY" := by
      intro f mem
      rw [split, List.mem_append] at mem
      rcases mem with option | binary
      · exact .inl (words f option)
      · split at binary
        · exact .inr (List.mem_singleton.mp binary)
        · cases binary
    have optionsText : String.join (d.flags.map (" " ++ ·)) = String.join ((optionFlags d.flags).map (" " ++ ·)) ++
        (if decide (d.flags.getLast? = some "BINARY") then " BINARY" else "") := by
      conv => lhs; rw [split]
      by_cases last : d.flags.getLast? = some "BINARY" <;> simp [last]
    rw [TypeClause.text_eq]
    unfold DataType.render
    dsimp only
    rw [explicit, intercalate_flags_startsWith flagWords, if_neg Bool.false_ne_true, optionsText, named,
      read.spelled]
    simp only [String.append_assoc]
  · -- the reading: the parameters, the flags, and names that are their own lower case
    obtain ⟨keepsSimple, keepsName, -, -, -⟩ := TypeParams.set_keeps t params { simple := some t, name := t.name }
    obtain ⟨length, precision, scale⟩ := read.set { simple := some t, name := t.name } rfl rfl rfl
    rw [TypeClause.reading_eq]
    dsimp only
    rw [clause_flags flags _ rfl rfl, lowerCollation]
    have charsetRead : (if d.charset.isEmpty = true then (if t.characterType = true then dflt else "")
        else Text.lower d.charset) = d.charset := by
      split
      · rename_i none
        simp only [Bool.or_eq_true, Bool.not_eq_true', none, Bool.true_eq_false, false_or] at defaulted
        rw [String.isEmpty_iff.mp none]
        rcases defaulted with plain | empty
        · simp [plain]
        · simp [String.isEmpty_iff.mp empty]
      · exact lowerCharset
    rw [charsetRead]
    generalize params.set t { simple := some t, name := t.name } = e at keepsSimple keepsName length precision scale
    cases d
    cases e
    simp only [DataType.mk.injEq] at *
    exact ⟨keepsSimple.trans simple.symm, keepsName.trans named.symm, length, precision, scale, trivial, trivial,
      explicit.symm, trivial⟩

end DataType

end DdlCatalog.Catalog

namespace DdlCatalog.Syntax.ParseState

open DdlCatalog.Sql

/-- At the start of a parse, the tokens ahead are all the tokens. -/
theorem init_spells (source : ByteArray) (toks : List Token) :
    (init source toks.toArray).Spells (toks.map fun t => (t.kind, t.literal)) := by
  intro k inside
  rw [List.length_map] at inside
  simp [ahead, init, Array.getD, inside]

end DdlCatalog.Syntax.ParseState

namespace DdlCatalog.Analysis

open DdlCatalog.Sql DdlCatalog.Syntax DdlCatalog.Catalog

/-- The text of a descriptor that reads back (`DataType.rereads`) is read back as the descriptor:
from the start of a parse of the text, the data type production consumes all of it and builds one
tree, which the analysis reads, with no diagnostic and no change to its state, as the descriptor
again. -/
theorem render_reads_back (d : DataType) (lex : LexOptions) (a : Analyzer) (owner dflt : String)
    (rereads : d.rereads a.options.serverVersion dflt = true) :
    ∃ s n, Parse.dataType (ParseState.init (Utf8.encode d.render).toByteArray (tokenize d.render lex).toArray) =
        .ok () s ∧ s.children.toList = [n] ∧ (s.ahead 0).kind = .eof ∧
      (Analyze.extractDataType n owner dflt).run a = (d, a) := by
  obtain ⟨c, text, fits, reading⟩ := DataType.exists_clause rereads
  obtain ⟨plain, -, -, notDelimiter⟩ := Parse.builtin_name c.type c.builtin
  rw [← text, TypeClause.text]
  -- the text lexes into the pieces of the clause, then the end
  have tokens := tokenize_spelled c.type.name c.lexemes lex plain notDelimiter c.spellable
  generalize tokenize (c.type.name ++ String.join (c.lexemes.map Lexeme.spelling)) lex = toks at tokens
  generalize (Utf8.encode (c.type.name ++ String.join (c.lexemes.map Lexeme.spelling))).toByteArray = source
  obtain ⟨front, back, rfl, -, ended⟩ := List.map_eq_append_iff.mp tokens
  obtain ⟨last, rfl, eof⟩ := List.map_eq_singleton_iff.mp ended
  have ready := ParseState.init_ready source front (congrArg Prod.fst eof)
  have spells := ParseState.init_spells source (front ++ [last])
  rw [tokens, ← Lexeme.ended] at spells
  obtain ⟨s, run, sameTokens, index, new, children, shapes⟩ := Parse.dataType_builds c ready spells
  obtain ⟨n, rfl, shape⟩ := List.map_eq_singleton_iff.mp ((Node.shapes_eq_map new).symm.trans shapes)
  have atEnd : s.Spells [(.eof, [])] :=
    spells.drop sameTokens (by rw [index, List.length_map, List.length_cons])
  refine ⟨s, n, run, by simpa [ParseState.init] using children, congrArg Prod.fst atEnd.head, ?_⟩
  rw [Analyze.extractDataType_clause c shape a owner dflt fits, reading]

/-- `DECIMAL(10,2) UNSIGNED` reads back as the descriptor it renders from. -/
theorem decimal_reads_back :
    let d : DataType := { simple := builtinTypes.find? (·.name == "DECIMAL"), name := "DECIMAL",
                          precision := some 10, scale := some 2, explicitParams := "UNSIGNED",
                          flags := ["UNSIGNED"] }
    let a := Analyzer.new (Catalog.new {}) {}
    d.rereads a.options.serverVersion "" = true ∧
      ∃ s n, Parse.dataType (ParseState.init (Utf8.encode d.render).toByteArray (tokenize d.render {}).toArray) =
          .ok () s ∧ s.children.toList = [n] ∧ (s.ahead 0).kind = .eof ∧
        (Analyze.extractDataType n "t" "").run a = (d, a) := by
  intro d a
  have rereads : d.rereads a.options.serverVersion "" = true := by decide +kernel
  exact ⟨rereads, render_reads_back d {} a "t" "" rereads⟩

end DdlCatalog.Analysis
