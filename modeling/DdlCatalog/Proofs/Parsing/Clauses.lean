import Mathlib
import DdlCatalog.Proofs.Parsing.Sound
/-!
The clauses of the statements are sound: names, literals, expressions and bodies, data types,
partitioning, and the parts of `CREATE TABLE`. Most soundness instances are found by instance
search along the production's `do` block. A production with a loop of its own proves, in
addition, that every round of the loop that asks to go on consumed a token; a production that
such a round runs proves when it consumes one (`_advances`), and where that depends on the test
the round made first, the condition is that the test passes.
-/

namespace DdlCatalog.Syntax.Parse

open DdlCatalog.Sql

-- instance search builds one term for a whole production, nested as deep as its branches
set_option synthInstance.maxSize 1000000

variable {c : (Nat → Token) → Prop}

/-! Names, literals and runs of tokens. -/

instance identifier_sound : Sound identifier := by
  unfold identifier
  infer_instance

theorem identifier_advances : Advances c identifier fun _ => True := by
  unfold identifier
  refine Advances.inside (Advances.read_bind fun t => Advances.ite (fun named => ?_)
    fun _ => Advances.bind_left (failAt_advances _))
  refine skip_advances.mono fun w held => ?_
  rw [held.2]
  exact kind_ne_eof_of_isIdentifier named

instance qualifiedIdentifier_sound : Sound qualifiedIdentifier := by
  unfold qualifiedIdentifier
  infer_instance

instance named_sound (kind : NodeKind) : Sound (named kind) := by
  unfold named
  infer_instance

instance ifNotExists_sound : Sound ifNotExists := by
  unfold ifNotExists
  infer_instance

instance columnList_sound : Sound columnList := by
  unfold columnList
  infer_instance

/-- Adjacent strings: a round goes on only past the string it accepted. -/
instance strings_sound : Sound (loop (accept? .string)) :=
  loop_sound (accept?_advances TokenKind.noConfusion)

instance textLiteral_sound : Sound textLiteral := by
  unfold textLiteral
  infer_instance

instance userName_sound : Sound userName := by
  unfold userName
  infer_instance

instance definerClause_sound : Sound definerClause := by
  unfold definerClause
  infer_instance

instance number_sound : Sound number := by
  unfold number
  infer_instance

theorem number_advances : Advances c number fun _ => True := by
  unfold number
  exact Advances.read_ite (skip_advances_of_check TokenKind.noConfusion)
    (Advances.bind_left (failAt_advances _))

instance acceptEquals_sound : Sound acceptEquals := by
  unfold acceptEquals
  infer_instance

instance expectWord_sound : Sound expectWord := by
  unfold expectWord
  infer_instance

instance isCharsetKeyword_sound : Sound isCharsetKeyword := by
  unfold isCharsetKeyword
  infer_instance

instance charsetKeyword_sound : Sound charsetKeyword := by
  unfold charsetKeyword
  infer_instance

/-- A charset keyword consumes its first word or fails. -/
theorem charsetKeyword_advances : Advances c charsetKeyword fun _ => True := by
  unfold charsetKeyword
  refine Advances.bind_taken (acceptSeq_advances _ _) fun _ declined =>
    Advances.ite (fun taken => absurd taken declined) fun _ => ?_
  exact Advances.bind_taken (acceptSeq_advances _ _) fun _ declined =>
    Advances.ite (fun taken => absurd taken declined) fun _ => expectKw_advances _ _

instance charsetName_sound (kind : NodeKind) : Sound (charsetName kind) := by
  unfold charsetName
  refine @node_sound _ _ _ (@Sound.bind _ _ _ _ inferInstance fun t => ?_)
  split <;> infer_instance

instance textOrIdentifier_sound : Sound textOrIdentifier := charsetName_sound _

instance exprUntil_sound {stop : Parse Bool} [Sound stop] : Sound (exprUntil stop) := by
  unfold exprUntil
  generalize rounds : loopFrom _ 0 = run
  have : Sound run := by
    rw [← rounds]
    refine loopFrom_sound (fun depth => ?_) 0
    refine Advances.read_ite (Advances.pure_not Bool.false_ne_true)
      (Advances.bind_keep fun _ => Advances.ite (fun _ => Advances.pure_not Bool.false_ne_true)
        fun _ => Advances.read_bind fun _ => Advances.ite
          (fun _ => Advances.pure_not Bool.false_ne_true) fun _ => Advances.bind_left ?_)
    -- a round goes on only past a token of the statement
    exact skip_advances.mono fun w held => kind_ne_eof_of_notAtEnd held.1.2
  infer_instance

instance expr_sound : Sound expr := by
  unfold expr
  infer_instance

instance parenExpr_sound : Sound parenExpr := by
  unfold parenExpr
  infer_instance

instance exprList_sound : Sound exprList := by
  unfold exprList
  infer_instance

instance defaultValue_sound : Sound defaultValue := by
  unfold defaultValue
  refine @node_sound _ _ _ (@Sound.bind _ _ _ _ inferInstance fun t => ?_)
  split <;> infer_instance

instance body_sound : Sound body := by
  unfold body
  generalize rounds : loopFrom _ 0 = run
  have : Sound run := by
    rw [← rounds]
    refine loopFrom_sound (fun depth => ?_) 0
    refine Advances.read_bind fun t => Advances.ite (fun _ => Advances.pure_not Bool.false_ne_true)
      fun inside => Advances.ite (fun _ => Advances.pure_not Bool.false_ne_true)
        fun _ => Advances.read_bind fun _ => Advances.bind_left (skip_advances.mono fun w held => ?_)
    -- a round goes on only before the end of the script
    rw [held.1.2]
    intro eof
    simp [eof] at inside
  infer_instance

instance sizeNumber_sound : Sound sizeNumber := by
  unfold sizeNumber
  infer_instance

/-! Data types. -/

instance typeName_sound : Sound typeName := by
  unfold typeName
  infer_instance

instance fieldLength_sound (kind : NodeKind) : Sound (fieldLength kind) := by
  unfold fieldLength
  infer_instance

instance precision_sound : Sound precision := by
  unfold precision
  infer_instance

instance stringList_sound : Sound stringList := by
  unfold stringList
  infer_instance

instance stringBinary_sound : Sound stringBinary := by
  unfold stringBinary
  infer_instance

instance dataType_sound : Sound dataType := by
  unfold dataType
  generalize rounds : (loop _ : Parse Unit) = fieldOptions
  have : Sound fieldOptions := by
    rw [← rounds]
    -- a round goes on only past the field option word it found
    exact loop_sound (Advances.read_ite (Advances.bind_left skip_advances_of_isAnyWord)
      (Advances.pure_not Bool.false_ne_true))
  infer_instance

/-! Partitioning. -/

instance keyAlgorithm_sound : Sound keyAlgorithm := by
  unfold keyAlgorithm
  infer_instance

instance optionalColumnList_sound : Sound optionalColumnList := by
  unfold optionalColumnList
  infer_instance

instance subPartitions_sound : Sound subPartitions := by
  unfold subPartitions
  infer_instance

instance startsPartitionOption_sound : Sound startsPartitionOption := by
  unfold startsPartitionOption
  infer_instance

instance partitionOption_sound : Sound partitionOption := by
  unfold partitionOption
  infer_instance

/-- A partition option consumes a token: each kind of option starts with its word, and any other
is a word and a number. -/
theorem partitionOption_advances : Advances c partitionOption fun _ => True := by
  unfold partitionOption
  refine Advances.inside (Advances.read_ite
    (Advances.bind_keep fun _ => Advances.bind_left (expectKw_advances _ _)) ?_)
  refine Advances.read_ite (Advances.bind_left skip_advances_of_isWord) ?_
  refine Advances.read_ite (Advances.bind_left skip_advances_of_isAnyWord) ?_
  refine Advances.read_ite (Advances.bind_left skip_advances_of_isWord) ?_
  exact Advances.bind_keep fun _ => Advances.bind_keep fun _ => number_advances

instance partitionOptions_sound : Sound partitionOptions := by
  unfold partitionOptions
  exact loop_sound (Advances.bind_keep fun _ => Advances.ite
    (fun _ => Advances.bind_left partitionOption_advances)
    fun _ => Advances.pure_not Bool.false_ne_true)

instance partitionValues_sound : Sound partitionValues := by
  unfold partitionValues
  infer_instance

instance subpartitionDefinition_sound : Sound subpartitionDefinition := by
  unfold subpartitionDefinition
  infer_instance

instance partitionDefinition_sound : Sound partitionDefinition := by
  unfold partitionDefinition
  infer_instance

instance partitionDefinitions_sound : Sound partitionDefinitions := by
  unfold partitionDefinitions
  infer_instance

instance partitioning_sound : Sound partitioning := by
  unfold partitioning
  infer_instance

/-! Tables. -/

instance enforced_sound : Sound enforced := by
  unfold enforced
  infer_instance

instance generatedClause_sound : Sound generatedClause := by
  unfold generatedClause
  infer_instance

theorem generatedClause_advances : Advances c generatedClause fun _ => True := by
  unfold generatedClause
  exact Advances.inside (Advances.bind_keep fun _ => Advances.ite
    (fun _ => Advances.bind_left (expectKw_advances _ _))
    fun _ => Advances.bind_left (expectKw_advances _ _))

instance startsColumnAttribute_sound : Sound startsColumnAttribute := by
  unfold startsColumnAttribute
  infer_instance

instance columnAttribute_sound : Sound columnAttribute := by
  unfold columnAttribute
  infer_instance

/-- A column attribute consumes a token wherever a column attribute starts. -/
theorem columnAttribute_advances :
    Advances (Passes startsColumnAttribute) columnAttribute fun _ => True := by
  unfold columnAttribute
  refine Advances.inside (Advances.read_ite (Advances.bind_left skip_advances_of_isWord) ?_)
  refine Advances.read_ite skip_advances_of_isAnyWord ?_
  refine Advances.read_ite (Advances.bind_left skip_advances_of_isWord) ?_
  refine Advances.read_ite (Advances.bind_left (expectKw_advances _ _)) ?_
  refine Advances.read_ite (expectKw_advances _ _) ?_
  refine Advances.read_ite (Advances.bind_left skip_advances_of_isWord) ?_
  refine Advances.read_ite skip_advances_of_isWord ?_
  refine Advances.read_ite (Advances.bind_left skip_advances_of_isWord) ?_
  refine Advances.read_ite (Advances.bind_left skip_advances_of_isWord) ?_
  refine Advances.read_ite (Advances.bind_left skip_advances_of_isWord) ?_
  refine Advances.read_ite (Advances.bind_left skip_advances_of_isAnyWord) ?_
  refine Advances.read_ite (Advances.bind_left skip_advances_of_isWord) ?_
  refine Advances.read_ite (Advances.bind_keep fun _ => Advances.ite
    (fun _ => Advances.bind_keep fun _ => Advances.ite
      (fun _ => Advances.bind_left (expectKw_advances _ _))
      fun _ => Advances.bind_left identifier_advances)
    fun _ => Advances.bind_left (expectKw_advances _ _)) ?_
  -- no branch took the token, yet the test found an attribute word there
  intro s _ held
  simp only [and_assoc] at held
  obtain ⟨starts, absent⟩ := held
  unfold startsColumnAttribute at starts
  have found := Reads.of_passes starts
  simp_all [Token.isAnyWord]

instance references_sound : Sound references := by
  unfold references
  generalize rounds : (loop _ : Parse Unit) = options
  have : Sound options := by
    rw [← rounds]
    -- a round goes on only past the ON that starts a reference option
    refine loop_sound (Advances.read_bind fun _ => Advances.read_bind fun _ => Advances.ite
      (fun found => Advances.bind_left (Advances.inside (Advances.bind_left
        (skip_advances.mono fun w held => ?_))))
      fun _ => Advances.pure_not Bool.false_ne_true)
    rw [← held.1.2, ← held.2, Bool.or_eq_true] at found
    exact found.elim kind_ne_eof_of_isSeq kind_ne_eof_of_isSeq
  infer_instance

theorem references_advances : Advances c references fun _ => True := by
  unfold references
  exact Advances.inside (Advances.bind_left (expectKw_advances _ _))

instance columnDefinition_sound : Sound columnDefinition := by
  unfold columnDefinition
  generalize rounds : (loop _ : Parse Unit) = attributes
  have : Sound attributes := by
    rw [← rounds]
    unfold startsColumnAttribute
    -- each round that goes on has run a generated clause, a reference or an attribute
    refine loop_sound (Advances.read_ite (Advances.bind_left generatedClause_advances)
      (Advances.read_ite (Advances.bind_left references_advances)
        (Advances.read_ite (Advances.bind_left (columnAttribute_advances.mono fun w held => ?_))
          (Advances.pure_not Bool.false_ne_true))))
    show Passes startsColumnAttribute w
    unfold startsColumnAttribute
    exact Reads.passes held.2
  infer_instance

instance startsConstraint_sound : Sound startsConstraint := by
  unfold startsConstraint
  infer_instance

instance optionalIndexName_sound : Sound optionalIndexName := by
  unfold optionalIndexName
  infer_instance

instance indexType_sound : Sound indexType := by
  unfold indexType
  infer_instance

/-- An index type consumes its `USING` or `TYPE`. -/
theorem indexType_advances : Advances (fun w => (w 0).kind ≠ .eof) indexType fun _ => True := by
  unfold indexType
  exact Advances.inside (Advances.bind_left skip_advances)

instance optionalIndexType_sound : Sound optionalIndexType := by
  unfold optionalIndexType
  infer_instance

instance keyPart_sound : Sound keyPart := by
  unfold keyPart
  infer_instance

instance keyList_sound : Sound keyList := by
  unfold keyList
  infer_instance

instance startsIndexOption_sound : Sound startsIndexOption := by
  unfold startsIndexOption
  infer_instance

instance indexOption_sound : Sound indexOption := by
  unfold indexOption
  infer_instance

/-- An index option consumes a token wherever an index option starts: every option starts with
a word. -/
theorem indexOption_advances :
    Advances (Passes startsIndexOption) indexOption fun _ => True := by
  unfold indexOption
  refine Advances.inside (Advances.read_ite (Advances.bind_left skip_advances_of_isWord) ?_)
  refine Advances.read_ite (Advances.bind_left skip_advances_of_isWord) ?_
  refine Advances.read_ite (Advances.bind_left (expectKw_advances _ _)) ?_
  refine Advances.read_ite (Advances.bind_left skip_advances_of_isAnyWord) ?_
  -- the remaining options are words too
  intro s ready held
  refine skip_advances s ready ?_
  simp only [and_assoc] at held
  obtain ⟨starts, -⟩ := held
  unfold startsIndexOption at starts
  have found := Reads.of_passes starts
  rw [Bool.or_eq_true] at found
  exact found.elim kind_ne_eof_of_isAnyWord kind_ne_eof_of_isSeq

instance indexOptions_sound : Sound indexOptions := by
  unfold indexOptions startsIndexOption
  -- each round that goes on has run an index type or an index option
  refine loop_sound (Advances.read_ite (Advances.bind_left (indexType_advances.mono
    fun _ held => kind_ne_eof_of_isAnyWord held.2)) (Advances.read_ite
      (Advances.bind_left (indexOption_advances.mono fun w held => ?_))
      (Advances.pure_not Bool.false_ne_true)))
  show Passes startsIndexOption w
  unfold startsIndexOption
  exact Reads.passes held.2

instance tableConstraintDef_sound : Sound tableConstraintDef := by
  unfold tableConstraintDef
  infer_instance

instance tableElementList_sound : Sound tableElementList := by
  unfold tableElementList
  infer_instance

instance startsTableOption_sound : Sound startsTableOption := by
  unfold startsTableOption
  infer_instance

instance optionValue_sound : Sound optionValue := by
  unfold optionValue
  refine @Sound.bind _ _ _ _ inferInstance fun t => ?_
  split <;> infer_instance

/-- An option value is consumed or refused. -/
theorem optionValue_advances : Advances c optionValue fun _ => True := by
  unfold optionValue
  refine Advances.read_bind fun t => ?_
  split
  case h_5 => exact failAt_advances _
  all_goals
    rename_i kind
    exact skip_advances.mono fun w held => by
      rw [held.2, kind]
      exact TokenKind.noConfusion

instance tableOption_sound : Sound tableOption := by
  unfold tableOption
  infer_instance

/-- A table option consumes a token: the known options start with their words, and any other is
a word followed by its value. -/
theorem tableOption_advances : Advances c tableOption fun _ => True := by
  unfold tableOption
  refine Advances.inside (Advances.bind_keep fun _ => Advances.bind_keep fun _ => Advances.ite
    (fun _ => Advances.bind_left charsetKeyword_advances) fun _ => ?_)
  refine Advances.read_ite (Advances.bind_left skip_advances_of_isWord) ?_
  refine Advances.read_ite (Advances.bind_left skip_advances_of_isAnyWord) ?_
  refine Advances.read_ite (Advances.bind_left skip_advances_of_isAnyWord) ?_
  refine Advances.read_ite (Advances.bind_left skip_advances_of_isWord) ?_
  refine Advances.read_ite (Advances.bind_left skip_advances_of_isWord) ?_
  refine Advances.read_ite (Advances.bind_left skip_advances_of_isWord) ?_
  -- any other option: whatever word it is, then its value
  exact Advances.bind_keep fun _ => Advances.bind_keep fun _ => optionValue_advances

instance createTable_sound : Sound createTable := by
  unfold createTable
  generalize rounds : (loop _ : Parse Unit) = options
  have : Sound options := by
    rw [← rounds]
    -- a round goes on only after a table option, which consumes a token
    exact loop_sound (Advances.bind_keep fun _ => Advances.ite
      (fun _ => Advances.bind_left tableOption_advances)
      fun _ => Advances.pure_not Bool.false_ne_true)
  infer_instance

end DdlCatalog.Syntax.Parse
