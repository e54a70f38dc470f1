import Mathlib
import DdlCatalog.Proofs.Parsing.Clauses
/-!
The statements are sound: `ALTER TABLE` and `CREATE INDEX`, stored programs, databases, views,
servers and storage, and the productions a statement runs. As for the clauses, soundness is
found along the `do` blocks, and each loop is shown to consume a token in every round that asks
to go on. The statement's productions consume a token whenever the statement has not ended,
which is what the script's loop needs.
-/

namespace DdlCatalog.Syntax.Parse

open DdlCatalog.Sql

-- instance search builds one term for a whole production, nested as deep as its branches
set_option synthInstance.maxSize 1000000

variable {c : (Nat → Token) → Prop}

/-! Altering tables and creating indexes. -/

instance skipAlterItem_sound : Sound skipAlterItem := by
  unfold skipAlterItem
  generalize rounds : loopFrom _ (0 : Int) = run
  have : Sound run := by
    rw [← rounds]
    refine loopFrom_sound (fun depth => ?_) _
    -- a round goes on only past a token of the statement
    exact Advances.read_ite (Advances.pure_not Bool.false_ne_true)
      (Advances.read_bind fun _ => Advances.ite (fun _ => Advances.pure_not Bool.false_ne_true)
        fun _ => Advances.bind_left (skip_advances.mono fun _ held => kind_ne_eof_of_notAtEnd held.1.2))
  infer_instance

/-- An item kept as raw tokens consumes a token unless it is empty: unless the statement ends
or a comma comes first. -/
theorem skipAlterItem_advances :
    Advances (fun w => ending (w 0) = false ∧ (w 0).kind ≠ .comma) skipAlterItem
      fun _ => True := by
  unfold skipAlterItem
  refine Advances.map (Advances.loopFrom_first (Advances.read_ite
    (Advances.of_absurd fun _ held => Bool.false_ne_true (held.1.1.symm.trans held.2))
    (Advances.read_bind fun _ => Advances.ite (fun comma => Advances.of_absurd fun w held => ?_)
      fun _ => Advances.bind_left (skip_advances.mono fun _ held => kind_ne_eof_of_notAtEnd held.1.1.1))))
  rw [← held.2] at comma
  simp only [Bool.and_eq_true, beq_iff_eq] at comma
  exact held.1.1.2 comma.1

instance place_sound : Sound place := by
  unfold place
  infer_instance

instance alterAlgorithmOption_sound : Sound alterAlgorithmOption := by
  unfold alterAlgorithmOption
  infer_instance

theorem alterAlgorithmOption_advances : Advances c alterAlgorithmOption fun _ => True := by
  unfold alterAlgorithmOption
  exact Advances.inside (Advances.bind_left (expectKw_advances _ _))

instance alterLockOption_sound : Sound alterLockOption := by
  unfold alterLockOption
  infer_instance

theorem alterLockOption_advances : Advances c alterLockOption fun _ => True := by
  unfold alterLockOption
  exact Advances.inside (Advances.bind_left (expectKw_advances _ _))

instance alterAdd_sound : Sound alterAdd := by
  unfold alterAdd
  infer_instance

theorem alterAdd_advances : Advances c alterAdd fun _ => True := by
  unfold alterAdd
  exact Advances.bind_left (expectKw_advances _ _)

instance alterDrop_sound : Sound alterDrop := by
  unfold alterDrop
  infer_instance

theorem alterDrop_advances : Advances c alterDrop fun _ => True := by
  unfold alterDrop
  exact Advances.bind_left (expectKw_advances _ _)

instance alterListItem_sound : Sound alterListItem := by
  unfold alterListItem
  infer_instance

/-- An alter item consumes a token unless the statement ends or a comma comes first: every item
starts with its word, and any other is kept as raw tokens. -/
theorem alterListItem_advances :
    Advances (fun w => ending (w 0) = false ∧ (w 0).kind ≠ .comma) alterListItem
      fun _ => True := by
  unfold alterListItem
  refine Advances.read_ite alterAlgorithmOption_advances
    (Advances.read_ite alterLockOption_advances (Advances.inside ?_))
  refine Advances.read_ite alterAdd_advances ?_
  refine Advances.read_ite (Advances.bind_left skip_advances_of_isWord) ?_
  refine Advances.read_ite (Advances.bind_left skip_advances_of_isWord) ?_
  refine Advances.read_ite alterDrop_advances ?_
  refine Advances.read_ite (Advances.bind_left skip_advances_of_isWord) ?_
  refine Advances.read_ite (Advances.bind_left skip_advances_of_isWord) ?_
  refine Advances.read_ite (Advances.bind_left (expectKw_advances _ _)) ?_
  refine Advances.bind_keep fun _ => Advances.ite (fun _ => tableOption_advances) fun _ => ?_
  refine skipAlterItem_advances.mono fun w held => ?_
  simp only [and_assoc] at held
  exact ⟨held.1, held.2.1⟩

instance alterTable_sound : Sound alterTable := by
  unfold alterTable
  generalize rounds : (loop _ : Parse Unit) = items
  have : Sound items := by
    rw [← rounds]
    -- a round goes on past an item, or past the comma before an empty one
    refine loop_sound (Advances.read_bind fun _ => Advances.read_bind fun _ => Advances.ite
      (fun _ => Advances.pure_not Bool.false_ne_true) fun going => ?_)
    refine Advances.bind_either (fun w => (w 0).kind = .comma)
      (alterListItem_advances.mono fun w held => ⟨?_, held.2⟩)
      fun _ => Advances.bind_left (Advances.map (accept?_consumes TokenKind.noConfusion))
    rw [← held.1.1.2, ← held.1.2] at going
    simp only [Bool.or_eq_true, not_or, Bool.not_eq_true] at going
    exact going.1
  infer_instance

instance createIndex_sound : Sound createIndex := by
  unfold createIndex
  generalize rounds : (loop _ : Parse Unit) = options
  have : Sound options := by
    rw [← rounds]
    unfold startsIndexOption
    -- a round goes on past an algorithm, a lock, an index type or an index option
    refine loop_sound (Advances.read_ite (Advances.pure_not Bool.false_ne_true) ?_)
    refine Advances.read_ite (Advances.bind_left alterAlgorithmOption_advances) ?_
    refine Advances.read_ite (Advances.bind_left alterLockOption_advances) ?_
    refine Advances.read_ite (Advances.bind_left (indexType_advances.mono
      fun _ held => kind_ne_eof_of_isAnyWord held.2)) ?_
    refine Advances.read_ite (Advances.bind_left (indexOption_advances.mono fun w held => ?_))
      (Advances.bind_left (failAt_advances _))
    show Passes startsIndexOption w
    unfold startsIndexOption
    exact Reads.passes held.2
  infer_instance

/-! Stored programs. -/

instance startsRoutineOption_sound : Sound startsRoutineOption := by
  unfold startsRoutineOption
  infer_instance

instance routineOption_sound : Sound routineOption := by
  unfold routineOption
  infer_instance

/-- A routine characteristic consumes a token wherever one starts. -/
theorem routineOption_advances :
    Advances (Passes startsRoutineOption) routineOption fun _ => True := by
  unfold routineOption
  refine Advances.inside (Advances.read_ite (Advances.bind_left skip_advances_of_isWord) ?_)
  refine Advances.read_ite (expectKw_advances _ _) ?_
  refine Advances.read_ite (expectKw_advances _ _) ?_
  refine Advances.read_ite skip_advances_of_isWord ?_
  refine Advances.read_ite (expectKw_advances _ _) ?_
  refine Advances.read_ite (expectKw_advances _ _) ?_
  refine Advances.read_ite (Advances.bind_left skip_advances_of_isAnyWord) ?_
  refine Advances.read_ite (Advances.bind_left (expectKw_advances _ _)) ?_
  -- no branch took the token, yet the test found a characteristic there
  intro s _ held
  simp only [and_assoc] at held
  obtain ⟨starts, absent⟩ := held
  unfold startsRoutineOption at starts
  have found := Reads.of_passes starts
  simp_all [Token.isAnyWord]

instance routineOptions_sound : Sound routineOptions := by
  unfold routineOptions startsRoutineOption
  refine loop_sound (Advances.read_ite
    (Advances.bind_left (routineOption_advances.mono fun w held => ?_))
    (Advances.pure_not Bool.false_ne_true))
  show Passes startsRoutineOption w
  unfold startsRoutineOption
  exact Reads.passes held.2

/-- A parameter list is sound when its parameters are and each consumes a token. -/
theorem parameterList_sound {param : Parse Unit} [Sound param]
    (consumes : Advances (fun _ => True) param fun _ => True) : Sound (parameterList param) := by
  unfold parameterList
  generalize rounds : (loop _ : Parse Unit) = params
  have : Sound params := by
    rw [← rounds]
    exact loop_sound (Advances.read_ite (Advances.pure_not Bool.false_ne_true)
      (Advances.bind_left (consumes.mono fun _ _ => trivial)))
  infer_instance

instance createProcedure_sound : Sound createProcedure := by
  unfold createProcedure
  generalize list : parameterList _ = params
  have : Sound params := by
    rw [← list]
    -- a parameter's mode is optional, its name is not
    exact parameterList_sound (Advances.inside (Advances.bind_keep fun _ => Advances.ite
      (fun _ => Advances.bind_left identifier_advances) fun _ => Advances.bind_keep fun _ =>
        Advances.ite (fun _ => Advances.bind_left identifier_advances) fun _ =>
          Advances.bind_keep fun _ => Advances.bind_left identifier_advances))
  infer_instance

instance createFunction_sound : Sound createFunction := by
  unfold createFunction
  generalize list : parameterList _ = params
  have : Sound params := by
    rw [← list]
    exact parameterList_sound (Advances.inside (Advances.bind_left identifier_advances))
  infer_instance

instance createTrigger_sound : Sound createTrigger := by
  unfold createTrigger
  infer_instance

instance atEventOptions_sound : Sound atEventOptions := by
  unfold atEventOptions
  infer_instance

instance schedule_sound : Sound schedule := by
  unfold schedule
  infer_instance

instance eventOption_sound : Sound eventOption := by
  unfold eventOption
  infer_instance

/-- An event option consumes its word or fails. -/
theorem eventOption_advances : Advances c eventOption fun _ => True := by
  unfold eventOption
  refine Advances.inside (Advances.read_ite (Advances.bind_left (expectKw_advances _ _)) ?_)
  refine Advances.read_ite skip_advances_of_isWord ?_
  refine Advances.read_ite (Advances.bind_left skip_advances_of_isWord) ?_
  exact Advances.read_ite (Advances.bind_left skip_advances_of_isWord) (failAt_advances _)

instance createEvent_sound : Sound createEvent := by
  unfold createEvent
  generalize rounds : (loop _ : Parse Unit) = options
  have : Sound options := by
    rw [← rounds]
    exact loop_sound (Advances.read_bind fun _ => Advances.read_bind fun _ => Advances.ite
      (fun _ => Advances.pure_not Bool.false_ne_true)
      fun _ => Advances.bind_left eventOption_advances)
  infer_instance

/-! Databases, views, servers and storage. -/

instance databaseOption_sound : Sound databaseOption := by
  unfold databaseOption
  infer_instance

/-- A database option consumes a token or fails. -/
theorem databaseOption_advances : Advances c databaseOption fun _ => True := by
  unfold databaseOption
  refine Advances.inside (Advances.bind_keep fun _ => Advances.bind_keep fun _ => Advances.ite
    (fun _ => Advances.bind_left charsetKeyword_advances) fun _ => ?_)
  refine Advances.read_ite (Advances.bind_left skip_advances_of_isWord) ?_
  refine Advances.read_ite (Advances.bind_left skip_advances_of_isAnyWord) ?_
  refine Advances.read_bind fun _ => Advances.read_bind fun _ => Advances.ite
    (fun both => Advances.bind_left (skip_advances.mono fun w held => ?_))
    fun _ => failAt_advances _
  -- READ ONLY starts with the word READ
  rw [← held.1.2, Bool.and_eq_true] at both
  exact kind_ne_eof_of_isWord both.1

instance createDatabase_sound : Sound createDatabase := by
  unfold createDatabase
  generalize rounds : (loop _ : Parse Unit) = options
  have : Sound options := by
    rw [← rounds]
    exact loop_sound (Advances.read_ite (Advances.pure_not Bool.false_ne_true)
      (Advances.bind_left databaseOption_advances))
  infer_instance

instance viewAlgorithm_sound : Sound viewAlgorithm := by
  unfold viewAlgorithm
  infer_instance

theorem viewAlgorithm_advances : Advances c viewAlgorithm fun _ => True := by
  unfold viewAlgorithm
  exact Advances.inside (Advances.bind_left (expectKw_advances _ _))

instance viewSuid_sound : Sound viewSuid := by
  unfold viewSuid
  infer_instance

theorem viewSuid_advances : Advances c viewSuid fun _ => True := by
  unfold viewSuid
  exact Advances.inside (Advances.bind_left (expectKw_advances _ _))

theorem definerClause_advances : Advances c definerClause fun _ => True := by
  unfold definerClause
  exact Advances.inside (Advances.bind_left (expectKw_advances _ _))

instance atCheckOption_sound : Sound atCheckOption := by
  unfold atCheckOption
  infer_instance

instance createView_sound : Sound createView := by
  unfold createView
  infer_instance

instance serverOption_sound : Sound serverOption := by
  unfold serverOption
  infer_instance

instance createServer_sound : Sound createServer := by
  unfold createServer
  infer_instance

instance storageOption_sound (kind : NodeKind) : Sound (storageOption kind) := by
  unfold storageOption
  infer_instance

/-- A storage option consumes a token or fails. -/
theorem storageOption_advances (kind : NodeKind) :
    Advances c (storageOption kind) fun _ => True := by
  unfold storageOption
  refine Advances.inside (Advances.read_ite (Advances.bind_left skip_advances_of_isAnyWord) ?_)
  refine Advances.read_ite (Advances.bind_left skip_advances_of_isWord) ?_
  refine Advances.read_ite
    (Advances.bind_keep fun _ => Advances.bind_left (expectKw_advances _ _)) ?_
  refine Advances.read_ite skip_advances_of_isAnyWord ?_
  exact Advances.read_ite (Advances.bind_left skip_advances_of_isAnyWord) (failAt_advances _)

instance storageOptions_sound (kind : NodeKind) : Sound (storageOptions kind) := by
  unfold storageOptions
  exact loop_sound (Advances.read_ite (Advances.pure_not Bool.false_ne_true)
    (Advances.bind_left (storageOption_advances kind)))

instance createTablespace_sound : Sound createTablespace := by
  unfold createTablespace
  infer_instance

instance createLogfileGroup_sound : Sound createLogfileGroup := by
  unfold createLogfileGroup
  infer_instance

/-! Statements. -/

instance skipStatement_sound : Sound skipStatement := by
  unfold skipStatement
  exact loop_sound (Advances.read_ite (Advances.pure_not Bool.false_ne_true)
    (Advances.bind_left (skip_advances.mono fun _ held => kind_ne_eof_of_notAtEnd held.2)))

/-- Skipping to the end of the statement consumes a token unless the statement has ended. -/
theorem skipStatement_advances :
    Advances (fun w => ending (w 0) = false) skipStatement fun _ => True := by
  unfold skipStatement
  exact loop_advances (Advances.read_ite
    (Advances.of_absurd fun _ held => Bool.false_ne_true (held.1.symm.trans held.2))
    (Advances.bind_left (skip_advances.mono fun _ held => kind_ne_eof_of_notAtEnd held.2)))

instance isAlterTable_sound : Sound isAlterTable := by
  unfold isAlterTable
  infer_instance

instance create_sound : Sound create := by
  unfold create
  generalize rounds : (loop _ : Parse Unit) = prefixes
  have : Sound prefixes := by
    rw [← rounds]
    -- a round goes on past OR REPLACE, an algorithm, a definer, a security clause or a word
    refine loop_sound (Advances.bind_taken (acceptSeq_advances _ _) fun _ declined =>
      Advances.ite (fun taken => absurd taken declined) fun _ => ?_)
    refine Advances.read_bind fun _ => Advances.read_bind fun _ => Advances.ite
      (fun _ => Advances.bind_left viewAlgorithm_advances) fun _ => ?_
    refine Advances.read_bind fun _ => Advances.read_bind fun _ => Advances.ite
      (fun _ => Advances.bind_left definerClause_advances) fun _ => ?_
    refine Advances.read_ite (Advances.bind_left viewSuid_advances) ?_
    exact Advances.read_ite (Advances.bind_left skip_advances_of_isAnyWord)
      (Advances.pure_not Bool.false_ne_true)
  infer_instance

theorem create_advances : Advances c create fun _ => True := by
  unfold create
  exact Advances.bind_left (expectKw_advances _ _)

theorem alterTable_advances : Advances c alterTable fun _ => True := by
  unfold alterTable
  exact Advances.bind_left (expectKw_advances _ _)

instance statementBody_sound : Sound statementBody := by
  unfold statementBody
  infer_instance

/-- A statement's productions consume a token unless the statement has ended. -/
theorem statementBody_advances :
    Advances (fun w => ending (w 0) = false) statementBody fun _ => True := by
  unfold statementBody
  refine Advances.read_ite (Advances.bind_left create_advances) ?_
  refine Advances.bind_keep fun _ => Advances.ite
    (fun _ => Advances.bind_left alterTable_advances) fun _ => ?_
  exact Advances.read_ite (Advances.bind_left skip_advances_of_isWord)
    (Advances.bind_left (skipStatement_advances.mono fun _ held => held.1.1))

end DdlCatalog.Syntax.Parse
