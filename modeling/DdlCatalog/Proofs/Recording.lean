import DdlCatalog.Proofs.Spec
import DdlCatalog.Analysis.Resolve
/-!
The steps of the analysis that only record: reading the state, reading values and data types
off a statement, and naming members for diagnostics. Each is a composition of reads, reports,
handle issues and account registrations, so the proofs take it apart along its `do` block.
-/

namespace DdlCatalog.Analysis

open DdlCatalog.Catalog
open DdlCatalog.Syntax

namespace Analyze

theorem get_recording : Recording (get : Analyze Analyzer) := fun a => Records.refl a

theorem options_recording : Recording options := fun a => Records.refl a

theorem caseSensitive_recording : Recording caseSensitive := fun a => Records.refl a

theorem catalog_recording : Recording catalog := fun a => Records.refl a

theorem schemaById_recording (id : Nat) : Recording (schemaById id) := fun a => Records.refl a

theorem qualified_recording (b : TableBuilder) : Recording (qualified b) := fun a => Records.refl a

theorem memberName_recording (b : TableBuilder) (name : String) : Recording (memberName b name) :=
  fun a => Records.refl a

theorem countOf_recording (tok : Option Sql.Token) (pos : Sql.Position) (object : String) :
    Recording (countOf tok pos object) := by
  unfold countOf
  repeat
    first
    | with_reducible apply report_recording
    | with_reducible apply Recording.pure
    | with_reducible refine Recording.bind ?_ fun _ => ?_
    | split

theorem intValue_recording (n : Node) (object : String) : Recording (intValue n object) :=
  countOf_recording _ _ _

theorem sizeValue_recording (opt : Node) (object : String) : Recording (sizeValue opt object) := by
  unfold sizeValue
  repeat
    first
    | with_reducible apply report_recording
    | with_reducible apply Recording.pure
    | with_reducible refine Recording.bind ?_ fun _ => ?_
    | split

theorem readTypeChild_recording (simple : Option SimpleType) (opts : Options) (owner : String)
    (acc : DataType × String) (c : Node) : Recording (readTypeChild simple opts owner acc c) := by
  unfold readTypeChild typeNumber
  repeat
    first
    | with_reducible apply report_recording
    | with_reducible apply intValue_recording
    | with_reducible apply Recording.pure
    | with_reducible refine Recording.forIn fun _ _ _ => ?_
    | with_reducible refine Recording.bind ?_ fun _ => ?_
    | split
    | dsimp only

theorem extractDataType_recording (n : Node) (owner defaultCharset : String) :
    Recording (extractDataType n owner defaultCharset) := by
  unfold extractDataType
  repeat
    first
    | with_reducible apply report_recording
    | with_reducible apply options_recording
    | with_reducible apply Recording.pure
    | with_reducible refine Recording.foldlM fun _ _ => readTypeChild_recording _ _ _ _ _
    | with_reducible refine Recording.bind ?_ fun _ => ?_
    | split
    | dsimp only

theorem partitioning_recording (n : Node) (object : String) : Recording (partitioning n object) := by
  unfold partitioning
  repeat
    first
    | with_reducible apply countOf_recording
    | with_reducible apply intValue_recording
    | with_reducible apply Recording.pure
    | with_reducible refine Recording.bind ?_ fun _ => ?_
    | split
    | dsimp only

theorem keyParts_recording (b : TableBuilder) (list : Option Node) :
    Recording (keyParts b list) := by
  unfold keyParts
  repeat
    first
    | with_reducible apply memberName_recording
    | with_reducible apply intValue_recording
    | with_reducible apply Recording.pure
    | with_reducible refine Recording.forIn fun _ _ _ => ?_
    | with_reducible refine Recording.bind ?_ fun _ => ?_
    | split
    | dsimp only

theorem indexDetails_recording (b : TableBuilder) (idx : Index) (n : Node) :
    Recording (indexDetails b idx n) := by
  unfold indexDetails
  repeat
    first
    | with_reducible apply keyParts_recording
    | with_reducible apply Recording.pure
    | with_reducible refine Recording.forIn fun _ _ _ => ?_
    | with_reducible refine Recording.bind ?_ fun _ => ?_
    | split
    | dsimp only

theorem placement_recording (b : TableBuilder) (place? : Option Node) :
    Recording (placement b place?) := by
  unfold placement
  repeat
    first
    | with_reducible apply report_recording
    | with_reducible apply memberName_recording
    | with_reducible apply caseSensitive_recording
    | with_reducible apply Recording.pure
    | with_reducible refine Recording.bind ?_ fun _ => ?_
    | split
    | dsimp only

theorem notAnalysed_recording (b : TableBuilder) (n : Node) : Recording (notAnalysed b n) :=
  Recording.bind (qualified_recording b) fun _ =>
    Recording.bind (report_recording _ _ _ _ _) fun _ => Recording.pure _

theorem foreignKeyNameTaken_recording (b : TableBuilder) (name : String) :
    Recording (foreignKeyNameTaken b name) := by
  unfold foreignKeyNameTaken
  repeat
    first
    | with_reducible apply caseSensitive_recording
    | with_reducible apply schemaById_recording
    | with_reducible apply Recording.pure
    | with_reducible refine Recording.bind ?_ fun _ => ?_
    | split
    | dsimp only

theorem foreignKeyName_recording (b : TableBuilder) (target : String) :
    Recording (foreignKeyName b target) := by
  unfold foreignKeyName
  repeat
    first
    | with_reducible apply foreignKeyNameTaken_recording
    | with_reducible apply catalog_recording
    | with_reducible apply Recording.pure
    | with_reducible refine Recording.forIn fun _ _ _ => ?_
    | with_reducible refine Recording.bind ?_ fun _ => ?_
    | split
    | dsimp only

/-- Registering an account only adds an account and its handle. -/
theorem ensureUser_records (a : Analyzer) (name host : String) :
    Records a { a with catalog := (a.catalog.ensureUser name host).2 } := by
  unfold Catalog.ensureUser
  split
  · exact Records.refl a
  · exact ⟨rfl, rfl, rfl, rfl, rfl, rfl, rfl, by simp [Catalog.issue]⟩

theorem definer_recording (stmt : Node) : Recording (definer stmt) := by
  unfold definer
  repeat
    first
    | with_reducible apply Recording.pure
    | split
    | dsimp only
  exact fun a => ensureUser_records a _ _

theorem newColumn_recording (defn : Node) : Recording (newColumn defn) := by
  unfold newColumn
  repeat
    first
    | with_reducible apply issue_recording
    | with_reducible apply extractDataType_recording
    | with_reducible apply Recording.pure
    | with_reducible refine Recording.forIn fun _ _ _ => ?_
    | with_reducible refine Recording.bind ?_ fun _ => ?_
    | split
    | dsimp only

/-! The lookups of the resolution pass. -/

theorem lookupObject_recording (r : ObjectRef) : Recording (lookupObject r) := by
  unfold lookupObject
  repeat
    first
    | with_reducible apply caseSensitive_recording
    | with_reducible apply catalog_recording
    | with_reducible apply Recording.pure
    | with_reducible refine Recording.bind ?_ fun _ => ?_
    | split
    | dsimp only

theorem waitsForCopy_recording (all : List (Nat × ObjectRef)) (done : List Nat) (i : Nat) (r : ObjectRef) :
    Recording (waitsForCopy all done i r) := by
  unfold waitsForCopy
  repeat
    first
    | with_reducible apply lookupObject_recording
    | with_reducible apply Recording.pure
    | with_reducible refine Recording.bind ?_ fun _ => ?_
    | split
    | dsimp only

theorem referencedTable_recording (table : Nat) (name : List String) :
    Recording (referencedTable table name) := by
  unfold referencedTable
  repeat
    first
    | with_reducible apply caseSensitive_recording
    | with_reducible apply catalog_recording
    | with_reducible apply Recording.pure
    | with_reducible refine Recording.bind ?_ fun _ => ?_
    | split
    | dsimp only

theorem planRef_recording (r : Reference) : Recording (planRef r) := by
  cases r <;> unfold planRef
  all_goals
    repeat
      first
      | with_reducible apply caseSensitive_recording
      | with_reducible apply catalog_recording
      | with_reducible apply referencedTable_recording
      | with_reducible apply Recording.pure
      | with_reducible refine Recording.bind ?_ fun _ => ?_
      | split
      | dsimp only

theorem columnError_recording (kind : RefKind) (table : Nat) (object : String) (target : ObjectKind)
    (names : List String) : Recording (columnError kind table object target names) :=
  Recording.bind catalog_recording fun _ => Recording.pure _

end Analyze

end DdlCatalog.Analysis
