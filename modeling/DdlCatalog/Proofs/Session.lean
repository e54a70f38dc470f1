import Mathlib
import DdlCatalog.Cli.Repl
import DdlCatalog.Proofs.UniqueNames.Catalog
/-!
How the interactive session cuts what is typed into statements. A statement starts at a line
that has text and is neither a command nor a `DELIMITER` line, and ends at the first line whose
text, trimmed of blanks, ends with the delimiter: the lines from the one to the other are
applied as one script, behind a `DELIMITER` line when the delimiter is not `;`. The session reads
lines only and does not lex them, so a delimiter that ends a line inside a string literal or a
comment ends the statement there, where the lexer of the whole text reads on.
-/

namespace DdlCatalog.Cli

open DdlCatalog.Analysis DdlCatalog.Catalog

section

variable {m : Type → Type} [Monad m]

/-- Feeds lines to a session in order, until one ends the session. -/
def Session.feedAll (ctx : CommandContext m) : Session → List String → Console m Session
  | s, [] => pure s
  | s, l :: ls => do
    let (s', quit) ← Session.feed ctx s l
    if quit then return s' else Session.feedAll ctx s' ls

/-- Whether a line typed between statements starts one: it has text, and is neither a command
nor a `DELIMITER` line. -/
def startsStatement (line : String) : Bool :=
  let trimmed := Text.trimBlank line
  !trimmed.isEmpty && !trimmed.startsWith "." &&
    match Text.fields trimmed with
    | first :: _ :: _ => Text.fold first != Text.fold "DELIMITER"
    | _ => true

/-- Whether the session takes a line into a statement: one is under way, or the line starts one. -/
def Session.takes (s : Session) (line : String) : Bool := !s.pending.isEmpty || startsStatement line

/-- The script a session applies for a statement typed as `typed` while the delimiter is `d`. -/
def scriptOf (d typed : String) : String :=
  if d != ";" then "DELIMITER " ++ d ++ "\n" ++ typed else typed

/-- A line the session takes goes into the statement, and ends it when its trimmed text ends
with the delimiter: the statement is then applied as one script and the session waits for the
next one. -/
theorem Session.feed_taken [LawfulMonad m] (ctx : CommandContext m) {s : Session} {line : String}
    (taken : s.takes line = true) :
    Session.feed ctx s line =
      if (Text.trimBlank line).endsWith s.delimiter then
        (·, false) <$> Session.apply ctx { s with pending := "" }
          (scriptOf s.delimiter (s.pending ++ line ++ "\n"))
      else pure ({ s with pending := s.pending ++ line ++ "\n" }, false) := by
  by_cases going : s.pending.isEmpty
  · -- the line starts a statement: it has text, and is no command and no `DELIMITER` line
    have starts : startsStatement line = true := by simpa [Session.takes, going] using taken
    simp only [startsStatement, Bool.and_eq_true, Bool.not_eq_eq_eq_not, Bool.not_true] at starts
    obtain ⟨⟨text, notCommand⟩, notDirective⟩ := starts
    unfold Session.feed
    simp only [going, text, notCommand, Bool.false_eq_true, if_false, if_true]
    rcases fields : Text.fields (Text.trimBlank line) with _ | ⟨first, _ | ⟨second, rest⟩⟩
    · by_cases finished : (Text.trimBlank line).endsWith s.delimiter <;> simp [finished, scriptOf]
    · by_cases finished : (Text.trimBlank line).endsWith s.delimiter <;> simp [finished, scriptOf]
    · rw [fields] at notDirective
      simp only [bne_iff_ne, ne_eq] at notDirective
      by_cases finished : (Text.trimBlank line).endsWith s.delimiter <;>
        simp [notDirective, finished, scriptOf]
  · by_cases finished : (Text.trimBlank line).endsWith s.delimiter <;>
      simp [Session.feed, going, finished, scriptOf]

/-- Once a line is in a statement, the session takes every line after it. -/
theorem Session.takes_after (s : Session) (line next : String) :
    ({ s with pending := s.pending ++ line ++ "\n" } : Session).takes next = true := by
  simp [Session.takes]

/-- The session ends a statement at the first line whose trimmed text ends with the delimiter:
the lines typed up to it are applied as one script, whatever the lexer makes of them, and the
lines after it go on from there. The induction is on the lines before the last, each of which
the session only keeps. -/
theorem Session.feedAll_ends_at_delimiter_line [LawfulMonad m] (ctx : CommandContext m)
    (s : Session) (lines : List String) (last : String) (more : List String)
    (opens : s.takes ((lines ++ [last]).headD "") = true)
    (inner : ∀ l ∈ lines, (Text.trimBlank l).endsWith s.delimiter = false)
    (closes : (Text.trimBlank last).endsWith s.delimiter = true) :
    Session.feedAll ctx s (lines ++ last :: more) =
      Session.apply ctx { s with pending := "" }
          (scriptOf s.delimiter ((lines ++ [last]).foldl (fun typed l => typed ++ l ++ "\n") s.pending)) >>=
        fun s' => Session.feedAll ctx s' more := by
  induction lines generalizing s with
  | nil =>
    rw [List.nil_append, List.headD_cons] at opens
    rw [List.nil_append, Session.feedAll, Session.feed_taken ctx opens, if_pos closes]
    simp
  | cons l ls ih =>
    rw [List.cons_append, List.headD_cons] at opens
    have kept := inner l List.mem_cons_self
    rw [List.cons_append, Session.feedAll, Session.feed_taken ctx opens, kept]
    simp only [Bool.false_eq_true, if_false, pure_bind]
    exact ih _ (Session.takes_after s l _) (fun l' mem => inner l' (List.mem_cons_of_mem _ mem)) closes

end

/-- A context whose host has no files and no input and shows nothing: enough for a session fed
lines directly. -/
def silentContext : CommandContext Id where
  host :=
    { stat := fun _ => .ok false, listDir := fun _ => .ok [], readFile := fun _ => .ok "",
      readStdin := "", readKey := none, newUnitId := "u", clock := "T", emit := fun _ => (),
      watch := fun _ _ _ => () }
  settings := Config.RunSettings.fallback
  logger := Logger.ofVerbose false (pure "T")
  renderer := Render.Renderer.new .text false

/-- A statement typed on two lines is applied once, as the two lines together. -/
theorem Session.feedAll_two_line_statement :
    let s : Session := { unit := AnalysisUnit.new "u" (Catalog.new {}) {} }
    s.takes ((["CREATE TABLE t (a INT,"] ++ ["b INT);"]).headD "") = true ∧
      (∀ l ∈ ["CREATE TABLE t (a INT,"], (Text.trimBlank l).endsWith s.delimiter = false) ∧
      (Text.trimBlank "b INT);").endsWith s.delimiter = true ∧
      Session.feedAll silentContext s (["CREATE TABLE t (a INT,"] ++ "b INT);" :: []) =
        Session.apply silentContext { s with pending := "" } (scriptOf s.delimiter
          ((["CREATE TABLE t (a INT,"] ++ ["b INT);"]).foldl (fun typed l => typed ++ l ++ "\n") s.pending)) >>=
          fun s' => Session.feedAll silentContext s' [] := by
  intro s
  have opens : s.takes ((["CREATE TABLE t (a INT,"] ++ ["b INT);"]).headD "") = true := by decide +kernel
  have inner : ∀ l ∈ ["CREATE TABLE t (a INT,"], (Text.trimBlank l).endsWith s.delimiter = false := by
    decide +kernel
  have closes : (Text.trimBlank "b INT);").endsWith s.delimiter = true := by decide +kernel
  exact ⟨opens, inner, closes, Session.feedAll_ends_at_delimiter_line silentContext s _ _ [] opens inner closes⟩

/-- A delimiter at the end of a line inside a string literal ends the statement for the session
but not for the lexer. Typed on two lines, `CREATE TABLE t (a INT COMMENT 'x;` and `y');` are
applied one at a time: the first fails to parse and no table is made, where the same text as
one script makes `t`. -/
theorem session_cuts_inside_literal :
    let u := AnalysisUnit.new "u" (Catalog.new {}) {}
    ((Session.feedAll silentContext { unit := u }
        ["CREATE TABLE t (a INT COMMENT 'x;", "y');"]).run.run {}).1.toOption.map
        (fun s => s.unit.catalog.tables.map (·.name)) = some [] ∧
      (u.applySQL "CREATE TABLE t (a INT COMMENT 'x;\ny');").1.catalog.tables.map (·.name) = ["t"] := by
  set_option maxRecDepth 100000 in decide +kernel

end DdlCatalog.Cli
