import DdlCatalog.Config.Decode
import DdlCatalog.Files.Path
import DdlCatalog.Analysis.Options
import DdlCatalog.Catalog.Store
/-!
Analysis settings and how a project's configuration file provides them.

The settings start from built-in values: server version `8.0.32`, schema `mydb`, no charset or
collation of their own, case-insensitive names, generated foreign key names, no stubs, and a
sequential resolution pass. The configuration file is `leapddl.yaml` or else `leapddl.yml` in
the project directory, and it is merged over them. The result is decoded weakly (see
`Config.Decode`), and an empty schema falls back to `mydb`. The project root is the nearest
directory, going up, that holds a configuration file.

File access is a parameter: loading runs in any monad that can test for a file and read one.
-/

namespace DdlCatalog.Config

open DdlCatalog.Catalog DdlCatalog.Analysis

/-- The schema names bind to when nothing says otherwise. -/
def fallbackSchema : String := "mydb"

/-- The server version assumed when nothing says otherwise. -/
def fallbackServerVersion : String := "8.0.32"

/-- The names a configuration file may have, in the order they are looked for. -/
def configFileNames : List String := ["leapddl.yaml", "leapddl.yml"]

/-- Settings of an analysis. -/
structure AnalysisSettings where
  serverVersion : Version := {}
  defaultSchema : String := ""
  defaultCharset : String := ""
  defaultCollation : String := ""
  caseSensitive : Bool := false
  autoFkNames : Bool := false
  stubUnresolved : Bool := false
  parallelResolve : Bool := false
deriving Repr, Inhabited

namespace AnalysisSettings

/-- The built-in values, the lowest layer. -/
def defaults : List (String × Setting) :=
  [("server_version", .text fallbackServerVersion), ("default_schema", .text fallbackSchema),
    ("default_charset", .text ""), ("default_collation", .text ""),
    ("case_sensitive", .bool false), ("auto_fk_names", .bool true),
    ("stub_unresolved", .bool false), ("parallel_resolve", .bool false)]

/-- Decodes the fields, in order, collecting errors. -/
def decodeFrom (entries : List (String × Setting)) : StateM (List String) AnalysisSettings := do
  let serverVersion ← decodeVersion entries "server_version" {}
  let defaultSchema ← decodeField entries "default_schema" decodeWord ""
  let defaultCharset ← decodeField entries "default_charset" decodeWord ""
  let defaultCollation ← decodeField entries "default_collation" decodeWord ""
  let caseSensitive ← decodeField entries "case_sensitive" decodeFlag false
  let autoFkNames ← decodeField entries "auto_fk_names" decodeFlag false
  let stubUnresolved ← decodeField entries "stub_unresolved" decodeFlag false
  let parallelResolve ← decodeField entries "parallel_resolve" decodeFlag false
  pure ⟨serverVersion, defaultSchema, defaultCharset, defaultCollation, caseSensitive,
    autoFkNames, stubUnresolved, parallelResolve⟩

/-- An empty schema becomes `mydb`. -/
def withDefaults (s : AnalysisSettings) : AnalysisSettings :=
  if s.defaultSchema.isEmpty then { s with defaultSchema := fallbackSchema } else s

/-- The options of an analysis with these settings. -/
def options (s : AnalysisSettings) : Options :=
  { caseSensitive := s.caseSensitive, autoForeignKeyNames := s.autoFkNames,
    defaultCharset := s.defaultCharset, defaultCollation := s.defaultCollation,
    serverVersion := s.serverVersion, defaultSchema := s.defaultSchema,
    stubUnresolved := s.stubUnresolved, parallelResolve := s.parallelResolve }

/-- A fresh catalog for these settings: their version, and their charset and collation when
set. -/
def newCatalog (s : AnalysisSettings) : Catalog :=
  let c := Catalog.new s.serverVersion
  let c := if s.defaultCharset.isEmpty then c else { c with defaultCharset := s.defaultCharset }
  if s.defaultCollation.isEmpty then c else { c with defaultCollation := s.defaultCollation }

end AnalysisSettings

/-- The message for decoding errors. -/
def decodeMessage (errors : List String) : String :=
  "unable to decode config: decoding failed due to the following error(s):\n\n" ++ "\n".intercalate errors

/-- The message for a configuration file that cannot be read. -/
def readMessage (path reason : String) : String :=
  "error reading config file " ++ path ++ ": " ++ reason

/-- Reads a configuration file's text into a group, or the message why it cannot. -/
def readConfigText (path : String) : Except String String → Except String (List (String × Setting))
  | .error reason => .error (readMessage path reason)
  | .ok text =>
    match Yaml.readGroup text with
    | .ok entries => .ok entries
    | .error e => .error (readMessage path e)

section Files

variable {m : Type → Type} [Monad m]

/-- The first configuration file present in a directory. -/
def findConfigFile (isFile : String → m Bool) (dir : String) : m (Option String) := do
  for name in configFileNames do
    let path := Files.join [dir, name]
    if ← isFile path then return some path
  return none

/-- Walks up from a directory to the first that holds a configuration file. -/
def findRootFrom (isFile : String → m Bool) : Nat → String → m (Option String)
  | 0, _ => pure none
  | n + 1, dir => do
    if (← findConfigFile isFile dir).isSome then return some dir
    let up := Files.parent dir
    if up == dir then return none
    findRootFrom isFile n up

/-- The nearest directory, from `start` up, that holds a configuration file. -/
def findProjectRoot (isFile : String → m Bool) (start : String) : m (Option String) :=
  findRootFrom isFile ((start.splitOn "/").length + 2) start

/-- Loads the settings of a directory: the built-in values under its configuration file. -/
def loadFromDir (isFile : String → m Bool) (readText : String → m (Except String String))
    (dir : String) : m (Except String AnalysisSettings) := do
  let file ← match ← findConfigFile isFile dir with
    | some path => (fun text => readConfigText path text) <$> readText path
    | none => pure (.ok [])
  match file with
  | .error e => return .error e
  | .ok entries =>
    let layers := Setting.mergeEntries entries AnalysisSettings.defaults
    let (settings, errors) := (AnalysisSettings.decodeFrom layers).run []
    if errors.isEmpty then return .ok settings.withDefaults
    else return .error (decodeMessage errors)

end Files

end DdlCatalog.Config
