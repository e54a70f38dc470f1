import DdlCatalog.Config.Settings
import DdlCatalog.Render.Output
import DdlCatalog.Text.CaseMap
/-!
The settings of a command-line run, built from five layers, each merged over the last:

1. the built-in values, with `verbose` off, output `auto` and no profile;
2. the configuration file: the one the `--config` flag names, else the one in the project
   root;
3. the selected profile, the group `profiles.<name>`; it is named by the `--profile` flag,
   else by a non-empty `LEAPDDL_PROFILE`, else by the `profile` setting so far;
4. environment variables starting with `LEAPDDL_`, named by the rest in lower case;
5. the global flags that were given, with `-` in their names read as `_`.

The project root is the directory of the `--config` file when one is named. Otherwise it is
the nearest directory, from the working directory up, that holds a configuration file, or the
working directory itself. After decoding, the output format must be one the renderer knows.
-/

namespace DdlCatalog.Config

open DdlCatalog.Render

/-- The settings of a command-line run. -/
structure RunSettings where
  analysis : AnalysisSettings
  verbose : Bool := false
  output : String := "auto"
  profile : String := ""
  projectRoot : String := "."
  /-- The configuration file that was read, empty for none. -/
  configFile : String := ""
  /-- The profiles the loaded settings define, sorted. -/
  profileNames : List String := []
deriving Repr, Inhabited

/-- The prefix of the environment variables that set settings. -/
def envPrefix : String := "LEAPDDL_"

/-- The settings a command falls back to when none were loaded: the built-in analysis
settings and automatic output. -/
def RunSettings.fallback : RunSettings :=
  { analysis := { defaultSchema := fallbackSchema, autoFkNames := true } }

/-- What a run's settings are loaded from, besides files. -/
structure RunSources where
  /-- The working directory, absolute; empty when unknown. -/
  cwd : String
  /-- The environment, in order. -/
  env : List (String × String)
  /-- The `--config` flag, empty when not given. -/
  configFlag : String := ""
  /-- The `--profile` flag, when given. -/
  profileFlag : Option String := none
  /-- The global flags that were given, by setting name, `--config` left out. -/
  flags : List (String × Setting) := []

/-- The environment layer: `LEAPDDL_` variables named by the rest of their name in lower
case. -/
def envLayer (env : List (String × String)) : List (String × Setting) :=
  Setting.unflatten (env.filterMap fun (k, v) =>
    if k.startsWith envPrefix then
      let key := Text.lower (String.ofList (k.toList.drop envPrefix.length))
      if key.isEmpty then none else some (key, .text v)
    else none)

/-- The value of an environment variable. -/
def envValue (env : List (String × String)) (name : String) : String :=
  ((env.reverse.find? (·.1 == name)).map (·.2)).getD ""

/-- Decodes the run fields, then the analysis fields. -/
def RunSettings.decodeFrom (entries : List (String × Setting)) : StateM (List String) RunSettings := do
  let verbose ← decodeField entries "verbose" decodeFlag false
  let output ← decodeField entries "output" decodeWord ""
  let profile ← decodeField entries "profile" decodeWord ""
  let analysis ← AnalysisSettings.decodeFrom entries
  pure { analysis, verbose, output, profile }

/-- Applies the selected profile, if any. -/
def applyProfile (name : String) (layers : List (String × Setting)) :
    Except String (List (String × Setting)) :=
  if name.isEmpty then .ok layers else
  let path := "profiles." ++ name
  if !Setting.pathExists layers path then
    .error ("profile " ++ Text.quote name ++ " not found in config (available: " ++
      ", ".intercalate (Setting.namesAt layers "profiles") ++ ")")
  else
    let layers := Setting.mergeEntries (Setting.cut layers path) layers
    .ok (Setting.mergeEntries (Setting.unflatten [("profile", .text name)]) layers)

section Files

variable {m : Type → Type} [Monad m]

/-- Loads the settings of a run. -/
def loadRun (isFile : String → m Bool) (readText : String → m (Except String String))
    (src : RunSources) : m (Except String RunSettings) := do
  let cwd := if src.cwd.isEmpty then "." else src.cwd
  let projectRoot ←
    if src.configFlag != "" then pure (Files.parent (Files.absolute cwd src.configFlag))
    else (·.getD cwd) <$> findProjectRoot isFile cwd
  let base := AnalysisSettings.defaults ++
    [("verbose", .bool false), ("output", .text "auto"), ("profile", .text "")]
  let configFile ←
    if src.configFlag != "" then pure src.configFlag
    else (·.getD "") <$> findConfigFile isFile projectRoot
  let fileLayer ←
    if configFile.isEmpty then pure (.ok [])
    else (fun text => readConfigText configFile text) <$> readText configFile
  match fileLayer with
  | .error e => return .error e
  | .ok fileEntries =>
  let layers := Setting.mergeEntries fileEntries base
  let profile := match src.profileFlag with
    | some p => p
    | none =>
      let fromEnv := envValue src.env (envPrefix ++ "PROFILE")
      if fromEnv.isEmpty then Setting.textAt layers "profile" else fromEnv
  match applyProfile profile layers with
  | .error e => return .error e
  | .ok layers =>
  let layers := Setting.mergeEntries (envLayer src.env) layers
  let layers := Setting.mergeEntries (Setting.unflatten src.flags) layers
  let (settings, errors) := (RunSettings.decodeFrom layers).run []
  if !errors.isEmpty then return .error (decodeMessage errors)
  let settings := { settings with analysis := settings.analysis.withDefaults, projectRoot, configFile,
                                  profileNames := Setting.namesAt layers "profiles" }
  match Mode.parse settings.output with
  | .error e => return .error ("invalid configuration: " ++ e)
  | .ok _ => return .ok settings

end Files

end DdlCatalog.Config
