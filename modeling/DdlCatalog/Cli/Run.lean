import DdlCatalog.Cli.Repl
import DdlCatalog.Cli.Complete
import DdlCatalog.Cli.Scripts
/-!
Running a command line, from the arguments to the text written and the error returned.

The steps, in order:
1. the subcommand is found from the words among the arguments; an unknown word is an error;
2. the flags are read against the flags in force for that command;
3. `--help` prints the command's help, and `--version` on the root the release;
4. a command that does nothing by itself prints its help;
5. the positional arguments are checked (`completion` takes exactly one known shell);
6. the settings are loaded, for every command but `help`, `completion` and the completion
   request; they decide the logger and the renderer;
7. flags that exclude each other are checked;
8. the command runs.

Run as the program itself (`standalone`), an error is also written to standard error after
`Error: `, and text meant for standard error goes there rather than to standard output.
-/

namespace DdlCatalog.Cli

open DdlCatalog.Config DdlCatalog.Render

/-- A command line to run, and the place it runs in. -/
structure Invocation where
  /-- The arguments after the program name. -/
  args : List String
  /-- The working directory, an absolute path. -/
  cwd : String
  /-- The environment, in order. -/
  env : List (String × String)
  /-- Whether the run is the program itself, writing to the process's own streams. -/
  standalone : Bool := false
  /-- Whether standard output is a terminal. -/
  terminal : Bool := false
  /-- The name of the toolchain the program was built with. -/
  toolchain : String := "unknown"
  /-- The most keys an interactive session reads. -/
  keyLimit : Nat := 0

/-- A word as `%#q` writes it: in backquotes when it can be, else quoted. -/
def backquoted (s : String) : String :=
  if s.toList.all fun c => (c.toNat ≥ 0x20 || c == '\t') && c != '\x60' && c != '\x7f' && c != '\uFEFF'
  then "\x60" ++ s ++ "\x60"
  else Text.quote s

/-- The error of a set of flags of which more than one was given. -/
def exclusiveProblem (group given : List String) : String :=
  "if any flags in the group [" ++ " ".intercalate group ++ "] are set none of the others can be; [" ++
    " ".intercalate (given.toArray.qsort (· < ·)).toList ++ "] were all set"

/-- Checks the positional arguments of a command. -/
def checkArguments (c : Command) (args : List String) : Except String Unit :=
  if c.verb == .completion then
    if args.length != 1 then .error ("accepts 1 arg(s), received " ++ toString args.length)
    else match args.find? (!c.validArgs.contains ·) with
      | some bad => .error ("invalid argument " ++ Text.quote bad ++ " for " ++ Text.quote c.path)
      | none => .ok ()
  else .ok ()

/-- The global flags the arguments set, as settings named with underscores. The config file
and help flags are not settings. -/
def flagSettings (specs : List FlagSpec) (parsed : Parsed) : List (String × Setting) :=
  (sortByName globalFlags).filterMap fun f =>
    if !parsed.changed f.name || f.name == "config" || f.name == "help" then none
    else
      let key := f.name.replace "-" "_"
      some (key, if f.kind == .switch then .bool (parsed.isOn specs f.name) else .text (parsed.value specs f.name))

section

variable {m : Type → Type} [Monad m]

/-- Whether a path exists, for the settings search. -/
def Host.exists (host : Host m) (p : String) : m Bool := do
  match ← host.stat p with
  | .ok _ => return true
  | .error _ => return false

/-- Loads the settings of a run. -/
def loadSettings (host : Host m) (inv : Invocation) (configFlag : String) (profileFlag : Option String)
    (flags : List (String × Setting)) : m (Except String RunSettings) :=
  loadRun host.exists host.readFile
    { cwd := inv.cwd, env := inv.env, configFlag, profileFlag, flags }

/-- The profiles the settings define, for completion; none when they do not load. -/
def profileNames (host : Host m) (inv : Invocation) (configFlag : String) : m (List String) := do
  match ← loadSettings host inv configFlag none [] with
  | .ok s => return s.profileNames
  | .error _ => return []

/-- Answers a completion request. -/
def runCompletion (host : Host m) (inv : Invocation) (calledAs : String) (args : List String) :
    Console m Unit := do
  let some lastArg := args.getLast? | throw "requires at least 1 arg(s), only received 0"
  let answer ← lift (complete (profileNames host inv) args.dropLast lastArg)
  if let some p := answer.problem then
    if inv.standalone then writeErr ("[Error] " ++ p ++ "\n")
  let setting := envValue inv.env (envPrefix ++ "COMPLETION_DESCRIPTIONS")
  let setting := if setting.isEmpty then envValue inv.env "COBRA_COMPLETION_DESCRIPTIONS" else setting
  let noDescriptions := calledAs == "__completeNoDesc" ||
    (boolText? setting).any (· == false)
  for c in answer.candidates do writeOut (Completion.shown noDescriptions c ++ "\n")
  writeOut (":" ++ toString answer.directive ++ "\n")
  writeErr ("Completion ended with directive: " ++ Directive.name answer.directive ++ "\n")

/-- The `help` command: the help of the command its arguments name, or the root's usage after
a complaint. -/
def runHelp (inv : Invocation) (args : List String) : Console m Unit := do
  let (topic, _, bad) := findCommand args
  if bad.isSome then
    let text := "Unknown help topic [" ++ " ".intercalate (args.map backquoted) ++ "]\n" ++ rootCommand.usage
    if inv.standalone then writeErr text else writeOut text
  else writeOut topic.helpText

/-- Loads the settings and sets up what a command runs with. -/
def prepare (host : Host m) (inv : Invocation) (specs : List FlagSpec) (parsed : Parsed) :
    Console m (CommandContext m) := do
  let profileFlag := if parsed.changed "profile" then some (parsed.value specs "profile") else none
  let settings ← orStop (← lift (loadSettings host inv (parsed.value specs "config") profileFlag
    (flagSettings specs parsed)))
  let logger := Logger.ofVerbose settings.verbose host.clock
  let mode ← orStop (Mode.parse settings.output)
  let ctx : CommandContext m := { host, settings, logger, renderer := Renderer.new mode inv.terminal }
  if settings.verbose then
    if !settings.configFile.isEmpty then
      logger.note .debug "using config file" [("path", .text settings.configFile)]
    if !settings.profile.isEmpty then
      logger.note .debug "using profile" [("profile", .text settings.profile)]
  return ctx

/-- Runs a command line. -/
def execute (host : Host m) (inv : Invocation) : Console m Unit := do
  let (c, rest, unknown) := findCommand inv.args
  if let some e := unknown then throw e
  if !c.readsFlags then
    let calledAs := (stripFlags rootCommand.declared (inv.args.length + 1) inv.args).headD c.name
    return ← runCompletion host inv calledAs rest
  let specs := c.allFlags
  let parsed ← orStop (readArguments specs rest)
  if parsed.isOn specs "help" then return ← writeOut c.helpText
  if c.verb == .root && parsed.isOn specs "version" then return ← writeOut versionText
  if !c.runnable then return ← writeOut c.helpText
  let args := parsed.positional
  orStop (checkArguments c args)
  match c.verb with
  | .help => runHelp inv args
  | .completion =>
    match completionScript (args.headD "") with
    | some script => writeOut script
    | none => pure ()
  | verb =>
    let ctx ← prepare host inv specs parsed
    for group in c.exclusive do
      let given := group.filter parsed.changed
      if given.length > 1 then throw (exclusiveProblem group given)
    match verb with
    | .version => writeOut (versionReport inv.toolchain)
    | .parse =>
      ctx.parse (parsed.isOn specs "separate") (parsed.isOn specs "watch") (parsed.value specs "table") args
    | .check => ctx.check (parsed.isOn specs "separate") (parsed.isOn specs "strict") args
    | .deps => ctx.deps (parsed.value specs "dependents") (parsed.value specs "dependencies") args
    | .repl => ctx.repl args inv.keyLimit
    | _ => pure ()

/-- What a run wrote, and the error it ended with, if any. Run as the program itself, the error
is also written to standard error. -/
def run (host : Host m) (inv : Invocation) : m (Screen × Option String) := do
  let (res, screen) ← (execute host inv).run.run {}
  match res with
  | .ok _ => return (screen, none)
  | .error e =>
    return (if inv.standalone then screen ++ .stderr ("Error: " ++ e ++ "\n") else screen, some e)

end

end DdlCatalog.Cli
