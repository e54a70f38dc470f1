import DdlCatalog.Cli.Flag
import DdlCatalog.Config.Settings
/-!
The command tree of `leapddl`, how arguments select a command, and the help text of each.

The root command has subcommands. Finding the command for a list of arguments walks down the
tree. At each level the flags (with the value each one takes) are set aside, and the first
remaining word names the next subcommand. A word that names no subcommand stays an argument.
At the root such a word is an error, with suggestions: subcommands within two edits of it, or
that start with it.

Every command takes the global flags of the root, plus `--help` and its own. The root also
takes `--version`. Help shows the description, the usage line, examples, subcommands, the
command's own flags, and the global flags, each listing as `Cli.Flag` formats it.
-/

namespace DdlCatalog.Cli

/-- The commands of the program. -/
inductive Verb where
  | root
  | version
  | parse
  | check
  | deps
  | repl
  | completion
  | help
  | complete
deriving DecidableEq, Repr, Inhabited

/-- A command's declaration. -/
structure Command where
  verb : Verb
  name : String
  use : String
  short : String
  long : String := ""
  examples : String := ""
  aliases : List String := []
  flags : List FlagSpec := []
  runnable : Bool := true
  hidden : Bool := false
  flagsInUseLine : Bool := true
  /-- Whether flags are read at all; when not, every argument goes to the command. -/
  readsFlags : Bool := true
  validArgs : List String := []
  /-- Groups of flags of which at most one may be given. -/
  exclusive : List (List String) := []
deriving Repr, Inhabited

/-- The program's name. -/
def programName : String := "leapddl"

/-- The release. -/
def release : String := "0.1.0"

/-- The global flags: declared on the root, taken by every command. -/
def globalFlags : List FlagSpec :=
  [ .text "config" ("config file (default: ./" ++ (Config.configFileNames.headD "") ++ ")"),
    .text "profile" "Profile from the config file to apply" (some 'p'),
    .text "server-version" "MySQL server version the scripts target (e.g. 5.7.44, 8.0.32)",
    .text "default-schema" "Schema unqualified names bind to before any USE",
    .text "default-charset" "Character set of new schemas and tables",
    .text "default-collation" "Collation of new schemas and tables",
    .switch "case-sensitive" "Compare identifiers case-sensitively",
    .switch "auto-fk-names" "Name unnamed foreign keys fk_<table>_<referenced table>" none true,
    .switch "stub-unresolved" "Create stub tables for missing foreign key targets",
    .switch "parallel-resolve" "Resolve references concurrently",
    .switch "verbose" "Verbose output" (some 'v'),
    .text "output" "Output format (auto|text|markdown|json|yaml)" (some 'o') ]

/-- The root command. -/
def rootCommand : Command :=
  { verb := .root, name := programName, use := programName,
    short := programName ++ " - Semantic analyser for MySQL DDL",
    long := "leapddl reads MySQL DDL scripts and builds the catalog they describe:
schemas, tables, columns, indexes, foreign keys, views, routines, triggers,
events and server-level objects.

References between objects are resolved after the whole script has been
read, so a table may refer to another defined further down. Anything that
does not resolve, and any semantic anomaly found on the way, is reported.",
    runnable := false }

/-- `version`. -/
def versionCommand : Command :=
  { verb := .version, name := "version", use := "version", short := "Show version information",
    long := "Display the leapddl release, the commit and date it was built from, the Go
toolchain that built it and the MySQL server version scripts are analysed
against unless --server-version says otherwise." }

/-- `parse`. -/
def parseCommand : Command :=
  { verb := .parse, name := "parse", use := "parse [files or directories...]",
    short := "Build the catalog described by DDL scripts",
    long := "Parse MySQL DDL scripts and print the resulting catalog.

All scripts go into one parsing unit in argument order, so a table may
reference another defined in a later file. Directories are searched for
*.sql files. With no arguments the script is read from standard input.

Output adapts to environment:
  - Terminal: Styled tables
  - Piped/Scripted: Markdown format (agent-friendly)
  - JSON / YAML: the full catalog and the report",
    examples := "  # Parse a schema directory
  leapddl parse ./schema

  # Describe one table as JSON
  leapddl parse ./schema --table shop.orders -o json

  # Analyse files independently, in parallel
  leapddl parse a.sql b.sql --separate

  # Re-run whenever a script changes
  leapddl parse ./schema --watch",
    flags := [ .switch "separate" "Analyse each file in its own unit and catalog",
      .switch "watch" "Watch inputs and re-run on change" (some 'w'),
      .text "table" "Describe only this table (schema.table or table)" ] }

/-- `check`. -/
def checkCommand : Command :=
  { verb := .check, name := "check", use := "check [files or directories...]",
    short := "Report problems in DDL scripts",
    long := "Analyse MySQL DDL scripts and report parse errors, diagnostics and
references that did not resolve.

The command exits with a non-zero status when any error is found, which
makes it suitable for CI. With --strict, warnings fail the check too.",
    examples := "  # Check a schema directory
  leapddl check ./schema

  # Fail on warnings as well
  leapddl check ./schema --strict

  # Machine-readable report
  leapddl check ./schema -o json",
    flags := [ .switch "separate" "Analyse each file in its own unit and catalog",
      .switch "strict" "Treat warnings as errors" ] }

/-- `deps`. -/
def depsCommand : Command :=
  { verb := .deps, name := "deps", use := "deps [files or directories...]",
    short := "Show the foreign key dependencies between tables",
    long := "Build the catalog and show the order in which its tables can be created,
each after every table its foreign keys reference.

Tables are also grouped into levels: a table references only tables of
lower levels, so the tables of one level are independent of each other.
A foreign key cycle is reported instead of an order.",
    examples := "  # Creation order of a schema directory
  leapddl deps ./schema

  # Tables a DROP TABLE of customers would break
  leapddl deps ./schema --dependents shop.customers",
    flags := [ .text "dependents" "List the tables that reference this table, directly or not",
      .text "dependencies" "List the tables this table references, directly or not" ],
    exclusive := [["dependents", "dependencies"]] }

/-- `repl`. -/
def replCommand : Command :=
  { verb := .repl, name := "repl", use := "repl [files or directories...]",
    short := "Interactive DDL session",
    long := "Start an interactive session over one parsing unit.

Statements accumulate in the same catalog, so later statements see earlier
ones. Diagnostics are shown as each statement is applied. Deferred
references are resolved by .resolve, or before .report, .catalog and
.describe. Scripts given as arguments are applied first.",
    examples := "  # Start an empty session
  leapddl repl

  # Start from an existing schema
  leapddl repl ./schema",
    flags := [ .text "history-file" "History file (default: .leapddl_history in the project root)" ] }

/-- The shells completion scripts are written for. -/
def shells : List String := ["bash", "zsh", "fish", "powershell"]

/-- `completion`. -/
def completionCommand : Command :=
  { verb := .completion, name := "completion", use := "completion [bash|zsh|fish|powershell]",
    short := "Generate shell completion scripts",
    long := "Generate shell completion scripts for leapddl.

To load completions:

Bash:
  $ source <(leapddl completion bash)

  # To load completions for each session, execute once:
  # Linux:
  $ leapddl completion bash > /etc/bash_completion.d/leapddl
  # macOS:
  $ leapddl completion bash > $(brew --prefix)/etc/bash_completion.d/leapddl

Zsh:
  # If shell completion is not already enabled in your environment,
  # you will need to enable it. Execute the following once:
  $ echo \"autoload -U compinit; compinit\" >> ~/.zshrc

  # To load completions for each session, execute once:
  $ leapddl completion zsh > \"$\x7bfpath[1]\x7d/_leapddl\"

  # You will need to start a new shell for this setup to take effect.

Fish:
  $ leapddl completion fish | source

  # To load completions for each session, execute once:
  $ leapddl completion fish > ~/.config/fish/completions/leapddl.fish

PowerShell:
  PS> leapddl completion powershell | Out-String | Invoke-Expression

  # To load completions for every new session, run:
  PS> leapddl completion powershell > leapddl.ps1
  # and source this file from your PowerShell profile.
",
    flagsInUseLine := false, validArgs := shells }

/-- `help`. -/
def helpCommand : Command :=
  { verb := .help, name := "help", use := "help [command]", short := "Help about any command",
    long := "Help provides help for any command in the application.
Simply type " ++ programName ++ " help [path to command] for full details." }

/-- `__complete`, the request behind shell completion. -/
def completeCommand : Command :=
  { verb := .complete, name := "__complete", use := "__complete [command-line]",
    short := "Request shell completion choices for the specified command-line",
    long := "__complete is a special command that is used by the shell completion logic
to request completion choices for the specified command-line.",
    aliases := ["__completeNoDesc"], hidden := true, flagsInUseLine := false, readsFlags := false }

/-- The subcommands, in the order they were added. -/
def subcommands : List Command :=
  [versionCommand, parseCommand, checkCommand, depsCommand, replCommand, completionCommand,
    helpCommand, completeCommand]

/-- A command by its verb. -/
def Verb.command : Verb → Command
  | .root => rootCommand
  | .version => versionCommand
  | .parse => parseCommand
  | .check => checkCommand
  | .deps => depsCommand
  | .repl => replCommand
  | .completion => completionCommand
  | .help => helpCommand
  | .complete => completeCommand

namespace Command

/-- The subcommands of a command. -/
def children (c : Command) : List Command := if c.verb == .root then subcommands else []

/-- The command path: `leapddl` or `leapddl parse`. -/
def path (c : Command) : String := if c.verb == .root then c.name else programName ++ " " ++ c.name

/-- The `--help` flag of a command. -/
def helpFlag (c : Command) : FlagSpec := .switch "help" ("help for " ++ c.name) (some 'h')

/-- The `--version` flag of the root. -/
def versionFlag : FlagSpec := .switch "version" ("version for " ++ programName)

/-- The flags declared on the command itself, `--help` and `--version` apart. -/
def ownFlags (c : Command) : List FlagSpec := if c.verb == .root then globalFlags else c.flags

/-- The flags inherited from the root. -/
def inherited (c : Command) : List FlagSpec := if c.verb == .root then [] else globalFlags

/-- The flags known before the command runs: its own and the inherited ones. -/
def declared (c : Command) : List FlagSpec := c.ownFlags ++ c.inherited

/-- The flags listed under the command's own heading when it runs. -/
def localFlags (c : Command) : List FlagSpec :=
  c.ownFlags ++ [c.helpFlag] ++ (if c.verb == .root then [versionFlag] else [])

/-- Every flag in force when the command runs. -/
def allFlags (c : Command) : List FlagSpec := c.localFlags ++ c.inherited

/-- Whether the command is listed and suggested: shown, runnable, and not the help command. -/
def isAvailable (c : Command) : Bool := !c.hidden && c.verb != .help && (c.runnable || !c.children.isEmpty)

/-- Whether the command has subcommands worth listing. -/
def hasAvailableChildren (c : Command) : Bool := c.children.any (·.isAvailable)

/-- The usage line. -/
def useLine (c : Command) : String :=
  let line := if c.verb == .root then c.use else programName ++ " " ++ c.use
  if c.flagsInUseLine && !(line.splitOn "[flags]").length.ble 1 then line
  else if c.flagsInUseLine then line ++ " [flags]" else line

end Command

/-- Whether an argument is a flag that takes the next argument as its value. -/
def takesValue (specs : List FlagSpec) (s : String) : Bool :=
  if s.startsWith "--" then
    !s.toList.contains '=' &&
      match findLong specs (String.ofList (s.toList.drop 2)) with
      | some f => f.kind == .text
      | none => true
  else if s.startsWith "-" && s.length == 2 then
    match s.toList with
    | [_, c] => match findShort specs c with
      | some f => f.kind == .text
      | none => true
    | _ => false
  else false

/-- The words among arguments once flags and their values are set aside. A value-taking flag
that is last but one also ends the search. -/
def stripFlags (specs : List FlagSpec) : Nat → List String → List String
  | 0, _ => []
  | _, [] => []
  | fuel + 1, s :: rest =>
    if s == "--" then []
    else if takesValue specs s then
      match rest with
      | _ :: more@(_ :: _) => stripFlags specs fuel more
      | _ => []
    else if s != "" && !s.startsWith "-" then s :: stripFlags specs fuel rest
    else stripFlags specs fuel rest

/-- Removes the first word `x` that is not a flag's value. -/
def withoutFirst (specs : List FlagSpec) (x : String) : Nat → List String → List String
  | 0, args => args
  | _, [] => []
  | fuel + 1, s :: rest =>
    if s == "--" then s :: rest
    else if takesValue specs s then
      match rest with
      | v :: more => s :: v :: withoutFirst specs x fuel more
      | [] => [s]
    else if !s.startsWith "-" && s == x then rest
    else s :: withoutFirst specs x fuel rest

/-- The subcommand of `c` named `word`. -/
def childNamed (c : Command) (word : String) : Option Command :=
  c.children.find? fun k => k.name == word || k.aliases.contains word

/-- Levenshtein distance, ignoring ASCII case. -/
def editDistance (a b : String) : Nat :=
  let s := (a.toList.map Char.toLower).toArray
  let t := (b.toList.map Char.toLower).toArray
  let first := (List.range (s.size + 1)).toArray
  let last := (List.range t.size).foldl (fun (prev : Array Nat) j =>
    (List.range s.size).foldl (fun (row : Array Nat) i =>
      let cost := if s[i]! == t[j]! then 0 else 1
      row.push (min (min (row[i]! + 1) (prev[i + 1]! + 1)) (prev[i]! + cost))) #[j + 1]) first
  last[s.size]!

/-- Subcommands to suggest for a mistyped word. -/
def suggestionsFor (c : Command) (word : String) : List String :=
  c.children.filterMap fun k =>
    if k.isAvailable &&
        (editDistance word k.name ≤ 2 || (k.name.toList.map Char.toLower).take word.length ==
          word.toList.map Char.toLower) then some k.name
    else none

/-- The suggestion text appended to an unknown command error. -/
def suggestionText (c : Command) (word : String) : String :=
  match suggestionsFor c word with
  | [] => ""
  | names => "\n\nDid you mean this?\n" ++ String.join (names.map fun n => "\t" ++ n ++ "\n")

/-- The command the arguments select, the arguments left for it, and the error of a word the
root does not know. -/
def findCommand (args : List String) : Command × List String × Option String :=
  let fuel := args.length + 1
  let words := stripFlags rootCommand.declared fuel args
  match words with
  | [] => (rootCommand, args, none)
  | w :: _ =>
    match childNamed rootCommand w with
    | some k => (k, withoutFirst rootCommand.declared w fuel args, none)
    | none =>
      (rootCommand, args, some ("unknown command " ++ Text.quote w ++ " for " ++
        Text.quote rootCommand.path ++ suggestionText rootCommand w))

/-! ### Help text -/

/-- Removes trailing blanks and line breaks. -/
def trimTrailing (s : String) : String :=
  String.ofList (s.toList.reverse.dropWhile (fun c => c == ' ' || c == '\n' || c == '\t' || c == '\r')).reverse

/-- Pads a name to a width. -/
def padRight (s : String) (width : Nat) : String :=
  s ++ String.ofList (List.replicate (width - s.length) ' ')

/-- Inserts a command into a list sorted by name. -/
def insertCommand (k : Command) : List Command → List Command
  | [] => [k]
  | c :: rest => if k.name < c.name then k :: c :: rest else c :: insertCommand k rest

/-- The usage text of a command. -/
def Command.usage (c : Command) : String :=
  let lines := "Usage:" ++
    (if c.runnable then "\n  " ++ c.useLine else "") ++
    (if c.hasAvailableChildren then "\n  " ++ c.path ++ " [command]" else "") ++
    (if c.aliases.isEmpty then "" else "\n\nAliases:\n  " ++ ", ".intercalate (c.name :: c.aliases)) ++
    (if c.examples.isEmpty then "" else "\n\nExamples:\n" ++ c.examples) ++
    (if c.hasAvailableChildren then
      "\n\nAvailable Commands:" ++ String.join ((c.children.foldr insertCommand []).filterMap fun k =>
        if k.isAvailable || k.name == "help" then some ("\n  " ++ padRight k.name 11 ++ " " ++ k.short)
        else none)
    else "") ++
    "\n\nFlags:\n" ++ trimTrailing (flagUsages c.localFlags) ++
    (if c.inherited.isEmpty then "" else "\n\nGlobal Flags:\n" ++ trimTrailing (flagUsages c.inherited)) ++
    (if c.hasAvailableChildren then
      "\n\nUse \"" ++ c.path ++ " [command] --help\" for more information about a command."
    else "")
  lines ++ "\n"

/-- The help text of a command. -/
def Command.helpText (c : Command) : String :=
  let about := if c.long.isEmpty then c.short else c.long
  (if about.isEmpty then "" else trimTrailing about ++ "\n\n") ++
    (if c.runnable || !c.children.isEmpty then c.usage else "")

/-- The text `--version` prints. -/
def versionText : String := programName ++ " " ++ release ++ "\nSemantic analyser for MySQL DDL\n"

end DdlCatalog.Cli
