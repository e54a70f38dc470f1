import DdlCatalog.Cli.Command
import DdlCatalog.Render.Output
/-!
Shell completion. A shell asks for the candidates of the last word of a partial command line;
the answer is a list of candidates, each optionally followed by a tab and a description, and a
directive: a set of bits telling the shell what to do besides, such as not falling back to file
names.

The rules, in order:
* the word right after a flag that takes a value, or after `--flag=`, is that flag's value, and
  the flag's own candidate list answers (output modes, server versions, profile names);
* a word starting with `-` is a flag name: the flags not yet given, inherited ones first, each
  list sorted by name;
* otherwise, with no positional argument yet, the subcommands whose names start with the word,
  and the command's fixed arguments.

After `--` no flag is completed, and once `--help` (or `--version` on the root) is given there
is nothing to complete.
-/

namespace DdlCatalog.Cli

namespace Directive

/-- The request failed. -/
def error : Nat := 1
/-- No space after the candidate. -/
def noSpace : Nat := 2
/-- No file names when there is no candidate. -/
def noFileComp : Nat := 4
/-- The candidates are file extensions to filter by. -/
def filterFileExt : Nat := 8
/-- The candidates are directories to search. -/
def filterDirs : Nat := 16
/-- Keep the candidates in the order given. -/
def keepOrder : Nat := 32

/-- The names of the bits set in a directive, or of the default directive. -/
def name (d : Nat) : String :=
  let bits := [(error, "ShellCompDirectiveError"), (noSpace, "ShellCompDirectiveNoSpace"),
    (noFileComp, "ShellCompDirectiveNoFileComp"), (filterFileExt, "ShellCompDirectiveFilterFileExt"),
    (filterDirs, "ShellCompDirectiveFilterDirs"), (keepOrder, "ShellCompDirectiveKeepOrder")]
  let set := bits.filterMap fun (b, n) => if d &&& b != 0 then some n else none
  if d ≥ 64 then "ERROR: unexpected ShellCompDirective value: " ++ toString d
  else if set.isEmpty then "ShellCompDirectiveDefault"
  else ", ".intercalate set

end Directive

/-- The answer to a completion request. -/
structure Completion where
  candidates : List String := []
  directive : Nat := 0
  /-- Why the request could not be served in full. -/
  problem : Option String := none

/-- Whether an argument looks like a whole flag: `--x…` or `-x…`. -/
def isFlagArg (s : String) : Bool :=
  (s.length ≥ 3 && s.startsWith "--") || (s.length ≥ 2 && s.startsWith "-" && !s.startsWith "--")

/-- The flag a completion word names: one letter is a short name, else a long name. -/
def flagNamed (c : Command) (name : String) : Option FlagSpec :=
  match name.toList with
  | [ch] => findShort c.allFlags ch
  | _ => findLong c.allFlags name

/-- Which flag, if any, the last word is a value of. -/
structure FlagTarget where
  flag : Option FlagSpec
  /-- The arguments before the word, without the flag when the word is its value. -/
  args : List String
  /-- The part of the word to complete. -/
  word : String
  problem : Option String := none

/-- Finds whether the word being completed is the value of a flag: written `--flag=word`,
`-f=word`, or as the word after a flag that takes a value. -/
def flagTarget (c : Command) (args : List String) (lastArg : String) : FlagTarget := Id.run do
  if !c.readsFlags then return ⟨none, args, lastArg, none⟩
  let mut name := ""
  let mut word := lastArg
  let mut withEqual := false
  let mut trimmed := args
  if lastArg.startsWith "-" then
    let cs := lastArg.toList
    match cs.idxOf? '=' with
    | none => return ⟨none, args, lastArg, none⟩
    | some i =>
      let before := cs.take i
      name := if before.take 2 == ['-', '-'] then String.ofList (before.drop 2)
        else String.ofList (before.drop (i - 1))
      word := String.ofList (cs.drop (i + 1))
      withEqual := true
  if name.isEmpty then
    if let some prev := args.getLast? then
      if isFlagArg prev && !prev.toList.contains '=' then
        name := if prev.startsWith "--" then String.ofList (prev.toList.drop 2)
          else String.ofList (prev.toList.drop (prev.length - 1))
        trimmed := args.dropLast
  if name.isEmpty then return ⟨none, trimmed, word, none⟩
  match flagNamed c name with
  | none =>
    return ⟨none, args, lastArg,
      some ("Subcommand '" ++ c.name ++ "' does not support flag '" ++ name ++ "'")⟩
  | some f =>
    if !withEqual && f.kind == .switch then return ⟨none, args, word, none⟩
    return ⟨some f, trimmed, word, none⟩

/-- The flag-name candidates of one flag for a word: its long form, and its short form when
the word is a start of it. -/
def flagNameCandidates (word : String) (f : FlagSpec) : List String :=
  let long := "--" ++ f.name
  (if long.startsWith word then [long ++ "\t" ++ f.usage] else []) ++
  match f.short with
  | some ch =>
    let short := "-" ++ ch.toString
    if short.startsWith word then [short ++ "\t" ++ f.usage] else []
  | none => []

/-- The subcommands offered for a word: the available ones and the help command, sorted by
name. Also tells whether there was any such subcommand at all. -/
def subcommandCandidates (c : Command) (word : String) : List String × Bool :=
  let offered := (c.children.foldr insertCommand []).filter fun k => k.isAvailable || k.verb == .help
  (offered.filterMap fun k => if k.name.startsWith word then some (k.name ++ "\t" ++ k.short) else none,
   !offered.isEmpty)

/-- Server versions offered for `--server-version`. -/
def knownServerVersions : List String := ["5.6.51", "5.7.44", "8.0.32", "8.4.0"]

section

variable {m : Type → Type} [Monad m]

/-- The candidates of a request. `args` are the words before the last, `lastArg` the word to
complete, and `profiles` lists the profiles of the configuration a `--config` value names. -/
def complete (profiles : String → m (List String)) (args : List String) (lastArg : String) :
    m Completion := do
  let (c, found, unknown) := findCommand args
  if unknown.isSome then
    return { problem := some ("unable to find a command for arguments: [" ++ " ".intercalate args ++ "]") }
  let target := flagTarget c found lastArg
  let specs := c.allFlags
  let parsed ← match readArguments specs target.args with
    | .ok p => pure p
    | .error e =>
      return { problem := some ("Error while parsing flags from args [" ++ " ".intercalate target.args ++
        "]: " ++ e) }
  let flagCompletion := parsed.dashAt.isNone
  if let some p := target.problem then
    if flagCompletion then return { problem := some p }
  if parsed.changed "help" || (c.verb == .root && parsed.changed "version") then
    return { directive := Directive.noFileComp }
  let positional := if c.readsFlags then parsed.positional else target.args
  let hidden := c.exclusive.flatMap fun group =>
    group.filter fun n => group.any fun other => other != n && parsed.changed other
  let word := target.word
  if target.flag.isNone && word.startsWith "-" && !word.toList.contains '=' && flagCompletion then
    let offered := (sortByName c.inherited ++ sortByName c.localFlags).filter fun f =>
      !parsed.changed f.name && !hidden.contains f.name
    let candidates := offered.flatMap (flagNameCandidates word)
    let directive := match candidates with
      | [one] => if one.endsWith "=" then Directive.noSpace else Directive.noFileComp
      | _ => Directive.noFileComp
    return { candidates, directive }
  let mut candidates : List String := []
  let mut directive := 0
  if target.flag.isNone then
    -- a flag of the command's own, not one it hands down, ends subcommand completion
    let ownFlags := c.localFlags.filter fun f => c.verb != .root || !globalFlags.any (·.name == f.name)
    let localGiven := ownFlags.any (parsed.changed ·.name)
    if positional.isEmpty && !localGiven then
      let (subs, any) := subcommandCandidates c word
      candidates := candidates ++ subs
      if any then directive := Directive.noFileComp
    if !c.validArgs.isEmpty && positional.isEmpty then
      candidates := candidates ++ c.validArgs.filter (·.startsWith word)
      if !candidates.isEmpty then directive := Directive.noFileComp
  match target.flag, flagCompletion with
  | some f, true =>
    if f.name == "output" then
      return { candidates := candidates ++ Render.Mode.names, directive := Directive.noFileComp }
    if f.name == "server-version" then
      return { candidates := candidates ++ knownServerVersions, directive := Directive.noFileComp }
    if f.name == "profile" then
      let names ← profiles (parsed.value specs "config")
      return { candidates := candidates ++ names, directive := Directive.noFileComp }
    return { candidates, directive }
  | _, _ =>
    if c.verb == .help then
      let (topic, _, bad) := findCommand positional
      if bad.isSome then return { candidates, directive := Directive.noFileComp }
      return { candidates := candidates ++ (subcommandCandidates topic word).1,
               directive := Directive.noFileComp }
    return { candidates, directive }

end

/-- A candidate as written for the shell: its first line, without its description when
descriptions are off, trimmed. -/
def Completion.shown (noDescriptions : Bool) (candidate : String) : String :=
  let c := if noDescriptions then String.ofList (candidate.toList.takeWhile (· != '\t')) else candidate
  (String.ofList (c.toList.takeWhile (· != '\n'))).trimAscii.toString

end DdlCatalog.Cli
