import DdlCatalog.Files.Path
import DdlCatalog.Text.CaseFold
import DdlCatalog.Render.Output
/-!
What a run of the command line needs from the world outside it, and how it gathers its inputs.

A `Host` is the set of operations a run may perform, in a monad of its choice. It can look at a
path, list a directory, read a file or standard input, take the next key of interactive input,
name a new analysis unit, tell the time for log lines, show what has been written so far, and
wait for files to change. Errors come back as the text the
operating system gives, such as `stat x: no such file or directory`.

Inputs are gathered from the arguments. `-` is standard input, and a file is itself. A
directory is searched depth first, in name order, for files ending in `.sql` in any case,
skipping directories whose names start with a dot. No arguments at all means standard input.
-/

namespace DdlCatalog.Cli

/-- The operations of the world a run uses. -/
structure Host (m : Type → Type) where
  /-- Whether a path names a directory, or why it cannot be looked at. -/
  stat : String → m (Except String Bool)
  /-- The entries of a directory, sorted by name, each with whether it is a directory. -/
  listDir : String → m (Except String (List (String × Bool)))
  /-- A file's text. -/
  readFile : String → m (Except String String)
  /-- The rest of standard input. -/
  readStdin : m String
  /-- The next key of interactive input, none at its end. -/
  readKey : m (Option Char)
  /-- A fresh identifier for an analysis unit. -/
  newUnitId : m String
  /-- The time as log lines show it. -/
  clock : m String
  /-- Shows text written so far, before the run waits for input. -/
  emit : Render.Screen → m Unit
  /-- Waits for changes to files, for as long as the host decides: each change of one of them
  is passed to the first action, and once changes settle the second action runs. -/
  watch : List String → (String → m Unit) → m Unit → m Unit

/-- The input name that stands for standard input. -/
def stdinPath : String := "-"

/-- A script to analyse: where it came from and its text. -/
structure Source where
  path : String
  sql : String
deriving Repr, Inhabited

/-- How a source is named in reports and logs. -/
def Source.name (s : Source) : String := if s.path == stdinPath then "<stdin>" else s.path

section Gather

variable {m : Type → Type} [Monad m] (host : Host m)

/-- Whether a path names a script by its extension. -/
def isScript (path : String) : Bool := Text.fold (Files.extension path) == ".sql"

/-- The scripts under a directory, depth first in name order. -/
def scriptsUnder : Nat → String → m (Except String (List String))
  | 0, _ => pure (.ok [])
  | depth + 1, dir => do
    match ← host.listDir dir with
    | .error e => return .error e
    | .ok entries =>
      let mut found : List String := []
      for (name, isDir) in entries do
        let path := Files.join [dir, name]
        if isDir then
          if name.startsWith "." then continue
          match ← scriptsUnder depth path with
          | .error e => return .error e
          | .ok more => found := found ++ more
        else if isScript path then found := found ++ [path]
      return .ok found

/-- The inputs the arguments name, or why they cannot be gathered. -/
def collectFiles (args : List String) : m (Except String (List String)) := do
  if args.isEmpty then return .ok [stdinPath]
  let mut files : List String := []
  for arg in args do
    if arg == stdinPath then
      files := files ++ [arg]
      continue
    match ← host.stat arg with
    | .error e => return .error ("cannot read input: " ++ e)
    | .ok false => files := files ++ [arg]
    | .ok true =>
      match ← scriptsUnder host 64 arg with
      | .error e => return .error ("failed to scan " ++ arg ++ ": " ++ e)
      | .ok more => files := files ++ more
  if files.isEmpty then return .error ("no .sql files found in " ++ ", ".intercalate args)
  return .ok files

/-- Reads every input, standard input once in full. -/
def readSources (paths : List String) : m (Except String (List Source)) := do
  let mut sources : List Source := []
  for path in paths do
    if path == stdinPath then
      sources := sources ++ [⟨path, ← host.readStdin⟩]
    else
      match ← host.readFile path with
      | .error e => return .error ("failed to read " ++ path ++ ": " ++ e)
      | .ok text => sources := sources ++ [⟨path, text⟩]
  return .ok sources

end Gather

end DdlCatalog.Cli
