import DdlCatalog.Cli.Host
/-!
A world held in memory, for running the command line without an operating system: a working
directory with files under it, standard input, the keys of interactive input, and the text
shown so far.

Directories are implied by the files under them, and the working directory always exists.
Nothing outside the working directory exists. Failures read as the operating system words
them: `stat x: no such file or directory`, `open x: no such file or directory`,
`read x: is a directory`, and `not a directory` when a path runs through a file.
-/

namespace DdlCatalog.Cli

/-- A world in memory. -/
structure World where
  /-- The working directory, an absolute path. -/
  cwd : String
  /-- Files by their path under the working directory, with their text. -/
  files : List (String × String)
  /-- What standard input has left to read. -/
  stdin : String := ""
  /-- The keys of interactive input still to come. -/
  keys : List Char := []
  /-- The identifier every analysis unit gets. -/
  unitId : String := "UNIT"
  /-- The time every log line shows. -/
  time : String := "T"
  /-- The text shown so far. -/
  shown : Render.Screen := {}

namespace World

/-- What a path names, seen from the world. -/
inductive Entry where
  | file (text : String)
  | directory
  | missing
  /-- A step of the path is a file. -/
  | throughFile

/-- The path under the working directory that a path names, if it stays inside. -/
def relative (w : World) (p : String) : Option String :=
  let full := Files.absolute w.cwd p
  if full == w.cwd then some ""
  else if full.startsWith (w.cwd ++ "/") then some (String.ofList (full.toList.drop (w.cwd.length + 1)))
  else none

/-- What a path names. -/
def entry (w : World) (p : String) : Entry :=
  match w.relative p with
  | none => .missing
  | some "" => .directory
  | some key =>
    match w.files.lookup key with
    | some text => .file text
    | none =>
      if w.files.any (·.1.startsWith (key ++ "/")) then .directory
      else if w.files.any fun (f, _) => key.startsWith (f ++ "/") then .throughFile
      else .missing

/-- The entries directly inside a directory, by name, each with whether it is a directory. -/
def children (w : World) (p : String) : List (String × Bool) :=
  match w.relative p with
  | none => []
  | some key =>
    let under := if key.isEmpty then "" else key ++ "/"
    let below := w.files.filterMap fun (f, _) =>
      if f.startsWith under then some (String.ofList (f.toList.drop under.length)) else none
    let named := below.map fun rest =>
      match rest.splitOn "/" with
      | [name] => (name, false)
      | name :: _ => (name, true)
      | [] => (rest, false)
    let unique := named.foldl (fun acc e => if acc.any (·.1 == e.1) then acc else acc ++ [e]) []
    (unique.toArray.qsort (fun a b => a.1 < b.1)).toList

/-- The host operations of a world held in memory. -/
def host : Host (StateM World) where
  stat p := do
    match (← get).entry p with
    | .file _ => return .ok false
    | .directory => return .ok true
    | .missing => return .error ("stat " ++ p ++ ": no such file or directory")
    | .throughFile => return .error ("stat " ++ p ++ ": not a directory")
  listDir p := do
    match (← get).entry p with
    | .directory => return .ok ((← get).children p)
    | .file _ | .throughFile => return .error ("open " ++ p ++ ": not a directory")
    | .missing => return .error ("open " ++ p ++ ": no such file or directory")
  readFile p := do
    match (← get).entry p with
    | .file text => return .ok text
    | .directory => return .error ("read " ++ p ++ ": is a directory")
    | .missing => return .error ("open " ++ p ++ ": no such file or directory")
    | .throughFile => return .error ("open " ++ p ++ ": not a directory")
  readStdin := modifyGet fun w => (w.stdin, { w with stdin := "" })
  readKey := modifyGet fun w =>
    match w.keys with
    | [] => (none, w)
    | k :: rest => (some k, { w with keys := rest })
  newUnitId := return (← get).unitId
  clock := return (← get).time
  emit s := modify fun w => { w with shown := w.shown ++ s }
  watch _ _ _ := pure ()

end World

end DdlCatalog.Cli
