import DdlCatalog.Cli.Run
import DdlCatalog.Text.Utf8
import Std.Time.Format
import Std.Time.Zoned
/-!
The program: runs its command line over the file system, standard input, the terminal and the
clock of the machine it runs on, and exits with status 1 when the command fails.

Paths are read as given, relative ones from the working directory. Log lines carry the local
time with milliseconds and the zone offset. Each analysis unit gets a random version 4 UUID.
Watching files polls their modification times every tenth of a second and runs again once a
change has settled for as long.
-/

namespace DdlCatalog.Cli.Machine

/-- The reason an operating system error number stands for. The number may come negated, as
some system calls report it. -/
def errnoText (code : UInt32) : String :=
  let n := if code.toNat ≥ Nat.pow 2 31 then Nat.pow 2 32 - code.toNat else code.toNat
  match n with
  | 1 => "operation not permitted"
  | 2 => "no such file or directory"
  | 5 => "input/output error"
  | 13 => "permission denied"
  | 20 => "not a directory"
  | 21 => "is a directory"
  | 36 => "file name too long"
  | 40 => "too many levels of symbolic links"
  | n => "errno " ++ toString n

/-- The reason of an input or output error, as the operating system words it. -/
def reason : IO.Error → String
  | .noFileOrDirectory _ code _ => errnoText code
  | .permissionDenied _ code _ => errnoText code
  | .inappropriateType _ code _ => errnoText code
  | .otherError code _ => errnoText code
  | .invalidArgument _ code _ => errnoText code
  | .noSuchThing _ code _ => errnoText code
  | e => toString e

/-- A path as the file operations take it: relative paths start at the working directory. -/
def locate (p : String) :=
  IO.currentDir >>= fun cwd => pure (if p.startsWith "/" then { cwd with toString := p } else cwd / p)

/-- Reads standard input to its end. -/
partial def readAll (stream : IO.FS.Stream) (acc : ByteArray) : IO ByteArray := do
  let chunk ← stream.read 65536
  if chunk.isEmpty then return acc else readAll stream (acc ++ chunk)

/-- Reads one character of standard input, none at its end. Bytes that start no character
read as the replacement character. -/
def readChar (stream : IO.FS.Stream) : IO (Option Char) := do
  let first ← stream.read 1
  match first.toList with
  | [] => return none
  | [b] =>
    let more := if b < 0x80 then 0 else if b < 0xE0 then 1 else if b < 0xF0 then 2 else 3
    let rest ← if more == 0 then pure ByteArray.empty else stream.read more.toUSize
    match Utf8.decodeChars (b :: rest.toList) with
    | c :: _ => return some c
    | [] => return some '\uFFFD'
  | _ => return some '\uFFFD'

/-- Two hexadecimal digits of a byte. -/
def hexByte (b : UInt8) : String :=
  let digit := fun (n : Nat) => "0123456789abcdef".toList.getD n '0'
  String.ofList [digit (b.toNat / 16), digit (b.toNat % 16)]

/-- A random version 4 UUID. -/
def randomId : IO String := do
  let mut drawn : List UInt8 := []
  for _ in [0:16] do
    drawn := drawn ++ [(← IO.rand 0 255).toUInt8]
  let bytes := drawn.set 6 ((drawn.getD 6 0 &&& 0x0F) ||| 0x40)
  let bytes := bytes.set 8 ((bytes.getD 8 0 &&& 0x3F) ||| 0x80)
  let hex := bytes.map hexByte
  let part := fun (a b : Nat) => String.join ((hex.drop a).take (b - a))
  return part 0 4 ++ "-" ++ part 4 6 ++ "-" ++ part 6 8 ++ "-" ++ part 8 10 ++ "-" ++ part 10 16

/-- The local time as log lines show it. -/
def now : IO String := do
  let t ← Std.Time.DateTime.now
  return t.format "uuuu-MM-dd'T'HH:mm:ss.SSSXXX"

/-- The modification times of files, none for a file that cannot be looked at. -/
def stamps (files : List String) : IO (List (Option String)) :=
  files.mapM fun f => do
    try
      let md ← (← locate f).metadata
      return some (toString md.modified.sec ++ "." ++ toString md.modified.nsec)
    catch _ => return none

/-- Polls files every tenth of a second: each change is reported, and once changes have
settled for a tenth of a second the action runs. Runs until the process is stopped. -/
partial def poll (files : List String) (changed : String → IO Unit) (settle : IO Unit)
    (last : List (Option String)) (pending : Bool) : IO Unit := do
  IO.sleep 100
  let current ← stamps files
  let moved := (files.zip (last.zip current)).filterMap fun (f, a, b) => if a != b then some f else none
  for f in moved do changed f
  if !moved.isEmpty then poll files changed settle current true
  else if pending then
    settle
    poll files changed settle current false
  else poll files changed settle current false

/-- The host operations of the machine. -/
def host (stdin : IO.FS.Stream) : Host IO where
  stat p := do
    try
      let md ← (← locate p).metadata
      return .ok (md.type == .dir)
    catch e => return .error ("stat " ++ p ++ ": " ++ reason e)
  listDir p := do
    try
      let entries ← (← locate p).readDir
      let named ← entries.toList.mapM fun d => do
        let md ← d.path.symlinkMetadata
        return (d.fileName, md.type == .dir)
      return .ok (named.toArray.qsort (fun a b => a.1 < b.1)).toList
    catch e => return .error ("open " ++ p ++ ": " ++ reason e)
  readFile p := do
    try
      let path ← locate p
      let md ← path.metadata
      if md.type == .dir then return .error ("read " ++ p ++ ": is a directory")
      let bytes ← IO.FS.readBinFile path
      return .ok (Utf8.decode bytes.toList)
    catch e => return .error ("open " ++ p ++ ": " ++ reason e)
  readStdin := do
    let bytes ← readAll stdin ByteArray.empty
    return Utf8.decode bytes.toList
  readKey := readChar stdin
  newUnitId := randomId
  clock := now
  emit s := do
    let out ← IO.getStdout
    let err ← IO.getStderr
    out.putStr s.out
    out.flush
    err.putStr s.err
    err.flush
  watch files changed settle := do
    poll files changed settle (← stamps files) false

/-- The environment: every variable the process has, or those that can set settings when the
list cannot be read. -/
def environment : IO (List (String × String)) := do
  try
    let bytes ← IO.FS.readBinFile (← locate "/proc/self/environ")
    let entries := (Utf8.decode bytes.toList).splitOn "\x00"
    return entries.filterMap fun e =>
      match e.splitOn "=" with
      | name :: rest@(_ :: _) => some (name, "=".intercalate rest)
      | _ => none
  catch _ =>
    let names := ["VERBOSE", "OUTPUT", "PROFILE", "SERVER_VERSION", "DEFAULT_SCHEMA",
      "DEFAULT_CHARSET", "DEFAULT_COLLATION", "CASE_SENSITIVE", "AUTO_FK_NAMES",
      "STUB_UNRESOLVED", "PARALLEL_RESOLVE", "COMPLETION_DESCRIPTIONS"]
    let found ← names.filterMapM fun n => do
      return (← IO.getEnv (Config.envPrefix ++ n)).map fun v => (Config.envPrefix ++ n, v)
    return found

end DdlCatalog.Cli.Machine

open DdlCatalog.Cli in
/-- Runs the command line and exits with 1 when the command fails. -/
def main (args : List String) : IO UInt32 := do
  let stdin ← IO.getStdin
  let host := Machine.host stdin
  let inv : Invocation :=
    { args, cwd := (← IO.currentDir).toString, env := ← Machine.environment, standalone := true,
      terminal := ← (← IO.getStdout).isTty, toolchain := "lean4",
      keyLimit := 1000000000000 }
  let (screen, err) ← run host inv
  host.emit screen
  return if err.isSome then 1 else 0
