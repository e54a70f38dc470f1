/-!
Slash-separated paths, handled as text.

`clean` gives the shortest path that names the same place by pure text rules. Runs of slashes
become one. `.` steps go. A `..` step removes the step before it, and at the root it goes. The
empty result is `.`. Joining, the parent, the last step and the extension are all read off the
cleaned form.
-/

namespace DdlCatalog.Files

/-- Whether a path starts at the root. -/
def isAbsolute (p : String) : Bool := p.startsWith "/"

/-- Applies the steps of a path to a stack of kept steps (last kept first). A `..` pops a kept
step that is not `..`. It is kept when nothing can be popped and the path is relative. -/
def applySteps (rooted : Bool) : List String → List String → List String
  | [], kept => kept
  | s :: rest, kept =>
    if s == "" || s == "." then applySteps rooted rest kept
    else if s == ".." then
      match kept with
      | k :: more => if k == ".." then applySteps rooted rest (".." :: kept) else applySteps rooted rest more
      | [] => if rooted then applySteps rooted rest [] else applySteps rooted rest [".."]
    else applySteps rooted rest (s :: kept)

/-- The shortest equivalent path. -/
def clean (p : String) : String :=
  let rooted := isAbsolute p
  let steps := (applySteps rooted (p.splitOn "/") []).reverse
  let body := "/".intercalate steps
  if rooted then "/" ++ body else if body.isEmpty then "." else body

/-- Joins path parts with slashes, skipping empty ones, and cleans the result; no parts give
the empty path. -/
def join (parts : List String) : String :=
  let kept := parts.filter (· != "")
  if kept.isEmpty then "" else clean ("/".intercalate kept)

/-- The directory part: everything before the last slash, cleaned; `.` when there is no
slash. -/
def parent (p : String) : String :=
  let cs := p.toList
  match (List.range cs.length).reverse.find? (fun i => cs[i]? == some '/') with
  | some i => clean (String.ofList (cs.take (i + 1)))
  | none => "."

/-- The last step, trailing slashes ignored: `.` for the empty path and `/` for the root. -/
def base (p : String) : String :=
  if p.isEmpty then "." else
  let trimmed := (p.toList.reverse.dropWhile (· == '/')).reverse
  if trimmed.isEmpty then "/" else
  String.ofList (trimmed.reverse.takeWhile (· != '/')).reverse

/-- The extension: from the last dot of the last step, empty when it has none. -/
def extension (p : String) : String :=
  let cs := p.toList.reverse
  let tail := cs.takeWhile fun c => c != '.' && c != '/'
  match cs.drop tail.length with
  | '.' :: _ => "." ++ String.ofList tail.reverse
  | _ => ""

/-- A path made absolute against a working directory, cleaned. -/
def absolute (cwd p : String) : String :=
  if isAbsolute p then clean p else join [cwd, p]

end DdlCatalog.Files
