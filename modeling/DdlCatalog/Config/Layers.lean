import DdlCatalog.Config.Setting
/-!
Layered configuration: groups of values merged one over another, addressed by dotted paths.

Merging a group into another walks the incoming entries. A name that is new is added. An
incoming value that is not a group replaces what was there. Two groups merge recursively.

A path names a value by the names on the way to it, joined by dots. The known paths are the
joined names of every leaf (any value that is not a non-empty group) and all their prefixes.
A name that itself holds a dot is one step of a path, so paths are matched by their joined
text.
-/

namespace DdlCatalog.Config

namespace Setting

mutual

/-- Merges incoming entries into `dest`. -/
def mergeEntries : List (String × Setting) → List (String × Setting) → List (String × Setting)
  | [], dest => dest
  | (k, v) :: rest, dest => mergeEntries rest (mergeEntry k v dest)

/-- Merges one incoming entry into `dest`. -/
def mergeEntry (k : String) : Setting → List (String × Setting) → List (String × Setting)
  | .group sub, dest =>
    match find? k dest with
    | some (.group existing) => put k (.group (mergeEntries sub existing)) dest
    | _ => put k (.group sub) dest
  | v, dest => put k v dest

end

mutual

/-- The name lists of the leaves of a group's entries. -/
def leafPaths : List (String × Setting) → List (List String)
  | [] => []
  | (k, v) :: rest => valuePaths k v ++ leafPaths rest

/-- The name lists of the leaves under one entry. -/
def valuePaths (k : String) : Setting → List (List String)
  | .group [] => [[k]]
  | .group (e :: es) => (leafPaths (e :: es)).map (k :: ·)
  | _ => [[k]]

end

/-- The known paths: every prefix of a leaf's names, with its joined text. -/
def knownPaths (entries : List (String × Setting)) : List (String × List String) :=
  (leafPaths entries).flatMap fun names =>
    (List.range names.length).map fun i =>
      let parts := names.take (i + 1)
      (".".intercalate parts, parts)

/-- Whether a dotted path names something. -/
def pathExists (entries : List (String × Setting)) (path : String) : Bool :=
  (knownPaths entries).any (·.1 == path)

/-- Follows names down through groups. -/
def search : List String → Setting → Option Setting
  | [], v => some v
  | k :: rest, .group entries => (find? k entries).bind (search rest)
  | _ :: _, _ => none

/-- The value at a dotted path; the whole group for the empty path. -/
def lookup (entries : List (String × Setting)) (path : String) : Option Setting :=
  if path == "" then some (.group entries) else
  match (knownPaths entries).find? (·.1 == path) with
  | some (_, parts) => search parts (.group entries)
  | none => none

/-- The group at a dotted path, empty when the path names something else or nothing. -/
def cut (entries : List (String × Setting)) (path : String) : List (String × Setting) :=
  match lookup entries path with
  | some (.group sub) => sub
  | _ => []

/-- The names of the group at a path, sorted. -/
def namesAt (entries : List (String × Setting)) (path : String) : List String :=
  match lookup entries path with
  | some (.group sub) => sortStrings (sub.map (·.1))
  | _ => []

/-- The value at a path as text: text as it is, another value by its generic text, nothing as
the empty text. -/
def textAt (entries : List (String × Setting)) (path : String) : String :=
  match lookup entries path with
  | some .null | none => ""
  | some (.text s) => s
  | some v => v.display

/-- Sets the value at a list of names, making groups on the way. A step through a value that
is not a group stays at the level it is on. -/
def setAt : List String → Setting → List (String × Setting) → List (String × Setting)
  | [], _, entries => entries
  | [k], v, entries => put k v entries
  | k :: rest, v, entries =>
    match find? k entries with
    | none => put k (.group (setAt rest v [])) entries
    | some (.group sub) => put k (.group (setAt rest v sub)) entries
    | some _ => setAt rest v entries

/-- Turns flat entries with dotted names into nested groups. -/
def unflatten (flat : List (String × Setting)) : List (String × Setting) :=
  flat.foldl (fun acc (k, v) => setAt (k.splitOn ".") v acc) []

end Setting

end DdlCatalog.Config
