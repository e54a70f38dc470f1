import DdlCatalog.Analysis.Objects
/-!
The resolution pass. It runs over every reference recorded since the last pass and returns
those that did not resolve; the references are cleared afterwards.

Object references run first, in recording order, since their bindings attach indexes, copy
`LIKE` definitions and replay deferred `ALTER TABLE` statements, and may record new column
references. A `LIKE` whose source is itself waiting for a `LIKE` copy waits for that copy; the
copies still waiting when nothing else can run form a cycle, are reported, and run as they
stand. Column references run next, skipping those whose index, foreign key or table is gone.
All their lookups are made before any result is written back, and the results are written back
in recording order.
-/

namespace DdlCatalog.Analysis

open DdlCatalog.Syntax
open DdlCatalog.Catalog

/-- The outcome of looking up one column reference. -/
structure Plan where
  /-- The table a foreign key target resolved to. -/
  target : Option Nat := none
  /-- One entry per name: the column it resolved to. -/
  columns : List (Option Nat) := []
  /-- The names that did not resolve. -/
  missing : List String := []
deriving Repr, Inhabited

/-- Looks names up among a table's columns, in order. Empty names stand for functional key
parts and match nothing. -/
def matchColumns (cs : Bool) (t : Table) (names : List String) : Plan :=
  names.foldl (fun p name =>
    if name.isEmpty then { p with columns := p.columns ++ [none] }
    else match t.findColumn cs name with
      | some c => { p with columns := p.columns ++ [some c.id] }
      | none => { p with columns := p.columns ++ [none], missing := p.missing ++ [name] })
    {}

namespace Analyze

/-- The handle of the object an object reference names. -/
def lookupObject (r : ObjectRef) : Analyze (Option Nat) := do
  let cs ← caseSensitive
  let c ← catalog
  let (schemaName, name) := splitQualified r.name
  match r.target with
  | .table =>
    let s := if schemaName.isEmpty then r.schema.bind c.schemaById else c.findSchema cs schemaName
    pure ((s.bind (·.findTable cs name)).map (·.id))
  | .logfileGroup => pure ((c.findLogfileGroup cs name).map (·.id))
  | .tablespace => pure ((c.findTablespace cs name).map (·.id))
  | .schema => pure ((c.findSchema cs name).map (·.id))
  | _ => pure none

/-- Carries out what an object reference waited for, on the object found. -/
def bind (r : ObjectRef) (found : Nat) : Analyze Unit := do
  let c ← catalog
  match r.binding with
  | .copyDefinition =>
    match c.tableById found, r.defines.bind c.tableById with
    | some src, some t =>
      let b ← attachedBuilder t
      let b ← copyDefinition b src
      let _ ← finish b
    | _, _ => pure ()
  | .replayAlter stmt => if let some t := c.tableById found then replayAlter stmt t
  | .createIndex stmt name type => if let some t := c.tableById found then bindIndex stmt name type t
  | .attachTrigger tr object stmt => if let some t := c.tableById found then bindTrigger tr object stmt t
  | .linkLogfileGroup ts =>
    modifyCatalog fun c => { c with tablespaces := c.tablespaces.map fun t =>
      if t.id == ts then { t with logfileGroup := some found } else t }

/-- Runs one object reference: binds it, or gives the error when the name does not resolve. -/
def resolveObject (r : ObjectRef) : Analyze (Option ResolutionError) := do
  match ← lookupObject r with
  | some found =>
    bind r found
    pure none
  | none =>
    pure (some { kind := .object, ownerId := r.owner.getD 0, owner := r.ownerName, object := "",
                 target := r.target, names := [".".intercalate r.name] })

/-- The object references among the recorded ones, with their positions. -/
def objectRefs : Analyze (List (Nat × ObjectRef)) := do
  let refs := (← get).refs.toList
  pure ((refs.zipIdx).filterMap fun (r, i) => match r with
    | .object o => some (i, o)
    | _ => none)

/-- Whether a `LIKE` copy must wait: its source is still to be filled by another pending
`LIKE`. -/
def waitsForCopy (all : List (Nat × ObjectRef)) (done : List Nat) (i : Nat) (r : ObjectRef) :
    Analyze Bool := do
  let some defines := r.defines | return false
  match ← lookupObject r with
  | none => return false
  | some src =>
    if src == defines then return false
    return all.any fun (j, o) => j != i && !done.contains j && o.defines == some src

/-- One round over the object references: runs every one that is not done and need not wait.
Returns whether anything ran. -/
def objectRound (all : List (Nat × ObjectRef)) :
    List (Nat × ObjectRef) → List Nat → List ResolutionError →
      Analyze (Bool × List Nat × List ResolutionError)
  | [], done, errs => pure (false, done, errs)
  | (i, r) :: rest, done, errs => do
    if done.contains i || (← waitsForCopy all done i r) then return ← objectRound all rest done errs
    let c ← catalog
    let skip := match r.defines with
      | some t => !c.hasTable t
      | none => false
    let (done, errs) ← if skip then pure (i :: done, errs) else do
      let e ← resolveObject r
      pure (i :: done, errs ++ e.toList)
    let (_, done, errs) ← objectRound all rest done errs
    pure (true, done, errs)

/-- Runs rounds until one makes no progress. Every productive round completes at least one
reference, so one round more than there are references is enough. -/
def objectRounds (all : List (Nat × ObjectRef)) :
    Nat → List Nat → List ResolutionError → Analyze (List Nat × List ResolutionError)
  | 0, done, errs => pure (done, errs)
  | fuel + 1, done, errs => do
    let (progress, done, errs) ← objectRound all all done errs
    if progress then objectRounds all fuel done errs else pure (done, errs)

/-- Runs the object references. Bindings record only column references, so the object
references are those recorded before the pass. -/
def resolveObjects : Analyze (List ResolutionError) := do
  let all ← objectRefs
  let (done, errs) ← objectRounds all (all.length + 1) [] []
  let mut errs := errs
  for (i, r) in all do
    if !done.contains i then
      report .error .circularLike r.ownerName ⟨0, 0, 0⟩
        s!"table {r.ownerName} is copied by a circular chain of LIKE clauses"
      if let some e ← resolveObject r then errs := errs ++ [e]
  pure errs

/-- Whether the index, foreign key and table a column reference writes into are still in the
catalog. -/
def stillAttached (c : Catalog) : Reference → Bool
  | .indexColumns t i => ((c.tableById t).map fun t => t.indexes.any (·.id == i)).getD false
  | .localColumns t fk => ((c.tableById t).map fun t => t.foreignKeys.any (·.id == fk)).getD false
  | .target t fk _ => ((c.tableById t).map fun t => t.foreignKeys.any (·.id == fk)).getD false
  | .object _ => false

/-- The table a foreign key target names; an unqualified target binds to the schema of the
owning table. -/
def referencedTable (table : Nat) (name : List String) : Analyze (Option Table) := do
  let cs ← caseSensitive
  let c ← catalog
  let (schemaName, tname) := splitQualified name
  let s := if schemaName.isEmpty then (c.locateTable table).map (·.1) else c.findSchema cs schemaName
  pure (s.bind (·.findTable cs tname))

/-- Looks one column reference up. -/
def planRef : Reference → Analyze Plan
  | .indexColumns t i => do
    let cs ← caseSensitive
    match (← catalog).tableById t with
    | some tbl => match tbl.indexes.find? (·.id == i) with
      | some idx => pure (matchColumns cs tbl idx.columnNames)
      | none => pure {}
    | none => pure {}
  | .localColumns t fk => do
    let cs ← caseSensitive
    match (← catalog).tableById t with
    | some tbl => match tbl.foreignKeys.find? (·.id == fk) with
      | some f => pure (matchColumns cs tbl f.columnNames)
      | none => pure {}
    | none => pure {}
  | .target t fk name => do
    let cs ← caseSensitive
    let some f := ((← catalog).tableById t).bind (·.foreignKeys.find? (·.id == fk)) | return {}
    match ← referencedTable t name with
    | none => pure {}
    | some target =>
      let names := if f.referencedColumnNames.isEmpty then
          ((target.primaryIndex.map Index.columnNames).getD [])
        else f.referencedColumnNames
      pure { matchColumns cs target names with target := some target.id }
  | .object _ => pure {}

/-- Adds the missing columns to a stub table. -/
def addStubColumns (table : Nat) (names : List String) : Analyze Unit := do
  for n in names do
    let cs ← caseSensitive
    let some t := (← catalog).tableById table | return
    if (t.findColumn cs n).isNone then
      let id ← issue .column n
      modifyCatalog (·.modifyTable table fun t => { t with columns := t.columns ++ [{ id := id, name := n }] })

/-- Creates the missing target of a foreign key as a stub table with the referenced columns. -/
def stubTarget (r : Reference) (table : Nat) (fkNames : List String) (name : List String) :
    Analyze Plan := do
  let (schemaName, tname) := splitQualified name
  let c ← catalog
  let owner := (c.locateTable table).map (·.1.id)
  let schema ← if schemaName.isEmpty then pure owner else pure (some (← ensureSchema schemaName).id)
  let some schema := schema | return {}
  let id ← issue .table tname
  modifyCatalog (·.appendTable schema { id := id, name := tname, isStub := true })
  addStubColumns id fkNames
  let qualified := ((← catalog).qualifiedTable id).getD tname
  debug "created stub table" [("table", .text qualified)]
  planRef r

/-- The error of a column reference, naming the owning table. -/
def columnError (kind : RefKind) (table : Nat) (object : String) (target : ObjectKind)
    (names : List String) : Analyze ResolutionError := do
  let owner := ((← catalog).qualifiedTable table).getD ""
  pure { kind := kind, ownerId := table, owner := owner, object := object, target := target,
         names := names }

/-- Writes the outcome of one column reference back. -/
def applyPlan (r : Reference) (p : Plan) : Analyze (Option ResolutionError) := do
  let c ← catalog
  match r with
  | .indexColumns t i =>
    let some idx := (c.tableById t).bind (·.indexes.find? (·.id == i)) | return none
    let cols := (idx.columns.zip (p.columns ++ List.replicate (idx.columns.length - p.columns.length) none)).map
      fun (ic, col) => { ic with column := col }
    let cols := cols ++ idx.columns.drop cols.length
    let incomplete := idx.incomplete || !p.missing.isEmpty
    modifyCatalog (·.modifyTable t (·.setIndex { idx with columns := cols, incomplete := incomplete }))
    if p.missing.isEmpty then return none
    return some (← columnError .index t idx.name .column p.missing)
  | .localColumns t fk =>
    let some f := (c.tableById t).bind (·.foreignKeys.find? (·.id == fk)) | return none
    modifyCatalog (·.modifyTable t (·.setForeignKey
      { f with columns := p.columns, incomplete := f.incomplete || !p.missing.isEmpty }))
    if p.missing.isEmpty then return none
    return some (← columnError .referencing t f.name .column p.missing)
  | .target t fk name =>
    let some f := (c.tableById t).bind (·.foreignKeys.find? (·.id == fk)) | return none
    let mut p := p
    if p.target.isNone then
      if (← referencedTable t name).isSome then p ← planRef r
      else if (← options).stubUnresolved then p ← stubTarget r t f.referencedColumnNames name
    match p.target with
    | none =>
      modifyCatalog (·.modifyTable t (·.setForeignKey { f with incomplete := true }))
      return some (← columnError .referenced t f.name .table [".".intercalate name])
    | some target =>
      if let some tt := (← catalog).tableById target then
        if tt.isStub && !p.missing.isEmpty then
          addStubColumns target p.missing
          p ← planRef r
      let tt := (← catalog).tableById target
      let some f := ((← catalog).tableById t).bind (·.foreignKeys.find? (·.id == fk)) | return none
      let names := if f.referencedColumnNames.isEmpty then
          match tt.bind Table.primaryIndex with
          | some pk => pk.columnNames
          | none => f.referencedColumnNames
        else f.referencedColumnNames
      modifyCatalog (·.modifyTable t (·.setForeignKey
        { f with referencedTable := some target, referencedColumns := p.columns,
                 referencedColumnNames := names, incomplete := f.incomplete || !p.missing.isEmpty }))
      if p.missing.isEmpty then return none
      return some (← columnError .referenced t f.name .column p.missing)
  | .object _ => return none

/-- The resolution pass: returns the references that did not resolve and clears them. -/
def resolve : Analyze (List ResolutionError) := do
  let errs ← resolveObjects
  let c ← catalog
  let pending := (← get).refs.toList.filter (stillAttached c)
  let plans ← pending.mapM planRef
  let mut errs := errs
  for (r, p) in pending.zip plans do
    if let some e ← applyPlan r p then errs := errs ++ [e]
  let a ← get
  note .info "resolution pass completed"
    [("references", .count a.refs.size), ("unresolved", .count errs.length),
     ("parallel", .flag a.options.parallelResolve)]
  modify fun a => { a with refs := #[] }
  pure errs

end Analyze

end DdlCatalog.Analysis
