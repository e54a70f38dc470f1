import DdlCatalog.Analysis.DataTypes
import DdlCatalog.Analysis.Tables
/-!
The statements for objects other than tables: `CREATE DATABASE` and `USE`, routines, triggers,
views, events, servers, tablespaces and logfile groups.
-/

namespace DdlCatalog.Analysis

open DdlCatalog.Syntax
open DdlCatalog.Catalog

/-- Applies one `CREATE DATABASE` option. -/
def schemaOption (opts : Options) (s : Schema) (opt : Node) : Schema :=
  if let some n := opt.child .charsetNameOrDefault then
    let cs := nameValue (some n)
    if cs == "default" then { s with charset := opts.defaultCharset, collation := opts.defaultCollation }
    else
      -- the collation follows the charset unless named after it
      let s := if cs != s.charset then { s with collation := "" } else s
      { s with charset := cs }
  else if let some n := opt.child .collationNameOrDefault then
    let coll := nameValue (some n)
    { s with collation := if coll == "default" then opts.defaultCollation else coll }
  else if opt.hasKeyword "COMMENT" then { s with comment := textValue (opt.child .textLiteral) }
  else if opt.hasKeyword "ENCRYPTION" then { s with encryption := textValue (opt.child .textLiteral) }
  else if opt.hasKeyword "READ" then { s with readOnly := opt.value == "1" }
  else s

/-- Applies one routine option. -/
def routineOption (r : Routine) (opt : Node) : Routine :=
  let words := opt.words
  match opt.firstKeyword with
  | "COMMENT" => { r with comment := textValue (opt.child .textLiteral) }
  | "LANGUAGE" => { r with language := "SQL" }
  | "DETERMINISTIC" => { r with deterministic := true }
  | "NOT" => { r with deterministic := false }
  | "CONTAINS" | "NO" | "READS" | "MODIFIES" => { r with dataAccess := " ".intercalate words }
  | "SQL" => { r with security := words.getLastD "" }
  | _ => r

/-- Reads a schedule: `AT expr`, or `EVERY expr unit [STARTS expr] [ENDS expr]`. The
expressions follow the order of the keywords that introduce them. -/
def schedule (e : Event) (n : Node) : Event :=
  let exprs := (n.childrenOf .expr).map Node.text
  if n.hasKeyword "AT" then { e with executeAt := exprs.headD "" }
  else
    let e := { e with every := exprs.headD "", intervalUnit := (n.words[1]?).getD "" }
    let rest := exprs.drop 1
    let (e, rest) := if n.hasKeyword "STARTS" then ({ e with starts := rest.headD "" }, rest.drop 1)
      else (e, rest)
    if n.hasKeyword "ENDS" then { e with ends := rest.headD "" } else e

/-- The option keyword of a tablespace or logfile group option, `STORAGE ENGINE` read as
`ENGINE`. -/
def storageOptionKeyword (opt : Node) : String :=
  match opt.words with
  | "STORAGE" :: w :: _ => w
  | w :: _ => w
  | [] => ""

namespace Analyze

/-- Applies `CREATE DATABASE`. A schema created implicitly by an earlier qualified name is
adopted rather than reported as a duplicate. -/
def createDatabase (stmt : Node) : Analyze Unit := do
  let name := identifierName (stmt.child .identifier)
  let ifNotExists := (stmt.child .ifNotExists).isSome
  let opts ← options
  let id ← match (← catalog).findSchema opts.caseSensitive name with
    | some s =>
      if !s.implicit then
        duplicate .schema name stmt.start ifNotExists
        return
      pure s.id
    | none =>
      let id ← issue .schema name
      modifyCatalog fun c => { c with schemas := c.schemas ++ [{ id := id, name := name }] }
      pure id
  modifyCatalog (·.modifySchema id fun s =>
    (stmt.childrenOf .createDatabaseOption).foldl (schemaOption opts)
      { s with implicit := false, ignoreIfExists := ifNotExists,
               charset := opts.defaultCharset, collation := opts.defaultCollation })
  if let some s ← schemaById id then
    debug "created schema" [("schema", .text s.name), ("charset", .text s.charset)]

/-- Applies `USE`. -/
def useStatement (stmt : Node) : Analyze Unit := do
  let s ← useSchema (identifierName (stmt.child .identifier))
  debug "switched schema" [("schema", .text s.name)]

/-- Applies `CREATE PROCEDURE`, `CREATE FUNCTION` or a loadable function declaration. -/
def createRoutine (stmt : Node) (type : RoutineType) : Analyze Unit := do
  let (schemaName, name) := splitQualified (identifierParts (stmt.child .qualifiedIdentifier))
  let schema ← schemaFor schemaName
  let object := schema.name ++ "." ++ name
  if (schema.findRoutine (← caseSensitive) name type).isSome then
    duplicate .routine object stmt.start (stmt.child .ifNotExists).isSome
    return
  let id ← issue .routine name
  let definer ← definer stmt
  let charset := (← options).defaultCharset
  let mut r : Routine := { id := id, name := name, type := type, definer := definer, body := bodyText stmt }
  for c in stmt.children do
    match c.kind? with
    | some .procedureParameter =>
      let pname := identifierName (c.child .identifier)
      let mode := match c.words.head? with
        | some w => if w == "OUT" || w == "INOUT" || w == "IN" then w else "IN"
        | none => "IN"
      let dt ← match c.child .dataType with
        | some n => extractDataType n pname charset
        | none => pure {}
      r := { r with params := r.params ++ [{ name := pname, mode := mode, dataType := dt }] }
    | some .functionParameter =>
      let pname := identifierName (c.child .identifier)
      let dt ← match c.child .dataType with
        | some n => extractDataType n pname charset
        | none => pure {}
      r := { r with params := r.params ++ [{ name := pname, dataType := dt }] }
    | some .returnsClause =>
      match c.child .dataType with
      | some n => r := { r with returnType := some (← extractDataType n "RETURNS" charset) }
      | none => if let some w := c.words[1]? then r := { r with udfReturn := w }
    | some .routineOption => r := routineOption r c
    | some .textLiteral => r := { r with soname := textValue (some c) }
    | _ => pure ()
  if type == .loadable then r := { r with aggregate := hasWord stmt ["AGGREGATE"] }
  modifyCatalog (·.modifySchema schema.id fun s => { s with routines := s.routines ++ [r] })
  debug "created routine" [("routine", .text object), ("type", .text type.name)]

/-- Applies `CREATE TRIGGER`. A trigger on a table not defined yet is attached from the
resolution pass. -/
def createTrigger (stmt : Node) : Analyze Unit := do
  let (schemaName, name) := splitQualified (identifierParts (stmt.child .qualifiedIdentifier))
  let table := identifierParts (stmt.child .tableRef)
  -- the trigger lives in the schema of its table
  let schemaName := if schemaName.isEmpty then (splitQualified table).1 else schemaName
  let schema ← schemaFor schemaName
  let object := schema.name ++ "." ++ name
  if (schema.findTrigger (← caseSensitive) name).isSome then
    duplicate .trigger object stmt.start (stmt.child .ifNotExists).isSome
    return
  let id ← issue .trigger name
  let definer ← definer stmt
  let mut tr : Trigger := { id := id, name := name, definer := definer,
                            tableName := ".".intercalate table, body := bodyText stmt }
  for w in stmt.words do
    if w == "BEFORE" || w == "AFTER" then tr := { tr with timing := w }
    else if w == "INSERT" || w == "UPDATE" || w == "DELETE" then tr := { tr with event := w }
  if let some order := stmt.child .triggerFollowsPrecedesClause then
    tr := { tr with orderType := order.firstKeyword,
                    otherTrigger := identifierName (order.child .identifier) }
  match ← findTable table with
  | some t =>
    modifyCatalog (·.modifyTable t.id fun t => { t with triggers := t.triggers ++ [tr] })
    let qualified := ((← catalog).qualifiedTable t.id).getD t.name
    debug "created trigger" [("trigger", .text object), ("table", .text qualified)]
  | none =>
    let tableSchema ← lookupSchema (splitQualified table).1
    pushRefs [.object { target := .table, name := table, schema := tableSchema.map (·.id),
                        owner := some id, ownerName := object,
                        binding := .attachTrigger tr object stmt }]

/-- Attaches a deferred trigger, unless the schema of the table has one of that name. -/
def bindTrigger (tr : Trigger) (object : String) (stmt : Node) (t : Table) : Analyze Unit := do
  let cs ← caseSensitive
  let taken := match (← catalog).locateTable t.id with
    | some (s, _) => (s.findTrigger cs tr.name).isSome
    | none => false
  if taken then
    duplicate .trigger object stmt.start false
    release tr.id
  else modifyCatalog (·.modifyTable t.id fun t => { t with triggers := t.triggers ++ [tr] })

/-- Applies `CREATE [OR REPLACE] VIEW`. Views and tables share a namespace. -/
def createView (stmt : Node) : Analyze Unit := do
  let (schemaName, name) := splitQualified (identifierParts (stmt.child .tableName))
  let schema ← schemaFor schemaName
  let object := schema.name ++ "." ++ name
  let cs ← caseSensitive
  if let some t := schema.findTable cs name then
    if !t.isStub then
      duplicate .table object stmt.start false
      return
  let existing := schema.findView cs name
  let replace := hasWord stmt ["OR"] && hasWord stmt ["REPLACE"]
  if existing.isSome && !replace then
    duplicate .view object stmt.start false
    return
  let id ← issue .view name
  let definer ← definer stmt
  let checkOption := stmt.child .viewCheckOption
  let v : View :=
    { id := id, name := name, definer := definer,
      columns := columnListNames (stmt.child .columnList), query := exprText stmt,
      algorithm := Text.upper (((stmt.child .viewAlgorithm).map Node.value).getD ""),
      security := Text.upper (((stmt.child .viewSuid).map Node.value).getD ""),
      withCheck := checkOption.isSome,
      checkOption := match checkOption with
        | some o => if o.hasKeyword "LOCAL" then "LOCAL" else "CASCADED"
        | none => "" }
  match existing with
  | some old =>
    modifyCatalog (·.modifySchema schema.id fun s =>
      { s with views := s.views.map fun w => if w.id == old.id then v else w })
    release old.id
    debug "replaced view" [("view", .text object)]
  | none =>
    modifyCatalog (·.modifySchema schema.id fun s => { s with views := s.views ++ [v] })
    debug "created view" [("view", .text object)]

/-- Applies `CREATE EVENT`. -/
def createEvent (stmt : Node) : Analyze Unit := do
  let (schemaName, name) := splitQualified (identifierParts (stmt.child .qualifiedIdentifier))
  let schema ← schemaFor schemaName
  let object := schema.name ++ "." ++ name
  if (schema.findEvent (← caseSensitive) name).isSome then
    duplicate .event object stmt.start (stmt.child .ifNotExists).isSome
    return
  let id ← issue .event name
  let definer ← definer stmt
  let mut e : Event := { id := id, name := name, definer := definer, body := bodyText stmt }
  if let some sched := stmt.child .schedule then e := schedule e sched
  for opt in stmt.childrenOf .eventOption do
    match opt.firstKeyword with
    | "ON" => e := { e with preserve := !opt.hasKeyword "NOT" }
    | "ENABLE" => e := { e with enabled := true, slaveSide := false }
    | "DISABLE" => e := { e with enabled := false, slaveSide := opt.hasKeyword "ON" }
    | "COMMENT" => e := { e with comment := textValue (opt.child .textLiteral) }
    | _ => pure ()
  modifyCatalog (·.modifySchema schema.id fun s => { s with events := s.events ++ [e] })
  debug "created event" [("event", .text object)]

/-- Applies `CREATE SERVER`. -/
def createServer (stmt : Node) : Analyze Unit := do
  let ids := stmt.childrenOf .identifier
  let some first := ids.head? | return
  let name := identifierName (some first)
  if ((← catalog).findServer (← caseSensitive) name).isSome then
    duplicate .server name stmt.start false
    return
  let id ← issue .server name
  let mut s : Server := { id := id, name := name, wrapper := identifierName ids[1]? }
  for opt in stmt.childrenOf .serverOption do
    let value := textValue (opt.child .textLiteral)
    match opt.firstKeyword with
    | "HOST" => s := { s with host := value }
    | "DATABASE" => s := { s with database := value }
    | "USER" => s := { s with user := value }
    | "PASSWORD" => s := { s with password := value }
    | "SOCKET" => s := { s with socket := value }
    | "OWNER" => s := { s with ownerUser := value }
    | "PORT" => if let some v ← intValue opt name then s := { s with port := v }
    | _ => pure ()
  modifyCatalog fun c => { c with servers := c.servers ++ [s] }
  debug "created server" [("server", .text name), ("wrapper", .text s.wrapper)]

/-- Applies `CREATE [UNDO] TABLESPACE`; the logfile group it names is bound from the
resolution pass. -/
def createTablespace (stmt : Node) : Analyze Unit := do
  let name := identifierName (stmt.child .identifier)
  if ((← catalog).findTablespace (← caseSensitive) name).isSome then
    duplicate .tablespace name stmt.start false
    return
  let id ← issue .tablespace name
  let mut ts : Tablespace := { id := id, name := name, undo := hasWord stmt ["UNDO"],
                               dataFile := textValue (stmt.child .textLiteral) }
  for opt in stmt.childrenOf .tablespaceOption do
    let kw := storageOptionKeyword opt
    match kw with
    | "INITIAL_SIZE" => ts := { ts with initialSize := (← sizeValue opt name).getD 0 }
    | "AUTOEXTEND_SIZE" => ts := { ts with autoextendSize := (← sizeValue opt name).getD 0 }
    | "MAX_SIZE" => ts := { ts with maxSize := (← sizeValue opt name).getD 0 }
    | "EXTENT_SIZE" => ts := { ts with extentSize := (← sizeValue opt name).getD 0 }
    | "FILE_BLOCK_SIZE" => ts := { ts with fileBlockSize := (← sizeValue opt name).getD 0 }
    | "NODEGROUP" => if let some v ← intValue opt name then ts := { ts with nodeGroup := some v }
    | "WAIT" => ts := { ts with wait := true }
    | "NO_WAIT" => ts := { ts with wait := false }
    | "COMMENT" => ts := { ts with comment := textValue (opt.child .textLiteral) }
    | "ENCRYPTION" => ts := { ts with encryption := textValue (opt.child .textLiteral) }
    | "ENGINE" => ts := { ts with engine := identifierName (opt.child .identifier) }
    | _ => report .info .unsupported name opt.start s!"tablespace option {kw} is not analysed"
  if let some r := stmt.child .logfileGroupRef then
    let group := identifierName (r.child .identifier)
    ts := { ts with logfileGroupName := group }
    pushRefs [.object { target := .logfileGroup, name := [group], schema := none, owner := some id,
                        ownerName := name, binding := .linkLogfileGroup id }]
  modifyCatalog fun c => { c with tablespaces := c.tablespaces ++ [ts] }
  debug "created tablespace" [("tablespace", .text name)]

/-- Applies `CREATE LOGFILE GROUP`. -/
def createLogfileGroup (stmt : Node) : Analyze Unit := do
  let name := identifierName (stmt.child .identifier)
  if ((← catalog).findLogfileGroup (← caseSensitive) name).isSome then
    duplicate .logfileGroup name stmt.start false
    return
  let id ← issue .logfileGroup name
  let mut g : LogfileGroup := { id := id, name := name, undoFile := textValue (stmt.child .textLiteral) }
  for opt in stmt.childrenOf .logfileGroupOption do
    let kw := storageOptionKeyword opt
    match kw with
    | "INITIAL_SIZE" => g := { g with initialSize := (← sizeValue opt name).getD 0 }
    | "UNDO_BUFFER_SIZE" => g := { g with undoBufferSize := (← sizeValue opt name).getD 0 }
    | "REDO_BUFFER_SIZE" => g := { g with redoBufferSize := (← sizeValue opt name).getD 0 }
    | "NODEGROUP" => if let some v ← intValue opt name then g := { g with nodeGroup := some v }
    | "WAIT" => g := { g with wait := true }
    | "NO_WAIT" => g := { g with wait := false }
    | "COMMENT" => g := { g with comment := textValue (opt.child .textLiteral) }
    | "ENGINE" => g := { g with engine := identifierName (opt.child .identifier) }
    | _ => report .info .unsupported name opt.start s!"logfile group option {kw} is not analysed"
  modifyCatalog fun c => { c with logfileGroups := c.logfileGroups ++ [g] }
  debug "created logfile group" [("group", .text name)]

end Analyze

end DdlCatalog.Analysis
