import DdlCatalog.Json.Value
import DdlCatalog.Catalog.Store
/-!
The catalog as a JSON document. Members follow the declaration order of the objects; optional
members are left out when empty, lists that are always present are written `null` when empty,
and unset counts are written `-1`. Links between objects (resolved columns, referenced tables,
supporting indexes) are not part of the document.
-/

namespace DdlCatalog.Catalog

open DdlCatalog.Json

/-- A data type. -/
def DataType.toJson (d : DataType) : Json :=
  .obj ([("name", .str d.name), ("length", countOrUnset d.length),
        ("precision", countOrUnset d.precision), ("scale", countOrUnset d.scale)] ++
    optStr "charset" d.charset ++ optStr "collation" d.collation ++
    optStr "explicit_params" d.explicitParams ++ optList "flags" (d.flags.map .str))

/-- A column. -/
def Column.toJson (c : Column) : Json :=
  .obj ([("id", .num c.id), ("name", .str c.name), ("data_type", c.dataType.toJson)] ++
    optBool "not_null" c.notNull ++ optBool "auto_increment" c.autoIncrement ++
    optBool "invisible" c.invisible ++ optStr "default" c.default ++
    optBool "has_default" c.hasDefault ++ optStr "on_update" c.onUpdate ++
    optStr "comment" c.comment ++ optBool "generated" c.generated ++
    optStr "generation_expression" c.generationExpression ++
    optStr "generated_storage" c.generatedStorage ++ optStr "column_format" c.columnFormat ++
    optStr "storage" c.storage ++ optStr "srid" c.srid)

/-- A key part. -/
def IndexColumn.toJson (ic : IndexColumn) : Json :=
  .obj (optStr "name" ic.name ++ optNat "length" ic.length ++ optBool "descending" ic.descending ++
    optStr "expression" ic.expression)

/-- An index. -/
def Index.toJson (i : Index) : Json :=
  .obj ([("id", .num i.id), ("name", .str i.name), ("type", .str i.type.name)] ++
    optStr "algorithm" i.algorithm ++ [("columns", listOrNull (i.columns.map IndexColumn.toJson))] ++
    optStr "comment" i.comment ++ optStr "parser" i.parser ++
    optStr "key_block_size" i.keyBlockSize ++ optBool "invisible" i.invisible ++
    optBool "incomplete" i.incomplete ++ optStr "online_algorithm" i.onlineAlgorithm ++
    optStr "online_lock" i.onlineLock)

/-- A foreign key. -/
def ForeignKey.toJson (fk : ForeignKey) : Json :=
  .obj ([("id", .num fk.id), ("name", .str fk.name),
         ("columns", listOrNull (fk.columnNames.map .str)),
         ("referenced_table", .str fk.referencedTableName),
         ("referenced_columns", listOrNull (fk.referencedColumnNames.map .str))] ++
    optStr "on_delete" fk.onDelete ++ optStr "on_update" fk.onUpdate ++
    optStr "match" fk.matchType ++ optBool "incomplete" fk.incomplete)

/-- The members of a partition or subpartition clause. -/
def PartitionSpec.members (p : PartitionSpec) : List (String × Json) :=
  [("name", .str p.name)] ++ optStr "values" p.values ++ optStr "engine" p.engine ++
    optStr "comment" p.comment ++ optStr "data_directory" p.dataDirectory ++
    optStr "index_directory" p.indexDirectory ++ optStr "max_rows" p.maxRows ++
    optStr "min_rows" p.minRows ++ optStr "tablespace" p.tablespace ++
    optStr "node_group" p.nodeGroup

/-- A partition with its subpartitions. -/
def PartitionDefinition.toJson (d : PartitionDefinition) : Json :=
  .obj (d.spec.members ++ optList "subpartitions" (d.subpartitions.map fun s => .obj s.members))

/-- A `PARTITION BY` clause. -/
def Partitioning.toJson (p : Partitioning) : Json :=
  .obj ([("type", .str p.type)] ++ optBool "linear" p.linear ++ optBool "columns" p.columns ++
    optStr "expression" p.expression ++ optList "column_names" (p.columnNames.map .str) ++
    optNat "key_algorithm" p.keyAlgorithm ++ [("count", countOrUnset p.count)] ++
    optStr "sub_type" p.subType ++ optBool "sub_linear" p.subLinear ++
    optStr "sub_expression" p.subExpression ++
    optList "sub_column_names" (p.subColumnNames.map .str) ++
    [("sub_count", countOrUnset p.subCount)] ++
    optList "definitions" (p.definitions.map PartitionDefinition.toJson))

/-- A trigger. -/
def Trigger.toJson (t : Trigger) : Json :=
  .obj ([("id", .num t.id), ("name", .str t.name)] ++ optStr "definer" t.definer ++
    [("timing", .str t.timing), ("event", .str t.event)] ++ optStr "order_type" t.orderType ++
    optStr "other_trigger" t.otherTrigger ++ optStr "body" t.body ++ [("table", .str t.tableName)])

/-- The options of a table; options without a field of their own form a map by name. -/
def TableOptions.toJson (o : TableOptions) : Json :=
  let other := o.other
  .obj (optStr "engine" o.engine ++ optStr "row_format" o.rowFormat ++ optStr "charset" o.charset ++
    optStr "collation" o.collation ++ optStr "comment" o.comment ++
    optStr "auto_increment" o.autoIncrement ++ optStr "avg_row_length" o.avgRowLength ++
    optStr "min_rows" o.minRows ++ optStr "max_rows" o.maxRows ++
    optStr "key_block_size" o.keyBlockSize ++ optStr "pack_keys" o.packKeys ++
    optBool "checksum" o.checksum ++ optBool "delay_key_write" o.delayKeyWrite ++
    optStr "stats_auto_recalc" o.statsAutoRecalc ++ optStr "stats_persistent" o.statsPersistent ++
    optStr "stats_sample_pages" o.statsSamplePages ++ optStr "connection" o.connection ++
    optStr "password" o.password ++ optStr "compression" o.compression ++
    optStr "encryption" o.encryption ++ optList "merge_union" (o.mergeUnion.map .str) ++
    optStr "insert_method" o.insertMethod ++ optStr "data_directory" o.dataDirectory ++
    optStr "index_directory" o.indexDirectory ++ optStr "tablespace" o.tablespace ++
    optStr "storage" o.storage ++
    (if other.isEmpty then [] else [("other", .dict (other.map fun (k, v) => (k, .str v)))]))

/-- A table. -/
def Table.toJson (t : Table) : Json :=
  .obj ([("id", .num t.id), ("name", .str t.name)] ++ optBool "temporary" t.temporary ++
    optBool "is_stub" t.isStub ++ optList "columns" (t.columns.map Column.toJson) ++
    optList "indexes" (t.indexes.map Index.toJson) ++
    optList "foreign_keys" (t.foreignKeys.map ForeignKey.toJson) ++
    optList "triggers" (t.triggers.map Trigger.toJson) ++
    (match t.partitioning with | some p => [("partitioning", p.toJson)] | none => []) ++
    [("options", t.options.toJson)] ++ optList "checks" (t.checks.map .str) ++
    optStr "like_table" t.likeTable ++ optStr "as_select" t.asSelect)

/-- A view. -/
def View.toJson (v : View) : Json :=
  .obj ([("id", .num v.id), ("name", .str v.name)] ++ optStr "definer" v.definer ++
    optStr "algorithm" v.algorithm ++ optStr "security" v.security ++
    optList "columns" (v.columns.map .str) ++ [("query", .str v.query)] ++
    optStr "check_option" v.checkOption ++ optBool "with_check" v.withCheck)

/-- A routine parameter. -/
def RoutineParam.toJson (p : RoutineParam) : Json :=
  .obj ([("name", .str p.name)] ++ optStr "mode" p.mode ++ [("data_type", p.dataType.toJson)])

/-- A routine. -/
def Routine.toJson (r : Routine) : Json :=
  .obj ([("id", .num r.id), ("name", .str r.name), ("type", .str r.type.name)] ++
    optStr "definer" r.definer ++ optList "params" (r.params.map RoutineParam.toJson) ++
    (match r.returnType with | some d => [("return_type", d.toJson)] | none => []) ++
    optStr "udf_return" r.udfReturn ++ optStr "soname" r.soname ++
    optBool "aggregate" r.aggregate ++ optStr "comment" r.comment ++
    optStr "language" r.language ++ optBool "deterministic" r.deterministic ++
    optStr "data_access" r.dataAccess ++ optStr "security" r.security ++ optStr "body" r.body)

/-- An event. -/
def Event.toJson (e : Event) : Json :=
  .obj ([("id", .num e.id), ("name", .str e.name)] ++ optStr "definer" e.definer ++
    optStr "at" e.executeAt ++ optStr "every" e.every ++ optStr "interval_unit" e.intervalUnit ++
    optStr "starts" e.starts ++ optStr "ends" e.ends ++ optBool "preserve" e.preserve ++
    [("enabled", .bool e.enabled)] ++ optBool "slave_side" e.slaveSide ++
    optStr "comment" e.comment ++ optStr "body" e.body)

/-- A schema. -/
def Schema.toJson (s : Schema) : Json :=
  .obj ([("id", .num s.id), ("name", .str s.name)] ++ optStr "charset" s.charset ++
    optStr "collation" s.collation ++ optStr "comment" s.comment ++
    optStr "encryption" s.encryption ++ optBool "read_only" s.readOnly ++
    optBool "implicit" s.implicit ++ optBool "ignore_if_exists" s.ignoreIfExists ++
    optList "tables" (s.tables.map Table.toJson) ++ optList "views" (s.views.map View.toJson) ++
    optList "routines" (s.routines.map Routine.toJson) ++
    optList "events" (s.events.map Event.toJson))

/-- A server. -/
def Server.toJson (s : Server) : Json :=
  .obj ([("id", .num s.id), ("name", .str s.name), ("wrapper", .str s.wrapper)] ++
    optStr "host" s.host ++ optStr "database" s.database ++ optStr "user" s.user ++
    optStr "password" s.password ++ optStr "socket" s.socket ++ optStr "owner" s.ownerUser ++
    optNat "port" s.port)

/-- A tablespace. -/
def Tablespace.toJson (t : Tablespace) : Json :=
  .obj ([("id", .num t.id), ("name", .str t.name)] ++ optStr "data_file" t.dataFile ++
    optStr "logfile_group" t.logfileGroupName ++ optNat "initial_size" t.initialSize ++
    optNat "autoextend_size" t.autoextendSize ++ optNat "max_size" t.maxSize ++
    optNat "extent_size" t.extentSize ++ optNat "file_block_size" t.fileBlockSize ++
    [("node_group", countOrUnset t.nodeGroup)] ++ optBool "wait" t.wait ++
    optStr "comment" t.comment ++ optStr "engine" t.engine ++ optStr "encryption" t.encryption ++
    optBool "undo" t.undo)

/-- A logfile group. -/
def LogfileGroup.toJson (g : LogfileGroup) : Json :=
  .obj ([("id", .num g.id), ("name", .str g.name), ("undo_file", .str g.undoFile)] ++
    optNat "initial_size" g.initialSize ++ optNat "undo_buffer_size" g.undoBufferSize ++
    optNat "redo_buffer_size" g.redoBufferSize ++ [("node_group", countOrUnset g.nodeGroup)] ++
    optBool "wait" g.wait ++ optStr "comment" g.comment ++ optStr "engine" g.engine)

/-- A user account. -/
def User.toJson (u : User) : Json :=
  .obj ([("id", .num u.id), ("name", .str u.name)] ++ optStr "host" u.host)

/-- The whole catalog. -/
def Catalog.toJson (c : Catalog) : Json :=
  .obj ([("default_charset", .str c.defaultCharset), ("default_collation", .str c.defaultCollation),
         ("version", .str c.version.render),
         ("schemas", listOrNull (c.schemas.map Schema.toJson))] ++
    optList "servers" (c.servers.map Server.toJson) ++
    optList "tablespaces" (c.tablespaces.map Tablespace.toJson) ++
    optList "logfile_groups" (c.logfileGroups.map LogfileGroup.toJson) ++
    optList "users" (c.users.map User.toJson))

end DdlCatalog.Catalog
