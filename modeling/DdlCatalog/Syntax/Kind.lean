/-!
Kinds of syntax tree nodes: one per grammar production. Statement kinds come first; a statement
that the analyser has no use for, or that failed to parse, is an `otherStatement`.
-/

namespace DdlCatalog.Syntax

/-- The grammar productions. -/
inductive NodeKind where
  | script | createDatabase | createTable | alterTable | createIndex | createProcedure
  | createFunction | createUdf | createTrigger | createView | createServer | createTablespace
  | createLogfileGroup | createEvent | useStatement | delimiterStatement | otherStatement
  | identifier | dotIdentifier | qualifiedIdentifier | tableName | tableRef | columnList
  | userName | definerClause | ifNotExists | charsetNameOrDefault | collationNameOrDefault
  | charsetName | collationName | textLiteral | expr | body | createDatabaseOption
  | tableElementList | columnDefinition | columnAttribute | generatedClause | tableConstraintDef
  | indexName | indexType | indexOption | keyList | keyPart | references | referenceOption
  | createTableOptions | createTableOption | tableCreationSource | partition | partitionDefKey
  | partitionDefHash | partitionDefRangeList | subPartitions | partitionDefinitions
  | partitionDefinition | partitionValues | subpartitionDefinition | partitionOption | alterList
  | alterListItem | place | alterAlgorithmOption | alterLockOption | createIndexTarget
  | dataType | fieldLength | precision | typeDatetimePrecision | fieldOptions | stringList
  | stringBinary | procedureParameter | functionParameter | returnsClause | routineOption
  | triggerFollowsPrecedesClause | viewAlgorithm | viewSuid | viewCheckOption | schedule
  | eventOption | serverOption | tablespaceOption | logfileGroupRef | logfileGroupOption
  | sizeNumber
deriving DecidableEq, Repr, Inhabited

/-- The name of a node kind. -/
def NodeKind.name : NodeKind → String
  | .script => "Script"
  | .createDatabase => "CreateDatabase"
  | .createTable => "CreateTable"
  | .alterTable => "AlterTable"
  | .createIndex => "CreateIndex"
  | .createProcedure => "CreateProcedure"
  | .createFunction => "CreateFunction"
  | .createUdf => "CreateUdf"
  | .createTrigger => "CreateTrigger"
  | .createView => "CreateView"
  | .createServer => "CreateServer"
  | .createTablespace => "CreateTablespace"
  | .createLogfileGroup => "CreateLogfileGroup"
  | .createEvent => "CreateEvent"
  | .useStatement => "UseStatement"
  | .delimiterStatement => "DelimiterStatement"
  | .otherStatement => "OtherStatement"
  | .identifier => "Identifier"
  | .dotIdentifier => "DotIdentifier"
  | .qualifiedIdentifier => "QualifiedIdentifier"
  | .tableName => "TableName"
  | .tableRef => "TableRef"
  | .columnList => "ColumnList"
  | .userName => "UserName"
  | .definerClause => "DefinerClause"
  | .ifNotExists => "IfNotExists"
  | .charsetNameOrDefault => "CharsetNameOrDefault"
  | .collationNameOrDefault => "CollationNameOrDefault"
  | .charsetName => "CharsetName"
  | .collationName => "CollationName"
  | .textLiteral => "TextLiteral"
  | .expr => "Expr"
  | .body => "Body"
  | .createDatabaseOption => "CreateDatabaseOption"
  | .tableElementList => "TableElementList"
  | .columnDefinition => "ColumnDefinition"
  | .columnAttribute => "ColumnAttribute"
  | .generatedClause => "GeneratedClause"
  | .tableConstraintDef => "TableConstraintDef"
  | .indexName => "IndexName"
  | .indexType => "IndexType"
  | .indexOption => "IndexOption"
  | .keyList => "KeyList"
  | .keyPart => "KeyPart"
  | .references => "References"
  | .referenceOption => "ReferenceOption"
  | .createTableOptions => "CreateTableOptions"
  | .createTableOption => "CreateTableOption"
  | .tableCreationSource => "TableCreationSource"
  | .partition => "Partition"
  | .partitionDefKey => "PartitionDefKey"
  | .partitionDefHash => "PartitionDefHash"
  | .partitionDefRangeList => "PartitionDefRangeList"
  | .subPartitions => "SubPartitions"
  | .partitionDefinitions => "PartitionDefinitions"
  | .partitionDefinition => "PartitionDefinition"
  | .partitionValues => "PartitionValues"
  | .subpartitionDefinition => "SubpartitionDefinition"
  | .partitionOption => "PartitionOption"
  | .alterList => "AlterList"
  | .alterListItem => "AlterListItem"
  | .place => "Place"
  | .alterAlgorithmOption => "AlterAlgorithmOption"
  | .alterLockOption => "AlterLockOption"
  | .createIndexTarget => "CreateIndexTarget"
  | .dataType => "DataType"
  | .fieldLength => "FieldLength"
  | .precision => "Precision"
  | .typeDatetimePrecision => "TypeDatetimePrecision"
  | .fieldOptions => "FieldOptions"
  | .stringList => "StringList"
  | .stringBinary => "StringBinary"
  | .procedureParameter => "ProcedureParameter"
  | .functionParameter => "FunctionParameter"
  | .returnsClause => "ReturnsClause"
  | .routineOption => "RoutineOption"
  | .triggerFollowsPrecedesClause => "TriggerFollowsPrecedesClause"
  | .viewAlgorithm => "ViewAlgorithm"
  | .viewSuid => "ViewSuid"
  | .viewCheckOption => "ViewCheckOption"
  | .schedule => "Schedule"
  | .eventOption => "EventOption"
  | .serverOption => "ServerOption"
  | .tablespaceOption => "TablespaceOption"
  | .logfileGroupRef => "LogfileGroupRef"
  | .logfileGroupOption => "LogfileGroupOption"
  | .sizeNumber => "SizeNumber"

/-- Whether nodes of this kind are statements of a script. -/
def NodeKind.isStatement : NodeKind → Bool
  | .createDatabase => true
  | .createTable => true
  | .alterTable => true
  | .createIndex => true
  | .createProcedure => true
  | .createFunction => true
  | .createUdf => true
  | .createTrigger => true
  | .createView => true
  | .createServer => true
  | .createTablespace => true
  | .createLogfileGroup => true
  | .createEvent => true
  | .useStatement => true
  | .delimiterStatement => true
  | .otherStatement => true
  | _ => false

end DdlCatalog.Syntax
