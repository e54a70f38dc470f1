import DdlCatalog.Catalog.Objects
import DdlCatalog.Analysis.Values
/-!
`PARTITION BY` clauses. The partition count is taken only from `PARTITIONS n`; the definitions
are kept in declared order, with their bounds and options as written.
-/

namespace DdlCatalog.Analysis

open DdlCatalog.Syntax
open DdlCatalog.Catalog

/-- One `PARTITION` or `SUBPARTITION` clause. -/
def partitionSpec (n : Node) : PartitionSpec :=
  let values := match n.child .partitionValues with
    | none => ""
    | some v =>
      if v.hasKeyword "MAXVALUE" then "LESS THAN MAXVALUE"
      else
        let list := "(" ++ ",".intercalate ((v.childrenOf .expr).map Node.text) ++ ")"
        if v.hasKeyword "IN" then "IN " ++ list else "LESS THAN " ++ list
  let option (pd : PartitionSpec) (opt : Node) : PartitionSpec :=
    let words := match opt.words with
      | "STORAGE" :: rest => rest
      | ws => ws
    match words.head? with
    | some "ENGINE" => { pd with engine := identifierName (opt.child .identifier) }
    | some "COMMENT" => { pd with comment := textValue (opt.child .textLiteral) }
    | some "DATA" => { pd with dataDirectory := textValue (opt.child .textLiteral) }
    | some "INDEX" => { pd with indexDirectory := textValue (opt.child .textLiteral) }
    | some "TABLESPACE" => { pd with tablespace := identifierName (opt.child .identifier) }
    | some "MAX_ROWS" => { pd with maxRows := opt.value }
    | some "MIN_ROWS" => { pd with minRows := opt.value }
    | some "NODEGROUP" => { pd with nodeGroup := opt.value }
    | _ => pd
  (n.childrenOf .partitionOption).foldl option
    { name := identifierName (n.child .identifier), values := values }

namespace Analyze

/-- Reads a `PARTITION BY` clause; `object` names the table in diagnostics. -/
def partitioning (n : Node) (object : String) : Analyze Partitioning := do
  let mut p : Partitioning := {}
  match n.child .partitionDefHash, n.child .partitionDefKey, n.child .partitionDefRangeList with
  | some clause, _, _ =>
    p := { p with type := "HASH", linear := clause.hasKeyword "LINEAR", expression := exprText clause }
  | none, some clause, _ =>
    p := { p with type := "KEY", linear := clause.hasKeyword "LINEAR" }
    if let some v ← intValue clause object then p := { p with keyAlgorithm := v }
    p := { p with columnNames := columnListNames (clause.child .columnList) }
  | none, none, some clause =>
    p := { p with type := clause.firstKeyword }
    if clause.hasKeyword "COLUMNS" then
      p := { p with columns := true, columnNames := columnListNames (clause.child .columnList) }
    else p := { p with expression := exprText clause }
  | none, none, none => pure ()
  if n.hasKeyword "PARTITIONS" then
    if let some v ← intValue n object then p := { p with count := some v }
  if let some sub := n.child .subPartitions then
    p := { p with subLinear := sub.hasKeyword "LINEAR" }
    if sub.hasKeyword "HASH" then
      p := { p with subType := "HASH", subExpression := exprText sub }
    else
      p := { p with subType := "KEY", subColumnNames := columnListNames (sub.child .columnList) }
    if sub.hasKeyword "SUBPARTITIONS" then
      let last := lastNumberOf sub
      if let some v ← countOf last ((last.map (·.pos)).getD ⟨0, 0, 0⟩) object then
        p := { p with subCount := some v }
  let defs := ((n.child .partitionDefinitions).map (·.childrenOf .partitionDefinition)).getD []
  pure { p with definitions := defs.map fun d =>
    { spec := partitionSpec d, subpartitions := (d.childrenOf .subpartitionDefinition).map partitionSpec } }

end Analyze

end DdlCatalog.Analysis
