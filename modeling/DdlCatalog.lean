import DdlCatalog.Text.Utf8
import DdlCatalog.Text.Printable
import DdlCatalog.Text.Quoted
import DdlCatalog.Text.CaseMap
import DdlCatalog.Text.CaseFold
import DdlCatalog.Text.Blank
import DdlCatalog.Text.Width
import DdlCatalog.Sql.Token
import DdlCatalog.Sql.Lexer
import DdlCatalog.Syntax.Kind
import DdlCatalog.Syntax.Node
import DdlCatalog.Syntax.Parse.Basic
import DdlCatalog.Syntax.Parse.Common
import DdlCatalog.Syntax.Parse.DataType
import DdlCatalog.Syntax.Parse.Partition
import DdlCatalog.Syntax.Parse.Table
import DdlCatalog.Syntax.Parse.Alter
import DdlCatalog.Syntax.Parse.Routine
import DdlCatalog.Syntax.Parse.Objects
import DdlCatalog.Syntax.Parse.Script
import DdlCatalog.Text.Digit
import DdlCatalog.Numeric.Decimal
import DdlCatalog.Numeric.Binary64
import DdlCatalog.Numeric.ByteSize
import DdlCatalog.Numeric.Humanize
import DdlCatalog.Catalog.Version
import DdlCatalog.Catalog.Names
import DdlCatalog.Catalog.DataType
import DdlCatalog.Catalog.Kind
import DdlCatalog.Catalog.Objects
import DdlCatalog.Catalog.Store
import DdlCatalog.Analysis.Diagnostic
import DdlCatalog.Analysis.Options
import DdlCatalog.Analysis.Reference
import DdlCatalog.Analysis.State
import DdlCatalog.Analysis.Values
import DdlCatalog.Analysis.DataTypes
import DdlCatalog.Analysis.Partitioning
import DdlCatalog.Analysis.Builder
import DdlCatalog.Analysis.Alter
import DdlCatalog.Analysis.Tables
import DdlCatalog.Analysis.Objects
import DdlCatalog.Analysis.Resolve
import DdlCatalog.Analysis.Unit
import DdlCatalog.Log.Record
import DdlCatalog.Log.Line
import DdlCatalog.Json.Value
import DdlCatalog.Json.Catalog
import DdlCatalog.Json.Text
import DdlCatalog.Json.Yaml
import DdlCatalog.Graph.Dependencies
import DdlCatalog.Render.Table
import DdlCatalog.Render.Output
import DdlCatalog.Render.Views
import DdlCatalog.Numeric.Double
import DdlCatalog.Numeric.Shortest
import DdlCatalog.Files.Path
import DdlCatalog.Config.Yaml.Token
import DdlCatalog.Config.Yaml.Scan
import DdlCatalog.Config.Yaml.Node
import DdlCatalog.Config.Setting
import DdlCatalog.Config.Yaml.Decode
import DdlCatalog.Config.Layers
import DdlCatalog.Config.Decode
import DdlCatalog.Config.Settings
import DdlCatalog.Config.Run
import DdlCatalog.Cli.Flag
import DdlCatalog.Cli.Command
import DdlCatalog.Cli.Host
import DdlCatalog.Cli.World
import DdlCatalog.Cli.Console
import DdlCatalog.Cli.Analyse
import DdlCatalog.Cli.Commands
import DdlCatalog.Cli.LineEditor
import DdlCatalog.Cli.Repl
import DdlCatalog.Cli.Complete
import DdlCatalog.Cli.Scripts
import DdlCatalog.Cli.Run
import DdlCatalog.Main
import DdlCatalog.Proofs.Names
import DdlCatalog.Proofs.Spec
import DdlCatalog.Proofs.Steps
import DdlCatalog.Proofs.UniqueNames.Table
import DdlCatalog.Proofs.UniqueNames.Catalog
import DdlCatalog.Proofs.UniqueNames.State
import DdlCatalog.Proofs.Recording
import DdlCatalog.Proofs.UniqueNames.Builder
import DdlCatalog.Proofs.UniqueNames.Items
import DdlCatalog.Proofs.UniqueNames.Objects
import DdlCatalog.Proofs.UniqueNames.Tables
import DdlCatalog.Proofs.UniqueNames.Resolve
import DdlCatalog.Proofs.UniqueNames.Run
import DdlCatalog.Proofs.SupportingIndexes
import DdlCatalog.Proofs.Links
import DdlCatalog.Proofs.Deferred
import DdlCatalog.Proofs.Parsing.Tokens
import DdlCatalog.Proofs.Parsing.Layout
import DdlCatalog.Proofs.Parsing.Sound
import DdlCatalog.Proofs.Parsing.Clauses
import DdlCatalog.Proofs.Parsing.Bodies
import DdlCatalog.Proofs.Parsing.Lexing
import DdlCatalog.Proofs.Parsing.Statements
import DdlCatalog.Proofs.Parsing.Recovery
import DdlCatalog.Proofs.Parsing.Spans
import DdlCatalog.Proofs.Parsing.Errors
import DdlCatalog.Proofs.Session
import DdlCatalog.Proofs.ObjectPass
import DdlCatalog.Proofs.Growth
import DdlCatalog.Proofs.ColumnPass
import DdlCatalog.Proofs.Stubs
import DdlCatalog.Proofs.Parsing.Positions
import DdlCatalog.Proofs.Parsing.Quoting
import DdlCatalog.Proofs.Parsing.Spelling
import DdlCatalog.Proofs.Parsing.Shapes
import DdlCatalog.Proofs.Parsing.TypeClauses
import DdlCatalog.Proofs.Graph.Built
import DdlCatalog.Proofs.Graph.Cycles
import DdlCatalog.Proofs.Graph.Maps
import DdlCatalog.Proofs.Graph.Reach
import DdlCatalog.Proofs.Graph.Order
import DdlCatalog.Proofs.Graph.Levels
import DdlCatalog.Proofs.Graph.FromCatalog
import DdlCatalog.Proofs.TypeReading
import DdlCatalog.Proofs.TableNames
import DdlCatalog.Proofs.TypeText
import DdlCatalog.Proofs.VersionOrder
import DdlCatalog.Proofs.Parsing.Yields
import DdlCatalog.Proofs.Parsing.PartitionTrees
import DdlCatalog.Proofs.PartitionReading
