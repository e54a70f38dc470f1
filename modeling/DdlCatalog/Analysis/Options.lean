import DdlCatalog.Catalog.Store
/-!
The settings of an analysis unit, and how unset values fall back to the catalog's.
-/

namespace DdlCatalog.Analysis

open DdlCatalog.Catalog

/-- The settings of an analysis unit. -/
structure Options where
  /-- Every name comparison is case-sensitive. -/
  caseSensitive : Bool := false
  /-- Foreign keys without a name get `fk_<table>_<referenced table>`. -/
  autoForeignKeyNames : Bool := true
  /-- The charset of schemas and character columns that name none; empty for the catalog's. -/
  defaultCharset : String := ""
  /-- The collation of schemas that name none; empty for the catalog's. -/
  defaultCollation : String := ""
  /-- Gates version-dependent syntax; the zero version accepts everything. -/
  serverVersion : Version := {}
  /-- The schema unqualified names bind to until `USE` switches it; empty for `mydb`. -/
  defaultSchema : String := "mydb"
  /-- Foreign key targets that do not exist are created as stub tables. -/
  stubUnresolved : Bool := false
  /-- Lookups of the resolution pass may run concurrently; the outcome is the same. -/
  parallelResolve : Bool := false
deriving DecidableEq, Repr, Inhabited

/-- Fills the unset settings from the catalog. -/
def Options.withDefaults (o : Options) (c : Catalog) : Options :=
  { o with
    defaultCharset := if o.defaultCharset.isEmpty then c.defaultCharset else o.defaultCharset
    defaultCollation := if o.defaultCollation.isEmpty then c.defaultCollation else o.defaultCollation
    defaultSchema := if o.defaultSchema.isEmpty then "mydb" else o.defaultSchema
    serverVersion := if o.serverVersion.isZero then c.version else o.serverVersion }

end DdlCatalog.Analysis
