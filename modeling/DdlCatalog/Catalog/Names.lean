import DdlCatalog.Text.CaseFold
/-!
Object names. Names compare byte for byte when the catalog is case-sensitive, and otherwise
under Unicode full case folding, so `Straße` and `STRASSE` name the same object.
-/

namespace DdlCatalog.Catalog

/-- The case-folded form of a name. -/
def foldName (name : String) : String := Text.fold name

/-- Whether two names are the same under the case policy. -/
def nameEqual (caseSensitive : Bool) (a b : String) : Bool :=
  if caseSensitive then a == b else a == b || foldName a == foldName b

end DdlCatalog.Catalog
