import DdlCatalog.Analysis.Unit
/-!
The life of an analysis unit: scripts and parsed statements applied one after another, with
resolution passes in between. The catalogs a unit can reach are those after some list of steps
from a fresh unit.
-/

namespace DdlCatalog.Analysis

/-- One call on a unit: a script, a parsed statement or script tree, or a resolution pass. -/
inductive Step where
  | script (sql : String)
  | statement (root : Syntax.Node)
  | finish

namespace AnalysisUnit

/-- Takes one step. -/
def step (u : AnalysisUnit) : Step → AnalysisUnit
  | .script sql => (u.applySQL sql).1
  | .statement root => u.apply root
  | .finish => u.finish.1

/-- Takes the steps in order. -/
def run (u : AnalysisUnit) (steps : List Step) : AnalysisUnit := steps.foldl step u

end AnalysisUnit

end DdlCatalog.Analysis
