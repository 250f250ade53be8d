import Splice.Problem
import Splice.Tally

/-!
# Reports

What the user is told about one parse: its problems, one a line, and a line of counters.
-/

namespace Splice.Report

/-- The problems, one a line, without white space at the end. -/
def problems (problems : List Problem) : Text :=
  Text.trimEnd (problems.flatMap fun problem => problem.message ++ ['\n'])

/-- The counters of the parse of `root`. -/
def summary (root : Path) (tally : Tally) : Text :=
  root.text ++ ": ".toList ++ tally.display

end Splice.Report
