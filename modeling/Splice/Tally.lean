import Splice.Text

/-!
# Tallies

The counters of one parse: files opened, lines read in them, and lines delivered.
-/

namespace Splice

/-- What one parse has counted. -/
structure Tally where
  /-- Files that opened, the root among them. -/
  filesVisited : Nat := 0
  /-- Lines read in all of them. -/
  linesRead : Nat := 0
  /-- Lines delivered. -/
  linesParsed : Nat := 0
  deriving DecidableEq, Repr

namespace Tally

/-- The counters in words, in columns that fit three and five digits. -/
def display (tally : Tally) : Text :=
  "files: ".toList ++ Text.decimalPadded 3 tally.filesVisited
    ++ "   lines read: ".toList ++ Text.decimalPadded 5 tally.linesRead
    ++ "   parsed: ".toList ++ Text.decimalPadded 5 tally.linesParsed

end Tally

end Splice
