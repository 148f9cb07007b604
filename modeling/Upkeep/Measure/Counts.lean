import Upkeep.Directive
import Upkeep.Text.Lines

/-!
# Counts

How many lines, and how many inclusions, a source file has.
-/

namespace Upkeep.Measure

def countLines (ls : List Line) : Except IoFault Nat := do
  pure (← Line.readAll ls).length

def countIncludes (ls : List Line) : Except IoFault Nat := do
  pure ((← Line.readAll ls).countP Directive.isInclude)

end Upkeep.Measure
