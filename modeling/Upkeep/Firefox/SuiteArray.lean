import Upkeep.Failure
import Upkeep.Text.Excerpt

/-!
# The suite array

The array enumerates the cipher suites, the most preferred one first.  That order is the order of
the generated list, so suites are kept in order and with their repetitions.
-/

namespace Upkeep.SuiteArray

open Text

def isSuiteChar (c : Char) : Bool :=
  ('A' ≤ c && c ≤ 'Z') || c == '_' || ('0' ≤ c && c ≤ '9')

/-- the suite of a line `{ SUITE, …` -/
def suite? (t : Text) : Option Text := do
  let t := skipWhite (← after? ['{'] (skipWhite t))
  let name := t.takeWhile isSuiteChar
  let _ ← after? [','] (t.dropWhile isSuiteChar)
  if name.isEmpty then none else pure name

/-- the suites after the line that holds `marker`, up to the first line that begins with `stop` -/
def read (marker stop : Text) (ls : List Line) : Run (List Text) := do
  let x ← Run.ofStream (Excerpt.read (hasInfix marker) stop.isPrefixOf ls)
  let suites := x.lines.filterMap suite?
  Run.note (.suitesFound suites.length)
  pure suites

end Upkeep.SuiteArray
