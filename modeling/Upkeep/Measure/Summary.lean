import Upkeep.Files.Disk
import Upkeep.Measure.Counts
import Upkeep.Measure.Span

/-!
# Summaries

All measures of a source file: its lines, its inclusions and its functions.
-/

namespace Upkeep

structure Summary where
  lines : Nat
  includes : Nat
  functions : List Span
deriving DecidableEq, Repr

namespace Summary

def ofLines (ls : List Line) : Noted (Except IoFault Summary) := do
  let spans ← Span.ofLines ls
  pure do
    let lines ← Measure.countLines ls
    let includes ← Measure.countIncludes ls
    let functions ← spans.mapM id
    pure ⟨lines, includes, functions⟩

def ofText (t : Text) : Noted (Except IoFault Summary) := ofLines (Text.encode t).lines

/-- the measures of a file, which is read as one text -/
def ofFile (disk : Disk) (path : Path) : Noted (Except IoFault Summary) :=
  match disk.readText path with
  | .error e => pure (.error e)
  | .ok t => do
    Noted.noteAll [.measuring path]
    ofText t

/-- the longer of the best function so far and the next one; of two equal ones the next -/
def longer (best : Option Span) (f : Span) : Option Span :=
  match best with
  | none => some f
  | some b => if b.lineCount ≤ f.lineCount then some f else some b

def longest? (s : Summary) : Option Span := s.functions.foldl longer none

end Summary

end Upkeep
