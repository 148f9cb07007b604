import Upkeep.Failure

/-!
# Error reports

A report tells what failed, and then its causes from the outside in.  Several causes are numbered.
Further lines of a cause are indented as far as its first line.
-/

namespace Upkeep

structure Report where
  top : String
  /-- the causes, the nearest first -/
  causes : List String
deriving DecidableEq, Repr

namespace Report

def indentRest (pad : Text) (t : Text) : Text :=
  t.flatMap fun c => if c = '\n' then c :: pad else [c]

/-- a number set to the right in five columns -/
def column (n : Nat) : Text :=
  let digits := (toString n).toList
  List.replicate (5 - digits.length) ' ' ++ digits

def numbered : Nat → List String → Text
  | _, [] => []
  | n, c :: cs =>
    '\n' :: column n ++ ": ".toList ++ indentRest "       ".toList c.toList ++ numbered (n + 1) cs

def text (r : Report) : Text :=
  "Error: ".toList ++ r.top.toList ++
    (match r.causes with
    | [] => []
    | [c] => "\n\nCaused by:\n    ".toList ++ indentRest "    ".toList c.toList
    | cs => "\n\nCaused by:".toList ++ numbered 0 cs) ++
    ['\n']

def chain (f : Failure) : List String :=
  f.message :: (f.source?.map (·.text.string)).toList

def ofFailure (f : Failure) : Report := ⟨f.message, (f.source?.map (·.text.string)).toList⟩

def ofGeneration (f : Failure) : Report := ⟨"Cipher list generation failed", chain f⟩

def ofWriting (path : Text) (e : IoFault) : Report :=
  ⟨"Failed to write " ++ path.string, [e.text.string]⟩

end Report

end Upkeep
