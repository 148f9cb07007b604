import Upkeep.Text.Hex

/-!
# Intervals of code points

The tables of characters are lists of closed intervals.  Long tables are written as the standard's
own data files write them, in hexadecimal with a dash: `0041-005A 00AA`.
-/

namespace Upkeep.Text

abbrev Intervals := List (Nat × Nat)

def inRanges (rs : Intervals) (n : Nat) : Bool := rs.any fun r => r.1 ≤ n && n ≤ r.2

namespace Intervals

def ofWord (w : Text) : Nat × Nat :=
  let number (t : Text) : Nat := (hexNumber? t).getD 0
  match split '-' w with
  | [a, b] => (number a, number b)
  | _ => (number w, number w)

/-- intervals in hexadecimal, with blanks or line ends between them -/
def ofHex (s : String) : Intervals :=
  ((split ' ' (s.toList.map fun c => if c = '\n' then ' ' else c)).filter (!·.isEmpty)).map ofWord

end Intervals

end Upkeep.Text
