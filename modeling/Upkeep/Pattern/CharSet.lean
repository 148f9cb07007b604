import Upkeep.Text.CaseFold
import Upkeep.Text.Category

/-!
# Sets of characters

A set is built from intervals of code points by the operations of a bracket expression.
-/

namespace Upkeep

inductive CharSet where
  | intervals (rs : Text.Intervals)
  | union (a b : CharSet)
  | inter (a b : CharSet)
  | compl (a : CharSet)
  /-- the characters with a case variant in the set -/
  | folded (a : CharSet)
  /-- the characters that are, in one case or the other of ASCII, in the set -/
  | asciiFolded (a : CharSet)
deriving DecidableEq, Repr

namespace CharSet

def mem : CharSet → Char → Bool
  | intervals rs, c => Text.inRanges rs c.toNat
  | union a b, c => a.mem c || b.mem c
  | inter a b, c => a.mem c && b.mem c
  | compl a, c => !a.mem c
  | folded a, c => (Text.caseVariants c).any a.mem
  | asciiFolded a, c => (Text.asciiVariants c).any a.mem

def weight : CharSet → Nat
  | intervals rs => rs.length
  | union a b | inter a b => a.weight + b.weight
  | compl a => a.weight + 1
  | folded a | asciiFolded a => a.weight + 1

/-! ## sets -/

def none : CharSet := intervals []

def all : CharSet := intervals [(0, 0x10FFFF)]

def single (c : Char) : CharSet := intervals [(c.toNat, c.toNat)]

def range (a b : Char) : CharSet := intervals [(a.toNat, b.toNat)]

def except (cs : List Char) : CharSet := compl (intervals (cs.map fun c => (c.toNat, c.toNat)))

def diff (a b : CharSet) : CharSet := inter a (compl b)

def symDiff (a b : CharSet) : CharSet := union (diff a b) (diff b a)

end CharSet

end Upkeep
