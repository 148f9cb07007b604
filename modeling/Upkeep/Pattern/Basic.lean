import Upkeep.Pattern.CharSet

/-!
# Patterns

A pattern describes stretches of a text.  Where stretches end is worked out for all beginnings at
once: `ends` takes the marked positions of a text to the positions at which a stretch that began at
one of them can end.  A pattern occurs in a text if any stretch of it does (`occursIn`).
-/

namespace Upkeep

inductive Edge where
  | start
  | stop
  | lineStart
  | lineStop
  /-- the start of a line, where lines may also end with a carriage return -/
  | anyLineStart
  | anyLineStop
  /-- the start or the end of a word, or neither of them (`yes = false`) -/
  | word (ascii yes : Bool)
  | wordStart (ascii : Bool)
  | wordStop (ascii : Bool)
  | wordStartHalf (ascii : Bool)
  | wordStopHalf (ascii : Bool)
deriving DecidableEq, Repr

namespace Edge

def inWord (ascii : Bool) (c : Option Char) : Bool :=
  c.any fun c => if ascii then Text.isAsciiWordChar c else Text.isWordChar c

def holds (e : Edge) (before after : Option Char) : Bool :=
  match e with
  | start => before.isNone
  | stop => after.isNone
  | lineStart => before.all (· == '\n')
  | lineStop => after.all (· == '\n')
  | anyLineStart => before.all fun c => c == '\n' || (c == '\r' && after != some '\n')
  | anyLineStop => after.all fun c => c == '\r' || (c == '\n' && before != some '\r')
  | word ascii yes => (inWord ascii before != inWord ascii after) == yes
  | wordStart ascii => !inWord ascii before && inWord ascii after
  | wordStop ascii => inWord ascii before && !inWord ascii after
  | wordStartHalf ascii => !inWord ascii before
  | wordStopHalf ascii => !inWord ascii after

end Edge

inductive Pattern where
  | nothing
  | one (s : CharSet)
  | edge (e : Edge)
  | seq (p q : Pattern)
  | alt (p q : Pattern)
  /-- so many stretches of the pattern after each other; without `most` there is no upper bound -/
  | repeated (p : Pattern) (least : Nat) (most : Option Nat)
deriving DecidableEq, Repr

namespace Pattern

/-! ## positions

A text of `n` characters has `n + 1` positions, and a list of marks says of each one whether it is
marked. -/

def advance (s : CharSet) (t : Text) (marks : List Bool) : List Bool :=
  false :: t.zipWith (fun c m => m && s.mem c) marks

def restrict (e : Edge) (t : Text) (marks : List Bool) : List Bool :=
  (List.zip (none :: t.map some) (t.map some ++ [none])).zipWith
    (fun x m => m && e.holds x.1 x.2) marks

def either (a b : List Bool) : List Bool := a.zipWith (· || ·) b

/-- `step` so many times; once a round changes nothing, no later one does -/
def times (step : List Bool → List Bool) : Nat → List Bool → List Bool
  | 0, marks => marks
  | n + 1, marks =>
    let next := step marks
    if next = marks then marks else times step n next

/-- `step` at most so many times; once a round adds nothing, no later one does -/
def upTo (step : List Bool → List Bool) : Nat → List Bool → List Bool
  | 0, marks => marks
  | n + 1, marks =>
    let wider := either marks (step marks)
    if wider = marks then marks else upTo step n wider

/-! ## stretches -/

/-- where the stretches end that begin at the marked positions.  More rounds than the text has
positions change nothing: then one of the stretches is empty and stands for any number of them. -/
def ends : Pattern → Text → List Bool → List Bool
  | nothing, _, marks => marks
  | one s, t, marks => advance s t marks
  | edge e, t, marks => restrict e t marks
  | seq p q, t, marks => q.ends t (p.ends t marks)
  | alt p q, t, marks => either (p.ends t marks) (q.ends t marks)
  | repeated p least most, t, marks =>
    let rounds := t.length + 1
    let more :=
      match most with
      | none => rounds
      | some m => min (m - least) rounds
    upTo (p.ends t) more (times (p.ends t) (min least rounds) marks)

def occursIn (p : Pattern) (t : Text) : Bool :=
  (p.ends t (List.replicate (t.length + 1) true)).any id

/-! ## size -/

/-- about how many bytes a machine takes that looks for the pattern: 32 for a state, and more for a
set of many intervals -/
def size : Pattern → Nat
  | nothing | edge _ => 32
  | one s => 32 + 100 * (s.weight - 1)
  | seq p q => p.size + q.size
  | alt p q => p.size + q.size + 32
  | repeated p least most => p.size * max 1 (max least (most.getD 0))

end Pattern

end Upkeep
