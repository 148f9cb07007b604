import Upkeep.Dictionary
import Upkeep.Directive
import Upkeep.Failure
import Upkeep.Text.Lines
import Upkeep.Text.Lowercase

/-!
# Protocol identifiers

The protocol header defines for each suite the number by which the protocol knows it.
-/

namespace Upkeep

structure ProtocolIds where
  values : Dictionary
deriving DecidableEq, Repr

namespace ProtocolIds

def ofList (ps : List (Text × Text)) : ProtocolIds := ⟨.ofList ps⟩

def size (d : ProtocolIds) : Nat := d.values.size

def isEmpty (d : ProtocolIds) : Bool := d.values.isEmpty

/-- the identifier of a suite in lower case; a suite without one is a failure -/
def hexValue (d : ProtocolIds) (suite : Text) : Except Failure Text :=
  match d.values.find? suite with
  | some v => .ok v.lower
  | none => .error (.undefinedSuite suite)

def read (ls : List Line) : Run ProtocolIds := do
  let ts ← Run.ofStream (Line.readAll ls)
  pure (.ofList (ts.filterMap Directive.definition?))

theorem outcome_read_eq_ok_iff {ls : List Line} {d : ProtocolIds} :
    (read ls).outcome = .ok d ↔ ∃ ts : List Text, ls = ts.map .ok ∧
      d = .ofList (ts.filterMap Directive.definition?) := by
  unfold read
  simp only [Run.outcome_bind_eq_ok_iff, Run.outcome_ofStream, Run.mapError_eq_ok_iff,
    Line.readAll_eq_ok_iff, Run.outcome_pure, Except.ok.injEq]
  exact exists_congr fun ts => and_congr_right fun _ => eq_comm

end ProtocolIds

end Upkeep
