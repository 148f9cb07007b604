import Upkeep.Dictionary
import Upkeep.Failure
import Upkeep.Text.Lines
import Upkeep.Text.Token

/-!
# Defaults of preferences

Lines `pref("name", value);` give the preferences their defaults.  The value of a line is the
longest run without white space that is followed by a closing parenthesis.
-/

namespace Upkeep

open Text

structure PrefDefaults where
  /-- the value of a preference, as it is written -/
  values : Dictionary
deriving DecidableEq, Repr

namespace PrefDefaults

def ofList (ps : List (Text × Text)) : PrefDefaults := ⟨.ofList ps⟩

/-- the default of a preference, `false` when it has none -/
def value (d : PrefDefaults) (name : Text) : Text := (d.values.find? name).getD "false".toList

/-- the default of the preference is `true`, to the letter -/
def isEnabled (d : PrefDefaults) (name : Text) : Bool := d.value name == "true".toList

def size (d : PrefDefaults) : Nat := d.values.size

def isEmpty (d : PrefDefaults) : Bool := d.values.isEmpty

def callEnd? (t : Text) : Option Unit :=
  if (skipWhite t).head? == some ')' then some () else none

/-- the preference and the value of a line `pref("name", value)` -/
def call? (t : Text) : Option (Text × Text) := do
  let t ← after? "pref(\"".toList t
  let name := t.takeWhile (· ≠ '"')
  let t ← after? ['"'] (t.dropWhile (· ≠ '"'))
  let t ← after? [','] (skipWhite t)
  let (value, _) ← longest callEnd? (skipWhite t)
  if name.isEmpty then none else pure (name, value)

/-- the defaults in a file of the preferences whose names begin with `space` -/
def read (space : Text) (ls : List Line) : Run PrefDefaults := do
  let ts ← Run.ofStream (Line.readAll ls)
  pure (.ofList ((ts.filterMap call?).filter fun p => space.isPrefixOf p.1))

theorem outcome_read_eq_ok_iff {space : Text} {ls : List Line} {d : PrefDefaults} :
    (read space ls).outcome = .ok d ↔ ∃ ts : List Text, ls = ts.map .ok ∧
      d = .ofList ((ts.filterMap call?).filter fun c => space.isPrefixOf c.1) := by
  unfold read
  simp only [Run.outcome_bind_eq_ok_iff, Run.outcome_ofStream, Run.mapError_eq_ok_iff,
    Line.readAll_eq_ok_iff, Run.outcome_pure, Except.ok.injEq]
  exact exists_congr fun ts => and_congr_right fun _ => eq_comm

end PrefDefaults

end Upkeep
