import Upkeep.Toml.Value

/-!
# TOML tables

How keys and headers add to a table.  A key is entered once.  Dots in a key make tables that only
further dotted keys of the same place may add to; a header makes a table once, and may add to one
that so far was only named on the way to another.
-/

namespace Upkeep.Toml

namespace Table

def replace (k : Text) (v : Value) (t : Table) : Table :=
  t.map fun e => if e.1 = k then (k, v) else e

def remove (k : Text) (t : Table) : Table := t.filter fun e => e.1 ≠ k

/-- the table in which `f` has changed the part that the names lead to; new parts get the form
`fresh`, and the dots of a key do not lead into a part with a header of its own -/
def change (fresh : Form) (f : Form → Table → Option Table) :
    Form → List Text → Table → Option Table
  | form, [], t => f form t
  | _, k :: ks, t =>
    match t.lookup k with
    | none => (change fresh f fresh ks []).map fun sub => (k, .table fresh sub) :: t
    | some (.table form sub) =>
      if form = .inline ∨ (fresh = .dotted ∧ form = .header) then none
      else (change fresh f form ks sub).map fun sub => replace k (.table form sub) t
    | some (.tables (last :: before)) =>
      (change fresh f .header ks last).map fun sub => replace k (.tables (sub :: before)) t
    | some _ => none

/-- a value entered under a key of one name or several, where the last name must be new -/
def enter (t : Table) (key : List Text) (v : Value) : Option Table :=
  match key.getLast? with
  | none => none
  | some k =>
    change .dotted
      (fun form t =>
        if key.length ≠ 1 ∧ form ≠ .dotted then none
        else
          match t.lookup k with
          | some _ => none
          | none => some ((k, v) :: t))
      .header key.dropLast t

def enterAll (t : Table) (ps : List (List Text × Value)) : Option Table :=
  ps.foldlM (fun t p => t.enter p.1 p.2) t

def addTable (t : Table) (key : List Text) (fill : Table → Option Table) : Option Table :=
  match key.getLast? with
  | none => none
  | some k =>
    change .implied
      (fun _ t =>
        match t.lookup k with
        | none => (fill []).map fun sub => (k, .table .header sub) :: t
        | some (.table .implied sub) =>
          (fill sub).map fun sub => (k, .table .header sub) :: remove k t
        | some _ => none)
      .header key.dropLast t

def addToTables (t : Table) (key : List Text) (fill : Table → Option Table) : Option Table :=
  match key.getLast? with
  | none => none
  | some k =>
    change .implied
      (fun _ t =>
        match t.lookup k with
        | none => (fill []).map fun sub => (k, .tables [sub]) :: t
        | some (.tables before) => (fill []).map fun sub => replace k (.tables (sub :: before)) t
        | some _ => none)
      .header key.dropLast t

end Table

end Upkeep.Toml
