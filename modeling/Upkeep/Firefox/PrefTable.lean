import Upkeep.Dictionary
import Upkeep.Failure
import Upkeep.Firefox.EntryLine
import Upkeep.Text.Excerpt

/-!
# The preference table

The table names for each preference the suite that it controls.  Its lines read as entries, complete
ones and ones in two halves; lines that belong to no entry are passed over, also between two halves.
`entries` gives the entries in order and says how the reading ended; `PrefTable.ofEntries` keeps
those whose flag is `true`, where the last entry of a name, and of a macro, counts.
-/

namespace Upkeep

structure PrefEntry where
  name : Text
  macroName : Text
  /-- the flag is there and is `true` -/
  enabled : Bool
deriving DecidableEq, Repr

namespace PrefEntry

inductive Ending where
  /-- with a complete entry, or there is none -/
  | complete
  | unclosed (name : Text)
  | malformed (lineNumber : Nat) (line : Text) (fault : TableFault)
deriving DecidableEq, Repr

/-- the entries from line number `n` on, where `pending` is the name of an entry begun before -/
def readFrom (n : Nat) (pending : Option Text) : List Text → List PrefEntry × Ending
  | [] =>
    match pending with
    | none => ([], .complete)
    | some name => ([], .unclosed name)
  | line :: rest =>
    match EntryLine.ofText line, pending with
    | none, _ => readFrom (n + 1) pending rest
    | some (.entry name macroName enabled), none =>
      let (es, ending) := readFrom (n + 1) none rest
      (⟨name, macroName, enabled⟩ :: es, ending)
    | some (.opener name), none => readFrom (n + 1) (some name) rest
    | some (.closer _ _), none => ([], .malformed n line .closerWithoutPending)
    | some (.entry _ _ _), some _ => ([], .malformed n line .entryWhilePending)
    | some (.opener _), some _ => ([], .malformed n line .openerWhilePending)
    | some (.closer macroName enabled), some name =>
      let (es, ending) := readFrom (n + 1) none rest
      (⟨name, macroName, enabled⟩ :: es, ending)

/-- the entries of the lines and how they end; lines count from 1 -/
def read (lines : List Text) : List PrefEntry × Ending := readFrom 1 none lines

end PrefEntry

structure PrefTable where
  byName : Dictionary
  byMacro : Dictionary
deriving DecidableEq, Repr

namespace PrefTable

def empty : PrefTable := ⟨.empty, .empty⟩

def ofEntries (es : List PrefEntry) : PrefTable :=
  let live := es.filter (·.enabled)
  ⟨.ofList (live.map fun e => (e.name, e.macroName)),
    .ofList (live.map fun e => (e.macroName, e.name))⟩

def preferenceFor? (t : PrefTable) (suite : Text) : Option Text := t.byMacro.find? suite

def parse (lines : List Text) : Run PrefTable := do
  let (es, ending) := PrefEntry.read lines
  Run.noteAll ((es.filter (!·.enabled)).map fun e => .entryDropped e.name)
  match ending with
  | .complete => pure (ofEntries es)
  | .unclosed name => do
    Run.note (.entryNeverClosed name)
    pure (ofEntries es)
  | .malformed n line fault => throw (.malformedTable n line fault)

/-- the trimmed lines of the table: after the line that begins with `start`, up to the first one
that begins, trimmed, with `stop` -/
def block (start stop : Text) (ls : List Line) : Run (List Text) := do
  let x ← Run.ofStream (Excerpt.read start.isPrefixOf (fun t => stop.isPrefixOf t.trim) ls)
  match x.extent with
  | .absent => Run.note (.tableNotFound start)
  | .unterminated => Run.note (.tableUnterminated stop)
  | .closed => pure ()
  pure (x.lines.map Text.trim)

def read (start stop : Text) (ls : List Line) : Run PrefTable := do
  parse (← block start stop ls)

theorem outcome_block (start stop : Text) (ls : List Line) :
    (block start stop ls).outcome =
      ((Excerpt.read start.isPrefixOf (fun t => stop.isPrefixOf t.trim) ls).mapError .stream).map
        fun x => x.lines.map Text.trim := by
  unfold block
  rw [Run.outcome_bind, Run.outcome_ofStream]
  cases Excerpt.read start.isPrefixOf (fun t => stop.isPrefixOf t.trim) ls with
  | error e => rfl
  | ok x =>
    obtain ⟨extent, ts⟩ := x
    cases extent <;> rfl

end PrefTable

end Upkeep
