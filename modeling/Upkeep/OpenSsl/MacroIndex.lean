import Upkeep.Dictionary
import Upkeep.Directive
import Upkeep.Layout
import Upkeep.Notice
import Upkeep.Text.Lines
import Upkeep.Text.Lowercase
import Upkeep.Text.Replace

/-!
# The index of OpenSSL macros

OpenSSL names each cipher by two macros: an id macro that holds the protocol identifier, and a text
macro that holds the name.  Their own names differ by one marker.  The index finds the id macro of
an identifier, and knows every name that is defined, so that the text macro can be looked for.
-/

namespace Upkeep

open Text

structure MacroIndex where
  byHex : Dictionary
  defined : Dictionary
deriving DecidableEq, Repr

namespace MacroIndex

def empty : MacroIndex := ⟨.empty, .empty⟩

/-! ## indexing -/

/-- an identifier as it is looked up: shortened to `0x`, in lower case -/
def shortened (l : Layout) (value : Text) : Text := (replace l.hexPrefix "0x".toList value).lower

/-- the entry of a definition under its identifier, if it defines an id macro: its value starts
with `0x` and its name holds the id marker -/
def idPair? (l : Layout) (d : Text × Text) : Option (Text × Text) :=
  if "0x".toList.isPrefixOf d.2 && hasInfix l.idMarker d.1 then some (shortened l d.2, d.1)
  else none

def enter (l : Layout) (ix : MacroIndex) (ds : List (Text × Text)) : MacroIndex where
  byHex := ix.byHex.insertAll (ds.filterMap (idPair? l))
  defined := ix.defined.insertAll ds

/-- the index with the definitions of a header; a fault ends the header, and the definitions before
it stay -/
def scan (l : Layout) (ix : MacroIndex) (ls : List Line) : Noted (MacroIndex × Option IoFault) := do
  let (ts, fault) := Line.upToFault ls
  let ds := ts.filterMap Directive.spacedDefinition?
  Noted.noteAll ((ds.filterMap (idPair? l)).map fun e => .idIndexed e.1 e.2)
  pure (ix.enter l ds, fault)

/-! ## look-up -/

/-- the id macro of an identifier, in any case of letters -/
def idMacro? (ix : MacroIndex) (hex : Text) : Option Text := ix.byHex.find? hex.lower

def isDefined (ix : MacroIndex) (name : Text) : Bool := ix.defined.contains name

/-- the text macro of an identifier, if its id macro has a text macro that is defined -/
def textMacro? (l : Layout) (ix : MacroIndex) (hex : Text) : Option Text := do
  let name := replace l.idMarker l.textMarker (← ix.idMacro? hex)
  if ix.isDefined name then some name else none

end MacroIndex

end Upkeep
