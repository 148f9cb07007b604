import Upkeep.CipherList.Block
import Upkeep.CipherList.Sources

/-!
# Selection

A suite is selected when a preference controls it and the default of that preference is `true`.  A
selected suite must have a protocol identifier; it is named by the OpenSSL text macro of that
identifier, or by itself where there is none.
-/

namespace Upkeep.Sources

def control? (s : Sources) (suite : Text) : Option (Text × Bool) :=
  (s.table.preferenceFor? suite).map fun p => (p, s.defaults.isEnabled p)

def blockFor (s : Sources) (suite hex : Text) : Block :=
  match s.index.textMacro? s.layout hex with
  | some name => ⟨hex, name, false⟩
  | none => ⟨hex, suite, true⟩

def block? (s : Sources) (suite : Text) : Run (Option Block) :=
  match s.control? suite with
  | none => do
    Run.note (.suiteUncontrolled suite)
    pure none
  | some (pref, false) => do
    Run.note (.suiteDisabled suite pref)
    pure none
  | some (_, true) => do
    let hex ← Run.ofExcept (s.protocol.hexValue suite)
    let b := s.blockFor suite hex
    if b.unnamed then Run.note (.suiteUnnamed suite hex)
    pure (some b)

def blocksOf (s : Sources) : List Text → Run (List Block)
  | [] => pure []
  | suite :: rest => do
    let b ← s.block? suite
    let bs ← blocksOf s rest
    pure (b.toList ++ bs)

/-- the blocks of the selected suites, in the order of the array -/
def blocks (s : Sources) : Run (List Block) := s.blocksOf s.suites

end Upkeep.Sources
