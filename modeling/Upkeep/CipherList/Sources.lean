import Upkeep.Files.Disk
import Upkeep.Firefox.PrefDefaults
import Upkeep.Firefox.PrefTable
import Upkeep.Firefox.ProtocolIds
import Upkeep.Firefox.SuiteArray
import Upkeep.OpenSsl.MacroIndex

/-!
# Sources of the cipher list

All tables that the list is computed from, and how they are read from the two source trees.  The
files are read in a fixed order and the first one that fails ends the reading.  A header of OpenSSL
that is not there is passed over.
-/

namespace Upkeep

structure Sources where
  layout : Layout
  table : PrefTable
  /-- the suites, the most preferred one first -/
  suites : List Text
  defaults : PrefDefaults
  protocol : ProtocolIds
  index : MacroIndex
deriving DecidableEq, Repr

namespace Sources

/-- a file opened for reading; a fault is told with the path -/
def openFile (disk : Disk) (path : Path) : Run Opened :=
  Run.ofExcept ((disk.open? path).mapError (.unreadable path))

def readFile {α : Type} (disk : Disk) (root relative : Path) (reader : List Line → Run α) :
    Run α := do
  let path := root.join relative
  Run.note (.reading path)
  let o ← openFile disk path
  (reader o.lines).inFile path

/-- the index with the headers at the paths; a header that is not there is passed over -/
def scanHeaders (l : Layout) (disk : Disk) (ix : MacroIndex) : List Path → Run MacroIndex
  | [] => pure ix
  | path :: paths =>
    match disk.open? path with
    | .error e =>
      if e.kind = .notFound then do
        Run.note (.headerMissing path)
        scanHeaders l disk ix paths
      else throw (.unreadable path e)
    | .ok o => do
      Run.note (.headerScanned path)
      let (ix', fault) ← ExceptT.lift (ix.scan l o.lines)
      match fault with
      | none => scanHeaders l disk ix' paths
      | some e => throw (.unreadable path e)

def readIndex (l : Layout) (disk : Disk) (root : Path) : Run MacroIndex :=
  scanHeaders l disk .empty (l.headerPaths root)

/-- the files that are read, in order -/
def paths (l : Layout) (firefox openssl : Path) : List Path :=
  [firefox.join l.tableFile, firefox.join l.suitesFile, firefox.join l.defaultsFile,
    firefox.join l.protocolHeader] ++ l.headerPaths openssl

def load (l : Layout) (disk : Disk) (firefox openssl : Path) : Run Sources := do
  let table ← readFile disk firefox l.tableFile (PrefTable.read l.tableStart l.tableEnd)
  Run.note (.tableLoaded table.byName.size)
  let suites ← readFile disk firefox l.suitesFile (SuiteArray.read l.suitesMarker l.suitesEnd)
  let defaults ← readFile disk firefox l.defaultsFile (PrefDefaults.read l.prefNamespace)
  Run.note (.defaultsLoaded defaults.size l.prefNamespace)
  let protocol ← readFile disk firefox l.protocolHeader ProtocolIds.read
  let index ← readIndex l disk openssl
  pure ⟨l, table, suites, defaults, protocol, index⟩

end Sources

end Upkeep
