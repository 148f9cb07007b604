import Upkeep.Files.Path
import Upkeep.Text.Lines

/-!
# Disks

A disk says what opening a path for reading shows.  A directory can be opened, but the first read
from it fails.
-/

namespace Upkeep

inductive Opened where
  | file (content : Bytes)
  | directory
deriving DecidableEq, Repr

def Opened.lines : Opened → List Line
  | file content => content.lines
  | directory => [.error .isADirectory]

structure Disk where
  /-- what opening a path for reading shows -/
  open? : Path → Except IoFault Opened

namespace Disk

def readText (d : Disk) (p : Path) : Except IoFault Text :=
  match d.open? p with
  | .error e => .error e
  | .ok .directory => .error .isADirectory
  | .ok (.file content) =>
    match Text.decode content with
    | some t => .ok t
    | none => .error .notUtf8

end Disk

end Upkeep
