import Upkeep.Files.Disk

/-!
# File trees

A tree holds files and directories under lists of names.  A path is followed name by name from the
top: every name but the last must lead to a directory, `.` and the empty name stay, and `..` goes
up.  Above the top there are only directories, and nothing else is in them; an absolute path starts
there.  Writing replaces a file or adds one in a directory that is there.
-/

namespace Upkeep

structure Tree where
  /-- the files, and those directories that are listed for themselves; the directories on the way
  to an entry are there too -/
  entries : List (List Text × Opened)
deriving DecidableEq, Repr

namespace Tree

def empty : Tree := ⟨[]⟩

def isAbove (place : List Text) : Bool := place.all (· == ['.', '.'])

def at? (t : Tree) (place : List Text) : Option Opened :=
  if isAbove place then some .directory
  else
    match t.entries.lookup place with
    | some o => some o
    | none => if t.entries.any (fun e => place.isPrefixOf e.1) then some .directory else none

/-! ## following a path -/

/-- the longest name that the system takes, in bytes -/
def maxName : Nat := 255

/-- the shortest path that the system refuses, in bytes -/
def tooLong : Nat := 4096

def isDots (name : Text) : Bool := name == ['.'] || name == ['.', '.']

def step (t : Tree) (place : List Text) (name : Text) : Except IoFault (List Text) :=
  match t.at? place with
  | none => .error .notFound
  | some (.file _) => .error .notADirectory
  | some .directory =>
    if name.isEmpty || name == ['.'] then .ok place
    else if name == ['.', '.'] then
      .ok (if isAbove place then place ++ [name] else place.dropLast)
    else if maxName < (Text.encode name).length then .error .nameTooLong
    else .ok (place ++ [name])

def start (p : Path) : List Text := if p.isAbsolute then [['.', '.']] else []

def refused? (p : Path) : Option IoFault :=
  if p.contains (Char.ofNat 0) then some .nulInName
  else if p.isEmpty then some .notFound
  else if tooLong ≤ (Text.encode p).length then some .nameTooLong
  else none

def locate (t : Tree) (p : Path) : Except IoFault (List Text) :=
  match refused? p with
  | some e => .error e
  | none => p.components.foldlM (step t) (start p)

/-! ## reading and writing -/

def openAt (t : Tree) (p : Path) : Except IoFault Opened :=
  match t.locate p with
  | .error e => .error e
  | .ok place =>
    match t.at? place with
    | none => .error .notFound
    | some o => .ok o

def disk (t : Tree) : Disk := ⟨t.openAt⟩

/-- the names of a path without the empty ones at its end -/
def namesOf (p : Path) : List Text := (p.components.reverse.dropWhile List.isEmpty).reverse

/-- the place where a file can be written under a path; a slash at the end asks for a directory -/
def target (t : Tree) (p : Path) : Except IoFault (List Text) :=
  match refused? p with
  | some e => .error e
  | none =>
    match (namesOf p).getLast? with
    | none => .error .isADirectory
    | some name => do
      let above ← (namesOf p).dropLast.foldlM (step t) (start p)
      let here ← step t above []
      if isDots name || p.getLast? == some '/' then .error .isADirectory
      else do
        let place ← step t here name
        match t.at? place with
        | some .directory => .error .isADirectory
        | _ => .ok place

def write (t : Tree) (p : Path) (content : Bytes) : Except IoFault Tree := do
  let place ← t.target p
  pure ⟨(place, .file content) :: t.entries.filter fun e => e.1 ≠ place⟩

def content? (t : Tree) (p : Path) : Option Bytes :=
  match t.openAt p with
  | .ok (.file content) => some content
  | _ => none

end Tree

end Upkeep
