import Upkeep.Command.Session

/-!
# The command

The outer layer of `Session`: it looks up the files that a session will open, and carries out how
the session ends.
-/

namespace Upkeep.Command

/-- an error number of the system, which may come with a minus sign -/
def isNumber (code : UInt32) (n : UInt32) : Bool := code == n || code + n == 0

def faultOf (e : IO.Error) : IoFault :=
  match e with
  | .noFileOrDirectory .. => .notFound
  | .inappropriateType _ code _ =>
    if isNumber code 20 then .notADirectory
    else if isNumber code 21 then .isADirectory
    else ⟨.other, (toString e).toList⟩
  | .invalidArgument _ code _ =>
    if isNumber code 36 then .nameTooLong else ⟨.other, (toString e).toList⟩
  | .permissionDenied .. => ⟨.permissionDenied, "Permission denied (os error 13)".toList⟩
  | _ => ⟨.other, (toString e).toList⟩

def look (path : Path) : IO (Except IoFault Opened) := do
  try
    let content ← IO.FS.readBinFile path.string
    pure (.ok (.file content.toList))
  catch e =>
    match faultOf e with
    | ⟨.isADirectory, _⟩ => pure (.ok .directory)
    | fault => pure (.error fault)

def snapshot (paths : List Path) : IO Disk := do
  let seen ← paths.mapM fun p => do pure (p, ← look p)
  pure ⟨fun p => (seen.lookup p).getD (.error .notFound)⟩

def diskFor (a : Arguments) : IO Disk := do
  let disk ← snapshot a.config.toList
  match (Session.layout a disk).outcome with
  | .error _ => pure disk
  | .ok l => snapshot (a.config.toList ++ Sources.paths l a.firefox a.openssl)

def save (e : Session.Ending) : IO (Option IoFault) := do
  match e with
  | .save path content =>
    try
      IO.FS.writeBinFile path.string content.toByteArray
      pure none
    catch e => pure (some (faultOf e))
  | _ => pure none

def present (o : Session.Outcome) : IO UInt32 := do
  IO.eprint o.warnings.string
  for n in o.log do
    IO.eprintln ("[" ++ n.level.name ++ " " ++ n.origin ++ "] " ++ n.headline.string)
    IO.eprint n.furtherLines.string
  IO.eprint o.report.string
  (← IO.getStdout).write o.stdout.toByteArray
  pure (UInt32.ofNat o.status)

end Upkeep.Command

open Upkeep in
def main (args : List String) : IO UInt32 := do
  let i : Invocation := ⟨args.map String.toList,
    (← IO.getEnv "MOZILLA_CIPHERS_LAYOUT").map String.toList,
    (← IO.getEnv "RUST_LOG").map String.toList⟩
  match Arguments.parse i.args i.layoutVariable with
  | .error r => do
    let status ← Command.present (Session.reject none i r)
    if status ≠ 0 then IO.eprintln ""
    pure status
  | .ok a => do
    let done := Session.work none a (← Command.diskFor a)
    Command.present (Session.conclude a i done (← Command.save done.value))
