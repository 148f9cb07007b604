import Upkeep.CipherList.Document
import Upkeep.Command.Arguments
import Upkeep.Command.LogFilter
import Upkeep.Command.Report
import Upkeep.Files.Tree
import Upkeep.LayoutFile

/-!
# Sessions

A session is one run of the command.  Without an output file the list is written to standard output
as it comes; otherwise it is collected first, and then saved.  What a session does is settled without
touching any file: it ends with the list printed, with a file to save, or with a report and whatever
had been printed by then (`Ending`).
-/

namespace Upkeep

structure Invocation where
  args : List Text
  layoutVariable : Option Text
  logVariable : Option Text
deriving DecidableEq, Repr

namespace Session

/-! ## texts -/

def usage : String := "Syntax: get-mozilla-ciphers <firefox-source-dir> <openssl-source-dir>"

def version : String := "get-mozilla-ciphers 0.1.0\n"

def help (named : Option Text) : String :=
  "Generate the client cipher list include file from Firefox and OpenSSL sources\n\n" ++
  "Usage: get-mozilla-ciphers [OPTIONS] <FIREFOX_SOURCE_DIR> <OPENSSL_SOURCE_DIR>\n\n" ++
  "Arguments:\n" ++
  "  <FIREFOX_SOURCE_DIR>  Firefox source tree\n" ++
  "  <OPENSSL_SOURCE_DIR>  OpenSSL source tree\n\n" ++
  "Options:\n" ++
  "  -o, --output <OUTPUT>  Output file (defaults to stdout)\n" ++
  "  -c, --config <CONFIG>  TOML file overriding source file locations and markers " ++
  "[env: MOZILLA_CIPHERS_LAYOUT=" ++ (named.getD []).string ++ "]\n" ++
  "  -v, --verbose...       Increase verbosity level (can be repeated: -v, -vv, -vvv)\n" ++
  "  -h, --help             Print help\n" ++
  "  -V, --version          Print version\n"

/-! ## the work -/

inductive Ending where
  | print (printed : Bytes)
  | save (path : Path) (content : Bytes)
  /-- there is no list, or not all of it; `printed` is what standard output has taken -/
  | fail (report : Report) (printed : Bytes)
deriving DecidableEq, Repr

def layout (a : Arguments) (disk : Disk) : Run Layout :=
  match a.config with
  | none => pure .standard
  | some path => Layout.load disk path

/-- what the list is written to: standard output, which takes `room` bytes, or memory -/
def sinkFor (room : Option Nat) (output : Option Path) : Sink :=
  match output with
  | none => .new room
  | some _ => .new none

/-- memory is given up with a list that fails, and standard output keeps what it has taken -/
def deliver (output : Option Path) (w : Written) : Ending :=
  match w.failure?, output with
  | none, none => .print w.sink.written
  | none, some path => .save path w.sink.written
  | some e, none => .fail (.ofGeneration e) w.sink.written
  | some e, some _ => .fail (.ofGeneration e) []

def work (room : Option Nat) (a : Arguments) (disk : Disk) : Noted Ending := do
  match ← (layout a disk).run with
  | .error e => pure (.fail (.ofFailure e) [])
  | .ok l => do
    let w ← Sources.generate l disk a.firefox a.openssl (sinkFor room a.output)
    pure (deliver a.output w)

def filter (a : Arguments) (i : Invocation) : LogFilter × List Text :=
  let base := Threshold.upTo (Arguments.level a.verbosity)
  LogFilter.ofSpec base (i.logVariable.getD [])

/-! ## whole runs -/

structure Outcome where
  status : Nat
  stdout : Bytes
  /-- standard error before the log -/
  warnings : Text
  log : List Notice
  /-- standard error after the log -/
  report : Text
deriving DecidableEq, Repr

/-- an answer on standard output, which may be cut short without harm -/
def tell (room : Option Nat) (answer : String) : Outcome :=
  ⟨0, ((Sink.new room).put (Text.encode answer.toList)).1.written, [], [], []⟩

def reject (room : Option Nat) (i : Invocation) : Arguments.Rejection → Outcome
  | .helpAsked => tell room (help i.layoutVariable)
  | .versionAsked => tell room version
  | _ => ⟨1, [], [], [], usage.toList⟩

def conclude (a : Arguments) (i : Invocation) (done : Noted Ending) (fault : Option IoFault) :
    Outcome :=
  let warnings := (filter a i).2.flatMap fun w => w ++ ['\n']
  let log := done.notices.filter (filter a i).1.admits
  match done.value, fault with
  | .print printed, _ => ⟨0, printed, warnings, log, []⟩
  | .save _ _, none => ⟨0, [], warnings, log, []⟩
  | .save path _, some e => ⟨1, [], warnings, log, (Report.ofWriting path e).text⟩
  | .fail report printed, _ => ⟨1, printed, warnings, log, report.text⟩

def carryOut (t : Tree) : Ending → Tree × Option IoFault
  | .save path content =>
    match t.write path content with
    | .ok t' => (t', none)
    | .error e => (t, some e)
  | _ => (t, none)

/-- a run of the command in a tree, where standard output takes `room` bytes, or any number of them:
what it shows, and the tree afterwards -/
def runWithin (room : Option Nat) (i : Invocation) (t : Tree) : Outcome × Tree :=
  match Arguments.parse i.args i.layoutVariable with
  | .error r => (reject room i r, t)
  | .ok a =>
    let done := work room a t.disk
    let (t', fault) := carryOut t done.value
    (conclude a i done fault, t')

def run (i : Invocation) (t : Tree) : Outcome × Tree := runWithin none i t

end Session

end Upkeep
