import Upkeep.Files.Path
import Upkeep.Notice

/-!
# Arguments

The command takes two directories, two settings with a value (`-o`/`--output` and `-c`/`--config`)
and a switch that can be repeated (`-v`/`--verbose`); `-h`/`--help` and `-V`/`--version` ask for
a text.  A directory, and a setting whose value is an argument of its own, is checked only when the
next argument needs it to be settled (`Reading.settle`), so an unknown argument is told before an
unsuitable value in front of it.
-/

namespace Upkeep

structure Arguments where
  firefox : Path
  openssl : Path
  /-- the file to write, standard output where there is none -/
  output : Option Path
  config : Option Path
  /-- how often `-v` was given, at most 255 -/
  verbosity : Nat
deriving DecidableEq, Repr

namespace Arguments

inductive Rejection where
  | missingRequired
  /-- an argument that the command does not know, or a third directory -/
  | unknownArgument
  /-- a value is missing or empty -/
  | invalidValue
  | conflict
  | tooManyValues
  | helpAsked
  | versionAsked
deriving DecidableEq, Repr

inductive Setting where
  | output | config
deriving DecidableEq, Repr

inductive Pending where
  | place (value : Text)
  | setting (s : Setting) (value : Option Text)
deriving DecidableEq, Repr

structure Reading where
  places : List Path
  output : Option Path
  config : Option Path
  verbosity : Nat
  pending : Option Pending
  /-- the number of directories, the one not settled included -/
  begun : Nat
  /-- `--` was seen: all that follows is a directory -/
  trailing : Bool
deriving DecidableEq, Repr

namespace Reading

def start : Reading := ⟨[], none, none, 0, none, 0, false⟩

def set (r : Reading) (s : Setting) (v : Text) : Except Rejection Reading :=
  match s with
  | .output =>
    if r.output.isSome then .error .conflict
    else if v.isEmpty then .error .invalidValue
    else .ok { r with output := some v }
  | .config =>
    if r.config.isSome then .error .conflict
    else if v.isEmpty then .error .invalidValue
    else .ok { r with config := some v }

def settle (r : Reading) : Except Rejection Reading :=
  match r.pending with
  | none => .ok r
  | some (.place v) =>
    if v.isEmpty then .error .invalidValue
    else .ok { r with places := r.places ++ [v], pending := none }
  | some (.setting _ none) => .error .invalidValue
  | some (.setting s (some v)) => { r with pending := none }.set s v

def giveSetting (r : Reading) (s : Setting) (value : Option Text) : Except Rejection Reading := do
  let r ← r.settle
  match value with
  | some v => r.set s v
  | none => pure { r with pending := some (.setting s none) }

def raise (r : Reading) : Except Rejection Reading := do
  let r ← r.settle
  pure { r with verbosity := min 255 (r.verbosity + 1) }

def ask (r : Reading) (what : Rejection) : Except Rejection Reading := do
  let _ ← r.settle
  throw what

def plain (value : Option Text) (react : Except Rejection Reading) : Except Rejection Reading :=
  match value with
  | some _ => .error .tooManyValues
  | none => react

def long (r : Reading) (t : Text) : Except Rejection Reading :=
  let name := t.takeWhile (· ≠ '=')
  let value := (t.dropWhile (· ≠ '=')).tail?
  if name = "output".toList then r.giveSetting .output value
  else if name = "config".toList then r.giveSetting .config value
  else if name = "verbose".toList then plain value r.raise
  else if name = "help".toList then plain value (r.ask .helpAsked)
  else if name = "version".toList then plain value (r.ask .versionAsked)
  else .error .unknownArgument

/-- the value that follows the letter of a setting; an equals sign before it is dropped -/
def attached (t : Text) : Option Text :=
  match t with
  | [] => none
  | c :: cs => if c = '=' then some cs else some (c :: cs)

def short (r : Reading) : Text → Except Rejection Reading
  | [] => .ok r
  | c :: cs =>
    if c = 'v' then do short (← r.raise) cs
    else if c = 'h' then r.ask .helpAsked
    else if c = 'V' then r.ask .versionAsked
    else if c = 'o' then r.giveSetting .output (attached cs)
    else if c = 'c' then r.giveSetting .config (attached cs)
    else .error .unknownArgument

def place (r : Reading) (t : Text) : Except Rejection Reading :=
  if 2 ≤ r.begun then .error .unknownArgument
  else do
    let r ← r.settle
    pure { r with pending := some (.place t), begun := r.begun + 1 }

def value (r : Reading) (t : Text) : Except Rejection Reading :=
  match r.pending with
  | some (.setting s none) => .ok { r with pending := some (.setting s (some t)) }
  | _ => r.place t

def next (r : Reading) (t : Text) : Except Rejection Reading :=
  if r.trailing then r.place t
  else
    match t with
    | '-' :: '-' :: [] => .ok { r with trailing := true }
    | '-' :: '-' :: name => r.long name
    | '-' :: c :: cs => r.short (c :: cs)
    | _ => r.value t

def layoutFile (r : Reading) (fallback : Option Text) : Except Rejection (Option Path) :=
  match r.config, fallback with
  | some p, _ => .ok (some p)
  | none, none => .ok none
  | none, some v => if v.isEmpty then .error .invalidValue else .ok (some v)

def finish (r : Reading) (fallback : Option Text) : Except Rejection Arguments :=
  match r.layoutFile fallback, r.places with
  | .error e, _ => .error e
  | .ok config, [firefox, openssl] => .ok ⟨firefox, openssl, r.output, config, r.verbosity⟩
  | .ok _, _ => .error .missingRequired

end Reading

/-- the arguments of the command, where `fallback` stands in for a layout file that is not given -/
def parse (args : List Text) (fallback : Option Text) : Except Rejection Arguments := do
  let r ← args.foldlM Reading.next Reading.start
  let r ← r.settle
  r.finish fallback

def level (verbosity : Nat) : Level :=
  match verbosity with
  | 0 => .warn
  | 1 => .info
  | 2 => .debug
  | _ => .trace

end Arguments

end Upkeep
