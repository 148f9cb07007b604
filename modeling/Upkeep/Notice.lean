import Upkeep.Text.Basic

/-!
# Notices

What the library reports while it works, as causes; the wording is in one place (`Notice.message`).
A notice has a level, and an origin by which a reader of the log can select it.
-/

namespace Upkeep

/-- how much a notice matters, the gravest first -/
inductive Level where
  | error | warn | info | debug | trace
deriving DecidableEq, Repr

namespace Level

def rank : Level → Nat
  | error => 1
  | warn => 2
  | info => 3
  | debug => 4
  | trace => 5

def name : Level → String
  | error => "ERROR"
  | warn => "WARN"
  | info => "INFO"
  | debug => "DEBUG"
  | trace => "TRACE"

end Level

inductive Notice where
  | layoutLoaded (path : Text)
  | reading (path : Text)
  | tableLoaded (count : Nat)
  | defaultsLoaded (count : Nat) (space : Text)
  | entryDropped (name : Text)
  | tableNotFound (start : Text)
  | tableUnterminated (stop : Text)
  | entryNeverClosed (name : Text)
  | suitesFound (count : Nat)
  | idIndexed (hex name : Text)
  | headerMissing (path : Text)
  | headerScanned (path : Text)
  | suiteUncontrolled (suite : Text)
  | suiteDisabled (suite pref : Text)
  | suiteUnnamed (suite hex : Text)
  | measuring (path : Text)
  | macroIgnored (name : Text)
deriving DecidableEq, Repr

namespace Notice

def level : Notice → Level
  | tableNotFound _ | tableUnterminated _ | entryNeverClosed _ => .warn
  | tableLoaded _ | defaultsLoaded _ _ | suiteUnnamed _ _ => .info
  | layoutLoaded _ | reading _ | suitesFound _ | headerMissing _ | headerScanned _
  | measuring _ => .debug
  | entryDropped _ | idIndexed _ _ | suiteUncontrolled _ | suiteDisabled _ _
  | macroIgnored _ => .trace

/-- the part of the program that gives the notice, as a log names it -/
def origin : Notice → String
  | layoutLoaded _ => "maint_scripts::config"
  | reading _ | tableLoaded _ | defaultsLoaded _ _ => "maint_scripts::ciphers"
  | entryDropped _ | tableNotFound _ | tableUnterminated _ | entryNeverClosed _ =>
    "maint_scripts::ciphers::prefs"
  | suitesFound _ => "maint_scripts::ciphers::suites"
  | idIndexed _ _ | headerMissing _ | headerScanned _ => "maint_scripts::ciphers::openssl"
  | suiteUncontrolled _ | suiteDisabled _ _ | suiteUnnamed _ _ => "maint_scripts::ciphers::output"
  | measuring _ => "maint_scripts::metrics"
  | macroIgnored _ => "maint_scripts::metrics::functions"

def message : Notice → String
  | layoutLoaded path => "Loaded source layout from " ++ path.string
  | reading path => "Reading " ++ path.string
  | tableLoaded count => "Loaded " ++ toString count ++ " enabled cipher preferences"
  | defaultsLoaded count space =>
    "Loaded " ++ toString count ++ " " ++ space.string ++ " preferences"
  | entryDropped name => "Dropping disabled preference " ++ name.string
  | tableNotFound start => "Cipher preference table `" ++ start.string ++ "` not found"
  | tableUnterminated stop => "Cipher preference table has no `" ++ stop.string ++ "` terminator"
  | entryNeverClosed name => "Cipher preference " ++ name.string ++ " was never closed"
  | suitesFound count => "Found " ++ toString count ++ " enumerated cipher suites"
  | idIndexed hex name => hex.string ++ " -> " ++ name.string
  | headerMissing path => "Skipping missing OpenSSL header " ++ path.string
  | headerScanned path => "Scanning OpenSSL header " ++ path.string
  | suiteUncontrolled suite => suite.string ++ " has no preference"
  | suiteDisabled suite pref => suite.string ++ " is disabled by " ++ pref.string
  | suiteUnnamed suite hex => "No OpenSSL macro for " ++ suite.string ++ " (" ++ hex.string ++ ")"
  | measuring path => "Measuring " ++ path.string
  | macroIgnored name => "Ignoring " ++ name.string ++ " macro invocation"

def headline (n : Notice) : Text := n.message.toList.takeWhile (· ≠ '\n')

/-- the lines after the first one, as a log prints them: set in by four blanks -/
def furtherLines (n : Notice) : Text :=
  match n.message.toList.dropWhile (· ≠ '\n') with
  | [] => []
  | _ :: rest => setIn ++ (rest.flatMap fun c => if c = '\n' then '\n' :: setIn else [c]) ++ ['\n']
where
  setIn : Text := [' ', ' ', ' ', ' ']

end Notice

/-! ## answers with notices -/

/-- an answer together with the notices given on the way, in order -/
structure Noted (α : Type) where
  notices : List Notice
  value : α

namespace Noted

variable {α β : Type}

def note (n : Notice) : Noted Unit := ⟨[n], ()⟩

def noteAll (ns : List Notice) : Noted Unit := ⟨ns, ()⟩

instance : Monad Noted where
  pure a := ⟨[], a⟩
  bind x f := ⟨x.notices ++ (f x.value).notices, (f x.value).value⟩

@[simp] theorem value_pure (a : α) : (pure a : Noted α).value = a := rfl
@[simp] theorem value_bind (x : Noted α) (f : α → Noted β) :
    (x >>= f).value = (f x.value).value := rfl

end Noted

end Upkeep
