import Upkeep.IoFault
import Upkeep.Notice

/-!
# Failures

The conditions that end a run, as causes, with one wording each.  What a run can recover from (a
header that is not there, a suite without an OpenSSL name) is a notice and no failure.
-/

namespace Upkeep

inductive TableFault where
  | entryWhilePending
  | openerWhilePending
  | closerWithoutPending
deriving DecidableEq, Repr

def TableFault.message : TableFault → String
  | entryWhilePending => "complete entry while a name is pending"
  | openerWhilePending => "entry opener while a name is pending"
  | closerWithoutPending => "entry closer without a pending name"

inductive Failure where
  | unreadable (path : Text) (cause : IoFault)
  /-- a line of the preference table cannot stand where it stands; lines count from 1 -/
  | malformedTable (lineNumber : Nat) (line : Text) (fault : TableFault)
  /-- a selected suite has no protocol identifier -/
  | undefinedSuite (macroName : Text)
  | badLayout (path : Text) (message : Text)
  /-- reading or writing fails outside of any named file -/
  | stream (cause : IoFault)
deriving DecidableEq, Repr

namespace Failure

def message : Failure → String
  | unreadable path cause => "Failed to read " ++ path.string ++ ": " ++ cause.text.string
  | malformedTable lineNumber line fault =>
    "Malformed cipher preference table at line " ++ toString lineNumber ++ " (" ++
      fault.message ++ "): " ++ line.string
  | undefinedSuite macroName =>
    "No protocol definition for cipher suite macro " ++ macroName.string
  | badLayout path message => "Configuration error in " ++ path.string ++ ": " ++ message.string
  | stream cause => cause.text.string

def source? : Failure → Option IoFault
  | unreadable _ cause => some cause
  | _ => none

/-- a fault of a stream becomes one of the file at `path`; other failures stay -/
def withPath (path : Text) : Failure → Failure
  | stream cause => unreadable path cause
  | other => other

end Failure

/-- an answer or a failure, with the notices given on the way -/
abbrev Run := ExceptT Failure Noted

namespace Run

variable {α : Type}

def note (n : Notice) : Run Unit := ExceptT.lift (Noted.note n)

def noteAll (ns : List Notice) : Run Unit := ExceptT.lift (Noted.noteAll ns)

def ofExcept (x : Except Failure α) : Run α := ExceptT.mk (pure x)

def ofStream (x : Except IoFault α) : Run α := ofExcept (x.mapError .stream)

/-- the failure, if there is one, put in the context of the file at `path` -/
def inFile (path : Text) (x : Run α) : Run α :=
  ExceptT.mk ⟨x.run.notices, x.run.value.mapError (Failure.withPath path)⟩

def outcome (x : Run α) : Except Failure α := x.run.value

def notices (x : Run α) : List Notice := x.run.notices

/-! ## the outcome step by step -/

variable {β : Type}

@[simp] theorem outcome_pure (a : α) : (pure a : Run α).outcome = .ok a := rfl
@[simp] theorem outcome_throw (e : Failure) : (throw e : Run α).outcome = .error e := rfl
@[simp] theorem outcome_note (n : Notice) : (note n).outcome = .ok () := rfl
@[simp] theorem outcome_noteAll (ns : List Notice) : (noteAll ns).outcome = .ok () := rfl
@[simp] theorem outcome_ofExcept (x : Except Failure α) : (ofExcept x).outcome = x := rfl
@[simp] theorem outcome_ofStream (x : Except IoFault α) :
    (ofStream x).outcome = x.mapError .stream := rfl
@[simp] theorem outcome_inFile (path : Text) (x : Run α) :
    (x.inFile path).outcome = x.outcome.mapError (Failure.withPath path) := rfl

@[simp] theorem mapError_ok {ε ε' : Type} (f : ε → ε') (a : α) :
    (Except.ok a : Except ε α).mapError f = .ok a := rfl
@[simp] theorem mapError_error {ε ε' : Type} (f : ε → ε') (e : ε) :
    (Except.error e : Except ε α).mapError f = .error (f e) := rfl

theorem mapError_eq_ok_iff {ε ε' : Type} {f : ε → ε'} {x : Except ε α} {a : α} :
    x.mapError f = .ok a ↔ x = .ok a := by
  cases x with
  | error e => simp
  | ok b => simp

theorem mapError_eq_error_iff {ε ε' : Type} {f : ε → ε'} {x : Except ε α} {e' : ε'} :
    x.mapError f = .error e' ↔ ∃ e, x = .error e ∧ f e = e' := by
  cases x with
  | error e => simp
  | ok a => simp

theorem outcome_bind (x : Run α) (f : α → Run β) :
    (x >>= f).outcome = x.outcome.bind fun a => (f a).outcome := by
  show (ExceptT.bindCont f x.run.value).value = _
  unfold outcome
  cases x.run.value with
  | error e => rfl
  | ok a => rfl

theorem outcome_bind_ok {x : Run α} {a : α} (h : x.outcome = .ok a) (f : α → Run β) :
    (x >>= f).outcome = (f a).outcome := by
  rw [outcome_bind, h]
  rfl

theorem outcome_bind_eq_ok_iff {x : Run α} {f : α → Run β} {b : β} :
    (x >>= f).outcome = .ok b ↔ ∃ a, x.outcome = .ok a ∧ (f a).outcome = .ok b := by
  rw [outcome_bind]
  cases x.outcome with
  | error e => simp [Except.bind]
  | ok a => simp [Except.bind]

theorem outcome_bind_eq_error_iff {x : Run α} {f : α → Run β} {e : Failure} :
    (x >>= f).outcome = .error e ↔
      x.outcome = .error e ∨ ∃ a, x.outcome = .ok a ∧ (f a).outcome = .error e := by
  rw [outcome_bind]
  cases x.outcome with
  | error e' => simp [Except.bind]
  | ok a => simp [Except.bind]

theorem bind_congr {x : Run α} {f g : α → Run β} (h : ∀ a, x.outcome = .ok a → f a = g a) :
    x >>= f = x >>= g := by
  have hc : ExceptT.bindCont f x.run.value = ExceptT.bindCont g x.run.value := by
    cases hx : x.run.value with
    | error e => rfl
    | ok a => exact h a hx
  show (⟨x.run.notices ++ (ExceptT.bindCont f x.run.value).notices,
    (ExceptT.bindCont f x.run.value).value⟩ : Noted _) = _
  rw [hc]
  rfl

/-! ## the notices step by step -/

@[simp] theorem notices_noteAll (ns : List Notice) : (noteAll ns).notices = ns :=
  List.append_nil ns

/-- the notices of a step that has an answer come before those of what follows it -/
theorem notices_bind_ok {x : Run α} {a : α} (h : x.outcome = .ok a) (f : α → Run β) :
    (x >>= f).notices = x.notices ++ (f a).notices := by
  show x.run.notices ++ (ExceptT.bindCont f x.run.value).notices = _
  have hvalue : x.run.value = .ok a := h
  rw [hvalue]
  rfl

end Run

end Upkeep
