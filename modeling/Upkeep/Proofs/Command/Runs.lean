import Upkeep.Command.Session
import Upkeep.Proofs.CipherList.Rendering
import Upkeep.Proofs.CipherList.Selection
import Upkeep.Proofs.Command.OutputArgument
import Upkeep.Proofs.Files.Writing

/-!
# Runs with and without an output file

The list is written piece by piece, to standard output or to memory, and what becomes of it is told
from its whole text (`Sources.value_generate_eq_put`): a failure of the layout, of the loading or of
the blocks comes before the first byte.  So the list, or the report of why there is none, does not
depend on where the list goes (`listing`), and the work ends by passing the list on whole or by
reporting with nothing printed (`value_work`).  From there a run that prints and a run that saves
differ only in the last step.

Standard output may itself fail in the middle of the list.  That is the one way in which a run that
fails can have printed anything (`runWithin_failed`), and with a standard output that takes
everything it cannot happen (`run_failed`).
-/

namespace Upkeep.Session

/-- the list, or the report of why there is none -/
def listing (a : Arguments) (disk : Disk) : Except Report Bytes :=
  match (layout a disk).outcome with
  | .error e => .error (.ofFailure e)
  | .ok l =>
    match Sources.document l disk a.firefox a.openssl with
    | .error e => .error (.ofGeneration e)
    | .ok t => .ok (Text.encode t)

variable {room : Option Nat} {i j k : Invocation} {a : Arguments} {t : Tree} {p : Path}

/-- without a list nothing is printed, and a list is passed on whole -/
theorem value_work (room : Option Nat) (a : Arguments) (disk : Disk) :
    (work room a disk).value =
      match listing a disk with
      | .error r => .fail r []
      | .ok content =>
        deliver a.output ⟨((sinkFor room a.output).put content).1,
          ((sinkFor room a.output).put content).2.map .stream⟩ := by
  unfold work listing Run.outcome
  rw [Noted.value_bind]
  cases (layout a disk).run.value with
  | error e => rfl
  | ok l =>
    show deliver a.output (Sources.generate l disk a.firefox a.openssl _).value = _
    rw [Sources.value_generate_eq_put]
    dsimp only
    cases Sources.document l disk a.firefox a.openssl with
    | error e =>
      -- the sink is as it was, and there was nothing in it
      cases a.output with
      | none => rfl
      | some path => rfl
    | ok text => rfl

/-! ## how a run ends -/

/-- the ways in which a run can end, with a standard output that takes `room` bytes: what it shows,
and the tree afterwards -/
inductive Ends (room : Option Nat) (a : Arguments) (t : Tree) : Outcome → Tree → Prop where
  /-- there is no list -/
  | unlisted {o : Outcome} {r : Report} : listing a t.disk = .error r →
      o.status = 1 → o.stdout = [] → o.report = r.text → Ends room a t o t
  | printed {o : Outcome} {content : Bytes} : a.output = none → listing a t.disk = .ok content →
      o.status = 0 → o.stdout = content → o.report = [] → Ends room a t o t
  /-- there is a list, and standard output does not take all of it -/
  | unprinted {o : Outcome} {content : Bytes} {e : IoFault} : a.output = none →
      listing a t.disk = .ok content → ((Sink.new room).put content).2 = some e →
      o.status = 1 → o.stdout = ((Sink.new room).put content).1.written →
      o.report = (Report.ofGeneration (.stream e)).text → Ends room a t o t
  | saved {o : Outcome} {path : Path} {content : Bytes} {t' : Tree} : a.output = some path →
      listing a t.disk = .ok content → t.write path content = .ok t' →
      o.status = 0 → o.stdout = [] → o.report = [] → Ends room a t o t'
  /-- there is a list, and its file cannot be written -/
  | unsaved {o : Outcome} {path : Path} {content : Bytes} {e : IoFault} : a.output = some path →
      listing a t.disk = .ok content → t.write path content = .error e →
      o.status = 1 → o.stdout = [] → o.report = (Report.ofWriting path e).text → Ends room a t o t

theorem run_ends (hi : Arguments.parse i.args i.layoutVariable = .ok a) (room : Option Nat)
    (t : Tree) : Ends room a t (runWithin room i t).1 (runWithin room i t).2 := by
  unfold runWithin conclude
  rw [hi]
  cases hl : listing a t.disk with
  | error r =>
    simp only [value_work, hl]
    exact .unlisted hl rfl rfl rfl
  | ok content =>
    simp only [value_work, hl]
    cases ho : a.output with
    | none =>
      cases hp : ((Sink.new room).put content).2 with
      | none =>
        simp only [deliver, sinkFor, hp, Option.map_none]
        exact .printed ho hl rfl (Sink.written_of_put (Prod.ext rfl hp)) rfl
      | some e =>
        simp only [deliver, sinkFor, hp, Option.map_some]
        exact .unprinted ho hl hp rfl rfl rfl
    | some path =>
      -- memory takes the whole list
      have hsave : deliver (some path) ⟨((sinkFor room (some path)).put content).1,
          ((sinkFor room (some path)).put content).2.map .stream⟩ = .save path content := rfl
      simp only [hsave, carryOut]
      cases hw : t.write path content with
      | error e => exact .unsaved ho hl hw rfl rfl rfl
      | ok t' => exact .saved ho hl hw rfl rfl rfl

theorem Ends.status_of_print {o : Outcome} {t' : Tree} {content : Bytes} (h : Ends none a t o t')
    (ha : a.output = none) (hl : listing a t.disk = .ok content) : o.status = 0 := by
  cases h with
  | unlisted hl' => cases hl.symm.trans hl'
  | printed _ _ hs => exact hs
  | unprinted _ _ hp => cases hp
  | saved ho => cases ha.symm.trans ho
  | unsaved ho => cases ha.symm.trans ho

/-- a run that fails has left every file alone, and has printed nothing unless it was standard
output that failed -/
theorem runWithin_failed (h : (runWithin room i t).1.status ≠ 0) :
    (runWithin room i t).2 = t ∧
      ((runWithin room i t).1.stdout = [] ∨ (run i t).1.status = 0) := by
  cases hi : Arguments.parse i.args i.layoutVariable with
  | error r =>
    have hr : runWithin room i t = (reject room i r, t) := by
      unfold runWithin
      rw [hi]
    rw [hr] at h ⊢
    cases r with
    | helpAsked => exact absurd rfl h
    | versionAsked => exact absurd rfl h
    | missingRequired => exact ⟨rfl, .inl rfl⟩
    | unknownArgument => exact ⟨rfl, .inl rfl⟩
    | invalidValue => exact ⟨rfl, .inl rfl⟩
    | conflict => exact ⟨rfl, .inl rfl⟩
    | tooManyValues => exact ⟨rfl, .inl rfl⟩
  | ok a =>
    generalize ht : (runWithin room i t).2 = t'
    have he := run_ends hi room t
    rw [ht] at he
    cases he with
    | unlisted _ _ ho => exact ⟨rfl, .inl ho⟩
    | printed _ _ hs => exact absurd hs h
    | unprinted ho hl => exact ⟨rfl, .inr ((run_ends hi none t).status_of_print ho hl)⟩
    | saved _ _ _ hs => exact absurd hs h
    | unsaved _ _ _ _ ho => exact ⟨rfl, .inl ho⟩

theorem run_failed (h : (run i t).1.status ≠ 0) : (run i t).1.stdout = [] ∧ (run i t).2 = t := by
  obtain ⟨htree, hout | hs⟩ := runWithin_failed h
  · exact ⟨hout, htree⟩
  · exact absurd hs h

/-! ## the two outputs -/

variable {o : Outcome} {t' : Tree} {content : Bytes}

theorem Ends.of_print (h : Ends none a t o t') (ha : a.output = none) :
    t' = t ∧ ∀ content, listing a t.disk = .ok content ↔ o.status = 0 ∧ o.stdout = content := by
  cases h with
  | unlisted hl hs =>
    refine ⟨rfl, fun content => ?_⟩
    rw [hl, hs]
    simp
  | printed _ hl hs ho =>
    refine ⟨rfl, fun content => ?_⟩
    rw [hl, hs, ho]
    simp
  | unprinted _ _ hp => cases hp
  | saved ho => cases ha.symm.trans ho
  | unsaved ho => cases ha.symm.trans ho

theorem Ends.of_save (h : Ends room a t o t') (ha : a.output = some p) (hs : o.status = 0) :
    o.stdout = [] ∧ ∃ content, listing a t.disk = .ok content ∧ t.write p content = .ok t' := by
  cases h with
  | unlisted _ h1 => exact absurd (h1.symm.trans hs) Nat.one_ne_zero
  | printed ho => cases ha.symm.trans ho
  | unprinted ho => cases ha.symm.trans ho
  | saved ho hl hw _ hout =>
    obtain rfl := Option.some.inj (ha.symm.trans ho)
    exact ⟨hout, _, hl, hw⟩
  | unsaved _ _ _ h1 => exact absurd (h1.symm.trans hs) Nat.one_ne_zero

theorem Ends.of_unsaved (h : Ends room a t o t') (ha : a.output = some p) (hs : o.status ≠ 0)
    (hl : listing a t.disk = .ok content) :
    ∃ e, t.write p content = .error e ∧ o.report = (Report.ofWriting p e).text := by
  cases h with
  | unlisted hl' =>
    rw [hl] at hl'
    cases hl'
  | printed ho => cases ha.symm.trans ho
  | unprinted ho => cases ha.symm.trans ho
  | saved _ _ _ h0 => exact absurd h0 hs
  | unsaved ho hl' hw _ _ hr =>
    obtain rfl := Option.some.inj (ha.symm.trans ho)
    obtain rfl := Except.ok.inj (hl.symm.trans hl')
    exact ⟨_, hw, hr⟩

theorem Ends.status_of_write {t'' : Tree} (h : Ends room a t o t') (ha : a.output = some p)
    (hl : listing a t.disk = .ok content) (hw : t.write p content = .ok t'') : o.status = 0 := by
  refine Decidable.byContradiction fun hs => ?_
  obtain ⟨e, he, -⟩ := h.of_unsaved ha hs hl
  cases hw.symm.trans he

/-- **A run that fails changes nothing, and saving the list is printing it into a file.**  Of two
runs that differ in the output alone, the one that saves succeeds exactly when the one that prints
does and the file can be written.  Then it leaves in the file what the other prints, and changes no
other place; else, where the other succeeds, it says why the file cannot be written. -/
theorem run_output_agrees (t : Tree) :
    (∀ k, (run k t).1.status ≠ 0 → (run k t).1.stdout = [] ∧ (run k t).2 = t) ∧
    ∀ {i j : Invocation} {a : Arguments} {p : Path},
      Arguments.parse i.args i.layoutVariable = .ok { a with output := some p } →
      Arguments.parse j.args j.layoutVariable = .ok { a with output := none } →
      (run j t).2 = t ∧
      ((run i t).1.status = 0 ↔ (run j t).1.status = 0 ∧ ∃ place, t.target p = .ok place) ∧
      ((run i t).1.status = 0 → (run i t).1.stdout = [] ∧
        (run i t).2.openAt p = .ok (.file (run j t).1.stdout) ∧
        ∃ place, t.target p = .ok place ∧ ∀ q ≠ place, (run i t).2.at? q = t.at? q) ∧
      ((run j t).1.status = 0 → (run i t).1.status ≠ 0 → ∃ e, t.target p = .error e ∧
        (run i t).1.report = (Report.ofWriting p e).text) := by
  refine ⟨fun k => run_failed, ?_⟩
  intro i j a p hi hj
  have hsave : Ends none _ t (run i t).1 (run i t).2 := run_ends hi none t
  have hprint : Ends none _ t (run j t).1 (run j t).2 := run_ends hj none t
  obtain ⟨htree, hprint⟩ := hprint.of_print rfl
  -- the list does not depend on the output
  change ∀ content, listing { a with output := some p } t.disk = .ok content ↔ _ at hprint
  refine ⟨htree, ⟨?_, ?_⟩, ?_, ?_⟩
  · intro h0
    obtain ⟨-, content, hl, hw⟩ := hsave.of_save rfl h0
    obtain ⟨place, hp, -⟩ := Tree.write_eq_ok_iff.1 hw
    exact ⟨((hprint content).1 hl).1, place, hp⟩
  · rintro ⟨hj0, place, hp⟩
    have hl := (hprint _).2 ⟨hj0, rfl⟩
    exact hsave.status_of_write rfl hl (Tree.write_eq_ok_iff.2 ⟨place, hp, rfl⟩)
  · intro h0
    obtain ⟨hout, content, hl, hw⟩ := hsave.of_save rfl h0
    obtain ⟨-, hc⟩ := (hprint content).1 hl
    obtain ⟨place, hp, -⟩ := Tree.write_eq_ok_iff.1 hw
    refine ⟨hout, ?_, place, hp, ?_⟩
    · rw [hc]
      exact Tree.openAt_write hw
    · intro q hq
      rw [Tree.at?_write hp hw, if_neg hq]
  · intro hj0 hi0
    have hl := (hprint _).2 ⟨hj0, rfl⟩
    obtain ⟨e, hw, hr⟩ := hsave.of_unsaved rfl hi0 hl
    exact ⟨e, Tree.write_eq_error_iff.1 hw, hr⟩

/-! A small tree with one suite.  The file to write is one of those that the list is computed
from. -/

def sampleTree : Tree := ⟨[
  (Path.components "f/security/manager/ssl/nsNSSComponent.cpp".toList, Sources.sampleFile [
    "static const CipherPref sCipherPrefs[]", "\x7b \"security.ssl3.a\", A \x7d,",
    "\x7b nullptr, 0\x7d"]),
  (Path.components "f/security/nss/lib/ssl/ssl3con.c".toList, Sources.sampleFile [
    "ssl3CipherSuiteCfg cipherSuites[", "\x7bA,", "\x7d;"]),
  (Path.components "f/netwerk/base/security-prefs.js".toList, Sources.sampleFile [
    "pref(\"security.ssl3.a\", true)"]),
  (Path.components "f/security/nss/lib/ssl/sslproto.h".toList, Sources.sampleFile [
    "#define A 0x1"])]⟩

def samplePrinting : Invocation := ⟨[['f'], ['o']], none, none⟩

def sampleOutput : Path := "f/security/nss/lib/ssl/sslproto.h".toList

def sampleSaving : Invocation :=
  { samplePrinting with args := ("--output=".toList ++ sampleOutput) :: samplePrinting.args }

theorem run_output_agrees_sample :
    (run sampleSaving sampleTree).1.status = 0 ∧ (run sampleSaving sampleTree).1.stdout = [] ∧
    (run samplePrinting sampleTree).1.status = 0 ∧ (run samplePrinting sampleTree).2 = sampleTree ∧
    (run sampleSaving sampleTree).2.openAt sampleOutput =
      .ok (.file (run samplePrinting sampleTree).1.stdout) ∧
    ∃ place, sampleTree.target sampleOutput = .ok place ∧
      ∀ q ≠ place, (run sampleSaving sampleTree).2.at? q = sampleTree.at? q := by
  have hj : Arguments.parse samplePrinting.args samplePrinting.layoutVariable =
      .ok ⟨['f'], ['o'], none, none, 0⟩ := rfl
  have hi : Arguments.parse sampleSaving.args sampleSaving.layoutVariable =
      .ok ⟨['f'], ['o'], some sampleOutput, none, 0⟩ :=
    Arguments.parse_output hj rfl (by decide)
  have h0 : (run sampleSaving sampleTree).1.status = 0 := by decide +kernel
  obtain ⟨-, hr⟩ := run_output_agrees sampleTree
  obtain ⟨ht, hiff, hs, -⟩ := hr (a := ⟨['f'], ['o'], none, none, 0⟩) hi hj
  obtain ⟨hout, hopen, hplace⟩ := hs h0
  exact ⟨h0, hout, (hiff.1 h0).1, ht, hopen, hplace⟩

end Upkeep.Session
