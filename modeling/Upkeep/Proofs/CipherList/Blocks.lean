import Mathlib.Data.List.Forall2
import Upkeep.CipherList.Document

/-!
# The blocks of the selected suites

The walk over the suite array (`Sources.blocksOf`) meets three kinds of suites: those it passes
over, those it resolves to a block, and one without an identifier, at which it fails.  The first
two are told apart by `Sources.selects`; `Sources.Resolves` says what the block is.  The walk
succeeds exactly when every selected suite resolves, and its blocks are those, one for each
occurrence and in order.

The same is then told from the tables alone: which suites survive (`Sources.Survives`), which of
them lack an identifier (`Sources.Lacks`), and what the block of a suite is (`Sources.Emits`).  Main
statement: the first suite in the array that lacks an identifier is the failure, and without one the
blocks are those of the surviving suites.
-/

namespace Upkeep.Sources

/-- a preference controls the suite and is on -/
def selects (s : Sources) (suite : Text) : Bool :=
  match s.control? suite with
  | some (_, on) => on
  | none => false

/-- the suite has an identifier, and this is its block -/
def Resolves (s : Sources) (suite : Text) (b : Block) : Prop :=
  ∃ v, s.protocol.values.find? suite = some v ∧ b = s.blockFor suite v.lower

variable {s : Sources}

theorem selects_iff {suite : Text} : s.selects suite = true ↔
    ∃ pref, s.table.preferenceFor? suite = some pref ∧ s.defaults.isEnabled pref = true := by
  unfold selects control?
  cases s.table.preferenceFor? suite with
  | none => simp
  | some pref => simp

theorem outcome_block? (s : Sources) (suite : Text) :
    (s.block? suite).outcome =
      if s.selects suite then (s.protocol.hexValue suite).map fun hex => some (s.blockFor suite hex)
      else .ok none := by
  unfold block? selects
  cases s.control? suite with
  | none => rfl
  | some c =>
    obtain ⟨pref, on⟩ := c
    cases on with
    | false => rfl
    | true =>
      show (Run.ofExcept (s.protocol.hexValue suite) >>= _).outcome = _
      rw [Run.outcome_bind, Run.outcome_ofExcept]
      cases s.protocol.hexValue suite with
      | error e => rfl
      | ok hex =>
        show Run.outcome (if (s.blockFor suite hex).unnamed = true then _ else _) = _
        split <;> rfl

theorem outcome_block?_eq_ok_iff {suite : Text} {o : Option Block} :
    (s.block? suite).outcome = .ok o ↔
      if s.selects suite then ∃ b, o = some b ∧ s.Resolves suite b else o = none := by
  rw [outcome_block?]
  by_cases h : s.selects suite = true
  · rw [if_pos h, if_pos h]
    unfold Resolves ProtocolIds.hexValue
    cases s.protocol.values.find? suite with
    | none => simp [Except.map]
    | some v => simp [Except.map, eq_comm]
  · rw [if_neg h, if_neg h]
    simp [eq_comm]

/-- the walk succeeds exactly when every selected suite resolves, and gives their blocks in order -/
theorem outcome_blocksOf_eq_ok_iff {suites : List Text} {bs : List Block} :
    (s.blocksOf suites).outcome = .ok bs ↔
      List.Forall₂ s.Resolves (suites.filter s.selects) bs := by
  induction suites generalizing bs with
  | nil =>
    show Except.ok [] = Except.ok bs ↔ _
    rw [List.filter_nil, List.forall₂_nil_left_iff, Except.ok.injEq, eq_comm]
  | cons suite suites ih =>
    show (s.block? suite >>= _).outcome = .ok bs ↔ _
    simp only [Run.outcome_bind_eq_ok_iff, outcome_block?_eq_ok_iff, ih]
    by_cases h : s.selects suite = true
    · simp only [if_pos h, List.filter_cons_of_pos h]
      constructor
      · rintro ⟨_, ⟨b, rfl, hb⟩, bs', hbs, he⟩
        obtain rfl : b :: bs' = bs := Except.ok.inj he
        exact .cons hb hbs
      · intro hf
        cases hf with
        | cons hb hbs => exact ⟨_, ⟨_, rfl, hb⟩, _, hbs, rfl⟩
    · simp only [if_neg h, List.filter_cons_of_neg h]
      constructor
      · rintro ⟨_, rfl, bs', hbs, he⟩
        obtain rfl : bs' = bs := Except.ok.inj he
        exact hbs
      · exact fun hf => ⟨_, rfl, _, hf, rfl⟩

/-! ## the blocks from the tables -/

/-- the table gives the suite a preference, and the value of that is `true` to the letter -/
def Survives (s : Sources) (suite : Text) : Prop :=
  ∃ pref, s.table.byMacro.find? suite = some pref ∧
    s.defaults.values.find? pref = some "true".toList

def Lacks (s : Sources) (suite : Text) : Prop :=
  s.Survives suite ∧ s.protocol.values.find? suite = none

/-- the block of a suite: under its text macro, or under its own name where there is none -/
inductive Emits (s : Sources) (suite : Text) : Block → Prop
  | named {v name : Text} : s.protocol.values.find? suite = some v →
      s.index.textMacro? s.layout v.lower = some name → Emits s suite ⟨v.lower, name, false⟩
  | unnamed {v : Text} : s.protocol.values.find? suite = some v →
      s.index.textMacro? s.layout v.lower = none → Emits s suite ⟨v.lower, suite, true⟩

theorem survives_iff_selects {suite : Text} : s.Survives suite ↔ s.selects suite = true := by
  rw [selects_iff]
  refine exists_congr fun pref => and_congr_right fun _ => ?_
  show _ ↔ (((s.defaults.values.find? pref).getD "false".toList) == "true".toList) = true
  -- a preference without a value counts as `false`, which is not `true`
  cases s.defaults.values.find? pref with
  | none => simp
  | some v => simp

instance (s : Sources) : DecidablePred s.Survives :=
  fun _ => decidable_of_iff _ survives_iff_selects.symm

instance (s : Sources) : DecidablePred s.Lacks :=
  fun suite => inferInstanceAs (Decidable (s.Survives suite ∧ _))

theorem emits_blockFor {suite v : Text} (hv : s.protocol.values.find? suite = some v) :
    s.Emits suite (s.blockFor suite v.lower) := by
  unfold blockFor
  cases hname : s.index.textMacro? s.layout v.lower with
  | none => exact .unnamed hv hname
  | some name => exact .named hv hname

theorem outcome_block?_of_lacks {suite : Text} (h : s.Lacks suite) :
    (s.block? suite).outcome = .error (.undefinedSuite suite) := by
  obtain ⟨hs, hv⟩ := h
  rw [outcome_block?, if_pos (survives_iff_selects.1 hs), ProtocolIds.hexValue, hv]
  rfl

theorem outcome_block?_of_not_lacks {suite : Text} (h : ¬ s.Lacks suite) :
    ∃ o, (s.block? suite).outcome = .ok o ∧
      List.Forall₂ s.Emits ([suite].filter fun x => s.Survives x) o.toList := by
  rw [outcome_block?]
  by_cases hs : s.Survives suite
  · rw [if_pos (survives_iff_selects.1 hs), ProtocolIds.hexValue,
      List.filter_cons_of_pos (by simpa using hs)]
    cases hv : s.protocol.values.find? suite with
    | none => exact absurd ⟨hs, hv⟩ h
    | some v => exact ⟨_, rfl, .cons (emits_blockFor hv) .nil⟩
  · rw [if_neg fun hsel => hs (survives_iff_selects.2 hsel),
      List.filter_cons_of_neg (by simpa using hs)]
    exact ⟨none, rfl, .nil⟩

theorem outcome_blocksOf_cons (s : Sources) (suite : Text) (suites : List Text) :
    (s.blocksOf (suite :: suites)).outcome = (s.block? suite).outcome.bind fun b =>
      (s.blocksOf suites).outcome.bind fun bs => .ok (b.toList ++ bs) := by
  show (s.block? suite >>= _).outcome = _
  simp only [Run.outcome_bind, Run.outcome_pure]

theorem outcome_blocksOf_of_lacks {before : List Text} {suite : Text}
    (hbefore : ∀ x ∈ before, ¬ s.Lacks x) (h : s.Lacks suite) (after : List Text) :
    (s.blocksOf (before ++ suite :: after)).outcome = .error (.undefinedSuite suite) := by
  induction before with
  | nil =>
    rw [List.nil_append, outcome_blocksOf_cons, outcome_block?_of_lacks h]
    rfl
  | cons x before ih =>
    obtain ⟨o, ho, -⟩ := outcome_block?_of_not_lacks (hbefore x List.mem_cons_self)
    have hrest := ih fun y hy => hbefore y (List.mem_cons_of_mem _ hy)
    rw [List.cons_append, outcome_blocksOf_cons, ho, hrest]
    rfl

theorem outcome_blocksOf_of_not_lacks {suites : List Text} (h : ∀ x ∈ suites, ¬ s.Lacks x) :
    ∃ bs, (s.blocksOf suites).outcome = .ok bs ∧
      List.Forall₂ s.Emits (suites.filter fun x => s.Survives x) bs := by
  induction suites with
  | nil => exact ⟨[], rfl, .nil⟩
  | cons x suites ih =>
    obtain ⟨o, ho, hb⟩ := outcome_block?_of_not_lacks (h x List.mem_cons_self)
    obtain ⟨bs, hrest, hbs⟩ := ih fun y hy => h y (List.mem_cons_of_mem _ hy)
    refine ⟨o.toList ++ bs, ?_, ?_⟩
    · rw [outcome_blocksOf_cons, ho, hrest]
      rfl
    · rw [← List.singleton_append, List.filter_append]
      exact List.rel_append hb hbs

/-- **The blocks are settled by the tables.**  The first surviving suite of the array without an
identifier is the failure; a suite that does not survive needs none.  Otherwise there is one block
for each place of the array with a surviving suite, in order. -/
theorem outcome_blocks_settled (s : Sources) :
    match s.suites.find? fun suite => s.Lacks suite with
    | some suite => s.blocks.outcome = .error (.undefinedSuite suite)
    | none => ∃ bs, s.blocks.outcome = .ok bs ∧
        List.Forall₂ s.Emits (s.suites.filter fun suite => s.Survives suite) bs := by
  cases hfind : s.suites.find? fun suite => s.Lacks suite with
  | some suite =>
    obtain ⟨hlacks, before, after, hsuites, hbefore⟩ := List.find?_eq_some_iff_append.1 hfind
    show (s.blocksOf s.suites).outcome = _
    rw [hsuites]
    exact outcome_blocksOf_of_lacks (by simpa using hbefore) (by simpa using hlacks) after
  | none =>
    have hnone := List.find?_eq_none.1 hfind
    exact outcome_blocksOf_of_not_lacks (by simpa using hnone)

end Upkeep.Sources
