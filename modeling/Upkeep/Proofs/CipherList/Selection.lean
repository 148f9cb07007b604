import Upkeep.Files.Tree
import Upkeep.Proofs.CipherList.Blocks
import Upkeep.Proofs.CipherList.Load
import Upkeep.Proofs.PrefTable.Parse

/-!
# Which suites the generated file has

The list is computed through two dictionaries, a set of defaults and a walk.  Here the suites in it
are told from the source files alone: from the entries of the preference table (`TableEntries`),
the suites of the array (`ArraySuites`) and the `pref` lines (`PrefCalls`).  A suite is in the list
(`Selected`) when its last enabled entry has a preference in the namespace, and the last line of
that preference says `true`.  Main statement: the file written is the header with one block for
each place of the array that holds such a suite, in order.
-/

namespace Upkeep

open EntryLine PrefEntry

/-! ## defaults -/

namespace PrefDefaults

theorem isEnabled_ofList_iff {space : Text} {calls : List (Text × Text)} {pref : Text} :
    (ofList (calls.filter fun c => space.isPrefixOf c.1)).isEnabled pref = true ↔
      space <+: pref ∧
      (calls.filter fun c => c.1 = pref).getLast? = some (pref, "true".toList) := by
  show (((Dictionary.ofList _).find? pref).getD "false".toList == "true".toList) = true ↔ _
  rw [Dictionary.find?_ofList_eq_getLast?, List.filter_filter, beq_iff_eq]
  by_cases hs : space <+: pref
  · have hf : ∀ c ∈ calls, (decide (c.1 = pref) && space.isPrefixOf c.1) = decide (c.1 = pref) := by
      intro c _
      by_cases hc : c.1 = pref
      · simpa [hc] using hs
      · simp [hc]
    rw [List.filter_congr hf]
    cases hl : (calls.filter fun c => c.1 = pref).getLast? with
    | none => simp
    | some c =>
      have hc : c.1 = pref := by simpa using List.of_mem_filter (List.mem_of_getLast? hl)
      obtain ⟨k, v⟩ := c
      obtain rfl : k = pref := hc
      simp [hs]
  · have hf : ∀ c ∈ calls, (decide (c.1 = pref) && space.isPrefixOf c.1) = false := by
      intro c _
      by_cases hc : c.1 = pref
      · simpa [hc, ← Bool.not_eq_true] using hs
      · simp [hc]
    rw [List.filter_congr hf, List.filter_false]
    simp [hs]

end PrefDefaults

/-! ## the tables of the Firefox tree -/

variable (l : Layout) (disk : Disk) (firefox : Path)

/-- the entries of the preference table -/
def TableEntries (es : List PrefEntry) : Prop :=
  ∃ o block left, disk.open? (firefox.join l.tableFile) = .ok o ∧
    (PrefTable.block l.tableStart l.tableEnd o.lines).outcome = .ok block ∧
    Reading ((located 1 block).map (·.kind)) es left

/-- the suites of the array -/
def ArraySuites (suites : List Text) : Prop :=
  ∃ o, disk.open? (firefox.join l.suitesFile) = .ok o ∧
    (SuiteArray.read l.suitesMarker l.suitesEnd o.lines).outcome = .ok suites

/-- the preference and the value of each `pref` line -/
def PrefCalls (calls : List (Text × Text)) : Prop :=
  ∃ (o : Opened) (ts : List Text), disk.open? (firefox.join l.defaultsFile) = .ok o ∧
    o.lines = ts.map .ok ∧ calls = ts.filterMap PrefDefaults.call?

/-- the last enabled entry of the suite has a preference in the namespace `space`, and the last
`pref` line of that preference has the value `true` -/
def Selected (space : Text) (es : List PrefEntry) (calls : List (Text × Text)) (suite : Text) :
    Prop :=
  ∃ e ∈ lastFor es suite, space <+: e.name ∧
    (calls.filter fun c => c.1 = e.name).getLast? = some (e.name, "true".toList)

instance (space : Text) (es : List PrefEntry) (calls : List (Text × Text)) :
    DecidablePred (Selected space es calls) :=
  fun suite => inferInstanceAs (Decidable (∃ e ∈ lastFor es suite, _))

namespace Sources

variable {l disk firefox} {openssl : Path} {s : Sources}

/-- the walk selects what the source files select -/
theorem selects_eq_decide_selected {es : List PrefEntry} {calls : List (Text × Text)}
    (ht : s.table.Indexes es)
    (hd : s.defaults = .ofList (calls.filter fun c => l.prefNamespace.isPrefixOf c.1))
    (suite : Text) : s.selects suite = decide (Selected l.prefNamespace es calls suite) := by
  rw [Bool.eq_iff_iff, selects_iff, decide_eq_true_iff]
  unfold PrefTable.preferenceFor? Selected
  rw [ht.byMacro, hd]
  simp only [PrefDefaults.isEnabled_ofList_iff, Option.map_eq_some_iff, Option.mem_def]
  constructor
  · rintro ⟨_, ⟨e, he, rfl⟩, hp⟩
    exact ⟨e, he, hp⟩
  · rintro ⟨e, he, hp⟩
    exact ⟨_, ⟨e, he, rfl⟩, hp⟩

/-- what is loaded comes from the entries, the suites and the `pref` lines of the source files -/
theorem tables_of_load (h : (load l disk firefox openssl).outcome = .ok s) :
    ∃ es calls, TableEntries l disk firefox es ∧ s.table.Indexes es ∧
      ArraySuites l disk firefox s.suites ∧ PrefCalls l disk firefox calls ∧
      s.defaults = .ofList (calls.filter fun c => l.prefNamespace.isPrefixOf c.1) := by
  obtain ⟨-, ht, hs, hd, -, -⟩ := outcome_load_eq_ok_iff.1 h
  obtain ⟨o₁, ho₁, ht⟩ := outcome_readFile_eq_ok_iff.1 ht
  obtain ⟨block, hb, hp⟩ := Run.outcome_bind_eq_ok_iff.1 ht
  obtain ⟨es, left, hr⟩ := PrefTable.readable_of_parse hp
  obtain ⟨o₃, ho₃, hd⟩ := outcome_readFile_eq_ok_iff.1 hd
  obtain ⟨ts, hts, hd⟩ := PrefDefaults.outcome_read_eq_ok_iff.1 hd
  exact ⟨es, ts.filterMap PrefDefaults.call?, ⟨o₁, block, left, ho₁, hb, hr⟩,
    PrefTable.indexes_of_parse hp hr, outcome_readFile_eq_ok_iff.1 hs, ⟨o₃, ts, ho₃, hts, rfl⟩, hd⟩

/-- **The file has one block for each selected place of the array.**  The suites selected are told
from the source files, each occurrence counts, and the order is that of the array. -/
theorem generate_writes_selected {sink : Sink}
    (h : (generate l disk firefox openssl sink).value.failure? = none) :
    ∃ es suites calls s bs, TableEntries l disk firefox es ∧ ArraySuites l disk firefox suites ∧
      PrefCalls l disk firefox calls ∧ (load l disk firefox openssl).outcome = .ok s ∧
      List.Forall₂ s.Resolves (suites.filter (Selected l.prefNamespace es calls)) bs ∧
      (generate l disk firefox openssl sink).value.sink.written = sink.written ++
        Text.encode (Document.header ++ ['\n'] ++ bs.flatMap fun b => b.text ++ ['\n']) := by
  obtain ⟨s, bs, hl, hb, hw⟩ := written_of_generate h
  obtain ⟨es, calls, ht, hi, hs, hc, hd⟩ := tables_of_load hl
  refine ⟨es, s.suites, calls, s, bs, ht, hs, hc, hl, ?_, ?_⟩
  · rw [← funext (selects_eq_decide_selected hi hd)]
    exact outcome_blocksOf_eq_ok_iff.1 hb
  · rw [hw, List.flatMap_def]
    rfl

/-! A small tree: the last entry of `A` counts, `B` stands twice in the array, and the preference of
`C` is on but outside the namespace. -/

def sampleLayout : Layout where
  tableFile := ['t']
  tableStart := ['[']
  tableEnd := [']']
  suitesFile := ['s']
  suitesMarker := ['[']
  suitesEnd := [']']
  defaultsFile := ['d']
  prefNamespace := ['n']
  protocolHeader := ['p']
  includeDir := ['i']
  headers := [['h']]
  hexPrefix := "0x0".toList
  idMarker := ['K']
  textMarker := ['T']

def sampleFile (lines : List String) : Opened :=
  .file (Text.encode (Text.unlines (lines.map String.toList)))

def sampleTree : Upkeep.Tree := ⟨[
  ([['t']], sampleFile ["[", "\x7b \"m\", A, true \x7d,", "\x7b \"n\",", "A, true \x7d,",
    "\x7b \"nb\", B, true \x7d,", "\x7b \"m\", C, true \x7d,", "]"]),
  ([['s']], sampleFile ["[", "\x7bB,", "\x7bA,", "\x7bC,", "\x7bB,", "]"]),
  ([['d']], sampleFile ["pref(\"n\",true)", "pref(\"nb\",true)", "pref(\"m\",true)"]),
  ([['p']], sampleFile ["#define A 0x1", "#define B 0x2"])]⟩

theorem generate_writes_selected_sample :
    (generate sampleLayout sampleTree.disk [] ['o'] (.new none)).value.failure? = none ∧
    ∃ es suites calls s bs, TableEntries sampleLayout sampleTree.disk [] es ∧
      ArraySuites sampleLayout sampleTree.disk [] suites ∧
      PrefCalls sampleLayout sampleTree.disk [] calls ∧
      (load sampleLayout sampleTree.disk [] ['o']).outcome = .ok s ∧
      List.Forall₂ s.Resolves (suites.filter (Selected ['n'] es calls)) bs ∧
      (generate sampleLayout sampleTree.disk [] ['o'] (.new none)).value.sink.written =
        [] ++ Text.encode (Document.header ++ ['\n'] ++ bs.flatMap fun b => b.text ++ ['\n']) :=
  have h : (generate sampleLayout sampleTree.disk [] ['o'] (.new none)).value.failure? = none := by
    decide +kernel
  ⟨h, generate_writes_selected h⟩

end Sources

end Upkeep
