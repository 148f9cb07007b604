import Upkeep.CipherList.Document

/-!
# Loading the sources

Each table is read from a file of its own, and the sources are there exactly when every table could
be read (`outcome_load_eq_ok_iff`).
-/

namespace Upkeep.Sources

theorem outcome_readFile_eq_ok_iff {α : Type} {disk : Disk} {root relative : Path}
    {reader : List Line → Run α} {a : α} :
    (readFile disk root relative reader).outcome = .ok a ↔
      ∃ o, disk.open? (root.join relative) = .ok o ∧ (reader o.lines).outcome = .ok a := by
  unfold readFile openFile
  simp only [Run.outcome_bind_eq_ok_iff, Run.outcome_note, Run.outcome_ofExcept,
    Run.outcome_inFile, Run.mapError_eq_ok_iff]
  constructor
  · rintro ⟨_, -, h⟩
    exact h
  · exact fun h => ⟨(), trivial, h⟩

/-- scanning a header always gives an index, with the fault that ended it -/
theorem outcome_scan (l : Layout) (ix : MacroIndex) (ls : List Line) :
    Run.outcome (ExceptT.lift (ix.scan l ls)) =
      .ok (ix.enter l ((Line.upToFault ls).1.filterMap Directive.spacedDefinition?),
        (Line.upToFault ls).2) := rfl

variable {l : Layout} {disk : Disk} {firefox openssl : Path}

/-- the sources are there exactly when every table could be read -/
theorem outcome_load_eq_ok_iff {s : Sources} : (load l disk firefox openssl).outcome = .ok s ↔
    s.layout = l ∧
    (readFile disk firefox l.tableFile (PrefTable.read l.tableStart l.tableEnd)).outcome
      = .ok s.table ∧
    (readFile disk firefox l.suitesFile (SuiteArray.read l.suitesMarker l.suitesEnd)).outcome
      = .ok s.suites ∧
    (readFile disk firefox l.defaultsFile (PrefDefaults.read l.prefNamespace)).outcome
      = .ok s.defaults ∧
    (readFile disk firefox l.protocolHeader ProtocolIds.read).outcome = .ok s.protocol ∧
    (readIndex l disk openssl).outcome = .ok s.index := by
  unfold load
  simp only [Run.outcome_bind_eq_ok_iff, Run.outcome_note, Run.outcome_pure]
  constructor
  · rintro ⟨table, ht, _, -, suites, hs, defaults, hd, _, -, protocol, hp, index, hi, he⟩
    obtain rfl := Except.ok.inj he
    exact ⟨rfl, ht, hs, hd, hp, hi⟩
  · rintro ⟨rfl, ht, hs, hd, hp, hi⟩
    exact ⟨_, ht, (), trivial, _, hs, _, hd, (), trivial, _, hp, _, hi, rfl⟩

end Upkeep.Sources
