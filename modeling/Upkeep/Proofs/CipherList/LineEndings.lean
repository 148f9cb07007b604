import Upkeep.Measure.Summary
import Upkeep.Proofs.CipherList.Selection
import Upkeep.Proofs.Files.LineEndings

/-!
# Sources with other line ends

Loading sees of a file that it opens nothing but its lines, and so does everything that is made of
what it loads (`Sources.load_of_sameLines`).  Main statement: any of the consulted files that have
no carriage return before a line feed can get one before each of them, and the generated file, the
failure and the notices stay what they are; the measures of such a file stay too.
-/

namespace Upkeep.Sources

variable {disk disk' : Disk} {l : Layout} {firefox openssl : Path}

theorem readFile_of_sameLines {α : Type} {root relative : Path}
    (h : disk.SameLines disk' (root.join relative)) (reader : List Line → Run α) :
    readFile disk' root relative reader = readFile disk root relative reader := by
  unfold readFile openFile
  dsimp only
  rcases h.cases with ⟨e, he, he'⟩ | ⟨o, o', ho, ho', hlines⟩
  · rw [he, he']
  · rw [ho, ho']
    refine Run.bind_congr fun _ _ => ?_
    show (reader o'.lines).inFile _ = (reader o.lines).inFile _
    rw [hlines]

theorem scanHeaders_of_sameLines {paths : List Path} (h : ∀ p ∈ paths, disk.SameLines disk' p)
    (ix : MacroIndex) : scanHeaders l disk' ix paths = scanHeaders l disk ix paths := by
  induction paths generalizing ix with
  | nil => rfl
  | cons p paths ih =>
    have hrest := ih fun q hq => h q (List.mem_cons_of_mem _ hq)
    rw [scanHeaders, scanHeaders]
    rcases (h p List.mem_cons_self).cases with ⟨e, he, he'⟩ | ⟨o, o', ho, ho', hlines⟩
    · simp only [he, he', hrest]
    · simp only [ho, ho', hlines, hrest]

theorem load_of_sameLines (h : ∀ p ∈ paths l firefox openssl, disk.SameLines disk' p) :
    load l disk' firefox openssl = load l disk firefox openssl := by
  have htable : disk.SameLines disk' (firefox.join l.tableFile) := h _ (by simp [paths])
  have hsuites : disk.SameLines disk' (firefox.join l.suitesFile) := h _ (by simp [paths])
  have hdefaults : disk.SameLines disk' (firefox.join l.defaultsFile) := h _ (by simp [paths])
  have hprotocol : disk.SameLines disk' (firefox.join l.protocolHeader) := h _ (by simp [paths])
  have hheaders : ∀ p ∈ l.headerPaths openssl, disk.SameLines disk' p :=
    fun p hp => h p (List.mem_append_right _ hp)
  unfold load readIndex
  simp only [readFile_of_sameLines htable, readFile_of_sameLines hsuites,
    readFile_of_sameLines hdefaults, readFile_of_sameLines hprotocol,
    scanHeaders_of_sameLines hheaders]

/-- **Line ends do not matter.**  Any of the consulted files may get a carriage return before each
of its line feeds, if it had none there: what is written, the failure and the notices are the same.
So are the lines and the measures of such a file, and which of its lines are not UTF-8. -/
theorem generate_respelled (l : Layout) (disk : Disk) (firefox openssl : Path) :
    (∀ disk', (∀ p ∈ paths l firefox openssl, disk.Respells disk' p) →
      ∀ sink, generate l disk' firefox openssl sink = generate l disk firefox openssl sink) ∧
    ∀ b : Bytes, ¬ [13, 10] <:+: b →
      b.withReturns.lines = b.lines ∧
      Measure.countLines b.withReturns.lines = Measure.countLines b.lines ∧
      Measure.countIncludes b.withReturns.lines = Measure.countIncludes b.lines ∧
      Span.ofLines b.withReturns.lines = Span.ofLines b.lines := by
  refine ⟨fun disk' h sink => ?_, fun b hb => ?_⟩
  · unfold generate
    rw [load_of_sameLines fun p hp => (h p hp).sameLines]
  · have hlines := Bytes.lines_withReturns hb
    rw [hlines]
    exact ⟨rfl, rfl, rfl, rfl⟩

/-! The small tree once more, with other line ends in two of its files. -/

def tableAndIds (place : List Text) : Bool := place == [['t']] || place == [['p']]

theorem generate_respelled_sample :
    (∀ p ∈ paths sampleLayout [] ['o'],
      sampleTree.disk.Respells (sampleTree.withReturns tableAndIds).disk p) ∧
    (sampleTree.withReturns tableAndIds).openAt ['t'] ≠ sampleTree.openAt ['t'] ∧
    generate sampleLayout (sampleTree.withReturns tableAndIds).disk [] ['o'] (.new none) =
      generate sampleLayout sampleTree.disk [] ['o'] (.new none) := by
  have hpaths : ∀ p ∈ paths sampleLayout [] ['o'],
      sampleTree.disk.Respells (sampleTree.withReturns tableAndIds).disk p := by
    intro p _
    refine Tree.respells_withReturns fun place content _ hchosen hat => ?_
    simp only [tableAndIds, Bool.or_eq_true, beq_iff_eq] at hchosen
    rcases hchosen with rfl | rfl
    · cases hat
      decide +kernel
    · cases hat
      decide +kernel
  have hchanged : (sampleTree.withReturns tableAndIds).openAt ['t'] ≠ sampleTree.openAt ['t'] := by
    decide +kernel
  exact ⟨hpaths, hchanged, (generate_respelled _ _ _ _).1 _ hpaths _⟩

end Upkeep.Sources
