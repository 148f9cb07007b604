import Upkeep.Files.Tree
import Upkeep.Proofs.Text.LineEndings

/-!
# Files with other line ends

A disk shows of a file its lines to whoever reads it line by line (`Disk.SameLines`).  The files of
a tree may get a carriage return before each of their line feeds, any choice of them
(`Tree.withReturns`).  Paths lead where they led before, and a file that had no such carriage return
shows the same lines (`Disk.Respells`).
-/

namespace Upkeep

/-! ## disks that show the same lines -/

namespace Disk

variable {disk disk' : Disk} {p : Path}

/-- under the path both disks show the same lines, or the same fault -/
def SameLines (disk disk' : Disk) (p : Path) : Prop :=
  (disk'.open? p).map Opened.lines = (disk.open? p).map Opened.lines

/-- the second disk shows under the path what the first one shows, or the same file with carriage
returns before its line feeds, where there were none -/
def Respells (disk disk' : Disk) (p : Path) : Prop :=
  disk'.open? p = disk.open? p ∨
    ∃ content : Bytes, disk.open? p = .ok (.file content) ∧ ¬ [13, 10] <:+: content ∧
      disk'.open? p = .ok (.file content.withReturns)

theorem Respells.sameLines (h : disk.Respells disk' p) : disk.SameLines disk' p := by
  unfold SameLines
  rcases h with h | ⟨content, ho, hno, ho'⟩
  · rw [h]
  · rw [ho, ho']
    exact congrArg Except.ok (Bytes.lines_withReturns hno)

/-- neither disk opens the path, for the same fault, or both do and show the same lines -/
theorem SameLines.cases (h : disk.SameLines disk' p) :
    (∃ e, disk.open? p = .error e ∧ disk'.open? p = .error e) ∨
      ∃ o o', disk.open? p = .ok o ∧ disk'.open? p = .ok o' ∧ o'.lines = o.lines := by
  unfold SameLines at h
  cases ho : disk.open? p with
  | error e =>
    cases ho' : disk'.open? p with
    | error e' =>
      rw [ho, ho'] at h
      exact .inl ⟨e, rfl, congrArg Except.error (Except.error.inj h)⟩
    | ok o' =>
      rw [ho, ho'] at h
      cases h
  | ok o =>
    cases ho' : disk'.open? p with
    | error e' =>
      rw [ho, ho'] at h
      cases h
    | ok o' =>
      rw [ho, ho'] at h
      exact .inr ⟨o, o', rfl, rfl, Except.ok.inj h⟩

end Disk

/-! ## trees with other line ends -/

def Opened.withReturns : Opened → Opened
  | file content => file (Bytes.withReturns content)
  | directory => directory

namespace Tree

variable {t : Tree} {chosen : List Text → Bool}

/-- the tree with carriage returns before the line feeds of the chosen files -/
def withReturns (chosen : List Text → Bool) (t : Tree) : Tree :=
  ⟨t.entries.map fun e => (e.1, if chosen e.1 then e.2.withReturns else e.2)⟩

theorem lookup_map_snd (es : List (List Text × Opened)) (f : List Text → Opened → Opened)
    (k : List Text) : (es.map fun e => (e.1, f e.1 e.2)).lookup k = (es.lookup k).map (f k) := by
  induction es with
  | nil => rfl
  | cons e es ih =>
    rw [List.map_cons, List.lookup_cons, List.lookup_cons, ih]
    by_cases hk : k = e.1
    · subst hk
      simp
    · have hne : (k == e.1) = false := beq_eq_false_iff_ne.2 hk
      rw [hne]

theorem at?_withReturns (chosen : List Text → Bool) (t : Tree) (place : List Text) :
    (t.withReturns chosen).at? place =
      (t.at? place).map fun o => if chosen place then o.withReturns else o := by
  have hany : (t.withReturns chosen).entries.any (fun e => place.isPrefixOf e.1) =
      t.entries.any fun e => place.isPrefixOf e.1 := List.any_map
  have hlookup : (t.withReturns chosen).entries.lookup place =
      (t.entries.lookup place).map fun o => if chosen place then o.withReturns else o :=
    lookup_map_snd t.entries (fun k o => if chosen k then o.withReturns else o) place
  have hdirectory : (if chosen place then Opened.directory.withReturns else .directory) =
      Opened.directory := ite_self _
  unfold at?
  rw [hany, hlookup]
  -- a place above an entry is a directory in both trees
  split
  · exact (congrArg some hdirectory).symm
  · cases t.entries.lookup place with
    | some o => rfl
    | none =>
      dsimp only [Option.map_none]
      split
      · exact (congrArg some hdirectory).symm
      · rfl

/-- paths lead where they led, as directories stay directories and files stay files -/
theorem locate_withReturns (chosen : List Text → Bool) (t : Tree) (p : Path) :
    (t.withReturns chosen).locate p = t.locate p := by
  have hstep : step (t.withReturns chosen) = step t := by
    funext place name
    unfold step
    rw [at?_withReturns]
    cases t.at? place with
    | none => rfl
    | some o =>
      cases o with
      | file content => cases chosen place <;> rfl
      | directory => cases chosen place <;> rfl
  unfold locate
  rw [hstep]

/-- **A tree with other line ends shows the chosen files with other line ends**, and under every
other path what it showed before. -/
theorem respells_withReturns {p : Path} (h : ∀ place content, t.locate p = .ok place →
      chosen place = true → t.at? place = some (.file content) → ¬ [13, 10] <:+: content) :
    t.disk.Respells (t.withReturns chosen).disk p := by
  show (t.withReturns chosen).openAt p = t.openAt p ∨ ∃ content : Bytes,
    t.openAt p = .ok (.file content) ∧ ¬ [13, 10] <:+: content ∧
      (t.withReturns chosen).openAt p = .ok (.file content.withReturns)
  unfold openAt
  rw [locate_withReturns]
  cases hl : t.locate p with
  | error e => exact .inl rfl
  | ok place =>
    dsimp only
    rw [at?_withReturns]
    cases ha : t.at? place with
    | none => exact .inl rfl
    | some o =>
      cases hc : chosen place with
      | false => exact .inl rfl
      | true =>
        cases o with
        | directory => exact .inl rfl
        | file content => exact .inr ⟨content, rfl, h place content hl hc ha, rfl⟩

end Tree

end Upkeep
