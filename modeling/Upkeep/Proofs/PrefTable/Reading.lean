import Upkeep.Firefox.PrefTable

/-!
# The language of preference tables

The lines of a table that belong to entries (`EntryLine.located`) must read as complete entries and
pairs of halves, in any order, where the last line may be a first half on its own
(`EntryLine.Reading`).  Main statement: the table is accepted exactly when its lines have a reading,
its maps then hold the last enabled entry of each name and of each macro (`PrefTable.Indexes`), and
otherwise the failure is at the first line that no reading reaches.
-/

namespace Upkeep

namespace EntryLine

/-! ## the entry lines of a table -/

/-- a line that belongs to an entry, and where it stands -/
structure Located where
  number : Nat
  text : Text
  kind : EntryLine
deriving DecidableEq, Repr

/-- the lines that belong to entries, in order, where the first line has the number `n` -/
def located (n : Nat) (lines : List Text) : List Located :=
  (lines.zipIdx n).filterMap fun x => (ofText x.1).map (Located.mk x.2 x.1)

theorem located_cons_none {t : Text} (h : ofText t = none) (n : Nat) (ts : List Text) :
    located n (t :: ts) = located (n + 1) ts := by
  simp [located, h]

theorem located_cons_some {t : Text} {k : EntryLine} (h : ofText t = some k) (n : Nat)
    (ts : List Text) : located n (t :: ts) = ⟨n, t, k⟩ :: located (n + 1) ts := by
  simp [located, h]

theorem map_kind_located (n : Nat) (lines : List Text) :
    (located n lines).map (·.kind) = lines.filterMap ofText := by
  induction lines generalizing n with
  | nil => rfl
  | cons t ts ih =>
    cases h : ofText t with
    | none => rw [located_cons_none h, ih, List.filterMap_cons_none h]
    | some k => rw [located_cons_some h, List.map_cons, ih, List.filterMap_cons_some h]

/-! ## readings -/

/-- the lines read as these entries, in order; a first half left over at the end has its name told
besides -/
inductive Reading : List EntryLine → List PrefEntry → Option Text → Prop
  | nil : Reading [] [] none
  | opener (name : Text) : Reading [.opener name] [] (some name)
  | entry (name macroName : Text) (enabled : Bool) {ks : List EntryLine} {es : List PrefEntry}
      {left : Option Text} : Reading ks es left →
      Reading (.entry name macroName enabled :: ks) (⟨name, macroName, enabled⟩ :: es) left
  | halves (name macroName : Text) (enabled : Bool) {ks : List EntryLine} {es : List PrefEntry}
      {left : Option Text} : Reading ks es left →
      Reading (.opener name :: .closer macroName enabled :: ks) (⟨name, macroName, enabled⟩ :: es) left

/-- the lines have a reading -/
def Readable (ks : List EntryLine) : Prop := ∃ es left, Reading ks es left

namespace Reading

variable {ks ks' : List EntryLine} {es es' : List PrefEntry} {left left' : Option Text}

theorem unique (h : Reading ks es left) (h' : Reading ks es' left') : es = es' ∧ left = left' := by
  induction h generalizing es' with
  | nil => cases h'; exact ⟨rfl, rfl⟩
  | opener name => cases h'; exact ⟨rfl, rfl⟩
  | entry name macroName enabled _ ih =>
    cases h' with
    | entry _ _ _ h' => exact ⟨by rw [(ih h').1], (ih h').2⟩
  | halves name macroName enabled _ ih =>
    cases h' with
    | halves _ _ _ h' => exact ⟨by rw [(ih h').1], (ih h').2⟩

/-- a first half that is left over is the last line -/
theorem getLast?_of_left {name : Text} (h : Reading ks es left) (hl : left = some name) :
    ks.getLast? = some (.opener name) := by
  induction h with
  | nil => cases hl
  | opener name => cases hl; rfl
  | entry n m b h ih => rw [List.getLast?_cons, ih hl]; rfl
  | halves n m b h ih => rw [List.getLast?_cons, List.getLast?_cons, ih hl]; rfl

/-- what stands before a line of a readable list is readable -/
theorem readable_of_append (h : Reading (ks ++ ks') es left) : Readable ks := by
  generalize hk : ks ++ ks' = whole at h
  induction h generalizing ks with
  | nil =>
    obtain ⟨rfl, -⟩ := List.append_eq_nil_iff.1 hk
    exact ⟨_, _, .nil⟩
  | opener name =>
    cases ks with
    | nil => exact ⟨_, _, .nil⟩
    | cons k ks =>
      simp only [List.cons_append, List.cons.injEq] at hk
      obtain ⟨rfl, hk⟩ := hk
      obtain ⟨rfl, -⟩ := List.append_eq_nil_iff.1 hk
      exact ⟨_, _, .opener name⟩
  | entry n m b _ ih =>
    cases ks with
    | nil => exact ⟨_, _, .nil⟩
    | cons k ks =>
      simp only [List.cons_append, List.cons.injEq] at hk
      obtain ⟨rfl, hk⟩ := hk
      obtain ⟨es, left, h⟩ := ih hk
      exact ⟨_, _, .entry n m b h⟩
  | halves n m b _ ih =>
    -- the cut may fall between the two halves, and then a first half is left over
    cases ks with
    | nil => exact ⟨_, _, .nil⟩
    | cons k ks =>
      simp only [List.cons_append, List.cons.injEq] at hk
      obtain ⟨rfl, hk⟩ := hk
      cases ks with
      | nil => exact ⟨_, _, .opener n⟩
      | cons k ks =>
        simp only [List.cons_append, List.cons.injEq] at hk
        obtain ⟨rfl, hk⟩ := hk
        obtain ⟨es, left, h⟩ := ih hk
        exact ⟨_, _, .halves n m b h⟩

end Reading

/-! ## lines that no reading reaches -/

/-- after a reading that leaves `left` over, the line cannot follow, and this is the fault -/
inductive Blocked : Option Text → EntryLine → TableFault → Prop
  | entry (left name macroName : Text) (enabled : Bool) :
      Blocked (some left) (.entry name macroName enabled) .entryWhilePending
  | opener (left name : Text) : Blocked (some left) (.opener name) .openerWhilePending
  | closer (macroName : Text) (enabled : Bool) :
      Blocked none (.closer macroName enabled) .closerWithoutPending

/-- a line that cannot follow ends every reading -/
theorem Blocked.not_readable {ks : List EntryLine} {es : List PrefEntry} {left : Option Text}
    {k : EntryLine} {f : TableFault} (hb : Blocked left k f) (h : Reading ks es left) :
    ¬ Readable (ks ++ [k]) := by
  induction h with
  | nil =>
    cases hb
    rintro ⟨_, _, h⟩
    cases h
  | opener name =>
    rintro ⟨_, _, h⟩
    cases hb <;> cases h
  | entry n m b _ ih =>
    rintro ⟨_, _, h⟩
    cases h with
    | entry _ _ _ h => exact ih hb ⟨_, _, h⟩
  | halves n m b _ ih =>
    rintro ⟨_, _, h⟩
    cases h with
    | halves _ _ _ h => exact ih hb ⟨_, _, h⟩

end EntryLine

end Upkeep
