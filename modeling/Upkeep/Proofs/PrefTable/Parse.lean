import Upkeep.Proofs.PrefTable.Reading

/-!
# Parsing a preference table

The reader of a table goes from line to line and holds the name of the entry begun
(`PrefEntry.readFrom`).  What it answers is right about all its entry lines (`PrefEntry.Accounts`):
this is proved along the recursion, where an entry begun before stands for a first half in front of
the lines.  From it follow the answers of `PrefTable.parse`: which tables are accepted, what their
maps hold, and where the failure is in the others.
-/

namespace Upkeep

open EntryLine

namespace PrefEntry

/-! ## the reader against the language -/

/-- an entry begun before the lines, as the line that began it -/
def begun : Option Text → List EntryLine
  | none => []
  | some name => [.opener name]

/-- the answer is right for the entry lines `ks`, before which the entry `pending` was begun -/
def Accounts (pending : Option Text) (ks : List Located) : List PrefEntry × Ending → Prop
  | (es, .complete) => Reading (begun pending ++ ks.map (·.kind)) es none
  | (es, .unclosed name) => Reading (begun pending ++ ks.map (·.kind)) es (some name)
  | (es, .malformed n t f) => ∃ before x after left, ks = before ++ x :: after ∧
      x.number = n ∧ x.text = t ∧ Reading (begun pending ++ before.map (·.kind)) es left ∧
      Blocked left x.kind f

/-- a line that ends an entry is counted with that entry -/
theorem Accounts.cons {pending : Option Text} {x : Located} {e : PrefEntry}
    (hx : ∀ ks es left, Reading ks es left →
      Reading (begun pending ++ x.kind :: ks) (e :: es) left)
    {ks : List Located} {es : List PrefEntry} {ending : Ending}
    (h : Accounts none ks (es, ending)) : Accounts pending (x :: ks) (e :: es, ending) := by
  cases ending with
  | complete => exact hx _ _ _ h
  | unclosed name => exact hx _ _ _ h
  | malformed n t f =>
    obtain ⟨before, y, after, left, rfl, hn, ht, hr, hb⟩ := h
    exact ⟨x :: before, y, after, left, rfl, hn, ht, hx _ _ _ hr, hb⟩

/-- a first half is an entry begun for the lines after it -/
theorem Accounts.cons_opener {x : Located} {name : Text} (hx : x.kind = .opener name)
    {ks : List Located} {r : List PrefEntry × Ending} (h : Accounts (some name) ks r) :
    Accounts none (x :: ks) r := by
  obtain ⟨es, ending⟩ := r
  have hk : ∀ ls : List Located, begun none ++ (x :: ls).map (·.kind) =
      begun (some name) ++ ls.map (·.kind) := fun ls => by
    rw [List.map_cons, hx]
    rfl
  cases ending with
  | complete =>
    show Reading (begun none ++ (x :: ks).map (·.kind)) es none
    rw [hk]
    exact h
  | unclosed n =>
    show Reading (begun none ++ (x :: ks).map (·.kind)) es (some n)
    rw [hk]
    exact h
  | malformed n t f =>
    obtain ⟨before, y, after, left, rfl, hn, ht, hr, hb⟩ := h
    refine ⟨x :: before, y, after, left, rfl, hn, ht, ?_, hb⟩
    rw [hk]
    exact hr

/-- a line that cannot follow the entry begun is the fault -/
theorem Accounts.blocked {pending : Option Text} {x : Located} {f : TableFault}
    (hb : Blocked pending x.kind f) (ks : List Located) :
    Accounts pending (x :: ks) ([], .malformed x.number x.text f) := by
  refine ⟨[], x, ks, pending, rfl, rfl, rfl, ?_, hb⟩
  cases pending with
  | none => exact .nil
  | some name => exact .opener name

theorem accounts_readFrom (n : Nat) (pending : Option Text) (lines : List Text) :
    Accounts pending (located n lines) (readFrom n pending lines) := by
  fun_induction readFrom n pending lines with
  | case1 n => exact .nil
  | case2 n name => exact .opener name
  | case3 n pending line rest hl ih =>
    rw [located_cons_none hl]
    exact ih
  | case4 n line rest name macroName enabled hl es ending hr ih =>
    rw [located_cons_some hl]
    rw [hr] at ih
    refine Accounts.cons ?_ ih
    exact fun _ _ _ h => .entry name macroName enabled h
  | case5 n line rest name hl ih =>
    rw [located_cons_some hl]
    exact ih.cons_opener rfl
  | case6 n line rest macroName enabled hl =>
    rw [located_cons_some hl]
    exact .blocked (.closer macroName enabled) _
  | case7 n line rest name macroName enabled left hl =>
    rw [located_cons_some hl]
    exact .blocked (.entry left name macroName enabled) _
  | case8 n line rest name left hl =>
    rw [located_cons_some hl]
    exact .blocked (.opener left name) _
  | case9 n line rest macroName enabled name hl es ending hr ih =>
    rw [located_cons_some hl]
    rw [hr] at ih
    refine Accounts.cons ?_ ih
    exact fun _ _ _ h => .halves name macroName enabled h

/-! ## the last entry of a name and of a macro -/

/-- the last enabled entry of the name -/
def lastNamed (es : List PrefEntry) (name : Text) : Option PrefEntry :=
  (es.filter fun e => e.enabled ∧ e.name = name).getLast?

/-- the last enabled entry of the macro -/
def lastFor (es : List PrefEntry) (macroName : Text) : Option PrefEntry :=
  (es.filter fun e => e.enabled ∧ e.macroName = macroName).getLast?

end PrefEntry

namespace PrefTable

open PrefEntry

/-- the two maps hold the last enabled entry of each name and of each macro, and nothing else -/
structure Indexes (t : PrefTable) (es : List PrefEntry) : Prop where
  byName : ∀ name, t.byName.find? name = (lastNamed es name).map (·.macroName)
  byMacro : ∀ macroName, t.byMacro.find? macroName = (lastFor es macroName).map (·.name)

/-- a dictionary made of the enabled entries holds the last of each key -/
theorem find?_ofList_enabled (es : List PrefEntry) (key val : PrefEntry → Text) (q : Text) :
    (Dictionary.ofList ((es.filter (·.enabled)).map fun e => (key e, val e))).find? q =
      ((es.filter fun e => e.enabled ∧ key e = q).getLast?).map val := by
  rw [Dictionary.find?_ofList_eq_getLast?, List.filter_map, List.getLast?_map, List.filter_filter,
    Option.map_map]
  have hf : ∀ e ∈ es, (((fun p : Text × Text => decide (p.1 = q)) ∘ fun e => (key e, val e)) e &&
      e.enabled) = decide (e.enabled ∧ key e = q) := fun e _ => by
    simp [Bool.and_comm]
  rw [List.filter_congr hf]
  rfl

theorem indexes_ofEntries (es : List PrefEntry) : (ofEntries es).Indexes es where
  byName := find?_ofList_enabled es (·.name) (·.macroName)
  byMacro := find?_ofList_enabled es (·.macroName) (·.name)

/-! ## the answers of the parser -/

variable {lines : List Text} {es : List PrefEntry} {left : Option Text}

theorem outcome_parse (lines : List Text) :
    (parse lines).outcome =
      match PrefEntry.read lines with
      | (_, .malformed n t f) => .error (.malformedTable n t f)
      | (es, _) => .ok (ofEntries es) := by
  unfold parse
  cases PrefEntry.read lines with
  | mk es ending => cases ending <;> rfl

/-- lines that have a reading are read so, and the name that is left over is told as unclosed -/
theorem read_of_reading (h : Reading ((located 1 lines).map (·.kind)) es left) :
    PrefEntry.read lines = (es, left.elim .complete .unclosed) := by
  have ha := accounts_readFrom 1 none lines
  rw [PrefEntry.read]
  cases hr : readFrom 1 none lines with
  | mk es' ending =>
    rw [hr] at ha
    cases ending with
    | complete =>
      obtain ⟨rfl, rfl⟩ := h.unique ha
      rfl
    | unclosed name =>
      obtain ⟨rfl, rfl⟩ := h.unique ha
      rfl
    | malformed n t f =>
      obtain ⟨before, x, after, left', hk, -, -, hr', hb⟩ := ha
      rw [hk, List.map_append, List.map_cons, ← List.singleton_append, ← List.append_assoc] at h
      exact absurd h.readable_of_append (hb.not_readable hr')

theorem parse_of_reading (h : Reading ((located 1 lines).map (·.kind)) es left) :
    (parse lines).outcome = .ok (ofEntries es) := by
  rw [outcome_parse, read_of_reading h]
  cases left <;> rfl

theorem parse_of_reading_lines (h : Reading (lines.filterMap ofText) es left) :
    (parse lines).outcome = .ok (ofEntries es) :=
  parse_of_reading (by rwa [map_kind_located])

theorem parse_of_not_readable (h : ¬ Readable ((located 1 lines).map (·.kind))) :
    ∃ before x after es left f, located 1 lines = before ++ x :: after ∧
      Reading (before.map (·.kind)) es left ∧ Blocked left x.kind f ∧
      (parse lines).outcome = .error (.malformedTable x.number x.text f) := by
  have ha := accounts_readFrom 1 none lines
  rw [outcome_parse, PrefEntry.read]
  cases hr : readFrom 1 none lines with
  | mk es' ending =>
    rw [hr] at ha
    cases ending with
    | complete => exact absurd ⟨_, _, ha⟩ h
    | unclosed name => exact absurd ⟨_, _, ha⟩ h
    | malformed n t f =>
      obtain ⟨before, x, after, left', hk, rfl, rfl, hr', hb⟩ := ha
      exact ⟨before, x, after, es', left', f, hk, hr', hb, rfl⟩

theorem readable_of_parse {t : PrefTable} (h : (parse lines).outcome = .ok t) :
    Readable ((located 1 lines).map (·.kind)) := by
  refine Classical.byContradiction fun hn => ?_
  obtain ⟨_, _, _, _, _, _, -, -, -, he⟩ := parse_of_not_readable hn
  rw [he] at h
  cases h

theorem indexes_of_parse {t : PrefTable} (h : (parse lines).outcome = .ok t)
    (hr : Reading ((located 1 lines).map (·.kind)) es left) : t.Indexes es := by
  rw [parse_of_reading hr] at h
  cases h
  exact indexes_ofEntries es

/-- **The parser accepts exactly the tables whose entry lines have a reading.**  The maps are then
those of the entries read.  Any other table fails at its first entry line up to which there is no
reading: a complete entry or a first half that stands directly after a first half, or a second half
that stands after none. -/
theorem parse_ok_iff_readable (lines : List Text) :
    ((∃ t, (parse lines).outcome = .ok t) ↔ Readable ((located 1 lines).map (·.kind))) ∧
    (∀ t es left, (parse lines).outcome = .ok t →
      Reading ((located 1 lines).map (·.kind)) es left → t.Indexes es) ∧
    (¬ Readable ((located 1 lines).map (·.kind)) →
      ∃ before x after left f, located 1 lines = before ++ x :: after ∧
        (∀ ks, ks <+: before.map (·.kind) → Readable ks) ∧
        ¬ Readable ((before ++ [x]).map (·.kind)) ∧
        (parse lines).outcome = .error (.malformedTable x.number x.text f) ∧
        Blocked left x.kind f ∧ (∃ es, Reading (before.map (·.kind)) es left) ∧
        ∀ name, left = some name → (before.map (·.kind)).getLast? = some (.opener name)) := by
  refine ⟨⟨fun ⟨t, ht⟩ => readable_of_parse ht, fun ⟨es, left, h⟩ => ⟨_, parse_of_reading h⟩⟩,
    fun t es left => indexes_of_parse, fun h => ?_⟩
  obtain ⟨before, x, after, es, left, f, hk, hr, hb, he⟩ := parse_of_not_readable h
  refine ⟨before, x, after, left, f, hk, ?_, ?_, he, hb, ⟨es, hr⟩, fun name =>
    hr.getLast?_of_left⟩
  · rintro ks ⟨rest, hks⟩
    exact Reading.readable_of_append (hks ▸ hr)
  · rw [List.map_append]
    exact hb.not_readable hr

end PrefTable

end Upkeep
