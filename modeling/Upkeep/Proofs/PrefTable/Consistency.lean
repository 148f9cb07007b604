import Upkeep.Proofs.PrefTable.ClosedEntries
import Upkeep.Proofs.PrefTable.Insertion

/-!
# The two maps of a preference table

The enabled entries are kept by preference and by suite, and in each of the two maps the last entry
of a key counts.  The maps need not be inverse to each other: of two entries for one preference the
first one is gone from one map and still in the other.  What holds of every table is told by
`PrefTable.Consistent`: the pairs of both maps come from enabled entries, what one map answers is a
key of the other, and the maps are inverse where the enabled entries are one to one.

Main statement: so it is for every table that is accepted, and an entry that is not enabled could as
well be left out (`PrefTable.parse_consistent`).
-/

namespace Upkeep

open EntryLine

namespace EntryLine.Reading

variable {ks ks' piece : List EntryLine} {es : List PrefEntry} {left : Option Text} {e : PrefEntry}

theorem exists_before (h : Reading (ks ++ (piece ++ ks')) es left) (hp : Reading piece [e] none) :
    ∃ es₁, Reading ks es₁ none := by
  obtain ⟨es₁, left₁, h₁⟩ := h.readable_of_append
  cases left₁ with
  | none => exact ⟨es₁, h₁⟩
  | some name =>
    have hne : piece ≠ [] := by
      rintro rfl
      cases hp
    obtain ⟨k, rest, rfl⟩ := List.exists_cons_of_ne_nil hne
    -- with an entry begun there, the first line of the piece could not be read
    obtain ⟨f, hb⟩ := blocked_of_readable name ⟨_, _, hp⟩
    have hcut : ks ++ (k :: rest ++ ks') = ks ++ [k] ++ (rest ++ ks') := by simp
    rw [hcut] at h
    exact absurd h.readable_of_append (hb.not_readable h₁)

theorem remove (h : Reading (ks ++ (piece ++ ks')) es left) (hp : Reading piece [e] none) :
    ∃ es₁ es₂, es = es₁ ++ e :: es₂ ∧ Reading (ks ++ ks') (es₁ ++ es₂) left := by
  obtain ⟨es₁, h₁⟩ := h.exists_before hp
  obtain ⟨es', rfl, h'⟩ := h.split h₁
  obtain ⟨es₂, rfl, h₂⟩ := h'.split hp
  exact ⟨es₁, es₂, rfl, h₁.append h₂⟩

end EntryLine.Reading

namespace PrefEntry

/-- among the enabled entries no preference has two suites, and no suite two preferences -/
def OneToOne (es : List PrefEntry) : Prop :=
  ∀ e ∈ es, ∀ e' ∈ es, e.enabled = true → e'.enabled = true →
    (e.name = e'.name ↔ e.macroName = e'.macroName)

end PrefEntry

namespace PrefTable

open PrefEntry

/-! ## one map -/

/-- under each key the dictionary holds what the last enabled entry with this key has for it -/
def LastCounts (d : Dictionary) (key val : PrefEntry → Text) (es : List PrefEntry) : Prop :=
  ∀ q, d.find? q = ((es.filter fun e => e.enabled ∧ key e = q).getLast?).map val

variable {t : PrefTable} {es : List PrefEntry} {e : PrefEntry} {d d' : Dictionary}
  {key val : PrefEntry → Text} {q v : Text}

namespace LastCounts

theorem exists_of_find? (h : LastCounts d key val es) (hv : d.find? q = some v) :
    ∃ e ∈ es, e.enabled = true ∧ key e = q ∧ val e = v := by
  rw [h] at hv
  obtain ⟨e, he, rfl⟩ := Option.map_eq_some_iff.1 hv
  obtain ⟨hmem, hlast⟩ := List.mem_filter.1 (List.mem_of_getLast? he)
  obtain ⟨hon, hkey⟩ := of_decide_eq_true hlast
  exact ⟨e, hmem, hon, hkey, rfl⟩

theorem exists_find? (h : LastCounts d key val es) (he : e ∈ es) (hon : e.enabled = true) :
    ∃ v, d.find? (key e) = some v := by
  have hne : (es.filter fun x => x.enabled ∧ key x = key e) ≠ [] :=
    List.ne_nil_of_mem (List.mem_filter.2 ⟨he, by simp [hon]⟩)
  rw [h, List.getLast?_eq_some_getLast hne, Option.map_some]
  exact ⟨_, rfl⟩

theorem contains_of_find? (h : LastCounts d key val es) (h' : LastCounts d' val key es)
    (hv : d.find? q = some v) : d'.contains v = true := by
  obtain ⟨e, he, hon, -, rfl⟩ := h.exists_of_find? hv
  exact Option.isSome_iff_exists.2 (h'.exists_find? he hon)

/-- where a value has one key, the other map answers with this key -/
theorem find?_of_find? (h : LastCounts d key val es) (h' : LastCounts d' val key es)
    (hes : ∀ e ∈ es, ∀ e' ∈ es, e.enabled = true → e'.enabled = true → val e = val e' →
      key e = key e')
    (hv : d.find? q = some v) : d'.find? v = some q := by
  obtain ⟨e, he, hon, rfl, rfl⟩ := h.exists_of_find? hv
  obtain ⟨q', hq⟩ := h'.exists_find? he hon
  obtain ⟨e', he', hon', hval, rfl⟩ := h'.exists_of_find? hq
  rw [hq, hes e' he' e he hon' hon hval]

end LastCounts

/-! ## both maps -/

/-- what the maps of a table have to do with its entries and with each other -/
structure Consistent (t : PrefTable) (es : List PrefEntry) : Prop where
  of_byName (name macroName : Text) : t.byName.find? name = some macroName →
    ∃ e ∈ es, e.enabled = true ∧ e.name = name ∧ e.macroName = macroName
  of_byMacro (name macroName : Text) : t.byMacro.find? macroName = some name →
    ∃ e ∈ es, e.enabled = true ∧ e.macroName = macroName ∧ e.name = name
  /-- the suite of a preference has a preference, which need not be this one -/
  macro_mem (name macroName : Text) : t.byName.find? name = some macroName →
    t.byMacro.contains macroName = true
  name_mem (name macroName : Text) : t.byMacro.find? macroName = some name →
    t.byName.contains name = true
  inverse (name macroName : Text) : OneToOne es →
    (t.byName.find? name = some macroName ↔ t.byMacro.find? macroName = some name)

theorem Indexes.consistent (h : t.Indexes es) : t.Consistent es := by
  have hname : LastCounts t.byName (·.name) (·.macroName) es := h.byName
  have hmacro : LastCounts t.byMacro (·.macroName) (·.name) es := h.byMacro
  constructor
  case of_byName => exact fun _ _ => hname.exists_of_find?
  case of_byMacro => exact fun _ _ => hmacro.exists_of_find?
  case macro_mem => exact fun _ _ => hname.contains_of_find? hmacro
  case name_mem => exact fun _ _ => hmacro.contains_of_find? hname
  case inverse =>
    intro name macroName hes
    constructor
    · exact hname.find?_of_find? hmacro fun e he e' he' hon hon' => (hes e he e' he' hon hon').2
    · exact hmacro.find?_of_find? hname fun e he e' he' hon hon' => (hes e he e' he' hon hon').1

/-! ## entries that are not enabled -/

theorem ofEntries_congr {es es' : List PrefEntry}
    (h : es'.filter (·.enabled) = es.filter (·.enabled)) : ofEntries es' = ofEntries es := by
  unfold ofEntries
  rw [h]

theorem ofEntries_append_disabled (hoff : e.enabled = false) (es es' : List PrefEntry) :
    ofEntries (es ++ e :: es') = ofEntries (es ++ es') := by
  apply ofEntries_congr
  rw [List.filter_append, List.filter_cons_of_neg (by simp [hoff]), ← List.filter_append]

/-- **The maps of an accepted table are consistent.**  They depend on the enabled entries alone, in
their order: other lines with the same enabled entries give the same maps, and so do the lines that
are left when one entry that is not enabled, on one line or in two halves, is taken out. -/
theorem parse_consistent {lines : List Text} (h : (parse lines).outcome = .ok t) :
    ∃ es left, Reading (lines.filterMap ofText) es left ∧ t.Consistent es ∧
      (∀ lines' es' left', Reading (lines'.filterMap ofText) es' left' →
        es'.filter (·.enabled) = es.filter (·.enabled) → (parse lines').outcome = .ok t) ∧
      ∀ before piece after e, lines = before ++ (piece ++ after) →
        Reading (piece.filterMap ofText) [e] none → e.enabled = false →
        (parse (before ++ after)).outcome = .ok t := by
  obtain ⟨es, left, hr⟩ := readable_of_parse h
  have hindexes := indexes_of_parse h hr
  rw [map_kind_located] at hr
  obtain rfl : ofEntries es = t := Except.ok.inj ((parse_of_reading_lines hr).symm.trans h)
  refine ⟨es, left, hr, hindexes.consistent, fun lines' es' left' hr' hes => ?_, ?_⟩
  · rw [parse_of_reading_lines hr', ofEntries_congr hes]
  · rintro before piece after e rfl hp hoff
    rw [List.filterMap_append, List.filterMap_append] at hr
    obtain ⟨es₁, es₂, rfl, hrest⟩ := hr.remove hp
    rw [← List.filterMap_append] at hrest
    rw [parse_of_reading_lines hrest, ofEntries_append_disabled hoff]

/-! Two suites of one preference: the first one has lost the preference in one map only.  The entry
in two halves is switched off. -/

def twiceNamed : List Text :=
  ["\x7b \"p\", TLS_A, true \x7d,".toList, "\x7b \"p\", TLS_B, true \x7d,".toList]

def switchedOff : List Text := ["\x7b \"q\",".toList, "// why".toList, "TLS_B, false \x7d,".toList]

theorem parse_consistent_twice_named :
    ∃ t, (parse (twiceNamed ++ (switchedOff ++ []))).outcome = .ok t ∧
      t.byMacro.find? "TLS_A".toList = some "p".toList ∧
      t.byName.find? "p".toList = some "TLS_B".toList ∧
      t.byMacro.contains "TLS_B".toList = true ∧
      (parse (twiceNamed ++ [])).outcome = .ok t := by
  have hparse : (parse (twiceNamed ++ (switchedOff ++ []))).outcome =
      .ok (.ofEntries [⟨"p".toList, "TLS_A".toList, true⟩, ⟨"p".toList, "TLS_B".toList, true⟩,
        ⟨"q".toList, "TLS_B".toList, false⟩]) := by decide +kernel
  have hkinds : switchedOff.filterMap ofText =
      [.opener "q".toList, .closer "TLS_B".toList false] := by decide +kernel
  obtain ⟨es, left, -, hmaps, -, hout⟩ := parse_consistent hparse
  have hname : (ofEntries [⟨"p".toList, "TLS_A".toList, true⟩, ⟨"p".toList, "TLS_B".toList, true⟩,
      ⟨"q".toList, "TLS_B".toList, false⟩]).byName.find? "p".toList = some "TLS_B".toList := by
    decide +kernel
  refine ⟨_, hparse, by decide +kernel, hname, hmaps.macro_mem _ _ hname, ?_⟩
  refine hout twiceNamed switchedOff [] ⟨"q".toList, "TLS_B".toList, false⟩ rfl ?_ rfl
  rw [hkinds]
  exact .halves _ _ _ .nil

end PrefTable

end Upkeep
