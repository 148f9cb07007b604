import Upkeep.Proofs.PrefTable.RoundTrip
import Upkeep.Proofs.Text.Insertion

/-!
# An entry put into a preference table

A complete entry can be put into the file of a table wherever no entry is begun
(`PrefTable.Settled`): before the table, in it or after it.  The entries before it and after it are
read as they were, so the preference of a suite is the same, unless the new entry is enabled and is
one of that suite (`PrefTable.preferenceFor?_inserted`).
-/

namespace Upkeep

open Text EntryLine

namespace EntryLine.Reading

variable {ks ks' : List EntryLine} {es es' es₁ : List PrefEntry} {left : Option Text}

theorem append (h : Reading ks es none) (h' : Reading ks' es' left) :
    Reading (ks ++ ks') (es ++ es') left := by
  generalize hnone : none = l at h
  induction h with
  | nil => exact h'
  | opener name => cases hnone
  | entry name macroName enabled _ ih => exact .entry _ _ _ (ih hnone)
  | halves name macroName enabled _ ih => exact .halves _ _ _ (ih hnone)

/-- a reading goes on where one that leaves nothing over has ended -/
theorem split (h : Reading (ks ++ ks') es left) (hks : Reading ks es₁ none) :
    ∃ es₂, es = es₁ ++ es₂ ∧ Reading ks' es₂ left := by
  generalize hnone : none = l at hks
  induction hks generalizing es with
  | nil => exact ⟨es, rfl, h⟩
  | opener name => cases hnone
  | entry name macroName enabled _ ih =>
    cases h with
    | entry _ _ _ h =>
      obtain ⟨es₂, rfl, h₂⟩ := ih h hnone
      exact ⟨es₂, rfl, h₂⟩
  | halves name macroName enabled _ ih =>
    cases h with
    | halves _ _ _ h =>
      obtain ⟨es₂, rfl, h₂⟩ := ih h hnone
      exact ⟨es₂, rfl, h₂⟩

end EntryLine.Reading

namespace PrefTable

variable {start stop : Text} {ls ls' before after : List Line} {t : PrefTable}

/-- the lines of the table in a file -/
def excerpt (start stop : Text) (ls : List Line) : Except IoFault Excerpt :=
  Excerpt.read start.isPrefixOf (fun t => stop.isPrefixOf t.trim) ls

/-- no entry is begun after the lines of a file -/
def Settled (start stop : Text) (ls : List Line) : Prop :=
  ∃ x, excerpt start stop ls = .ok x ∧
    (x.extent = .closed ∨ ∃ es, Reading (x.lines.filterMap bodyKind) es none)

theorem outcome_read_eq_ok_iff : (read start stop ls).outcome = .ok t ↔
    ∃ x es left, excerpt start stop ls = .ok x ∧ Reading (x.lines.filterMap bodyKind) es left ∧
      t = .ofEntries es := by
  have hkinds : ∀ x : Excerpt, (x.lines.map trim).filterMap ofText = x.lines.filterMap bodyKind :=
    fun x => List.filterMap_map
  show (block start stop ls >>= parse).outcome = .ok t ↔ _
  rw [Run.outcome_bind_eq_ok_iff, outcome_block]
  show (∃ b, ((excerpt start stop ls).mapError Failure.stream).map _ = .ok b ∧ _) ↔ _
  cases excerpt start stop ls with
  | error e => simp [Except.map]
  | ok x =>
    constructor
    · rintro ⟨_, hb, hp⟩
      obtain rfl := Except.ok.inj hb
      obtain ⟨es, left, hr⟩ := readable_of_parse hp
      rw [map_kind_located] at hr
      rw [parse_of_reading_lines hr] at hp
      rw [hkinds] at hr
      exact ⟨x, es, left, rfl, hr, (Except.ok.inj hp).symm⟩
    · rintro ⟨_, es, left, hx, hr, rfl⟩
      obtain rfl := Except.ok.inj hx
      exact ⟨_, rfl, parse_of_reading_lines (hkinds x ▸ hr)⟩

/-! ## lines that are read again -/

theorem bodyKind_dropReturn (t : Text) : bodyKind t.dropReturn = bodyKind t := by
  unfold bodyKind
  rw [trim_dropReturn]

theorem excerpt_rereads (hstart : start.getLast? ≠ some '\r')
    (h : List.Forall₂ Line.Rereads ls ls') {x : Excerpt} (hx : excerpt start stop ls = .ok x) :
    ∃ x', excerpt start stop ls' = .ok x' ∧ x.Rereads x' := by
  refine Excerpt.read_rereads (fun t => ?_) (fun t => ?_) h hx
  · rw [Bool.eq_iff_iff, List.isPrefixOf_iff_prefix, List.isPrefixOf_iff_prefix]
    constructor
    · exact fun hp => hp.trans t.isPrefix_dropReturn
    · rintro ⟨r, rfl⟩
      exact prefix_dropReturn_append hstart r
  · rw [trim_dropReturn]

theorem outcome_read_rereads (hstart : start.getLast? ≠ some '\r')
    (h : List.Forall₂ Line.Rereads ls ls') (ht : (read start stop ls).outcome = .ok t) :
    (read start stop ls').outcome = .ok t := by
  obtain ⟨x, es, left, hx, hr, rfl⟩ := outcome_read_eq_ok_iff.1 ht
  obtain ⟨x', hx', hrereads⟩ := excerpt_rereads hstart h hx
  refine outcome_read_eq_ok_iff.2 ⟨x', es, left, hx', ?_, rfl⟩
  rwa [filterMap_rereads bodyKind_dropReturn hrereads.lines]

theorem Settled.rereads (hstart : start.getLast? ≠ some '\r')
    (h : List.Forall₂ Line.Rereads ls ls') (hs : Settled start stop ls) :
    Settled start stop ls' := by
  obtain ⟨x, hx, hend⟩ := hs
  obtain ⟨x', hx', hrereads⟩ := excerpt_rereads hstart h hx
  refine ⟨x', hx', ?_⟩
  rwa [hrereads.extent, filterMap_rereads bodyKind_dropReturn hrereads.lines]

/-! ## the new entry -/

/-- white space or a brace is in front of a printed entry -/
theorem not_tableStart_whole (r : Row) {w : Text} (hw : Indent w) :
    ¬ Layout.standard.tableStart <+: w ++ r.whole r.tail := by
  have hs : Layout.standard.tableStart = 's' :: "tatic const CipherPref sCipherPrefs[]".toList := by
    decide +kernel
  rw [hs]
  intro hp
  cases w with
  | nil => exact absurd (List.cons_prefix_cons.1 hp).1 (by decide)
  | cons c w =>
    obtain rfl : 's' = c := (List.cons_prefix_cons.1 hp).1
    exact absurd (hw 's' List.mem_cons_self).1 (by decide)

/-- the entries are those of the table with the new one among them, or without it when it is put
outside the table -/
theorem outcome_read_insert {line : Text} {e : PrefEntry} (hopen : ¬ start <+: line)
    (hline : BodyLine stop line (some (.entry e.name e.macroName e.enabled)))
    (hs : Settled start stop before) (ht : (read start stop (before ++ after)).outcome = .ok t) :
    (read start stop (before ++ .ok line :: after)).outcome = .ok t ∨
    ∃ es es', t = .ofEntries (es ++ es') ∧
      (read start stop (before ++ .ok line :: after)).outcome =
        .ok (.ofEntries (es ++ e :: es')) := by
  obtain ⟨x, hx, hend⟩ := hs
  obtain ⟨y, es, left, hy, hr, rfl⟩ := outcome_read_eq_ok_iff.1 ht
  have ho : start.isPrefixOf line = false := by simpa [← Bool.not_eq_true] using hopen
  have hc : stop.isPrefixOf line.trim = false := by
    simpa [← Bool.not_eq_true] using hline.not_stop
  rcases Excerpt.read_insert ho hc hx after with hsame | ⟨hext, z, hz, hz'⟩
  · exact .inl (outcome_read_eq_ok_iff.2 ⟨y, es, left, hsame.trans hy, hr, rfl⟩)
  · obtain ⟨es₁, hr₁⟩ : ∃ es, Reading (x.lines.filterMap bodyKind) es none := by
      refine hend.resolve_left fun hclosed => ?_
      rw [hext] at hclosed
      cases hclosed
    cases z with
    | error f =>
      have hread : excerpt start stop (before ++ after) = .error f := hz
      rw [hread] at hy
      cases hy
    | ok z =>
      obtain rfl : Excerpt.prepend x.lines z = y := Except.ok.inj (hz.symm.trans hy)
      have hlines : (Excerpt.prepend x.lines z).lines = x.lines ++ z.lines := rfl
      rw [hlines, List.filterMap_append] at hr
      obtain ⟨es₂, rfl, hr₂⟩ := hr.split hr₁
      refine .inr ⟨es₁, es₂, rfl, outcome_read_eq_ok_iff.2 ⟨_, _, left, hz', ?_, rfl⟩⟩
      show Reading ((x.lines ++ [line] ++ z.lines).filterMap bodyKind) _ left
      rw [List.append_assoc, List.filterMap_append, List.singleton_append,
        List.filterMap_cons_some hline.bodyKind_eq]
      exact hr₁.append (.entry _ _ _ hr₂)

theorem preferenceFor?_ofEntries_insert {e : PrefEntry} {suite : Text}
    (h : e.enabled = true → e.macroName ≠ suite) (es es' : List PrefEntry) :
    (ofEntries (es ++ e :: es')).preferenceFor? suite =
      (ofEntries (es ++ es')).preferenceFor? suite := by
  have hskip : ∀ q : PrefEntry → Bool, ¬ q e = true →
      (es ++ e :: es').filter q = (es ++ es').filter q := fun q hq => by
    rw [List.filter_append, List.filter_cons_of_neg hq, List.filter_append]
  show (ofEntries _).byMacro.find? suite = (ofEntries _).byMacro.find? suite
  rw [(indexes_ofEntries _).byMacro, (indexes_ofEntries _).byMacro, PrefEntry.lastFor,
    PrefEntry.lastFor, hskip _ (by simpa using h)]

/-- **An entry put into the table changes the preference of its own suite at most**, and that only
if it is enabled. -/
theorem preferenceFor?_inserted {before' : List Line} (r : Row) {w : Text} (hw : Indent w)
    (hs : Settled Layout.standard.tableStart Layout.standard.tableEnd before)
    (hb : List.Forall₂ Line.Rereads before before')
    (ht : (read Layout.standard.tableStart Layout.standard.tableEnd (before ++ after)).outcome =
      .ok t) :
    ∃ t', (read Layout.standard.tableStart Layout.standard.tableEnd
        (before' ++ .ok (w ++ r.whole r.tail) :: after)).outcome = .ok t' ∧
      ∀ suite, (r.flag = some true → r.macroName ≠ suite) →
        t'.preferenceFor? suite = t.preferenceFor? suite := by
  have hstart : Layout.standard.tableStart.getLast? ≠ some '\r' := by decide +kernel
  have hs' := hs.rereads hstart hb
  have ht' := outcome_read_rereads hstart (List.rel_append hb (Line.rereads_refl after)) ht
  have hopen := not_tableStart_whole r hw
  have hline := r.bodyLine_whole hw
  rcases outcome_read_insert (e := r.entry) hopen hline hs' ht' with hsame | ⟨es, es', rfl, hnew⟩
  · exact ⟨t, hsame, fun _ _ => rfl⟩
  · refine ⟨_, hnew, fun suite hsuite => preferenceFor?_ofEntries_insert (fun he => ?_) es es'⟩
    exact hsuite (of_decide_eq_true he)

end PrefTable

end Upkeep
