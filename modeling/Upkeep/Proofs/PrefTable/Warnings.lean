import Upkeep.Proofs.PrefTable.Insertion
import Upkeep.Proofs.Text.ExcerptPlaces

/-!
# The warnings about a preference table

A table that is accepted may still be doubtful: it was not found, it has no end, or its last entry
has no second half.  The first two are noticed by the reader of its lines, the third by the reader
of its entries, each when it has come to its end.  What they are told from is here told by places:
the opening line of the table and the closing line after it (`PrefTable.Spans`), and the last line
between them that belongs to an entry (`EntryLine.unclosed?`).

Main statement: the warnings are these and no others, in this order (`PrefTable.read_warnings`).
-/

namespace Upkeep

open Text EntryLine Excerpt

def Run.warnings {α : Type} (x : Run α) : List Notice := x.notices.filter (·.level = .warn)

theorem Run.warnings_bind_ok {α β : Type} {x : Run α} {a : α} (h : x.outcome = .ok a)
    (f : α → Run β) : (x >>= f).warnings = x.warnings ++ (f a).warnings := by
  unfold warnings
  rw [notices_bind_ok h, List.filter_append]

namespace EntryLine

/-- the name of the entry that the last line begins -/
def unclosed? (ks : List EntryLine) : Option Text :=
  match ks.getLast? with
  | some (.opener name) => some name
  | _ => none

theorem unclosed?_eq_some_iff {ks : List EntryLine} {name : Text} :
    unclosed? ks = some name ↔ ks.getLast? = some (.opener name) := by
  unfold unclosed?
  split
  · next n hn => simp [hn]
  · next hno => exact iff_of_false (by simp) fun h => hno name h

theorem unclosed?_cons_cons (k k' : EntryLine) (ks : List EntryLine) :
    unclosed? (k :: k' :: ks) = unclosed? (k' :: ks) := by
  unfold unclosed?
  rw [List.getLast?_cons_cons]

/-- a line that ends an entry begins none, also as the last one -/
theorem unclosed?_cons {k : EntryLine} (hk : ∀ name, k ≠ .opener name) (ks : List EntryLine) :
    unclosed? (k :: ks) = unclosed? ks := by
  cases ks with
  | nil =>
    cases k with
    | opener name => exact absurd rfl (hk name)
    | entry _ _ _ => rfl
    | closer _ _ => rfl
  | cons k' ks => exact unclosed?_cons_cons k k' ks

/-- what a reading leaves over is what the last line begins -/
theorem Reading.left_eq {ks : List EntryLine} {es : List PrefEntry} {left : Option Text}
    (h : Reading ks es left) : left = unclosed? ks := by
  induction h with
  | nil => rfl
  | opener name => rfl
  | entry name macroName enabled h ih => rw [unclosed?_cons (by simp), ih]
  | halves name macroName enabled h ih =>
    rw [unclosed?_cons_cons, unclosed?_cons (by simp), ih]

end EntryLine

namespace PrefTable

variable {start stop : Text} {ls : List Line} {x : Excerpt}

/-! ## where the table is -/

/-- the lines `ts` of a table, and which of its two ends were found: the opening line is the first
one that begins with `start`, the closing line the first one after it that begins, trimmed, with
`stop` -/
inductive Spans (start stop : Text) (ls : List Line) : Extent → List Text → Prop
  | absent : (∀ l ∈ ls, ¬ Line.Has (start <+: ·) l) → Spans start stop ls .absent []
  | unterminated {i : Nat} {ts : List Text} : FirstFrom (Line.Has (start <+: ·)) ls 0 i →
      (∀ l ∈ ls.drop (i + 1), ¬ Line.Has (fun t => stop <+: t.trim) l) →
      ls.drop (i + 1) = ts.map .ok → Spans start stop ls .unterminated ts
  | closed {i j : Nat} {ts : List Text} : FirstFrom (Line.Has (start <+: ·)) ls 0 i →
      FirstFrom (Line.Has fun t => stop <+: t.trim) ls (i + 1) j →
      (ls.take j).drop (i + 1) = ts.map .ok → Spans start stop ls .closed ts

theorem spans_of_excerpt (hx : excerpt start stop ls = .ok x) :
    Spans start stop ls x.extent x.lines := by
  have hstart : (fun t : Text => start.isPrefixOf t = true) = (start <+: ·) :=
    funext fun t => propext List.isPrefixOf_iff_prefix
  have hstop : (fun t : Text => stop.isPrefixOf t.trim = true) = fun t => stop <+: t.trim :=
    funext fun t => propext List.isPrefixOf_iff_prefix
  have hgood := not_spoiled_of_found (read_eq_ok_iff_found.1 hx)
  by_cases hi : ∃ i, FirstFrom (Line.Has (start <+: ·)) ls 0 i
  · obtain ⟨i, hi⟩ := hi
    have hi' := hi
    rw [← hstart] at hi'
    by_cases hj : ∃ j, FirstFrom (Line.Has fun t => stop <+: t.trim) ls (i + 1) j
    · obtain ⟨j, hj⟩ := hj
      have hj' := hj
      rw [← hstop] at hj'
      obtain ⟨ts, hts, hread⟩ := read_at_closed hi' hj' hgood
      obtain rfl := Except.ok.inj (hread.symm.trans hx)
      exact .closed hi hj hts
    · have hnone := FirstFrom.not_of_mem_drop (not_exists.1 hj)
      rw [← hstop] at hj
      obtain ⟨ts, hts, hread⟩ := read_at_unterminated hi' (not_exists.1 hj) hgood
      obtain rfl := Except.ok.inj (hread.symm.trans hx)
      exact .unterminated hi hnone hts
  · have hnone : ∀ l ∈ ls, ¬ Line.Has (start <+: ·) l :=
      FirstFrom.not_of_mem_drop (not_exists.1 hi)
    rw [← hstart] at hi
    obtain rfl := Except.ok.inj ((read_at_absent (not_exists.1 hi) hgood).symm.trans hx)
    exact .absent hnone

namespace Spans

variable {extent : Extent} {ts : List Text}

theorem absent_iff (h : Spans start stop ls extent ts) :
    extent = .absent ↔ ∀ l ∈ ls, ¬ Line.Has (start <+: ·) l := by
  cases h with
  | absent hno => exact iff_of_true rfl hno
  | unterminated hi _ _ => exact iff_of_false (by simp) hi.not_forall
  | closed hi _ _ => exact iff_of_false (by simp) hi.not_forall

theorem unterminated_iff (h : Spans start stop ls extent ts) :
    extent = .unterminated ↔ ∃ i, FirstFrom (Line.Has (start <+: ·)) ls 0 i ∧
      ∀ l ∈ ls.drop (i + 1), ¬ Line.Has (fun t => stop <+: t.trim) l := by
  cases h with
  | absent hno => exact iff_of_false (by simp) fun ⟨i, hi, _⟩ => hi.not_forall hno
  | unterminated hi hno _ => exact iff_of_true rfl ⟨_, hi, hno⟩
  | closed hi hj _ =>
    refine iff_of_false (by simp) ?_
    rintro ⟨i', hi', hno⟩
    obtain rfl := hi.unique hi'
    exact hj.not_forall hno

theorem closed_iff (h : Spans start stop ls extent ts) :
    extent = .closed ↔ ∃ j, ClosesAt (start <+: ·) (fun t => stop <+: t.trim) ls j := by
  cases h with
  | absent hno => exact iff_of_false (by simp) fun ⟨j, i, hi, _⟩ => hi.not_forall hno
  | unterminated hi hno _ =>
    refine iff_of_false (by simp) ?_
    rintro ⟨j, i', hi', hj⟩
    obtain rfl := hi.unique hi'
    exact hj.not_forall hno
  | closed hi hj _ => exact iff_of_true rfl ⟨_, _, hi, hj⟩

end Spans

/-! ## the warnings -/

/-- the warning about the ends of the table -/
def boundWarnings (start stop : Text) : Extent → List Notice
  | .absent => [.tableNotFound start]
  | .unterminated => [.tableUnterminated stop]
  | .closed => []

theorem block_of_excerpt (hx : excerpt start stop ls = .ok x) :
    (block start stop ls).outcome = .ok (x.lines.map trim) ∧
      (block start stop ls).warnings = boundWarnings start stop x.extent := by
  unfold excerpt at hx
  refine ⟨by rw [outcome_block, hx]; rfl, ?_⟩
  unfold block
  rw [hx, Run.warnings_bind_ok (a := x) rfl]
  obtain ⟨extent, ts⟩ := x
  cases extent <;> rfl

/-- that entries are dropped is told, but is no warning -/
theorem warnings_dropped (es : List PrefEntry) :
    (Run.noteAll (es.map fun e => .entryDropped e.name)).warnings = [] := by
  unfold Run.warnings
  rw [Run.notices_noteAll, List.filter_eq_nil_iff]
  intro w hw
  obtain ⟨e, -, rfl⟩ := List.mem_map.1 hw
  simp [Notice.level]

theorem warnings_parse {lines : List Text} {es : List PrefEntry} {left : Option Text}
    (hr : Reading (lines.filterMap ofText) es left) :
    (parse lines).warnings = left.toList.map .entryNeverClosed := by
  have hread : PrefEntry.read lines = (es, left.elim .complete .unclosed) :=
    read_of_reading (by rwa [map_kind_located])
  unfold parse
  rw [hread]
  dsimp only
  rw [Run.warnings_bind_ok (Run.outcome_noteAll _), warnings_dropped]
  cases left <;> rfl

theorem warnings_of_excerpt (hx : excerpt start stop ls = .ok x) {es : List PrefEntry}
    {left : Option Text} (hr : Reading ((x.lines.map trim).filterMap ofText) es left) :
    (read start stop ls).warnings =
      boundWarnings start stop x.extent ++ left.toList.map .entryNeverClosed := by
  obtain ⟨hout, hwarn⟩ := block_of_excerpt hx
  unfold read
  rw [Run.warnings_bind_ok hout, hwarn, warnings_parse hr]

theorem mem_warnings_iff {extent : Extent} {left : Option Text} {w : Notice} :
    w ∈ boundWarnings start stop extent ++ left.toList.map .entryNeverClosed ↔
      (w = .tableNotFound start ∧ extent = .absent) ∨
      (w = .tableUnterminated stop ∧ extent = .unterminated) ∨
      ∃ name, w = .entryNeverClosed name ∧ left = some name := by
  rw [List.mem_append]
  cases extent <;> cases left <;> simp [boundWarnings]

theorem warnings_eq_nil_iff {extent : Extent} {left : Option Text} :
    boundWarnings start stop extent ++ left.toList.map .entryNeverClosed = [] ↔
      extent = .closed ∧ left = none := by
  cases extent <;> cases left <;> simp [boundWarnings]

/-- **The warnings about an accepted table.**  It was not found: no line of the file begins with
`start`.  It has no end: no line after the first such line begins, trimmed, with `stop`.  It is never
closed: the last of its lines that belongs to an entry is a first half.  There are no other warnings,
and none at all exactly when both ends are there and every first half has its second half. -/
theorem read_warnings {b : Bytes} {t : PrefTable} (h : (read start stop b.lines).outcome = .ok t) :
    ∃ extent ts, Spans start stop b.lines extent ts ∧
      (read start stop b.lines).warnings = boundWarnings start stop extent ++
        (unclosed? (ts.filterMap bodyKind)).toList.map .entryNeverClosed ∧
      (.tableNotFound start ∈ (read start stop b.lines).warnings ↔
        ∀ l ∈ b.lines, ¬ Line.Has (start <+: ·) l) ∧
      (.tableUnterminated stop ∈ (read start stop b.lines).warnings ↔
        ∃ i, FirstFrom (Line.Has (start <+: ·)) b.lines 0 i ∧
          ∀ l ∈ b.lines.drop (i + 1), ¬ Line.Has (fun t => stop <+: t.trim) l) ∧
      (∀ name, .entryNeverClosed name ∈ (read start stop b.lines).warnings ↔
        (ts.filterMap bodyKind).getLast? = some (.opener name)) ∧
      ((read start stop b.lines).warnings = [] ↔
        (∃ j, ClosesAt (start <+: ·) (fun t => stop <+: t.trim) b.lines j) ∧
        ∃ es, Reading (ts.filterMap bodyKind) es none) := by
  obtain ⟨x, es, left, hx, hr, -⟩ := outcome_read_eq_ok_iff.1 h
  have hspans := spans_of_excerpt hx
  have hleft : left = unclosed? (x.lines.filterMap bodyKind) := hr.left_eq
  have hwarn : (read start stop b.lines).warnings =
      boundWarnings start stop x.extent ++ left.toList.map .entryNeverClosed :=
    warnings_of_excerpt hx (by rwa [List.filterMap_map])
  have hclosed : left = none ↔ ∃ es, Reading (x.lines.filterMap bodyKind) es none := by
    constructor
    · rintro rfl
      exact ⟨es, hr⟩
    · rintro ⟨es', hr'⟩
      exact (hr.unique hr').2
  rw [hwarn]
  refine ⟨x.extent, x.lines, hspans, by rw [hleft], ?_, ?_, fun name => ?_, ?_⟩
  · rw [mem_warnings_iff, ← hspans.absent_iff]
    simp
  · rw [mem_warnings_iff, ← hspans.unterminated_iff]
    simp
  · rw [mem_warnings_iff, ← unclosed?_eq_some_iff, ← hleft]
    simp
  · rw [warnings_eq_nil_iff, hspans.closed_iff, hclosed]

/-! A table that has no end, and whose last entry has no second half. -/

def openTable : Bytes := encode "T[\n \x7b \"p\", TLS_A, false \x7d,\n \x7b \"q\",\n".toList

theorem read_warnings_open :
    (read "T[".toList [']'] openTable.lines).outcome = .ok (.ofEntries []) ∧
    (read "T[".toList [']'] openTable.lines).warnings =
      [.tableUnterminated [']'], .entryNeverClosed "q".toList] ∧
    ∃ i, FirstFrom (Line.Has ("T[".toList <+: ·)) openTable.lines 0 i ∧
      ∀ l ∈ openTable.lines.drop (i + 1), ¬ Line.Has (fun t => [']'] <+: t.trim) l := by
  have hread : (read "T[".toList [']'] openTable.lines).outcome = .ok (.ofEntries []) := by
    decide +kernel
  have hwarn : (read "T[".toList [']'] openTable.lines).warnings =
      [.tableUnterminated [']'], .entryNeverClosed "q".toList] := by decide +kernel
  obtain ⟨extent, ts, -, -, -, hend, -, -⟩ := read_warnings hread
  exact ⟨hread, hwarn, hend.1 (by rw [hwarn]; exact List.mem_cons_self)⟩

end PrefTable

end Upkeep
