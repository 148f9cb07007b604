import Upkeep.Layout
import Upkeep.Proofs.PrefTable.Parse
import Upkeep.Proofs.PrefTable.Printed

/-!
# Reading a printed table back

A table is printed entry by entry (`Prints`): each on one line or in two halves, indented at will,
and with any lines in between, also between two halves, that the reader passes over.  Around it
stand other lines before its first line and any bytes after its last one.  Main statement: in the
standard layout the table is read back, with exactly the entries printed and their order.

What is read of a printed line is one fact for each kind of line (`BodyLine`), so that the
induction over the table only puts those facts together.
-/

namespace Upkeep

open Text EntryLine

/-! ## printed tables -/

/-- an entry to be printed; the flag may be left out -/
structure Row extends Labels where
  flag : Option Bool

namespace Row

/-- the entry that is read back -/
def entry (r : Row) : PrefEntry := ⟨r.name, r.macroName, r.flag = some true⟩

def tail (r : Row) : Text :=
  match r.flag with
  | none => bareTail
  | some flag => flagTail [] [' '] flag

end Row

/-- white space that keeps to its line -/
def Indent (w : Text) : Prop := ∀ c ∈ w, isWhite c = true ∧ c ≠ '\n'

instance (w : Text) : Decidable (Indent w) :=
  List.decidableBAll (fun c => isWhite c = true ∧ c ≠ '\n') w

/-- what a line of a table is once it is trimmed -/
def bodyKind (t : Text) : Option EntryLine := ofText t.trim

/-- a line between the first and the last line of a table that `stop` ends, and what it is -/
structure BodyLine (stop t : Text) (kind : Option EntryLine) : Prop where
  newline_notMem : '\n' ∉ t
  not_stop : ¬ stop <+: t.trim
  bodyKind_eq : bodyKind t = kind

/-- the lines print the rows, each whole or in two halves, with lines of no entry in between -/
inductive Prints (stop : Text) : List Row → List Text → Prop
  | nil : Prints stop [] []
  | other {t : Text} {rows : List Row} {ts : List Text} : BodyLine stop t none →
      Prints stop rows ts → Prints stop rows (t :: ts)
  | whole (r : Row) {w : Text} {rows : List Row} {ts : List Text} : Indent w →
      Prints stop rows ts → Prints stop (r :: rows) ((w ++ r.whole r.tail) :: ts)
  | halves (r : Row) {flag : Bool} {w w' : Text} {between : List Text} {rows : List Row}
      {ts : List Text} : r.flag = some flag → Indent w → Indent w' →
      (∀ t ∈ between, BodyLine stop t none) → Prints stop rows ts →
      Prints stop (r :: rows)
        ((w ++ r.firstHalf) :: (between ++ (w' ++ r.secondHalf r.tail) :: ts))

/-! ## printed lines are read back -/

/-- a printed line starts with something black and ends with a comma, so that only the indent is
trimmed -/
theorem BodyLine.indented {stop w t : Text} {kind : Option EntryLine} (hw : Indent w)
    (hn : '\n' ∉ t) (hh : ∀ c ∈ t.head?, isWhite c = false) (hl : t.getLast? = some ',')
    (hs : ¬ stop <+: t) (hk : ofText t = kind) : BodyLine stop (w ++ t) kind := by
  have hl' : ∀ c ∈ t.getLast?, isWhite c = false := by
    intro c hc
    rw [hl] at hc
    obtain rfl : ',' = c := Option.some.inj hc
    decide
  have ht : (w ++ t).trim = t := by
    rw [trim_white_append fun c hc => (hw c hc).1, trim_of_ends hh hl']
  refine ⟨fun h => ?_, by rwa [ht], by rwa [bodyKind, ht]⟩
  rcases List.mem_append.1 h with h | h
  · exact (hw _ h).2 rfl
  · exact hn h

theorem Labels.newline_notMem_secondHalf (x : Labels) {tail : Text} (h : '\n' ∉ tail) :
    '\n' ∉ x.secondHalf tail := fun hm => by
  rcases List.mem_append.1 hm with hm | hm
  · exact absurd (x.isWordChar_of_mem _ hm) (by decide)
  · exact h hm

theorem Labels.newline_notMem_firstHalf (x : Labels) : '\n' ∉ x.firstHalf := fun hm => by
  simp only [Labels.firstHalf, List.mem_cons, List.mem_append, List.not_mem_nil, or_false] at hm
  rcases hm with h | h | h | h | h | h
  · exact absurd h (by decide)
  · exact absurd h (by decide)
  · exact absurd h (by decide)
  · exact x.newline_notMem h
  · exact absurd h (by decide)
  · exact absurd h (by decide)

theorem tableEnd_eq :
    Layout.standard.tableEnd = '{' :: ' ' :: 'n' :: "ullptr, 0\x7d".toList := by
  decide +kernel

theorem Labels.isWhite_head?_firstHalf (x : Labels) (rest : Text) :
    ∀ c ∈ (x.firstHalf ++ rest).head?, isWhite c = false := by
  intro c hc
  obtain rfl : '{' = c := Option.some.inj hc
  decide

/-- the quote after the brace tells an entry from the last line of the table -/
theorem Labels.not_stop_firstHalf (x : Labels) (rest : Text) :
    ¬ Layout.standard.tableEnd <+: x.firstHalf ++ rest := fun h => by
  rw [tableEnd_eq, Labels.firstHalf, List.cons_append, List.cons_append, List.cons_append,
    List.cons_prefix_cons, List.cons_prefix_cons, List.cons_prefix_cons] at h
  exact absurd h.2.2.1 (by decide)

namespace Row

variable (r : Row) {w : Text}

theorem getLast?_append_tail (u : Text) : (u ++ r.tail).getLast? = some ',' := by
  have h : r.tail.getLast? = some ',' := by
    unfold tail
    cases r.flag with
    | none => rfl
    | some flag => cases flag <;> rfl
  rw [List.getLast?_append, h]
  rfl

theorem newline_notMem_tail : '\n' ∉ r.tail := by
  unfold tail
  cases r.flag with
  | none => decide
  | some flag => cases flag <;> decide

theorem ofText_whole : ofText (r.whole r.tail) =
    some (.entry r.name r.macroName r.entry.enabled) := by
  unfold tail entry
  cases r.flag with
  | none => exact ofText_whole_bare r.toLabels
  | some flag =>
    rw [ofText_whole_flag r.toLabels (List.forall_mem_nil _) white_blank (.inr (by decide)) flag]
    simp

theorem bodyLine_whole (hw : Indent w) :
    BodyLine Layout.standard.tableEnd (w ++ r.whole r.tail)
      (some (.entry r.name r.macroName r.entry.enabled)) := by
  have hn : '\n' ∉ r.whole r.tail := by
    intro h
    rcases List.mem_append.1 h with h | h
    · exact r.newline_notMem_firstHalf h
    · rcases List.mem_cons.1 h with h | h
      · exact absurd h (by decide)
      · exact r.newline_notMem_secondHalf r.newline_notMem_tail h
  have hl : (r.whole r.tail).getLast? = some ',' := by
    have hu : r.whole r.tail = (r.firstHalf ++ ' ' :: r.macroName) ++ r.tail := by
      simp [Labels.whole, Labels.secondHalf]
    rw [hu, r.getLast?_append_tail]
  exact .indented hw hn (r.isWhite_head?_firstHalf _) hl (r.not_stop_firstHalf _) r.ofText_whole

theorem bodyLine_firstHalf (hw : Indent w) :
    BodyLine Layout.standard.tableEnd (w ++ r.firstHalf) (some (.opener r.name)) := by
  have hl : r.firstHalf.getLast? = some ',' := by
    have hu : r.firstHalf = ('{' :: ' ' :: '"' :: (r.name ++ ['"'])) ++ [','] := by
      simp [Labels.firstHalf]
    rw [hu, List.getLast?_concat]
  have hh := r.isWhite_head?_firstHalf []
  have hs := r.not_stop_firstHalf []
  rw [List.append_nil] at hh hs
  exact .indented hw r.newline_notMem_firstHalf hh hl hs (ofText_firstHalf r.toLabels)

theorem bodyLine_secondHalf {flag : Bool} (hf : r.flag = some flag) (hw : Indent w) :
    BodyLine Layout.standard.tableEnd (w ++ r.secondHalf r.tail)
      (some (.closer r.macroName r.entry.enabled)) := by
  obtain ⟨c, m, hm⟩ := List.exists_cons_of_ne_nil r.macroName_ne_nil
  have hc : isWordChar c = true := r.isWordChar_of_mem c (hm ▸ List.mem_cons_self)
  have hh : ∀ d ∈ (r.secondHalf r.tail).head?, isWhite d = false := by
    intro d hd
    rw [Labels.secondHalf, hm] at hd
    obtain rfl : c = d := Option.some.inj hd
    exact isWhite_of_isWordChar hc
  have hs : ¬ Layout.standard.tableEnd <+: r.secondHalf r.tail := by
    intro h
    rw [tableEnd_eq, Labels.secondHalf, hm, List.cons_append, List.cons_prefix_cons] at h
    rw [← h.1] at hc
    exact absurd hc (by decide)
  have hk : ofText (r.secondHalf r.tail) = some (.closer r.macroName r.entry.enabled) := by
    have ht : r.tail = flagTail [] [' '] flag := by rw [tail, hf]
    have he : r.entry.enabled = flag := by simp [entry, hf]
    rw [ht, he]
    exact ofText_secondHalf r.toLabels white_blank flag
  exact .indented hw (r.newline_notMem_secondHalf r.newline_notMem_tail) hh
    (r.getLast?_append_tail _) hs hk

end Row

/-! ## printed tables are read back -/

namespace Prints

variable {rows : List Row} {ts : List Text}

theorem bodyLine_of_mem (h : Prints Layout.standard.tableEnd rows ts) :
    ∀ t ∈ ts, ∃ kind, BodyLine Layout.standard.tableEnd t kind := by
  induction h with
  | nil => exact fun _ ht => absurd ht List.not_mem_nil
  | other hb _ ih => exact List.forall_mem_cons.2 ⟨⟨_, hb⟩, ih⟩
  | whole r hw _ ih => exact List.forall_mem_cons.2 ⟨⟨_, r.bodyLine_whole hw⟩, ih⟩
  | halves r hf hw hw' hb _ ih =>
    refine List.forall_mem_cons.2 ⟨⟨_, r.bodyLine_firstHalf hw⟩, List.forall_mem_append.2
      ⟨fun t ht => ⟨_, hb t ht⟩, List.forall_mem_cons.2 ⟨⟨_, r.bodyLine_secondHalf hf hw'⟩, ih⟩⟩⟩

/-- the lines of the table read as its rows, and nothing is left over -/
theorem reading (h : Prints Layout.standard.tableEnd rows ts) :
    Reading (ts.filterMap bodyKind) (rows.map Row.entry) none := by
  induction h with
  | nil => exact .nil
  | other hb _ ih =>
    rw [List.filterMap_cons_none hb.bodyKind_eq]
    exact ih
  | whole r hw _ ih =>
    rw [List.filterMap_cons_some (r.bodyLine_whole hw).bodyKind_eq]
    exact .entry _ _ _ ih
  | @halves r flag w w' between rows ts hf hw hw' hb _ ih =>
    have hn : between.filterMap bodyKind = [] :=
      List.filterMap_eq_nil_iff.2 fun t ht => (hb t ht).bodyKind_eq
    rw [List.filterMap_cons_some (r.bodyLine_firstHalf hw).bodyKind_eq, List.filterMap_append, hn,
      List.nil_append, List.filterMap_cons_some (r.bodyLine_secondHalf hf hw').bodyKind_eq]
    exact .halves _ _ _ ih

end Prints

/-! ## files with a printed table -/

/-- what stands around the lines of a table in its file -/
structure Surroundings where
  before : List Text
  startRest : Text
  stopIndent : Text
  stopRest : Text
  /-- everything after the last line of the table, with the end of that line -/
  after : Bytes
  newline_notMem_before : ∀ t ∈ before, '\n' ∉ t
  not_tableStart : ∀ t ∈ before, ¬ Layout.standard.tableStart <+: t
  newline_notMem_startRest : '\n' ∉ startRest
  indent_stopIndent : Indent stopIndent
  newline_notMem_stopRest : '\n' ∉ stopRest
  head?_after : ∀ b ∈ after.head?, b = 10

namespace Surroundings

variable (s : Surroundings)

def startLine : Text := Layout.standard.tableStart ++ s.startRest

def stopLine : Text := s.stopIndent ++ (Layout.standard.tableEnd ++ s.stopRest)

def file (body : List Text) : Bytes :=
  encode (unlines (s.before ++ s.startLine :: body)) ++ (encode s.stopLine ++ s.after)

theorem newline_notMem_startLine : '\n' ∉ s.startLine := fun h => by
  rcases List.mem_append.1 h with h | h
  · exact absurd h (by decide +kernel)
  · exact s.newline_notMem_startRest h

theorem newline_notMem_stopLine : '\n' ∉ s.stopLine := fun h => by
  rcases List.mem_append.1 h with h | h
  · exact (s.indent_stopIndent _ h).2 rfl
  · rcases List.mem_append.1 h with h | h
    · exact absurd h (by decide +kernel)
    · exact s.newline_notMem_stopRest h

theorem tableEnd_prefix_trim_stopLine : Layout.standard.tableEnd <+: s.stopLine.trim := by
  rw [stopLine, trim_white_append fun c hc => (s.indent_stopIndent c hc).1]
  refine prefix_trim_append (by decide +kernel) (fun c hc => ?_) (fun c hc => ?_) _
  · rw [tableEnd_eq] at hc
    obtain rfl : '{' = c := Option.some.inj hc
    decide
  · have hl : Layout.standard.tableEnd.getLast? = some '}' := by decide +kernel
    rw [hl] at hc
    obtain rfl : '}' = c := Option.some.inj hc
    decide

/-- whatever follows it, the last line of the table is read as a line -/
theorem lines_stopLine : ∃ stop rest, Bytes.lines (encode s.stopLine ++ s.after) = .ok stop :: rest ∧
    stop.trim = s.stopLine.trim := by
  have hn := s.newline_notMem_stopLine
  cases ha : s.after with
  | nil =>
    have hne : s.stopLine ≠ [] := fun h => by
      have hp := s.tableEnd_prefix_trim_stopLine
      rw [h] at hp
      exact absurd (List.prefix_nil.1 hp) (by decide +kernel)
    refine ⟨s.stopLine, [], ?_, rfl⟩
    rw [List.append_nil, Bytes.lines_encode_last hn hne]
  | cons b rest =>
    obtain rfl : b = 10 := s.head?_after b (by rw [ha]; rfl)
    exact ⟨_, _, Bytes.lines_encode_append hn rest, trim_dropReturn _⟩

/-- the table is found, and its lines are the printed ones, trimmed -/
theorem outcome_block_file {body : List Text}
    (h : ∀ t ∈ body, '\n' ∉ t ∧ ¬ Layout.standard.tableEnd <+: t.trim) :
    (PrefTable.block Layout.standard.tableStart Layout.standard.tableEnd
      (Bytes.lines (s.file body))).outcome = .ok (body.map trim) := by
  obtain ⟨stop, rest, hl, ht⟩ := s.lines_stopLine
  have hu : ∀ t ∈ s.before ++ s.startLine :: body, '\n' ∉ t := List.forall_mem_append.2
    ⟨s.newline_notMem_before, List.forall_mem_cons.2 ⟨s.newline_notMem_startLine,
      fun t ht => (h t ht).1⟩⟩
  have hread : Excerpt.read Layout.standard.tableStart.isPrefixOf
      (fun t => Layout.standard.tableEnd.isPrefixOf t.trim) (Bytes.lines (s.file body)) =
        .ok ⟨.closed, body.map dropReturn⟩ := by
    rw [file, Bytes.lines_encode_unlines hu, hl, List.map_append, List.map_cons, List.map_append,
      List.map_cons, List.append_assoc, List.cons_append]
    refine Excerpt.read_closed (List.forall_mem_map.2 fun t ht => ?_) ?_
      (List.forall_mem_map.2 fun t ht => ?_) ?_ rest
    · refine Bool.eq_false_iff.2 fun hp => s.not_tableStart t ht ?_
      have hp' := List.isPrefixOf_iff_prefix.1 hp
      exact hp'.trans t.isPrefix_dropReturn
    · exact List.isPrefixOf_iff_prefix.2 (prefix_dropReturn_append (by decide +kernel) _)
    · refine Bool.eq_false_iff.2 fun hp => (h t ht).2 ?_
      rw [← trim_dropReturn]
      exact List.isPrefixOf_iff_prefix.1 hp
    · show Layout.standard.tableEnd.isPrefixOf stop.trim = true
      rw [ht]
      exact List.isPrefixOf_iff_prefix.2 s.tableEnd_prefix_trim_stopLine
  rw [PrefTable.outcome_block, hread]
  show Except.ok ((body.map dropReturn).map trim) = _
  rw [List.map_map]
  exact congrArg _ (List.map_congr_left fun t _ => trim_dropReturn t)

end Surroundings

/-! ## the table is read back -/

/-- **A printed table is read back.**  However its rows are laid out over the lines, whatever stands
between them and around the table, it is accepted, and its maps are those of the rows. -/
theorem PrefTable.read_printed {rows : List Row} {body : List Text}
    (h : Prints Layout.standard.tableEnd rows body) (s : Surroundings) :
    ∃ t, (PrefTable.read Layout.standard.tableStart Layout.standard.tableEnd
        (Bytes.lines (s.file body))).outcome = .ok t ∧ t.Indexes (rows.map Row.entry) := by
  have hb := s.outcome_block_file fun t ht => by
    obtain ⟨kind, hk⟩ := h.bodyLine_of_mem t ht
    exact ⟨hk.newline_notMem, hk.not_stop⟩
  have hr : Reading ((body.map trim).filterMap ofText) (rows.map Row.entry) none := by
    rw [List.filterMap_map]
    exact h.reading
  refine ⟨.ofEntries (rows.map Row.entry), ?_, indexes_ofEntries _⟩
  rw [PrefTable.read, Run.outcome_bind_ok hb]
  exact parse_of_reading_lines hr

/-- a line in front, a blank before the last line, and bytes after it that are no text -/
def Surroundings.sample : Surroundings where
  before := ["// prefs".toList]
  startRest := " = \x7b".toList
  stopIndent := [' ']
  stopRest := " \x7d".toList
  after := [10, 0xFF, 0xFE]
  newline_notMem_before := by decide +kernel
  not_tableStart := by decide +kernel
  newline_notMem_startRest := by decide
  indent_stopIndent := by decide
  newline_notMem_stopRest := by decide
  head?_after := fun _ hb => (Option.some.inj hb).symm

theorem PrefTable.read_printed_sample :
    ∃ t, (PrefTable.read Layout.standard.tableStart Layout.standard.tableEnd
      (Bytes.lines (Surroundings.sample.file ["  \x7b \"p\",".toList, "// why".toList,
        "\tTLS_X, true \x7d,".toList, "\x7b \"p\", TLS_X \x7d,".toList]))).outcome = .ok t ∧
    t.Indexes [⟨"p".toList, "TLS_X".toList, true⟩, ⟨"p".toList, "TLS_X".toList, false⟩] :=
  have hb : ∀ t ∈ ["// why".toList], BodyLine Layout.standard.tableEnd t none :=
    List.forall_mem_singleton.2 ⟨by decide, by decide +kernel, by decide +kernel⟩
  have h : Prints Layout.standard.tableEnd [⟨.sample, some true⟩, ⟨.sample, none⟩]
      ["  \x7b \"p\",".toList, "// why".toList, "\tTLS_X, true \x7d,".toList,
        "\x7b \"p\", TLS_X \x7d,".toList] :=
    .halves ⟨.sample, some true⟩ rfl (by decide : Indent [' ', ' ']) (by decide : Indent ['\t']) hb
      (.whole ⟨.sample, none⟩ (by decide : Indent []) .nil)
  PrefTable.read_printed h .sample

end Upkeep
