import Upkeep.Proofs.CipherList.Load
import Upkeep.Proofs.OpenSsl.Lookups
import Upkeep.Proofs.Text.Insertion
import Upkeep.Proofs.Text.TrailingWhite

/-!
# Scanning in one piece

The headers are scanned one after the other, but they could be one file: `Bytes.joined` puts them
together and gives each last line the line feed that it may lack.  This line feed can take a
carriage return with it that would have stayed in the line; a definition does not see the
difference (`Directive.spacedDefinition?_dropReturn`).  A header that is not there adds nothing.

A line that is not UTF-8 ends a scan.  The file breaks there (`Bytes.BreaksAt`), and the index is
the one of the part before.  Main statement: `MacroIndex.scan_in_one_piece`.
-/

namespace Upkeep

open Text

namespace Directive

theorem spacedDefinition?_dropReturn (t : Text) :
    spacedDefinition? t.dropReturn = spacedDefinition? t := by
  apply apply_dropReturn
  intro t
  rw [spacedDefinition?, spacedDefinition?, after?_concat (by decide), Option.bind_map]
  refine congrArg _ (funext fun r => ?_)
  rw [Function.comp_apply, List.dropWhile_append]
  split
  · -- there is nothing but spaces after the `#`
    next h =>
    rw [List.isEmpty_iff.1 h]
    rfl
  · exact nameAndValue?_concat (by decide) _

end Directive

/-! ## files put together -/

namespace Bytes

/-- the file with a line feed after a last line that has none -/
def terminated (b : Bytes) : Bytes := if b.Ended then b else b ++ [10]

/-- the files as one file -/
def joined (bs : List Bytes) : Bytes := bs.flatMap terminated

theorem ended_terminated (b : Bytes) : (terminated b).Ended := by
  unfold terminated
  split
  · next h => exact h
  · exact .inr List.getLast?_concat

/-- the line feed changes the last line by a carriage return at most -/
theorem rereads_terminated (b : Bytes) :
    List.Forall₂ Line.Rereads b.lines (terminated b).lines := by
  unfold terminated
  split
  · exact Line.rereads_refl _
  · next h => exact (lines_append_lineEnd h .feed).2

theorem lines_joined_cons (b : Bytes) (bs : List Bytes) :
    (joined (b :: bs)).lines = (terminated b).lines ++ (joined bs).lines := by
  show (terminated b ++ joined bs).lines = _
  exact lines_append (ended_terminated b) _

/-! ## the first bad line -/

/-- `tail` begins with the first line of the file that is not UTF-8 -/
structure BreaksAt (b head tail : Bytes) : Prop where
  append : b = head ++ tail
  ended : head.Ended
  good : ∀ raw ∈ head.rawLines, (decode raw).isSome = true
  bad : ∃ raw, tail.rawLines.head? = some raw ∧ decode raw = none

variable {b head tail : Bytes}

theorem breaksAt_start {raw : Bytes} (hraw : b.rawLines.head? = some raw)
    (hdec : decode raw = none) : b.BreaksAt [] b :=
  ⟨rfl, .inl rfl, by simp, raw, hraw, hdec⟩

theorem BreaksAt.line {l r : Bytes} (h : r.BreaksAt head tail) (hl : 10 ∉ l)
    (hgood : (decode (closeLine l.reverse)).isSome = true) :
    (l ++ 10 :: r).BreaksAt (l ++ 10 :: head) tail where
  append := by rw [h.append, List.append_assoc, List.cons_append]
  ended := ended_append_newline_iff.2 h.ended
  good := by
    rw [rawLines_append l head hl]
    exact List.forall_mem_cons.2 ⟨hgood, h.good⟩
  bad := h.bad

theorem exists_breaksAt (h : ∃ raw ∈ b.rawLines, decode raw = none) :
    ∃ head tail, b.BreaksAt head tail := by
  induction b using line_induction with
  | last l hl =>
    obtain ⟨raw, hraw, hdec⟩ := h
    have hlines : l.rawLines = if l = [] then [] else [l] := rawLines_last l hl
    split at hlines
    · rw [hlines] at hraw
      cases hraw
    · rw [hlines, List.mem_singleton] at hraw
      subst hraw
      exact ⟨[], raw, breaksAt_start (by rw [hlines]; rfl) hdec⟩
  | line l r hl ih =>
    have hlines : (l ++ 10 :: r).rawLines = closeLine l.reverse :: r.rawLines :=
      rawLines_append l r hl
    cases hfirst : decode (closeLine l.reverse) with
    | none => exact ⟨[], _, breaksAt_start (by rw [hlines]; rfl) hfirst⟩
    | some t =>
      have hgood : (decode (closeLine l.reverse)).isSome = true := by rw [hfirst]; rfl
      have hrest : ∃ raw ∈ r.rawLines, decode raw = none := by
        obtain ⟨raw, hraw, hdec⟩ := h
        rw [hlines] at hraw
        rcases List.mem_cons.1 hraw with rfl | hraw
        · rw [hfirst] at hdec
          cases hdec
        · exact ⟨raw, hraw, hdec⟩
      obtain ⟨head, tail, hbreak⟩ := ih hrest
      exact ⟨l ++ 10 :: head, tail, hbreak.line hl hgood⟩

theorem BreaksAt.exists_bad (h : b.BreaksAt head tail) : ∃ raw ∈ b.rawLines, decode raw = none := by
  obtain ⟨raw, hraw, hdec⟩ := h.bad
  refine ⟨raw, ?_, hdec⟩
  rw [h.append, rawLines_append_of_ended h.ended]
  exact List.mem_append_right _ (List.mem_of_mem_head? hraw)

theorem exists_encode_of_rawLines (h : ∀ raw ∈ b.rawLines, (decode raw).isSome = true) :
    ∃ t, b = encode t := by
  apply decode_isSome_iff.1
  rw [decode_isSome_iff_lines]
  intro x hx
  obtain ⟨raw, hraw, rfl⟩ := List.mem_map.1 hx
  exact ofBytes_eq_ok_iff.2 (h raw hraw)

/-- the lines before the break can be read, and the next one cannot -/
theorem BreaksAt.lines_eq (h : b.BreaksAt head tail) : ∃ (us : List Text) (rest : List Line),
    head.lines = us.map .ok ∧ b.lines = us.map .ok ++ .error .notUtf8 :: rest := by
  obtain ⟨t, rfl⟩ := exists_encode_of_rawLines h.good
  obtain ⟨us, hus⟩ := exists_lines_encode t
  obtain ⟨raw, hraw, hdec⟩ := h.bad
  obtain ⟨raws, hraws⟩ := List.head?_eq_some_iff.1 hraw
  have hbad : Line.ofBytes raw = .error .notUtf8 := by rw [Line.ofBytes, hdec]
  have htail : tail.lines = .error .notUtf8 :: raws.map Line.ofBytes := by
    rw [lines, hraws, List.map_cons, hbad]
  exact ⟨us, _, hus, by rw [h.append, lines_append h.ended, hus, htail]⟩

end Bytes

namespace Disk

def file? (disk : Disk) (path : Path) : Option Bytes :=
  match disk.open? path with
  | .ok (.file content) => some content
  | _ => none

/-- there is nothing at the path, or a file that is a text -/
def Scannable (disk : Disk) (path : Path) : Prop :=
  (∃ e, disk.open? path = .error e ∧ e.kind = .notFound) ∨
    ∃ t, disk.open? path = .ok (.file (encode t))

theorem filterMap_file? {disk : Disk} {paths : List Path} (h : ∀ p ∈ paths, disk.Scannable p) :
    ∃ ts : List Text, paths.filterMap disk.file? = ts.map encode := by
  induction paths with
  | nil => exact ⟨[], rfl⟩
  | cons p paths ih =>
    obtain ⟨hp, hpaths⟩ := List.forall_mem_cons.1 h
    obtain ⟨ts, hts⟩ := ih hpaths
    rcases hp with ⟨e, he, -⟩ | ⟨t, ht⟩
    · have hnone : disk.file? p = none := by rw [file?, he]
      exact ⟨ts, by rw [List.filterMap_cons_none hnone, hts]⟩
    · have hsome : disk.file? p = some (encode t) := by rw [file?, ht]
      exact ⟨t :: ts, by rw [List.filterMap_cons_some hsome, hts, List.map_cons]⟩

end Disk

/-! ## the index -/

namespace MacroIndex

/-- put together, headers that are texts have the same definitions and no bad line -/
theorem lines_joined_encode (ts : List Text) : ∃ us : List Text,
    (Bytes.joined (ts.map encode)).lines = us.map .ok ∧
      us.filterMap Directive.spacedDefinition? = (ts.map encode).flatMap scanned := by
  induction ts with
  | nil => exact ⟨[], rfl, rfl⟩
  | cons t ts ih =>
    obtain ⟨us, hus, hds⟩ := ih
    obtain ⟨vs, hvs⟩ := Bytes.exists_lines_encode t
    have hrereads := Bytes.rereads_terminated (encode t)
    rw [hvs] at hrereads
    obtain ⟨vs', hvs', hread⟩ := Line.forall_ok_of_rereads hrereads
    have hscanned : vs'.filterMap Directive.spacedDefinition? = scanned (encode t) := by
      rw [Text.filterMap_rereads Directive.spacedDefinition?_dropReturn hread, scanned, hvs,
        Line.upToFault_ok]
    refine ⟨vs' ++ us, ?_, ?_⟩
    · rw [List.map_cons, Bytes.lines_joined_cons, hvs', hus, List.map_append]
    · rw [List.filterMap_append, hscanned, hds, List.map_cons, List.flatMap_cons]

theorem value_scan_joined (l : Layout) (ix : MacroIndex) (ts : List Text) :
    (ix.scan l (Bytes.joined (ts.map encode)).lines).value =
      (scanFiles l ix (ts.map encode), none) := by
  obtain ⟨us, hus, hds⟩ := lines_joined_encode ts
  rw [value_scan, hus, Line.upToFault_ok, scanFiles_eq_enter, hds]

theorem value_scan_of_breaksAt (l : Layout) (ix : MacroIndex) {b head tail : Bytes}
    (h : b.BreaksAt head tail) :
    (ix.scan l b.lines).value = ((ix.scan l head.lines).value.1, some .notUtf8) := by
  obtain ⟨us, rest, hhead, hb⟩ := h.lines_eq
  rw [value_scan, value_scan, hhead, hb, Line.upToFault_ok, Line.upToFault_fault]

theorem fault_scan_eq_some_iff {l : Layout} {ix : MacroIndex} {b : Bytes} {e : IoFault} :
    (ix.scan l b.lines).value.2 = some e ↔
      e = .notUtf8 ∧ ∃ raw ∈ b.rawLines, decode raw = none := by
  by_cases hbad : ∃ raw ∈ b.rawLines, decode raw = none
  · obtain ⟨head, tail, hbreak⟩ := Bytes.exists_breaksAt hbad
    rw [value_scan_of_breaksAt l ix hbreak, Option.some.injEq, eq_comm, and_iff_left hbad]
  · have hgood : ∀ raw ∈ b.rawLines, (decode raw).isSome = true := by
      intro raw hraw
      apply Option.isSome_iff_ne_none.2
      intro hdec
      exact hbad ⟨raw, hraw, hdec⟩
    obtain ⟨t, rfl⟩ := Bytes.exists_encode_of_rawLines hgood
    obtain ⟨us, hus⟩ := Bytes.exists_lines_encode t
    rw [value_scan, hus, Line.upToFault_ok]
    exact iff_of_false (by simp) fun h => hbad h.2

end MacroIndex

namespace Sources

open MacroIndex

/-- what was opened is scanned to its end exactly when it is a file and a text -/
theorem fault_lines_eq_none_iff {o : Opened} :
    (Line.upToFault o.lines).2 = none ↔ ∃ t, o = .file (encode t) := by
  cases o with
  | directory =>
    show some _ = none ↔ _
    simp
  | file content =>
    have hread : (Line.upToFault content.lines).2 = none ↔
        ∃ ts : List Text, content.lines = ts.map .ok := by
      constructor
      · intro h
        exact ⟨_, Line.upToFault_eq_none_iff.1 (Prod.ext rfl h)⟩
      · rintro ⟨ts, hts⟩
        rw [hts, Line.upToFault_ok]
    show (Line.upToFault content.lines).2 = none ↔ _
    rw [hread, exists_eq_map_ok_iff, ← Bytes.decode_isSome_iff_lines, decode_isSome_iff]
    simp

variable {l : Layout} {disk : Disk} {ix ix' : MacroIndex}

/-- the first header is scanned if it is there, and then the others -/
theorem outcome_scanHeaders_cons_eq_ok_iff {p : Path} {paths : List Path} :
    (scanHeaders l disk ix (p :: paths)).outcome = .ok ix' ↔ disk.Scannable p ∧
      (scanHeaders l disk (scanFiles l ix (disk.file? p).toList) paths).outcome = .ok ix' := by
  rw [scanHeaders]
  cases ho : disk.open? p with
  | error e =>
    have hp : disk.Scannable p ↔ e.kind = .notFound := by simp [Disk.Scannable, ho]
    have hfile : disk.file? p = none := by rw [Disk.file?, ho]
    rw [hp, hfile]
    dsimp only
    split
    · next hk =>
      rw [Run.outcome_bind_ok (Run.outcome_note _), and_iff_right hk]
      rfl
    · next hk =>
      rw [Run.outcome_throw]
      simp [hk]
  | ok o =>
    have hp : disk.Scannable p ↔ (Line.upToFault o.lines).2 = none := by
      rw [fault_lines_eq_none_iff]
      simp [Disk.Scannable, ho]
    rw [Run.outcome_bind_ok (Run.outcome_note _), Run.outcome_bind_ok (outcome_scan l ix o.lines),
      hp]
    cases hu : (Line.upToFault o.lines).2 with
    | none =>
      obtain ⟨t, rfl⟩ := fault_lines_eq_none_iff.1 hu
      have hfile : disk.file? p = some (encode t) := by rw [Disk.file?, ho]
      rw [hfile, and_iff_right rfl]
      rfl
    | some e =>
      dsimp only
      rw [Run.outcome_throw]
      simp

/-- the headers are scanned exactly when each of them is a text or is not there -/
theorem outcome_scanHeaders_eq_ok_iff {paths : List Path} :
    (scanHeaders l disk ix paths).outcome = .ok ix' ↔
      (∀ p ∈ paths, disk.Scannable p) ∧ ix' = scanFiles l ix (paths.filterMap disk.file?) := by
  induction paths generalizing ix with
  | nil =>
    rw [scanHeaders, Run.outcome_pure, Except.ok.injEq, eq_comm]
    simp [scanFiles]
  | cons p paths ih =>
    have hfiles : (p :: paths).filterMap disk.file? =
        (disk.file? p).toList ++ paths.filterMap disk.file? := by
      cases hp : disk.file? p with
      | none => exact List.filterMap_cons_none hp
      | some b => exact List.filterMap_cons_some hp
    rw [outcome_scanHeaders_cons_eq_ok_iff, ih, List.forall_mem_cons, and_assoc, hfiles,
      scanFiles_append]

end Sources

/-- **Headers are scanned as one file, up to the first bad line.**  To scan headers that are texts
in turn is to scan them put together, so reading the headers of a tree, if none of them fails, is
one scan of those that are there.  A scan fails exactly at a line that is not UTF-8, and gives the
index of the part of the file before the first such line. -/
theorem MacroIndex.scan_in_one_piece (l : Layout) :
    (∀ (ix : MacroIndex) (ts : List Text),
      (ix.scan l (Bytes.joined (ts.map encode)).lines).value =
        (scanFiles l ix (ts.map encode), none)) ∧
    (∀ disk root ix, (Sources.readIndex l disk root).outcome = .ok ix ↔
      (∀ p ∈ l.headerPaths root, disk.Scannable p) ∧
      ix = (empty.scan l
        (Bytes.joined ((l.headerPaths root).filterMap disk.file?)).lines).value.1) ∧
    (∀ (ix : MacroIndex) (b : Bytes) (e : IoFault), (ix.scan l b.lines).value.2 = some e ↔
      e = .notUtf8 ∧ ∃ raw ∈ b.rawLines, decode raw = none) ∧
    (∀ b : Bytes, (∃ raw ∈ b.rawLines, decode raw = none) ↔ ∃ head tail, b.BreaksAt head tail) ∧
    ∀ (ix : MacroIndex) (b head tail : Bytes), b.BreaksAt head tail →
      (ix.scan l b.lines).value = ((ix.scan l head.lines).value.1, some .notUtf8) := by
  refine ⟨value_scan_joined l, fun disk root ix => ?_, fun ix b e => fault_scan_eq_some_iff,
    fun b => ⟨Bytes.exists_breaksAt, ?_⟩, fun ix b head tail => value_scan_of_breaksAt l ix⟩
  · show (Sources.scanHeaders l disk empty (l.headerPaths root)).outcome = .ok ix ↔ _
    rw [Sources.outcome_scanHeaders_eq_ok_iff]
    refine and_congr_right fun hpaths => ?_
    obtain ⟨ts, hts⟩ := Disk.filterMap_file? hpaths
    rw [hts, value_scan_joined]
  · rintro ⟨head, tail, h⟩
    exact h.exists_bad

/-! A file that breaks at its second line. -/

def brokenHead : Bytes := encode "#define A_ 1\n".toList

def brokenTail : Bytes := 255 :: encode "\n#define B_ 2\n".toList

theorem MacroIndex.scan_in_one_piece_broken :
    Bytes.BreaksAt (brokenHead ++ brokenTail) brokenHead brokenTail ∧
    (empty.scan .standard (brokenHead ++ brokenTail).lines).value =
      ((empty.scan .standard brokenHead.lines).value.1, some .notUtf8) ∧
    (empty.scan .standard brokenHead.lines).value.1.isDefined "A_".toList = true := by
  have hbreak : Bytes.BreaksAt (brokenHead ++ brokenTail) brokenHead brokenTail := by
    refine ⟨rfl, by decide +kernel, ?_, [255], by decide +kernel, by decide +kernel⟩
    have hlines : brokenHead.rawLines = [encode "#define A_ 1".toList] := by decide +kernel
    rw [hlines, List.forall_mem_singleton, decode_encode]
    rfl
  obtain ⟨-, -, -, -, hscan⟩ := scan_in_one_piece .standard
  exact ⟨hbreak, hscan empty _ _ _ hbreak, by decide +kernel⟩

end Upkeep
