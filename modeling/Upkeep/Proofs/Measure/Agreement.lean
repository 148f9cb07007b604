import Mathlib.Tactic.TFAE
import Upkeep.Measure.Summary
import Upkeep.Proofs.Text.LineDecoding

/-!
# The measures of a file agree

A file is measured in two ways: as a whole, after it has been decoded (`Summary.ofFile`), or line by
line as it is read (`Measure.countLines`, `Measure.countIncludes`, `Span.ofLines`).  Each way fails
exactly on the files that are not UTF-8, always for that reason, and otherwise they give the same
numbers and functions.
-/

namespace Upkeep

variable {ε α : Type}

theorem forall_ok_iff {xs : List (Except ε α)} :
    (∀ x ∈ xs, ∃ a, x = .ok a) ↔ ∀ e, .error e ∉ xs := by
  constructor
  · intro h e he
    obtain ⟨a, ha⟩ := h _ he
    cases ha
  · intro h x hx
    cases x with
    | error e => exact absurd hx (h e)
    | ok a => exact ⟨a, rfl⟩

theorem exists_map_ok_iff {xs : List (Except ε α)} :
    (∃ as : List α, xs = as.map .ok) ↔ ∀ e, .error e ∉ xs :=
  exists_eq_map_ok_iff.trans forall_ok_iff

theorem map_eq_error_iff {β : Type} {f : α → β} {x : Except ε α} {e : ε} :
    x.map f = .error e ↔ x = .error e := by
  cases x with
  | error e' => simp [Except.map]
  | ok a => simp [Except.map]

theorem mapM_map_ok (as : List α) : (as.map Except.ok : List (Except ε α)).mapM id = .ok as := by
  induction as with
  | nil => rfl
  | cons a as ih =>
    rw [List.map_cons, List.mapM_cons, ih]
    rfl

/-! ## the measures line by line -/

namespace Measure

theorem countLines_eq_map (ls : List Line) :
    countLines ls = (Line.readAll ls).map List.length := by
  unfold countLines
  cases Line.readAll ls <;> rfl

theorem countIncludes_eq_map (ls : List Line) :
    countIncludes ls = (Line.readAll ls).map (List.countP Directive.isInclude) := by
  unfold countIncludes
  cases Line.readAll ls <;> rfl

end Measure

namespace Span.Scanner

theorem error_mem_items_iff {s : Scanner} {ls : List Line} {e : IoFault} :
    .error e ∈ (s.items ls).value ↔ .error e ∈ ls := by
  induction ls generalizing s with
  | nil => simp [items]
  | cons l ls ih =>
    cases l with
    | error e' =>
      show _ ∈ .error e' :: (s.items ls).value ↔ _
      rw [List.mem_cons, List.mem_cons, ih, Except.error.injEq, Except.error.injEq]
    | ok t =>
      have hfound : .error e ∉ ((s.feed t).2.toList.map .ok : List (Except IoFault Span)) :=
        exists_map_ok_iff.1 ⟨_, rfl⟩ e
      show _ ∈ (s.feed t).2.toList.map .ok ++ ((s.feed t).1.items ls).value ↔ _
      rw [List.mem_append, ih, List.mem_cons]
      simp [hfound]

end Span.Scanner

/-! ## the measures as a whole -/

namespace Summary

variable {b : Bytes}

theorem value_ofLines {ts : List Text} {fs : List Span}
    (h : (Span.ofLines (ts.map .ok)).value = fs.map .ok) :
    (ofLines (ts.map .ok)).value = .ok ⟨ts.length, ts.countP Directive.isInclude, fs⟩ := by
  unfold ofLines
  rw [Noted.value_bind, Noted.value_pure, h, mapM_map_ok, Measure.countLines_eq_map,
    Measure.countIncludes_eq_map, Line.readAll_ok]
  rfl

theorem measures_of_decode {t : Text} (h : Text.decode b = some t) :
    ∃ (ts : List Text) (fs : List Span), b.lines = ts.map .ok ∧
      (ofText t).value = .ok ⟨ts.length, ts.countP Directive.isInclude, fs⟩ ∧
      Measure.countLines b.lines = .ok ts.length ∧
      Measure.countIncludes b.lines = .ok (ts.countP Directive.isInclude) ∧
      (Span.ofLines b.lines).value = fs.map .ok := by
  have hb : b = Text.encode t := Text.decode_eq_some_iff.1 h
  have hdec : (Text.decode b).isSome = true := by rw [h]; rfl
  obtain ⟨ts, hts⟩ : ∃ ts : List Text, b.lines = ts.map .ok :=
    exists_eq_map_ok_iff.2 (b.decode_isSome_iff_lines.1 hdec)
  obtain ⟨fs, hfs⟩ : ∃ fs : List Span, (Span.ofLines b.lines).value = fs.map .ok := by
    refine exists_map_ok_iff.2 fun e he => ?_
    exact exists_map_ok_iff.1 ⟨ts, hts⟩ e (Span.Scanner.error_mem_items_iff.1 he)
  refine ⟨ts, fs, hts, ?_, ?_, ?_, hfs⟩
  · rw [ofText, ← hb, hts]
    exact value_ofLines (by rwa [hts] at hfs)
  · rw [hts, Measure.countLines_eq_map, Line.readAll_ok]
    rfl
  · rw [hts, Measure.countIncludes_eq_map, Line.readAll_ok]
    rfl

/-- the lines of a file can only fail to be read because they are not UTF-8 -/
theorem eq_notUtf8_of_readAll {e : IoFault} (h : Line.readAll b.lines = .error e) :
    e = .notUtf8 := by
  obtain ⟨ts, rest, hls⟩ := Line.readAll_eq_error_iff.1 h
  refine Bytes.eq_notUtf8_of_mem_lines (b := b) ?_
  rw [hls]
  simp

theorem measures_of_not_decode (h : Text.decode b = none) :
    Measure.countLines b.lines = .error .notUtf8 ∧
      Measure.countIncludes b.lines = .error .notUtf8 ∧
      .error .notUtf8 ∈ (Span.ofLines b.lines).value := by
  have hbad : ∃ e, .error e ∈ b.lines := by
    refine Classical.byContradiction fun hno => ?_
    have hdec := b.decode_isSome_iff_lines.2 (forall_ok_iff.2 fun e he => hno ⟨e, he⟩)
    rw [h] at hdec
    cases hdec
  obtain ⟨e, he⟩ := hbad
  obtain rfl := Bytes.eq_notUtf8_of_mem_lines he
  have hread : Line.readAll b.lines = .error .notUtf8 := by
    cases hr : Line.readAll b.lines with
    | error e' => rw [eq_notUtf8_of_readAll hr]
    | ok ts => exact absurd he (exists_map_ok_iff.1 ⟨ts, Line.readAll_eq_ok_iff.1 hr⟩ _)
  refine ⟨?_, ?_, Span.Scanner.error_mem_items_iff.2 he⟩
  · rw [Measure.countLines_eq_map, hread]
    rfl
  · rw [Measure.countIncludes_eq_map, hread]
    rfl

theorem value_ofText (t : Text) : ∃ s, (ofText t).value = .ok s := by
  obtain ⟨ts, fs, -, hs, -⟩ := measures_of_decode (Text.decode_encode t)
  exact ⟨_, hs⟩

theorem value_ofFile {disk : Disk} {path : Path} (h : disk.open? path = .ok (.file b)) :
    (ofFile disk path).value =
      match Text.decode b with
      | some t => (ofText t).value
      | none => .error .notUtf8 := by
  unfold ofFile Disk.readText
  simp only [h]
  cases Text.decode b with
  | none => rfl
  | some t => rfl

/-- all five of these hold of a file, or none -/
theorem measured_tfae {disk : Disk} {path : Path} (h : disk.open? path = .ok (.file b)) :
    List.TFAE [(Text.decode b).isSome = true,
      ∃ s, (ofFile disk path).value = .ok s,
      ∃ n, Measure.countLines b.lines = .ok n,
      ∃ n, Measure.countIncludes b.lines = .ok n,
      ∀ e, .error e ∉ (Span.ofLines b.lines).value] := by
  have hfile := value_ofFile h
  cases hd : Text.decode b with
  | some t =>
    obtain ⟨ts, fs, -, hs, hlines, hincludes, hspans⟩ := measures_of_decode hd
    have hno : ∀ e, .error e ∉ (Span.ofLines b.lines).value := exists_map_ok_iff.1 ⟨fs, hspans⟩
    simp only [hd, hs] at hfile
    refine List.tfae_of_forall True _ ?_
    simp only [List.forall_mem_cons, iff_true, hfile, hlines, hincludes]
    exact ⟨rfl, ⟨_, rfl⟩, ⟨_, rfl⟩, ⟨_, rfl⟩, hno, by simp⟩
  | none =>
    obtain ⟨hlines, hincludes, hspans⟩ := measures_of_not_decode hd
    have hno : ¬ ∀ e, .error e ∉ (Span.ofLines b.lines).value := fun hno => hno _ hspans
    simp only [hd] at hfile
    refine List.tfae_of_forall False _ ?_
    simp only [List.forall_mem_cons, iff_false, hfile, hlines, hincludes]
    exact ⟨by simp, by simp, by simp, by simp, hno, by simp⟩

theorem measures_of_summary {disk : Disk} {path : Path} {s : Summary}
    (h : disk.open? path = .ok (.file b)) (hs : (ofFile disk path).value = .ok s) :
    Measure.countLines b.lines = .ok s.lines ∧ Measure.countIncludes b.lines = .ok s.includes ∧
      (Span.ofLines b.lines).value = s.functions.map .ok ∧
      ∀ t, Text.decode b = some t → (ofText t).value = .ok s := by
  rw [value_ofFile h] at hs
  cases hd : Text.decode b with
  | none =>
    rw [hd] at hs
    cases hs
  | some t =>
    rw [hd] at hs
    obtain ⟨ts, fs, -, ht, hlines, hincludes, hspans⟩ := measures_of_decode hd
    obtain rfl := Except.ok.inj (ht.symm.trans hs)
    refine ⟨hlines, hincludes, hspans, fun u hu => ?_⟩
    rw [← Option.some.inj hu, ht]

theorem count_newline_of_countLines {n : Nat} (h : Measure.countLines b.lines = .ok n) :
    n = b.count 10 + if b = [] ∨ b.getLast? = some 10 then 0 else 1 := by
  rw [Measure.countLines_eq_map] at h
  cases hr : Line.readAll b.lines with
  | error e =>
    rw [hr] at h
    cases h
  | ok ts =>
    rw [hr] at h
    obtain rfl := Except.ok.inj h
    rw [← b.length_lines, Line.readAll_eq_ok_iff.1 hr, List.length_map]

/-- no measure of a file fails but for bytes that are not UTF-8 -/
theorem eq_notUtf8_of_measure {disk : Disk} {path : Path} {e : IoFault}
    (h : disk.open? path = .ok (.file b))
    (he : (ofFile disk path).value = .error e ∨ Measure.countLines b.lines = .error e ∨
      Measure.countIncludes b.lines = .error e ∨ .error e ∈ (Span.ofLines b.lines).value) :
    e = .notUtf8 := by
  rcases he with he | he | he | he
  · rw [value_ofFile h] at he
    cases hd : Text.decode b with
    | some t =>
      obtain ⟨s, hs⟩ := value_ofText t
      rw [hd] at he
      cases hs.symm.trans he
    | none =>
      rw [hd] at he
      exact (Except.error.inj he).symm
  · rw [Measure.countLines_eq_map, map_eq_error_iff] at he
    exact eq_notUtf8_of_readAll he
  · rw [Measure.countIncludes_eq_map, map_eq_error_iff] at he
    exact eq_notUtf8_of_readAll he
  · exact Bytes.eq_notUtf8_of_mem_lines (Span.Scanner.error_mem_items_iff.1 he)

/-- **All measures of a file agree.**  A file is UTF-8 as a whole, has a summary, has a number of
lines, has a number of inclusions and has functions without a fault among them: all five of these or
none.  Then the summary holds what the other three give, as does the summary of the text in the
file, and the number of lines is that of the line feeds, and one more where something follows the
last of them.  A text always has a summary.  Each failure says that the bytes are not UTF-8. -/
theorem measures_agree {disk : Disk} {path : Path} (h : disk.open? path = .ok (.file b)) :
    List.TFAE [(Text.decode b).isSome = true,
      ∃ s, (ofFile disk path).value = .ok s,
      ∃ n, Measure.countLines b.lines = .ok n,
      ∃ n, Measure.countIncludes b.lines = .ok n,
      ∀ e, .error e ∉ (Span.ofLines b.lines).value] ∧
    (∀ s, (ofFile disk path).value = .ok s →
      Measure.countLines b.lines = .ok s.lines ∧ Measure.countIncludes b.lines = .ok s.includes ∧
      (Span.ofLines b.lines).value = s.functions.map .ok ∧
      ∀ t, Text.decode b = some t → (ofText t).value = .ok s) ∧
    (∀ t, ∃ s, (ofText t).value = .ok s) ∧
    (∀ n, Measure.countLines b.lines = .ok n →
      n = b.count 10 + if b = [] ∨ b.getLast? = some 10 then 0 else 1) ∧
    ∀ e, (ofFile disk path).value = .error e ∨ Measure.countLines b.lines = .error e ∨
      Measure.countIncludes b.lines = .error e ∨ .error e ∈ (Span.ofLines b.lines).value →
      e.kind = .invalidData := by
  refine ⟨measured_tfae h, fun s => measures_of_summary h, value_ofText,
    fun n => count_newline_of_countLines, ?_⟩
  intro e he
  rw [eq_notUtf8_of_measure h he]
  rfl

/-! A file with a carriage return before its first line feed, and no line feed at its end. -/

def sampleText : Text := "#include <a.h>\r\nf(void)\n".toList ++ ['\x7b', '\n', '\x7d']

def sampleDisk : Disk := ⟨fun _ => .ok (.file (Text.encode sampleText))⟩

theorem measures_agree_sample :
    sampleDisk.open? [] = .ok (.file (Text.encode sampleText)) ∧
    Measure.countLines (Text.encode sampleText).lines = .ok 4 ∧
    ∃ s, (ofFile sampleDisk []).value = .ok s ∧
      Measure.countLines (Text.encode sampleText).lines = .ok s.lines ∧
      Measure.countIncludes (Text.encode sampleText).lines = .ok s.includes ∧
      (Span.ofLines (Text.encode sampleText).lines).value = s.functions.map .ok := by
  have hopen : sampleDisk.open? [] = .ok (.file (Text.encode sampleText)) := rfl
  obtain ⟨hall, hsum, -, hcount, -⟩ := measures_agree hopen
  have hdec : (Text.decode (Text.encode sampleText)).isSome = true := by
    rw [Text.decode_encode]
    rfl
  obtain ⟨s, hs⟩ := (hall.out 0 1).1 hdec
  obtain ⟨n, hn⟩ := (hall.out 0 2).1 hdec
  obtain ⟨hl, hi, hf, -⟩ := hsum s hs
  have h4 : (Text.encode sampleText).count 10 + (if Text.encode sampleText = [] ∨
      (Text.encode sampleText).getLast? = some 10 then 0 else 1) = 4 := by decide +kernel
  refine ⟨hopen, ?_, s, hs, hl, hi, hf⟩
  rw [hn, hcount n hn, h4]

end Summary

end Upkeep
