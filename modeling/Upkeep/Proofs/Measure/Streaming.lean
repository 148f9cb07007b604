import Upkeep.Measure.Span
import Upkeep.Proofs.Text.BadLines
import Upkeep.Proofs.Text.Insertion

/-!
# Scanning goes on where it stopped

A file may come in parts.  What the scanner gives for the second part depends only on the state that
the first part left (`Scanner.after`), and what it gave for the first part stands, whatever follows
(`Scanner.value_items_append`).

The state holds absolute numbers of lines, the one of the line last read and the one from which the
open span counts, but only their difference shows.  So a scanner that is some lines further down
gives the same answers (`Scanner.value_items_shift`), and one that is outside of all spans might as
well be new.
-/

namespace Upkeep

namespace Span

/-- the open span with its start `k` lines further down -/
def Open.shift (k : Nat) : Open → Open
  | .outside => .outside
  | .signature name start => .signature name (start + k)
  | .body name start => .body name (start + k)

namespace Scanner

/-! ## one part after the other -/

/-- the scanner after more lines; those that cannot be read leave it as it is -/
def after (s : Scanner) (ls : List Line) : Scanner :=
  (oks ls).foldl (fun s t => (s.feed t).1) s

theorem after_error (s : Scanner) (e : IoFault) (ls : List Line) :
    s.after (.error e :: ls) = s.after ls := rfl

theorem after_ok (s : Scanner) (t : Text) (ls : List Line) :
    s.after (.ok t :: ls) = (s.feed t).1.after ls := rfl

theorem value_items_error (s : Scanner) (e : IoFault) (ls : List Line) :
    (s.items (.error e :: ls)).value = .error e :: (s.items ls).value := rfl

theorem value_items_ok (s : Scanner) (t : Text) (ls : List Line) :
    (s.items (.ok t :: ls)).value =
      (s.feed t).2.toList.map .ok ++ ((s.feed t).1.items ls).value := rfl

theorem value_items_append (s : Scanner) (ls ms : List Line) :
    (s.items (ls ++ ms)).value = (s.items ls).value ++ ((s.after ls).items ms).value := by
  induction ls generalizing s with
  | nil => rfl
  | cons l ls ih =>
    cases l with
    | error e =>
      rw [List.cons_append, value_items_error, value_items_error, after_error, ih,
        List.cons_append]
    | ok t =>
      rw [List.cons_append, value_items_ok, value_items_ok, after_ok, ih, List.append_assoc]

/-! ## further down -/

/-- the scanner as it would be, had it read `k` lines more before -/
def shift (k : Nat) (s : Scanner) : Scanner := ⟨s.span.shift k, s.lineNumber + k⟩

theorem feed_shift (k : Nat) (s : Scanner) (t : Text) :
    (s.shift k).feed t = ((s.feed t).1.shift k, (s.feed t).2) := by
  obtain ⟨span, n⟩ := s
  have hn : n + k + 1 = n + 1 + k := Nat.add_right_comm n k 1
  have hcount : ∀ start, n + k + 1 - (start + k) + 1 = n + 1 - start + 1 := fun start => by omega
  -- a record holds the difference of two numbers of lines, both of them `k` higher
  cases span with
  | outside =>
    simp only [feed, shift, Open.shift]
    cases signature? t with
    | none => simp only [hn]
    | some name => simp only [hn]
  | signature name start =>
    simp only [feed, shift, Open.shift, hcount]
    split_ifs <;> simp only [hn]
  | body name start =>
    simp only [feed, shift, Open.shift, hcount]
    split_ifs <;> simp only [hn]

theorem value_items_shift (k : Nat) (s : Scanner) (ls : List Line) :
    ((s.shift k).items ls).value = (s.items ls).value := by
  induction ls generalizing s with
  | nil => rfl
  | cons l ls ih =>
    cases l with
    | error e => rw [value_items_error, value_items_error, ih]
    | ok t => rw [value_items_ok, value_items_ok, feed_shift, ih]

/-- outside of all spans a scanner is a new one further down -/
theorem eq_shift_new {s : Scanner} (h : s.span = .outside) : s = new.shift s.lineNumber := by
  obtain ⟨span, n⟩ := s
  obtain rfl : span = .outside := h
  rw [shift, new, Nat.zero_add]
  rfl

end Scanner

/-- **Scanning can stop after any line and go on later.**  The items of a file whose first part ends
with a line end are those of the first part, which are the same whatever follows, and then those that
the second part gives from the state that the first part left.  Where this leaves no span open, the
second part gives what it gives on its own. -/
theorem ofLines_resumes {a : Bytes} (ha : a.Ended) (b : Bytes) :
    (ofLines (a ++ b).lines).value =
      (ofLines a.lines).value ++ ((Scanner.new.after a.lines).items b.lines).value ∧
    (ofLines a.lines).value <+: (ofLines (a ++ b).lines).value ∧
    ((Scanner.new.after a.lines).span = .outside →
      (ofLines (a ++ b).lines).value = (ofLines a.lines).value ++ (ofLines b.lines).value) := by
  have hparts : (ofLines (a ++ b).lines).value =
      (ofLines a.lines).value ++ ((Scanner.new.after a.lines).items b.lines).value := by
    unfold ofLines
    rw [Bytes.lines_append ha, Scanner.value_items_append]
  refine ⟨hparts, ⟨_, hparts.symm⟩, fun hout => ?_⟩
  rw [hparts, Scanner.eq_shift_new hout, Scanner.value_items_shift]
  rfl

/-! A file whose first part holds a function and a line that is not UTF-8. -/

def scannedPart : Bytes := Text.encode "f(x)\n\x7b\n\x7d\n".toList ++ [255, 10]

def nextPart : Bytes := Text.encode "g(y)\n\n\x7d".toList

theorem ofLines_resumes_after_function :
    scannedPart.Ended ∧ (Scanner.new.after scannedPart.lines).span = .outside ∧
    (ofLines scannedPart.lines).value = [.ok ⟨['f'], 2⟩, .error .notUtf8] ∧
    (ofLines nextPart.lines).value = [.ok ⟨['g'], 3⟩] ∧
    (ofLines (scannedPart ++ nextPart).lines).value =
      [.ok ⟨['f'], 2⟩, .error .notUtf8] ++ [.ok ⟨['g'], 3⟩] := by
  have hended : scannedPart.Ended := by decide +kernel
  have hout : (Scanner.new.after scannedPart.lines).span = .outside := by decide +kernel
  have hfirst : (ofLines scannedPart.lines).value = [.ok ⟨['f'], 2⟩, .error .notUtf8] := by
    decide +kernel
  have hnext : (ofLines nextPart.lines).value = [.ok ⟨['g'], 3⟩] := by decide +kernel
  obtain ⟨-, -, hrestart⟩ := ofLines_resumes hended nextPart
  exact ⟨hended, hout, hfirst, hnext, by rw [hrestart hout, hfirst, hnext]⟩

end Span

end Upkeep
