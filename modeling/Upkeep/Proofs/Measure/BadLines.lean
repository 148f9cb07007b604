import Mathlib.Data.List.ReduceOption
import Upkeep.Proofs.Measure.Scanner
import Upkeep.Proofs.Measure.Streaming

/-!
# Bad lines among the functions of a file

A line that is not UTF-8 is told in its place, and the scanner does not see it: neither does it end a
span nor is it counted in one.  So the functions of a file are those of the file without its bad
lines, and one fault for each bad line stands among them.

Where it stands is told by the segments of the lines that can be read: before the fault are the
functions whose closing line is one of the good lines before the bad one.
-/

namespace Upkeep.Span

namespace Scanner

variable {ts : List Text} {k n : Nat} {segs : List Segment}

theorem oks_items (s : Scanner) (ls : List Line) :
    oks (s.items ls).value = (s.feedAll (oks ls)).value.reduceOption := by
  induction ls generalizing s with
  | nil => rfl
  | cons l ls ih =>
    cases l with
    | error e => exact ih s
    | ok t =>
      have hcons : oks (.ok t :: ls : List Line) = t :: oks ls := rfl
      rw [value_items_ok, oks_append, oks_map_ok, ih, hcons, value_feedAll_cons]
      cases (s.feed t).2 <;> rfl

theorem failures_items (s : Scanner) (ls : List Line) :
    failures (s.items ls).value = failures ls := by
  induction ls generalizing s with
  | nil => rfl
  | cons l ls ih =>
    cases l with
    | error e =>
      have hcons : ∀ {α : Type} (xs : List (Except IoFault α)),
          failures (.error e :: xs) = 1 + failures xs := fun xs =>
        failures_append [.error e] xs
      rw [value_items_error, hcons, hcons, ih]
    | ok t =>
      have hcons : failures (.ok t :: ls) = failures ls :=
        List.countP_cons_of_neg (by simp [Except.toBool])
      rw [value_items_ok, failures_append, failures_map_ok, Nat.zero_add, ih, hcons]

theorem value_items_map_ok (s : Scanner) (ts : List Text) :
    (s.items (ts.map .ok)).value = (s.feedAll ts).value.reduceOption.map .ok := by
  have hnone : ∀ x ∈ (s.items (ts.map .ok)).value, x.isOk = true := by
    have hcount := failures_items s (ts.map .ok)
    rw [failures_map_ok, failures, List.countP_eq_zero] at hcount
    exact fun x hx => by simpa using hcount x hx
  rw [← List.filter_eq_self.2 hnone, ← map_ok_oks, oks_items, oks_map_ok]

theorem take_feedAll (s : Scanner) (ts : List Text) (n : Nat) :
    (s.feedAll ts).value.take n = (s.feedAll (ts.take n)).value := by
  induction ts generalizing s n with
  | nil => cases n <;> rfl
  | cons t ts ih =>
    cases n with
    | zero => rfl
    | succ n => rw [value_feedAll_cons, List.take_succ_cons, ih, List.take_succ_cons,
        value_feedAll_cons]

theorem records_take (h : Segments ts k segs) (n : Nat) :
    (((⟨.outside, k⟩ : Scanner).feedAll (ts.drop k)).value.take n).reduceOption =
      (segs.filter (·.last < k + n)).map Segment.span := by
  induction segs generalizing k n with
  | nil =>
    obtain ⟨m, hval⟩ := feedAll_no_segment h
    rw [hval, List.take_replicate, List.reduceOption_replicate_none]
    rfl
  | cons x segs ih =>
    obtain ⟨hkx, hrest, hval⟩ := feedAll_segment h
    rw [hval]
    by_cases hn : n ≤ x.last - k
    · -- the first segment ends later, and so do the others
      have hlate : ∀ y ∈ x :: segs, ¬ decide (y.last < k + n) = true := by
        intro y hy
        rw [decide_eq_true_eq]
        rcases List.mem_cons.1 hy with rfl | hy
        · omega
        · have := hrest.le_last y hy
          omega
      rw [List.filter_eq_nil_iff.2 hlate,
        List.take_append_of_le_length (by rwa [List.length_replicate]), List.take_replicate,
        List.reduceOption_replicate_none]
      rfl
    · obtain ⟨m, rfl⟩ : ∃ m, n = x.last - k + (m + 1) := ⟨n - (x.last - k) - 1, by omega⟩
      have hends : x.last < k + (x.last - k + (m + 1)) := by omega
      have hcount : x.last + 1 + m = k + (x.last - k + (m + 1)) := by omega
      have htake : ∀ l : List (Option Span),
          (List.replicate (x.last - k) none ++ some x.span :: l).take (x.last - k + (m + 1)) =
            List.replicate (x.last - k) none ++ some x.span :: l.take m := by
        intro l
        rw [List.take_append, List.length_replicate, Nat.add_sub_cancel_left, List.take_succ_cons,
          List.take_of_length_le (by rw [List.length_replicate]; omega)]
      rw [htake, List.reduceOption_append, List.reduceOption_replicate_none, List.nil_append,
        List.reduceOption_cons_of_some, ih hrest, hcount, List.filter_cons,
        if_pos (decide_eq_true hends), List.map_cons]

theorem oks_items_take {ls : List Line} (h : Segments (oks ls) 0 segs) (i : Nat) :
    oks (new.items (ls.take i)).value =
      (segs.filter (·.last < (oks (ls.take i)).length)).map Segment.span := by
  have hfeed : (new.feedAll (oks (ls.take i))).value =
      (new.feedAll (oks ls)).value.take (oks (ls.take i)).length := by
    rw [take_feedAll, ← oks_take]
  have hrecords := records_take h (oks (ls.take i)).length
  rw [Nat.zero_add] at hrecords
  rw [oks_items, hfeed, ← hrecords]
  rfl

/-- the fault of a bad line is the first item after those of the lines before it -/
theorem exists_failsAt_items {ls : List Line} {k i : Nat} (h : FailsAt ls k i) (s : Scanner) :
    ∃ q, FailsAt (s.items ls).value k q ∧
      (s.items ls).value.take q = (s.items (ls.take i)).value := by
  obtain ⟨e, hcut, hk⟩ := h.eq_append
  have hitems : (s.items ls).value = (s.items (ls.take i)).value ++
      .error e :: ((s.after (ls.take i)).items (ls.drop (i + 1))).value := by
    conv_lhs => rw [hcut]
    rw [value_items_append, value_items_error]
  refine ⟨(s.items (ls.take i)).value.length, ?_, by rw [hitems, List.take_left]⟩
  rw [hitems, ← hk, ← failures_items s]
  exact failsAt_append _ _ _

end Scanner

/-- **Bad lines are told in place and are not seen otherwise.**  The functions of a file are those of
the file without its bad lines, and there are as many faults as bad lines.  Before the fault of a bad
line stand the functions that have ended by then: those of the segments, counted in good lines, whose
last line is one of the good lines before it. -/
theorem ofLines_bad_lines (b : Bytes) :
    ∃ segs, Segments (oks b.lines) 0 segs ∧
      (ofLines b.withoutBad.lines).value = (oks (ofLines b.lines).value).map .ok ∧
      failures (ofLines b.lines).value = (b.wholeLines.countP fun l => !Bytes.isGood l) ∧
      ∀ k i, FailsAt b.lines k i → ∃ q, FailsAt (ofLines b.lines).value k q ∧
        oks ((ofLines b.lines).value.take q) =
          (segs.filter (·.last < (oks (b.lines.take i)).length)).map Segment.span := by
  obtain ⟨segs, hsegs⟩ := Segments.total (oks b.lines) 0
  refine ⟨segs, hsegs, ?_, ?_, fun k i hi => ?_⟩
  · rw [Bytes.lines_withoutBad, ← map_ok_oks]
    unfold ofLines
    rw [Scanner.value_items_map_ok, Scanner.oks_items]
  · rw [← Bytes.failures_lines]
    exact Scanner.failures_items _ _
  · obtain ⟨q, hq, htake⟩ := Scanner.exists_failsAt_items hi Scanner.new
    refine ⟨q, hq, ?_⟩
    rw [← Scanner.oks_items_take hsegs, ← htake]
    rfl

/-! A bad line in the open span of `f`, and one after it: the first fault comes before `f`. -/

example : (ofLines (Text.encode "f(x)\n".toList ++ [255, 10, 125, 10, 255] : Bytes).lines).value =
    [.error .notUtf8, .ok ⟨['f'], 2⟩, .error .notUtf8] := by
  decide +kernel

end Upkeep.Span
