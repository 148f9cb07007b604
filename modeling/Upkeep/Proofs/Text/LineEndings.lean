import Upkeep.Proofs.Text.LineDecoding

/-!
# Line feeds with and without carriage returns

A file may be kept with a carriage return before each line feed (`Bytes.withReturns`).  A reader
drops one such carriage return with the line feed, so a file that had none before reads the same
line by line: lone carriage returns stay, a last line without a line feed stays as it is, and a line
that is not UTF-8 is still none.
-/

namespace Upkeep.Bytes

/-- a carriage return put before each line feed -/
def withReturns (b : Bytes) : Bytes := b.flatMap fun c => if c = 10 then [13, 10] else [c]

theorem withReturns_of_notMem {l : Bytes} (h : 10 ∉ l) : withReturns l = l := by
  induction l with
  | nil => rfl
  | cons c l ih =>
    obtain ⟨hc, hl⟩ := not_or.1 (mt List.mem_cons.2 h)
    have hcons : withReturns (c :: l) = c :: withReturns l := by
      rw [withReturns, List.flatMap_cons, if_neg (Ne.symm hc)]
      rfl
    rw [hcons, ih hl]

theorem withReturns_append_newline {l : Bytes} (h : 10 ∉ l) (r : Bytes) :
    withReturns (l ++ 10 :: r) = l ++ [13] ++ 10 :: withReturns r := by
  have hl : withReturns l = l := withReturns_of_notMem h
  have happend : withReturns (l ++ 10 :: r) = withReturns l ++ 13 :: 10 :: withReturns r := by
    rw [withReturns, List.flatMap_append, List.flatMap_cons, if_pos rfl]
    rfl
  rw [happend, hl, List.append_assoc]
  rfl

/-- the lines are the same where no carriage return stood before a line feed -/
theorem rawLines_withReturns {b : Bytes} (h : ¬ [13, 10] <:+: b) :
    rawLines (withReturns b) = rawLines b := by
  induction b using line_induction with
  | last l hl => rw [withReturns_of_notMem hl]
  | line l r hl ih =>
    have hr : ¬ [13, 10] <:+: r := by
      intro hr
      exact h (hr.trans ((List.suffix_cons 10 r).isInfix.trans (List.suffix_append l _).isInfix))
    have hlast : l.getLast? ≠ some 13 := by
      intro hlast
      obtain ⟨m, rfl⟩ := List.getLast?_eq_some_iff.1 hlast
      exact h ⟨m, r, by simp⟩
    -- only the new carriage return is dropped with the line feed, as `l` does not end with one
    have hmem : 10 ∉ l ++ [13] := by simp [hl]
    have hclose : closeLine (l ++ [13]).reverse = closeLine l.reverse := by
      rw [closeLine_reverse, closeLine_reverse, if_neg hlast, List.getLast?_concat, if_pos rfl,
        List.dropLast_concat]
    rw [withReturns_append_newline hl, rawLines_append _ _ hmem, rawLines_append _ _ hl, hclose,
      ih hr]

theorem lines_withReturns {b : Bytes} (h : ¬ [13, 10] <:+: b) :
    (withReturns b).lines = b.lines := by
  rw [lines, lines, rawLines_withReturns h]

/-! A carriage return that stood before a line feed would become part of its line. -/

example : rawLines (withReturns [97, 13, 10]) = [[97, 13]] ∧ rawLines [97, 13, 10] = [[97]] := by
  decide

end Upkeep.Bytes
