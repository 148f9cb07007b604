import Upkeep.Proofs.Text.LineDecoding

/-!
# Files without their bad lines

A file is the sequence of its lines with their line ends (`Bytes.wholeLines`).  A line is bad when it
is not UTF-8; `Bytes.withoutBad` is the file with the bad lines taken out, each with its line end.

Main statement: what is left has exactly the lines of the file that can be read
(`Bytes.lines_withoutBad`).  A line never changes with the lines around it: its carriage return goes
with its own line feed, and a last line without a line feed stays the last one.

The answers and the failures in a list are told apart by `oks`, `failures` and `FailsAt`.
-/

namespace Upkeep

/-! ## answers and failures of a list -/

section

variable {ε α : Type} {xs ys : List (Except ε α)} {k i : Nat}

/-- the answers in the list, without the failures -/
def oks (xs : List (Except ε α)) : List α := xs.filterMap Except.toOption

def failures (xs : List (Except ε α)) : Nat := xs.countP fun x => !x.isOk

/-- failure number `k`, counted from 0, is at place `i` of the list -/
def FailsAt (xs : List (Except ε α)) (k i : Nat) : Prop :=
  (∃ e, xs[i]? = some (.error e)) ∧ failures (xs.take i) = k

theorem oks_append (xs ys : List (Except ε α)) : oks (xs ++ ys) = oks xs ++ oks ys :=
  List.filterMap_append

theorem oks_map_ok (as : List α) : oks (as.map .ok : List (Except ε α)) = as := by
  induction as with
  | nil => rfl
  | cons a as ih => exact congrArg (a :: ·) ih

theorem map_ok_oks (xs : List (Except ε α)) :
    (oks xs).map .ok = xs.filter fun x => x.isOk := by
  induction xs with
  | nil => rfl
  | cons x xs ih =>
    cases x with
    | error e => exact ih
    | ok a => exact congrArg (.ok a :: ·) ih

theorem failures_append (xs ys : List (Except ε α)) :
    failures (xs ++ ys) = failures xs + failures ys := List.countP_append

theorem failures_map_ok (as : List α) : failures (as.map .ok : List (Except ε α)) = 0 := by
  rw [failures, List.countP_eq_zero]
  intro x hx
  obtain ⟨a, -, rfl⟩ := List.mem_map.1 hx
  simp [Except.toBool]

/-- the answers up to a place are the first ones of all answers -/
theorem oks_take (xs : List (Except ε α)) (i : Nat) :
    oks (xs.take i) = (oks xs).take (oks (xs.take i)).length := by
  have hall : oks xs = oks (xs.take i) ++ oks (xs.drop i) := by
    rw [← oks_append, List.take_append_drop]
  rw [hall, List.take_left]

theorem FailsAt.eq_append (h : FailsAt xs k i) :
    ∃ e, xs = xs.take i ++ .error e :: xs.drop (i + 1) ∧ failures (xs.take i) = k := by
  obtain ⟨⟨e, he⟩, hk⟩ := h
  obtain ⟨hi, hget⟩ := List.getElem?_eq_some_iff.1 he
  refine ⟨e, ?_, hk⟩
  rw [← hget, ← List.drop_eq_getElem_cons hi, List.take_append_drop]

theorem failsAt_append (xs : List (Except ε α)) (e : ε) (ys : List (Except ε α)) :
    FailsAt (xs ++ .error e :: ys) (failures xs) xs.length := by
  refine ⟨⟨e, ?_⟩, ?_⟩
  · rw [List.getElem?_append_right (Nat.le_refl _), Nat.sub_self]
    rfl
  · rw [List.take_left]

end

namespace Bytes

open Text

variable {l : Bytes}

/-! ## lines with their line ends -/

/-- the lines with their line ends, the first of which begins with `held`, back to front -/
def wholeLinesFrom (held : Bytes) : Bytes → List Bytes
  | [] => if held.isEmpty then [] else [held.reverse]
  | c :: r =>
    if c = 10 then (c :: held).reverse :: wholeLinesFrom [] r else wholeLinesFrom (c :: held) r

/-- the lines of a file with their line ends -/
def wholeLines (b : Bytes) : List Bytes := wholeLinesFrom [] b

theorem wholeLinesFrom_append (held : Bytes) (hl : 10 ∉ l) (r : Bytes) :
    wholeLinesFrom held (l ++ 10 :: r) = (held.reverse ++ l ++ [10]) :: wholeLines r := by
  induction l generalizing held with
  | nil => simp [wholeLinesFrom, wholeLines]
  | cons c l ih =>
    simp only [List.mem_cons, not_or] at hl
    rw [List.cons_append, wholeLinesFrom, if_neg (Ne.symm hl.1), ih _ hl.2]
    simp

theorem wholeLinesFrom_last (held : Bytes) (hl : 10 ∉ l) :
    wholeLinesFrom held l = if held ++ l = [] then [] else [held.reverse ++ l] := by
  induction l generalizing held with
  | nil => cases held <;> simp [wholeLinesFrom]
  | cons c l ih =>
    simp only [List.mem_cons, not_or] at hl
    rw [wholeLinesFrom, if_neg (Ne.symm hl.1), ih _ hl.2]
    simp

theorem wholeLines_append_newline (hl : 10 ∉ l) (r : Bytes) :
    wholeLines (l ++ 10 :: r) = (l ++ [10]) :: wholeLines r := by
  simpa [wholeLines] using wholeLinesFrom_append [] hl r

theorem wholeLines_last (hl : 10 ∉ l) : wholeLines l = if l = [] then [] else [l] := by
  simpa [wholeLines] using wholeLinesFrom_last [] hl

/-! ## bad lines -/

def isGood (l : Bytes) : Bool := (decode l).isSome

theorem isOk_ofBytes (l : Bytes) : (Line.ofBytes l).isOk = isGood l := by
  unfold Line.ofBytes isGood
  cases decode l <;> rfl

/-- the line end does not matter -/
theorem isOk_closeLine (hl : 10 ∉ l) :
    (Line.ofBytes (closeLine l.reverse)).isOk = isGood (l ++ [10]) := by
  have hnil : (decode []).isSome = true := rfl
  rw [isOk_ofBytes, isGood, isGood, Bool.eq_iff_iff, decode_isSome_closeLine,
    decode_isSome_append_newline hl, and_iff_left hnil]

theorem map_isOk_lines (b : Bytes) : b.lines.map (fun x => x.isOk) = b.wholeLines.map isGood := by
  induction b using line_induction with
  | last l hl =>
    rw [lines_last hl, wholeLines_last hl]
    split
    · rfl
    · rw [List.map_singleton, List.map_singleton, isOk_ofBytes]
  | line l r hl ih =>
    rw [lines_append_newline hl, wholeLines_append_newline hl, List.map_cons, List.map_cons, ih,
      isOk_closeLine hl]

theorem failures_lines (b : Bytes) : failures b.lines = b.wholeLines.countP fun l => !isGood l := by
  have hmap := congrArg (List.countP fun x => !x) b.map_isOk_lines
  rwa [List.countP_map, List.countP_map] at hmap

/-- the file without its bad lines -/
def withoutBad (b : Bytes) : Bytes := (b.wholeLines.filter isGood).flatten

theorem withoutBad_last (hl : 10 ∉ l) : withoutBad l = if isGood l then l else [] := by
  rw [withoutBad, wholeLines_last hl]
  by_cases h : l = []
  · subst h
    rfl
  · rw [if_neg h]
    by_cases hg : isGood l = true <;> simp [hg]

theorem withoutBad_append_newline (hl : 10 ∉ l) (r : Bytes) :
    withoutBad (l ++ 10 :: r) =
      if isGood (l ++ [10]) then l ++ 10 :: withoutBad r else withoutBad r := by
  rw [withoutBad, wholeLines_append_newline hl]
  by_cases hg : isGood (l ++ [10]) = true
  · rw [List.filter_cons_of_pos hg, List.flatten_cons, if_pos hg, List.append_assoc]
    rfl
  · rw [List.filter_cons_of_neg hg, if_neg hg]
    rfl

/-- **Taking out the bad lines leaves the others as they are.** -/
theorem lines_withoutBad (b : Bytes) : b.withoutBad.lines = b.lines.filter fun x => x.isOk := by
  induction b using line_induction with
  | last l hl =>
    rw [withoutBad_last hl, lines_last hl]
    by_cases h : l = []
    · subst h
      rfl
    · have hok := isOk_ofBytes l
      rw [if_neg h]
      by_cases hg : isGood l = true
      · rw [if_pos hg, lines_last hl, if_neg h, List.filter_cons_of_pos (by rw [hok, hg])]
        rfl
      · rw [if_neg hg, lines_nil, List.filter_cons_of_neg (by rwa [hok])]
        rfl
  | line l r hl ih =>
    have hok := isOk_closeLine hl
    rw [withoutBad_append_newline hl, lines_append_newline hl]
    by_cases hg : isGood (l ++ [10]) = true
    · rw [if_pos hg, lines_append_newline hl, ih, List.filter_cons_of_pos (by rw [hok, hg])]
    · rw [if_neg hg, ih, List.filter_cons_of_neg (by rwa [hok])]

example : withoutBad [97, 13, 10, 98, 255, 13, 10, 99, 13] = [97, 13, 10, 99, 13] := by
  decide +kernel

end Bytes

end Upkeep
