import Mathlib.Data.List.Forall2
import Upkeep.Proofs.Text.Excerpts
import Upkeep.Proofs.Text.LineDecoding

/-!
# Lines put into a file

A line is put into a file after the bytes `a` and before the bytes `c` (`Bytes.Inserts`): where a
line starts, and with a line end of its own.  At the end of a file it may lack that line end, and a
last line that has none gets one first.

The lines of the file are then those before, the new one, and those after
(`Bytes.lines_of_inserts`).  One thing can happen to a line before: the last line of a file ends
with a carriage return, and this is taken for part of the line end that the line gets
(`Line.Rereads`).

An excerpt that is begun and has not ended before the new line has the new line too
(`Excerpt.read_insert`); any other excerpt stays as it was.
-/

namespace Upkeep

open Text

/-! ## lines that are read again -/

/-- the text is read as before, or without a carriage return at its end -/
inductive Text.Rereads : Text → Text → Prop
  | same (t : Text) : Rereads t t
  | dropped (t : Text) : Rereads t t.dropReturn

inductive Line.Rereads : Line → Line → Prop
  | ok {t t' : Text} : Text.Rereads t t' → Rereads (.ok t) (.ok t')
  | error (e : IoFault) : Rereads (.error e) (.error e)

theorem Line.rereads_refl (ls : List Line) : List.Forall₂ Rereads ls ls :=
  List.forall₂_same.2 fun l _ =>
    match l with
    | .ok t => .ok (.same t)
    | .error e => .error e

theorem Text.filterMap_rereads {α : Type} {f : Text → Option α}
    (hf : ∀ t, f t.dropReturn = f t) {ts ts' : List Text} (h : List.Forall₂ Rereads ts ts') :
    ts'.filterMap f = ts.filterMap f := by
  induction h with
  | nil => rfl
  | @cons t t' ts ts' ht _ ih =>
    have hhead : f t' = f t := by
      cases ht with
      | same => rfl
      | dropped => exact hf t
    rw [List.filterMap_cons, List.filterMap_cons, hhead, ih]

theorem Line.forall_ok_of_rereads {ts : List Text} {ls : List Line}
    (h : List.Forall₂ Rereads (ts.map .ok) ls) :
    ∃ ts' : List Text, ls = ts'.map .ok ∧ List.Forall₂ Text.Rereads ts ts' := by
  induction ts generalizing ls with
  | nil =>
    cases h
    exact ⟨[], rfl, .nil⟩
  | cons t ts ih =>
    cases h with
    | cons hl hls =>
      cases hl with
      | @ok _ t' ht =>
        obtain ⟨ts', rfl, hts⟩ := ih hls
        exact ⟨t' :: ts', rfl, .cons ht hts⟩

/-- text that is a line of a file just as it is -/
structure Text.Alone (t : Text) : Prop where
  ne_nil : t ≠ []
  newline_notMem : '\n' ∉ t
  getLast?_ne_return : t.getLast? ≠ some '\r'

theorem Text.Alone.dropReturn_eq {t : Text} (h : t.Alone) : t.dropReturn = t :=
  if_neg h.getLast?_ne_return

namespace Bytes

/-- no line is begun at the end of the bytes -/
def Ended (a : Bytes) : Prop := a = [] ∨ a.getLast? = some 10

instance (a : Bytes) : Decidable a.Ended := inferInstanceAs (Decidable (_ ∨ _))

inductive LineEnd : Bytes → Prop
  | feed : LineEnd [10]
  | returnFeed : LineEnd [13, 10]

/-- `b` is the file `a ++ c` with a new line after `a`; `y` is the line end that the last line of
the file gets, and `z` is the one of the new line -/
def Inserts (line : Text) (a c b : Bytes) : Prop :=
  ∃ y z, b = a ++ y ++ encode line ++ z ++ c ∧
    (a.Ended ∧ y = [] ∨ ¬ a.Ended ∧ c = [] ∧ LineEnd y) ∧ (LineEnd z ∨ c = [] ∧ z = [])

variable {a b c l y z : Bytes} {line : Text}

/-! ## the lines before -/

theorem ended_append_newline_iff : (l ++ 10 :: c).Ended ↔ c.Ended := by
  cases c with
  | nil => exact iff_of_true (.inr List.getLast?_concat) (.inl rfl)
  | cons x c =>
    unfold Ended
    rw [List.getLast?_append_cons, List.getLast?_cons_cons]
    simp

theorem rawLines_append_of_ended (h : a.Ended) (c : Bytes) :
    rawLines (a ++ c) = rawLines a ++ rawLines c := by
  induction a using line_induction with
  | last l hl =>
    have hnil : l = [] := h.resolve_right fun hlast => hl (List.mem_of_getLast? hlast)
    subst hnil
    rfl
  | line l r hl ih =>
    rw [List.append_assoc, List.cons_append, rawLines_append _ _ hl, rawLines_append _ _ hl,
      ih (ended_append_newline_iff.1 h), List.cons_append]

theorem lines_append (h : a.Ended) (c : Bytes) : lines (a ++ c) = lines a ++ lines c := by
  unfold lines
  rw [rawLines_append_of_ended h, List.map_append]

/-- the line feed takes a carriage return at the end of the line with it -/
theorem rereads_closeLine (l : Bytes) :
    Line.Rereads (.ofBytes l) (.ofBytes (closeLine l.reverse)) := by
  cases hl : Line.ofBytes l with
  | ok t =>
    have ht : l = encode t := by
      unfold Line.ofBytes at hl
      split at hl
      · next u hu =>
        cases hl
        exact decode_eq_some_iff.1 hu
      · cases hl
    rw [ht, closeLine_encode, ofBytes_encode]
    exact .ok (.dropped t)
  | error e =>
    have hbad : ¬ ∃ t, Line.ofBytes (closeLine l.reverse) = .ok t := by
      rw [ofBytes_eq_ok_iff, decode_isSome_closeLine, ← ofBytes_eq_ok_iff, hl]
      simp
    cases hc : Line.ofBytes (closeLine l.reverse) with
    | ok t => exact absurd ⟨t, hc⟩ hbad
    | error e' =>
      rw [ofBytes_eq_error hl, ofBytes_eq_error hc]
      exact .error _

/-- a last line that gets a line end is read again -/
theorem lines_append_lineEnd (ha : ¬ a.Ended) (hy : LineEnd y) :
    (a ++ y).Ended ∧ List.Forall₂ Line.Rereads (lines a) (lines (a ++ y)) := by
  refine ⟨.inr ?_, ?_⟩
  · cases hy with
    | feed => rw [List.getLast?_append]; rfl
    | returnFeed => rw [List.getLast?_append]; rfl
  induction a using line_induction with
  | last l hl =>
    have hne : l ≠ [] := fun hnil => ha (.inl hnil)
    rw [lines_last hl, if_neg hne]
    cases hy with
    | feed =>
      rw [lines_append_newline hl, lines_nil]
      exact .cons (rereads_closeLine l) .nil
    | returnFeed =>
      have hreturn : 10 ∉ l ++ [13] := by simp [hl]
      have hsplit : l ++ [13, 10] = l ++ [13] ++ 10 :: [] := by simp
      have hclose : closeLine (l ++ [13]).reverse = l := by
        rw [closeLine_reverse, List.getLast?_concat, if_pos rfl, List.dropLast_concat]
      rw [hsplit, lines_append_newline hreturn, hclose, lines_nil]
      exact Line.rereads_refl _
  | line l r hl ih =>
    have hr : ¬ r.Ended := fun hr => ha (ended_append_newline_iff.2 hr)
    rw [List.append_assoc, List.cons_append, lines_append_newline hl, lines_append_newline hl]
    exact List.rel_append (Line.rereads_refl [_]) (ih hr)

/-! ## the new line -/

theorem lines_line (hl : line.Alone) (hz : LineEnd z ∨ c = [] ∧ z = []) :
    lines (encode line ++ z ++ c) = .ok line :: lines c := by
  rcases hz with hz | ⟨rfl, rfl⟩
  · cases hz with
    | feed =>
      rw [List.append_assoc, List.singleton_append, lines_encode_append hl.newline_notMem,
        hl.dropReturn_eq]
    | returnFeed =>
      have hcode : encode line ++ [13, 10] ++ c = encode (line ++ ['\r']) ++ 10 :: c := by
        rw [encode_append, List.append_assoc, List.append_assoc]
        rfl
      have hmem : '\n' ∉ line ++ ['\r'] := by simp [hl.newline_notMem]
      have hdrop : dropReturn (line ++ ['\r']) = line := by
        rw [dropReturn, List.getLast?_concat, if_pos rfl, List.dropLast_concat]
      rw [hcode, lines_encode_append hmem, hdrop]
  · rw [List.append_nil, List.append_nil, lines_encode_last hl.newline_notMem hl.ne_nil]
    rfl

/-- **The lines of a file with a line put in.** -/
theorem lines_of_inserts (h : Inserts line a c b) (hl : line.Alone) :
    ∃ before after, lines (a ++ c) = lines a ++ after ∧
      List.Forall₂ Line.Rereads (lines a) before ∧ lines b = before ++ .ok line :: after := by
  obtain ⟨y, z, rfl, ⟨ha, rfl⟩ | ⟨ha, rfl, hy⟩, hz⟩ := h
  · refine ⟨lines a, lines c, lines_append ha c, Line.rereads_refl _, ?_⟩
    rw [List.append_nil, List.append_assoc, List.append_assoc, lines_append ha,
      ← List.append_assoc, lines_line hl hz]
  · obtain ⟨hay, hrereads⟩ := lines_append_lineEnd ha hy
    refine ⟨lines (a ++ y), [], ?_, hrereads, ?_⟩
    · rw [List.append_nil, List.append_nil]
    · rw [List.append_assoc, List.append_assoc, lines_append hay, ← List.append_assoc,
        lines_line hl hz]
      rfl

end Bytes

/-! ## readers of all lines -/

/-- what a reader finds in a new line stands among what it finds in the others -/
theorem Line.filterMap_insert {α : Type} {f : Text → Option α} (hf : ∀ t, f t.dropReturn = f t)
    {before before' after : List Line} (hb : List.Forall₂ Rereads before before')
    {ts : List Text} (hts : before ++ after = ts.map .ok) (line : Text) :
    ∃ (ts' : List Text) (xs ys : List α), before' ++ .ok line :: after = ts'.map .ok ∧
      ts.filterMap f = xs ++ ys ∧ ts'.filterMap f = xs ++ ((f line).toList ++ ys) := by
  obtain ⟨us, vs, rfl, rfl, rfl⟩ := List.map_eq_append_iff.1 hts.symm
  obtain ⟨us', rfl, hus⟩ := forall_ok_of_rereads hb
  have hmid : (line :: vs).filterMap f = (f line).toList ++ vs.filterMap f := by
    rw [List.filterMap_cons]
    cases f line <;> rfl
  refine ⟨us' ++ line :: vs, us.filterMap f, vs.filterMap f, ?_, List.filterMap_append, ?_⟩
  · rw [List.map_append, List.map_cons]
  · rw [List.filterMap_append, filterMap_rereads hf hus, hmid]

/-! ## excerpts -/

namespace Excerpt

variable {opens closes : Text → Bool} {before after ls ls' : List Line} {x : Excerpt}

def prepend (ts : List Text) (x : Excerpt) : Excerpt := { x with lines := ts ++ x.lines }

theorem body_append {ts : List Text} (h : ∀ t ∈ ts, closes t = false) (ls : List Line) :
    body closes (ts.map .ok ++ ls) = (body closes ls).map (prepend ts) := by
  induction ts with
  | nil => cases hb : body closes ls <;> simp [hb, Except.map, prepend]
  | cons t ts ih =>
    have ht : ¬ closes t = true := by simp [h t List.mem_cons_self]
    rw [List.map_cons, List.cons_append, body, if_neg ht,
      ih fun u hu => h u (List.mem_cons_of_mem _ hu)]
    cases body closes ls <;> rfl

/-- **A line put in** is a line of the excerpt that is begun before it and ends after it, and is not
noticed otherwise. -/
theorem read_insert {line : Text} (ho : opens line = false) (hc : closes line = false)
    (hx : read opens closes before = .ok x) (after : List Line) :
    read opens closes (before ++ .ok line :: after) = read opens closes (before ++ after) ∨
    x.extent = .unterminated ∧ ∃ z : Except IoFault Excerpt,
      read opens closes (before ++ after) = z.map (prepend x.lines) ∧
      read opens closes (before ++ .ok line :: after) = z.map (prepend (x.lines ++ [line])) := by
  have hopens : ¬ opens line = true := by simp [ho]
  cases read_eq_ok_iff_found.1 hx with
  | absent hts =>
    refine .inl ?_
    rw [read_append hts, read_append hts, read, if_neg hopens]
  | closed hbefore hstart hbody hstop =>
    refine .inl ?_
    simp only [List.append_assoc, List.cons_append]
    rw [read_closed hbefore hstart hbody hstop, read_closed hbefore hstart hbody hstop]
  | @unterminated _ ts start hbefore hstart hbody =>
    have hline : ∀ t ∈ ts ++ [line], closes t = false :=
      List.forall_mem_append.2 ⟨hbody, List.forall_mem_singleton.2 hc⟩
    have hread : ∀ ls, read opens closes (.ok start :: (ts.map .ok ++ ls)) =
        body closes (ts.map .ok ++ ls) := fun ls => if_pos hstart
    refine .inr ⟨rfl, body closes after, ?_, ?_⟩
    · rw [List.append_assoc, read_append hbefore, List.cons_append, hread, body_append hbody]
    · rw [List.append_assoc, read_append hbefore, List.cons_append, hread, ← body_append hline]
      simp

/-- the same is found, with the same lines or with lines that are read again -/
structure Rereads (x x' : Excerpt) : Prop where
  extent : x'.extent = x.extent
  lines : List.Forall₂ Text.Rereads x.lines x'.lines

theorem apply_eq_of_rereads {f : Text → Bool} (hf : ∀ t, f t.dropReturn = f t) {t t' : Text}
    (h : Text.Rereads t t') : f t' = f t := by
  cases h with
  | same => rfl
  | dropped => exact hf t

theorem body_rereads (hc : ∀ t : Text, closes t.dropReturn = closes t)
    (h : List.Forall₂ Line.Rereads ls ls') (hx : body closes ls = .ok x) :
    ∃ x', body closes ls' = .ok x' ∧ x.Rereads x' := by
  induction h generalizing x with
  | nil => exact ⟨x, hx, by cases hx; exact ⟨rfl, .nil⟩⟩
  | @cons _ _ ls ls' hl _ ih =>
    cases hl with
    | error e => cases hx
    | @ok t t' ht =>
      rw [body] at hx ⊢
      rw [apply_eq_of_rereads hc ht]
      by_cases hclose : closes t = true
      · rw [if_pos hclose] at hx ⊢
        cases hx
        exact ⟨_, rfl, rfl, .nil⟩
      · rw [if_neg hclose] at hx ⊢
        cases hb : body closes ls with
        | error e =>
          rw [hb] at hx
          cases hx
        | ok y =>
          rw [hb] at hx
          cases hx
          obtain ⟨y', hy', hextent, hlines⟩ := ih hb
          rw [hy']
          exact ⟨_, rfl, hextent, .cons ht hlines⟩

/-- a reader that does not see the carriage return finds the same excerpt -/
theorem read_rereads (ho : ∀ t : Text, opens t.dropReturn = opens t)
    (hc : ∀ t : Text, closes t.dropReturn = closes t) (h : List.Forall₂ Line.Rereads ls ls')
    (hx : read opens closes ls = .ok x) : ∃ x', read opens closes ls' = .ok x' ∧ x.Rereads x' := by
  induction h with
  | nil => exact ⟨x, hx, by cases hx; exact ⟨rfl, .nil⟩⟩
  | cons hl hls ih =>
    cases hl with
    | error e => cases hx
    | @ok t t' ht =>
      rw [read] at hx ⊢
      rw [apply_eq_of_rereads ho ht]
      by_cases hopen : opens t = true
      · rw [if_pos hopen] at hx ⊢
        exact body_rereads hc hls hx
      · rw [if_neg hopen] at hx ⊢
        exact ih hx

end Excerpt

end Upkeep
