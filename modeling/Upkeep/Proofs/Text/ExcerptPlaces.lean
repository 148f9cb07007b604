import Upkeep.Proofs.Text.Excerpts
import Upkeep.Proofs.Text.FirstLine
import Upkeep.Proofs.Text.Insertion

/-!
# Excerpts told by places

The opening line of an excerpt is the first line of the file that can be read and opens one; the
closing line is the first one after it that can be read and closes one (`Excerpt.ClosesAt`).  What
the reader does follows from these two places:

* `Spoiled`             a line that cannot be read stands before the closing line, or anywhere if
                        there is none; exactly then the reader fails (`read_fails_iff`);
* `read_at_closed`, `read_at_unterminated`, `read_at_absent`
                        otherwise it gives the lines between the two places, those after the
                        opening line, or none;
* `read_append_of_closesAt`   lines after the closing line change nothing.
-/

namespace Upkeep

def Line.Has (P : Text → Prop) (l : Line) : Prop := ∃ t, l = .ok t ∧ P t

theorem Line.not_has_ok {P : Text → Prop} {t : Text} (h : ¬ P t) : ¬ Line.Has P (.ok t) := by
  rintro ⟨u, hu, hp⟩
  cases hu
  exact h hp

namespace Excerpt

/-- line `j` is the first closing line after the first opening line -/
def ClosesAt (Opens Closes : Text → Prop) (ls : List Line) (j : Nat) : Prop :=
  ∃ i, FirstFrom (Line.Has Opens) ls 0 i ∧ FirstFrom (Line.Has Closes) ls (i + 1) j

/-- a line that cannot be read stands before the closing line, or anywhere if there is none -/
def Spoiled (Opens Closes : Text → Prop) (ls : List Line) : Prop :=
  ∃ k e, ls[k]? = some (.error e) ∧ ∀ j, ClosesAt Opens Closes ls j → k < j

variable {opens closes : Text → Bool} {ls : List Line} {i j : Nat}

/-! ## lines that can be read -/

/-- without a spoiled line in front of it, a place before the closing line holds a text -/
theorem exists_text_of_not_spoiled (h : ¬ Spoiled (opens ·) (closes ·) ls) {k : Nat} {l : Line}
    (hk : ls[k]? = some l) (hbefore : ∀ j, ClosesAt (opens ·) (closes ·) ls j → k < j) :
    ∃ t, l = .ok t := by
  cases l with
  | ok t => exact ⟨t, rfl⟩
  | error e => exact absurd ⟨k, e, hk, hbefore⟩ h

theorem closesAt_unique {k : Nat} (hj : ClosesAt (opens ·) (closes ·) ls j)
    (hk : ClosesAt (opens ·) (closes ·) ls k) : j = k := by
  obtain ⟨i, hi, hj⟩ := hj
  obtain ⟨i', hi', hk⟩ := hk
  obtain rfl := hi.unique hi'
  exact hj.unique hk

theorem exists_texts {p : Text → Bool} {piece : List Line}
    (hread : ∀ l ∈ piece, ∃ t, l = .ok t) (hnot : ∀ l ∈ piece, ¬ Line.Has (p ·) l) :
    ∃ ts : List Text, piece = ts.map .ok ∧ ∀ t ∈ ts, p t = false := by
  obtain ⟨ts, rfl⟩ := exists_eq_map_ok_iff.2 hread
  refine ⟨ts, rfl, fun t ht => Bool.eq_false_iff.2 fun hp => ?_⟩
  exact hnot (.ok t) (List.mem_map_of_mem ht) ⟨t, rfl, hp⟩

/-! ## the excerpt at its places -/

theorem read_at_absent (hi : ∀ i, ¬ FirstFrom (Line.Has (opens ·)) ls 0 i)
    (h : ¬ Spoiled (opens ·) (closes ·) ls) : read opens closes ls = .ok ⟨.absent, []⟩ := by
  have hnone : ∀ j, ¬ ClosesAt (opens ·) (closes ·) ls j := fun j ⟨i, hopen, _⟩ => hi i hopen
  have hread : ∀ l ∈ ls, ∃ t, l = .ok t := by
    intro l hl
    obtain ⟨k, hk⟩ := List.mem_iff_getElem?.1 hl
    exact exists_text_of_not_spoiled h hk fun j hj => absurd hj (hnone j)
  have hnot : ∀ l ∈ ls, ¬ Line.Has (opens ·) l := FirstFrom.not_of_mem_drop hi
  obtain ⟨ts, rfl, hts⟩ := exists_texts hread hnot
  exact read_eq_ok_iff_found.2 (.absent hts)

theorem exists_before (hi : FirstFrom (Line.Has (opens ·)) ls 0 i)
    (h : ¬ Spoiled (opens ·) (closes ·) ls) :
    ∃ (before : List Text) (start : Text), ls = before.map .ok ++ .ok start :: ls.drop (i + 1) ∧
      before.length = i ∧ (∀ t ∈ before, opens t = false) ∧ opens start = true := by
  obtain ⟨piece, l, hls, hlen, hmem, -, start, rfl, hstart⟩ := hi.split
  have hread : ∀ l ∈ piece, ∃ t, l = .ok t := by
    intro l hl
    obtain ⟨k, -, hki, hk⟩ := hmem l hl
    refine exists_text_of_not_spoiled h hk fun j ⟨i', hi', hj⟩ => ?_
    obtain rfl := hi.unique hi'
    have hle := hj.le
    omega
  have hnot : ∀ l ∈ piece, ¬ Line.Has (opens ·) l := by
    intro l hl
    obtain ⟨k, hk0, hki, hk⟩ := hmem l hl
    exact hi.first k l hk0 hki hk
  obtain ⟨before, rfl, hbefore⟩ := exists_texts hread hnot
  rw [List.length_map] at hlen
  exact ⟨before, start, hls, hlen, hbefore, hstart⟩

theorem read_at_unterminated (hi : FirstFrom (Line.Has (opens ·)) ls 0 i)
    (hj : ∀ j, ¬ FirstFrom (Line.Has (closes ·)) ls (i + 1) j)
    (h : ¬ Spoiled (opens ·) (closes ·) ls) :
    ∃ ts : List Text, ls.drop (i + 1) = ts.map .ok ∧
      read opens closes ls = .ok ⟨.unterminated, ts⟩ := by
  obtain ⟨before, start, hls, -, hbefore, hstart⟩ := exists_before hi h
  have hnone : ∀ j, ¬ ClosesAt (opens ·) (closes ·) ls j := by
    intro j hclose
    obtain ⟨i', hi', hfirst⟩ := hclose
    obtain rfl := hi.unique hi'
    exact hj j hfirst
  have hread : ∀ l ∈ ls.drop (i + 1), ∃ t, l = .ok t := by
    intro l hl
    obtain ⟨k, hk⟩ := List.mem_iff_getElem?.1 (List.mem_of_mem_drop hl)
    exact exists_text_of_not_spoiled h hk fun j hj => absurd hj (hnone j)
  obtain ⟨ts, hts, hbody⟩ := exists_texts hread (FirstFrom.not_of_mem_drop hj)
  refine ⟨ts, hts, ?_⟩
  rw [hts] at hls
  rw [hls]
  exact read_eq_ok_iff_found.2 (.unterminated hbefore hstart hbody)

theorem read_at_closed (hi : FirstFrom (Line.Has (opens ·)) ls 0 i)
    (hj : FirstFrom (Line.Has (closes ·)) ls (i + 1) j) (h : ¬ Spoiled (opens ·) (closes ·) ls) :
    ∃ ts : List Text, (ls.take j).drop (i + 1) = ts.map .ok ∧
      read opens closes ls = .ok ⟨.closed, ts⟩ := by
  obtain ⟨before, start, hls, hlen, hbefore, hstart⟩ := exists_before hi h
  obtain ⟨piece, l, hrest, hpiece, hmem, -, stop, rfl, hstop⟩ := hj.split
  have hread : ∀ l ∈ piece, ∃ t, l = .ok t := by
    intro l hl
    obtain ⟨k, -, hkj, hk⟩ := hmem l hl
    refine exists_text_of_not_spoiled h hk fun j' hj' => ?_
    obtain rfl := closesAt_unique ⟨i, hi, hj⟩ hj'
    exact hkj
  have hnot : ∀ l ∈ piece, ¬ Line.Has (closes ·) l := by
    intro l hl
    obtain ⟨k, hik, hkj, hk⟩ := hmem l hl
    exact hj.first k l hik hkj hk
  obtain ⟨ts, rfl, hbody⟩ := exists_texts hread hnot
  have hle := hj.le
  rw [List.length_map] at hpiece
  have hbetween : (ls.take j).drop (i + 1) = ts.map .ok := by
    have htake : j - (i + 1) = (ts.map Except.ok : List Line).length := by
      rw [List.length_map]
      omega
    rw [List.drop_take, hrest, htake, List.take_left']
    rfl
  refine ⟨ts, hbetween, ?_⟩
  rw [hrest] at hls
  rw [hls]
  exact read_closed hbefore hstart hbody hstop _

/-! ## when the reader fails -/

theorem closesAt_of_found {before body : List Text} {start stop : Text} {rest : List Line}
    (hbefore : ∀ t ∈ before, opens t = false) (hstart : opens start = true)
    (hbody : ∀ t ∈ body, closes t = false) (hstop : closes stop = true) :
    ClosesAt (opens ·) (closes ·)
      (before.map .ok ++ .ok start :: (body.map .ok ++ .ok stop :: rest))
      (before.length + 1 + body.length) := by
  have hno : ∀ {p : Text → Bool} {ts : List Text}, (∀ t ∈ ts, p t = false) →
      ∀ l ∈ (ts.map .ok : List Line), ¬ Line.Has (p ·) l := by
    intro p ts hts l hl
    obtain ⟨t, ht, rfl⟩ := List.mem_map.1 hl
    exact Line.not_has_ok (Bool.eq_false_iff.1 (hts t ht))
  have hi := FirstFrom.append [] (body.map .ok ++ .ok stop :: rest) (hno hbefore)
    ⟨start, rfl, hstart⟩
  have hj := FirstFrom.append (before.map .ok ++ [.ok start]) rest (hno hbody)
    ⟨stop, rfl, hstop⟩
  simp only [List.nil_append, List.append_assoc, List.singleton_append, List.length_append,
    List.length_map, List.length_nil, List.length_singleton, Nat.zero_add] at hi hj
  exact ⟨before.length, hi, hj⟩

theorem not_spoiled_of_found {x : Excerpt} (h : Found opens closes ls x) :
    ¬ Spoiled (opens ·) (closes ·) ls := by
  rintro ⟨k, e, hk, hbefore⟩
  cases h with
  | absent hts =>
    have hmem := List.mem_of_getElem? hk
    simp at hmem
  | unterminated _ _ _ =>
    have hmem := List.mem_of_getElem? hk
    simp at hmem
  | @closed before body start stop rest hb hstart hbody hstop =>
    have hlt := hbefore _ (closesAt_of_found hb hstart hbody hstop)
    have hfront : (before.map .ok ++ .ok start :: (body.map .ok ++ .ok stop :: rest) : List Line) =
        (before ++ start :: body).map .ok ++ .ok stop :: rest := by simp
    have hlen : k < ((before ++ start :: body).map Except.ok : List Line).length := by
      rw [List.length_map, List.length_append, List.length_cons]
      omega
    rw [hfront, List.getElem?_append_left hlen] at hk
    have hmem := List.mem_of_getElem? hk
    simp at hmem

theorem exists_read_of_not_spoiled (h : ¬ Spoiled (opens ·) (closes ·) ls) :
    ∃ x, read opens closes ls = .ok x := by
  by_cases hi : ∃ i, FirstFrom (Line.Has (opens ·)) ls 0 i
  · obtain ⟨i, hi⟩ := hi
    by_cases hj : ∃ j, FirstFrom (Line.Has (closes ·)) ls (i + 1) j
    · obtain ⟨j, hj⟩ := hj
      obtain ⟨ts, -, hread⟩ := read_at_closed hi hj h
      exact ⟨_, hread⟩
    · obtain ⟨ts, -, hread⟩ := read_at_unterminated hi (not_exists.1 hj) h
      exact ⟨_, hread⟩
  · exact ⟨_, read_at_absent (not_exists.1 hi) h⟩

theorem read_fails_iff :
    (∃ e, read opens closes ls = .error e) ↔ Spoiled (opens ·) (closes ·) ls := by
  constructor
  · rintro ⟨e, he⟩
    by_cases h : Spoiled (opens ·) (closes ·) ls
    · exact h
    · obtain ⟨x, hx⟩ := exists_read_of_not_spoiled h
      rw [he] at hx
      cases hx
  · intro h
    cases hr : read opens closes ls with
    | error e => exact ⟨e, rfl⟩
    | ok x => exact absurd h (not_spoiled_of_found (read_eq_ok_iff_found.1 hr))

/-! ## lines after the closing line -/

theorem read_append_of_closesAt (h : ClosesAt (opens ·) (closes ·) ls j) (ms : List Line) :
    read opens closes (ls ++ ms) = read opens closes ls := by
  obtain ⟨i, hi, hj⟩ := h
  cases hr : read opens closes ls with
  | error e =>
    rw [read_eq_error_iff] at hr ⊢
    obtain ⟨rest, hrest⟩ := Line.upToFault_eq_some_iff.1 (Prod.ext rfl hr.1)
    have happend : ls ++ ms = (Line.upToFault ls).1.map .ok ++ .error e :: (rest ++ ms) := by
      rw [← List.cons_append, ← List.append_assoc, ← hrest]
    rw [happend, Line.upToFault_fault]
    exact ⟨rfl, hr.2⟩
  | ok x =>
    rw [read_eq_ok_iff_found] at hr ⊢
    have hnone : ¬ Spoiled (opens ·) (closes ·) ls := not_spoiled_of_found hr
    obtain ⟨ts, -, hread⟩ := read_at_closed hi hj hnone
    cases hr with
    | absent hts =>
      rw [read_eq_ok_iff_found.2 (.absent hts)] at hread
      cases hread
    | unterminated hbefore hstart hbody =>
      rw [read_eq_ok_iff_found.2 (.unterminated hbefore hstart hbody)] at hread
      cases hread
    | closed hbefore hstart hbody hstop =>
      rw [List.append_assoc, List.cons_append, List.append_assoc, List.cons_append]
      exact .closed hbefore hstart hbody hstop

end Excerpt

end Upkeep
