import Upkeep.Text.Excerpt

/-!
# What an excerpt is, and where its reader stops

`Excerpt.Found` tells the excerpt of a file from the places of its lines: the first opening line,
and the first closing line after it.  `Excerpt.EndsIn` says that both are among the lines read so
far, so that nothing more is read.  Main statements: the reader gives exactly the excerpt that is
found (`read_eq_ok_iff_found`), and it fails exactly at a bad line before which the excerpt has not
ended (`read_eq_error_iff`).
-/

namespace Upkeep.Excerpt

variable {opens closes : Text → Bool}

/-- the excerpt of a file whose lines up to its end can be read -/
inductive Found (opens closes : Text → Bool) : List Line → Excerpt → Prop
  | absent {ts : List Text} : (∀ t ∈ ts, opens t = false) →
      Found opens closes (ts.map .ok) ⟨.absent, []⟩
  | unterminated {before body : List Text} {start : Text} : (∀ t ∈ before, opens t = false) →
      opens start = true → (∀ t ∈ body, closes t = false) →
      Found opens closes (before.map .ok ++ .ok start :: body.map .ok) ⟨.unterminated, body⟩
  | closed {before body : List Text} {start stop : Text} {rest : List Line} :
      (∀ t ∈ before, opens t = false) → opens start = true → (∀ t ∈ body, closes t = false) →
      closes stop = true →
      Found opens closes (before.map .ok ++ .ok start :: (body.map .ok ++ .ok stop :: rest))
        ⟨.closed, body⟩

/-- an opening line and, after it, a closing line are among the lines -/
def EndsIn (opens closes : Text → Bool) (ts : List Text) : Prop :=
  ∃ start stop, [start, stop].Sublist ts ∧ opens start = true ∧ closes stop = true

theorem not_endsIn_nil : ¬ EndsIn opens closes [] := by
  rintro ⟨start, stop, h, -⟩
  cases h

theorem endsIn_cons_of_opens {t : Text} (ht : opens t = true) (ts : List Text) :
    EndsIn opens closes (t :: ts) ↔ ∃ stop ∈ ts, closes stop = true := by
  constructor
  · rintro ⟨start, stop, h, -, hstop⟩
    have hmem : stop ∈ ts := by
      cases h with
      | cons _ h => exact (List.sublist_of_cons_sublist h).subset List.mem_cons_self
      | cons_cons _ h => exact h.subset List.mem_cons_self
    exact ⟨stop, hmem, hstop⟩
  · rintro ⟨stop, hmem, hstop⟩
    exact ⟨t, stop, (List.singleton_sublist.2 hmem).cons_cons t, ht, hstop⟩

theorem endsIn_cons_of_not_opens {t : Text} (ht : opens t = false) (ts : List Text) :
    EndsIn opens closes (t :: ts) ↔ EndsIn opens closes ts := by
  constructor
  · rintro ⟨start, stop, h, hstart, hstop⟩
    cases h with
    | cons _ h => exact ⟨start, stop, h, hstart, hstop⟩
    | cons_cons _ h =>
      rw [ht] at hstart
      cases hstart
  · rintro ⟨start, stop, h, hstart, hstop⟩
    exact ⟨start, stop, h.cons t, hstart, hstop⟩

/-! ## after the opening line -/

theorem body_unterminated {ts : List Text} (h : ∀ t ∈ ts, closes t = false) :
    body closes (ts.map .ok) = .ok ⟨.unterminated, ts⟩ := by
  induction ts with
  | nil => rfl
  | cons t ts ih =>
    have ht : ¬ closes t = true := by simp [h t List.mem_cons_self]
    rw [List.map_cons, body, if_neg ht, ih fun u hu => h u (List.mem_cons_of_mem _ hu)]
    rfl

theorem body_eq_ok {ls : List Line} {x : Excerpt} (h : body closes ls = .ok x) :
    (∀ t ∈ x.lines, closes t = false) ∧
    ((x.extent = .unterminated ∧ ls = x.lines.map .ok) ∨
      ∃ stop rest, x.extent = .closed ∧ closes stop = true ∧
        ls = x.lines.map .ok ++ .ok stop :: rest) := by
  induction ls generalizing x with
  | nil =>
    cases h
    exact ⟨by simp, .inl ⟨rfl, rfl⟩⟩
  | cons l ls ih =>
    cases l with
    | error e => cases h
    | ok t =>
      rw [body] at h
      by_cases ht : closes t = true
      · rw [if_pos ht] at h
        cases h
        exact ⟨by simp, .inr ⟨t, ls, rfl, ht, rfl⟩⟩
      · rw [if_neg ht] at h
        cases hb : body closes ls with
        | error e =>
          rw [hb] at h
          cases h
        | ok y =>
          rw [hb] at h
          cases h
          obtain ⟨hy, hend⟩ := ih hb
          refine ⟨List.forall_mem_cons.2 ⟨by simpa using ht, hy⟩, ?_⟩
          rcases hend with ⟨hext, hls⟩ | ⟨stop, rest, hext, hstop, hls⟩
          · exact .inl ⟨hext, congrArg (.ok t :: ·) hls⟩
          · exact .inr ⟨stop, rest, hext, hstop, congrArg (.ok t :: ·) hls⟩

/-- a bad line is a failure as long as no closing line is before it -/
theorem body_eq_error_iff {ls : List Line} {e : IoFault} : body closes ls = .error e ↔
    (Line.upToFault ls).2 = some e ∧ ∀ t ∈ (Line.upToFault ls).1, closes t = false := by
  induction ls with
  | nil => simp [body, Line.upToFault]
  | cons l ls ih =>
    cases l with
    | error e' => simp [body, Line.upToFault]
    | ok t =>
      rw [body, Line.upToFault, List.forall_mem_cons]
      by_cases ht : closes t = true
      · simp [ht]
      · rw [if_neg ht]
        simp only [Bool.not_eq_true] at ht
        rw [and_left_comm, ← ih]
        cases body closes ls with
        | error e' => simp [ht, Except.map]
        | ok y => simp [Except.map]

/-! ## from the first line on -/

theorem found_cons {ls : List Line} {t : Text} {x : Excerpt} (ht : opens t = false)
    (h : Found opens closes ls x) : Found opens closes (.ok t :: ls) x := by
  cases h with
  | absent hts => exact .absent (List.forall_mem_cons.2 ⟨ht, hts⟩)
  | unterminated hbefore hstart hbody =>
    exact .unterminated (List.forall_mem_cons.2 ⟨ht, hbefore⟩) hstart hbody
  | closed hbefore hstart hbody hstop =>
    exact .closed (List.forall_mem_cons.2 ⟨ht, hbefore⟩) hstart hbody hstop

theorem found_of_read {ls : List Line} {x : Excerpt} (h : read opens closes ls = .ok x) :
    Found opens closes ls x := by
  induction ls with
  | nil =>
    cases h
    have hnil : ∀ t ∈ ([] : List Text), opens t = false := by simp
    exact .absent hnil
  | cons l ls ih =>
    cases l with
    | error e => cases h
    | ok t =>
      rw [read] at h
      by_cases ht : opens t = true
      · rw [if_pos ht] at h
        obtain ⟨extent, body⟩ := x
        obtain ⟨hbody, hend⟩ := body_eq_ok h
        have hnil : ∀ t ∈ ([] : List Text), opens t = false := by simp
        rcases hend with ⟨rfl, rfl⟩ | ⟨stop, rest, rfl, hstop, rfl⟩
        · exact .unterminated hnil ht hbody
        · exact .closed hnil ht hbody hstop
      · rw [if_neg ht] at h
        exact found_cons (by simpa using ht) (ih h)

theorem read_append {before : List Text} (h : ∀ t ∈ before, opens t = false) (ls : List Line) :
    read opens closes (before.map .ok ++ ls) = read opens closes ls := by
  induction before with
  | nil => rfl
  | cons t before ih =>
    have ht : ¬ opens t = true := by simp [h t List.mem_cons_self]
    rw [List.map_cons, List.cons_append, read, if_neg ht,
      ih fun u hu => h u (List.mem_cons_of_mem _ hu)]

/-- **The reader gives the excerpt that is there.** -/
theorem read_eq_ok_iff_found {ls : List Line} {x : Excerpt} :
    read opens closes ls = .ok x ↔ Found opens closes ls x := by
  refine ⟨found_of_read, fun h => ?_⟩
  cases h with
  | absent hts =>
    have hread : read opens closes (_ ++ []) = _ := read_append hts []
    rwa [List.append_nil] at hread
  | unterminated hbefore hstart hbody =>
    rw [read_append hbefore, read, if_pos hstart, body_unterminated hbody]
  | closed hbefore hstart hbody hstop => exact read_closed hbefore hstart hbody hstop _

/-- **The reader fails at the first bad line, if the excerpt has not ended before it.** -/
theorem read_eq_error_iff {ls : List Line} {e : IoFault} : read opens closes ls = .error e ↔
    (Line.upToFault ls).2 = some e ∧ ¬ EndsIn opens closes (Line.upToFault ls).1 := by
  induction ls with
  | nil => simp [read, Line.upToFault]
  | cons l ls ih =>
    cases l with
    | error e' => simp [read, Line.upToFault, not_endsIn_nil]
    | ok t =>
      rw [read, Line.upToFault]
      by_cases ht : opens t = true
      · rw [if_pos ht, body_eq_error_iff, endsIn_cons_of_opens ht]
        simp only [not_exists, not_and, Bool.not_eq_true]
      · rw [if_neg ht, ih, endsIn_cons_of_not_opens (Bool.eq_false_iff.2 ht)]

end Upkeep.Excerpt
