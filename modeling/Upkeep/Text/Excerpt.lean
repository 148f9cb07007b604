import Upkeep.Text.Lines

/-!
# Excerpts

An excerpt is what stands between an opening line and a closing line.  Reading stops at the closing
line: nothing after it is looked at, so a bad line there is no fault.  Whether the opening and the
closing line were found is part of the answer.
-/

namespace Upkeep

inductive Extent where
  | absent
  | unterminated
  | closed
deriving DecidableEq, Repr

structure Excerpt where
  extent : Extent
  lines : List Text
deriving DecidableEq, Repr

namespace Excerpt

def body (closes : Text → Bool) : List Line → Except IoFault Excerpt
  | [] => .ok ⟨.unterminated, []⟩
  | .error e :: _ => .error e
  | .ok t :: rest =>
    if closes t then .ok ⟨.closed, []⟩
    else (body closes rest).map fun x => { x with lines := t :: x.lines }

def read (opens closes : Text → Bool) : List Line → Except IoFault Excerpt
  | [] => .ok ⟨.absent, []⟩
  | .error e :: _ => .error e
  | .ok t :: rest => if opens t then body closes rest else read opens closes rest

/-! ## an excerpt with both of its lines -/

variable {opens closes : Text → Bool}

theorem body_closed {ts : List Text} (hts : ∀ t ∈ ts, closes t = false) {stop : Text}
    (hstop : closes stop = true) (rest : List Line) :
    body closes (ts.map .ok ++ .ok stop :: rest) = .ok ⟨.closed, ts⟩ := by
  induction ts with
  | nil =>
    show (if closes stop = true then _ else _) = _
    rw [if_pos hstop]
  | cons t ts ih =>
    have ht : ¬ closes t = true := by simp [hts t List.mem_cons_self]
    rw [List.map_cons, List.cons_append, body, if_neg ht,
      ih fun u hu => hts u (List.mem_cons_of_mem _ hu)]
    rfl

/-- nothing before the first opening line counts, and nothing after the closing line is read -/
theorem read_closed {before : List Text} (hbefore : ∀ t ∈ before, opens t = false) {start : Text}
    (hstart : opens start = true) {ts : List Text} (hts : ∀ t ∈ ts, closes t = false) {stop : Text}
    (hstop : closes stop = true) (rest : List Line) :
    read opens closes (before.map .ok ++ .ok start :: (ts.map .ok ++ .ok stop :: rest)) =
      .ok ⟨.closed, ts⟩ := by
  induction before with
  | nil =>
    show (if opens start = true then _ else _) = _
    rw [if_pos hstart, body_closed hts hstop]
  | cons t before ih =>
    have ht : ¬ opens t = true := by simp [hbefore t List.mem_cons_self]
    show (if opens t = true then _ else _) = _
    rw [if_neg ht]
    exact ih fun u hu => hbefore u (List.mem_cons_of_mem _ hu)

end Excerpt

end Upkeep
