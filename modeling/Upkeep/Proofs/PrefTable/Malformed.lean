import Upkeep.Proofs.PrefTable.Parse
import Upkeep.Proofs.Text.Excerpts

/-!
# When a preference table is not read

A table in a file is read in two steps: its lines are taken from the file, and only then are they
parsed.  So a bad line of the table is told before any fault of its entries, wherever the two stand
(`outcome_read_eq_error_iff`).  The fault of the entries is that of the first line that no reading
reaches, and there is only one such line (`Blocked.unique`).
-/

namespace Upkeep

namespace EntryLine

theorem Blocked.fault_unique {left : Option Text} {k : EntryLine} {f f' : TableFault}
    (h : Blocked left k f) (h' : Blocked left k f') : f = f' := by
  cases h <;> cases h' <;> rfl

/-- a line that is blocked ends every reading -/
theorem Blocked.not_readable_append {b a : List Located} {x : Located} {es : List PrefEntry}
    {left : Option Text} {f : TableFault} (hr : Reading (b.map (·.kind)) es left)
    (hb : Blocked left x.kind f) : ¬ Readable ((b ++ x :: a).map (·.kind)) := by
  intro h
  rw [List.map_append, List.map_cons, ← List.singleton_append, ← List.append_assoc] at h
  obtain ⟨es', left', hlong⟩ := h
  exact hb.not_readable hr hlong.readable_of_append

/-- the first line that no reading reaches -/
theorem Blocked.unique {b b' a a' : List Located} {x x' : Located} {es es' : List PrefEntry}
    {left left' : Option Text} {f f' : TableFault} (he : b ++ x :: a = b' ++ x' :: a')
    (hr : Reading (b.map (·.kind)) es left) (hb : Blocked left x.kind f)
    (hr' : Reading (b'.map (·.kind)) es' left') (hb' : Blocked left' x'.kind f') :
    x = x' ∧ f = f' := by
  -- neither of the two lines stands in what was read before the other
  rcases List.append_eq_append_iff.1 he with ⟨m, rfl, hm⟩ | ⟨m, rfl, hm⟩
  · cases m with
    | nil =>
      obtain ⟨rfl, rfl⟩ := List.cons.inj hm
      rw [List.append_nil] at hr'
      obtain ⟨-, rfl⟩ := hr.unique hr'
      exact ⟨rfl, hb.fault_unique hb'⟩
    | cons y m =>
      obtain ⟨rfl, -⟩ := List.cons.inj hm
      exact absurd ⟨es', left', hr'⟩ (hb.not_readable_append hr)
  · cases m with
    | nil =>
      obtain ⟨rfl, rfl⟩ := List.cons.inj hm
      rw [List.append_nil] at hr
      obtain ⟨-, rfl⟩ := hr.unique hr'
      exact ⟨rfl, hb.fault_unique hb'⟩
    | cons y m =>
      obtain ⟨rfl, -⟩ := List.cons.inj hm
      exact absurd ⟨es, left, hr⟩ (hb'.not_readable_append hr')

end EntryLine

namespace PrefTable

open EntryLine

/-- the lines have no reading, and the failure is at the first one that no reading reaches -/
def Rejected (lines : List Text) (f : Failure) : Prop :=
  ∃ before x after es left k, located 1 lines = before ++ x :: after ∧
    Reading (before.map (·.kind)) es left ∧ Blocked left x.kind k ∧
    f = .malformedTable x.number x.text k

theorem outcome_parse_eq_error_iff {lines : List Text} {f : Failure} :
    (parse lines).outcome = .error f ↔ Rejected lines f := by
  constructor
  · intro h
    have hn : ¬ Readable ((located 1 lines).map (·.kind)) := by
      rintro ⟨es, left, hr⟩
      rw [parse_of_reading hr] at h
      cases h
    obtain ⟨before, x, after, es, left, k, hk, hr, hb, he⟩ := parse_of_not_readable hn
    rw [he] at h
    exact ⟨before, x, after, es, left, k, hk, hr, hb, (Except.error.inj h).symm⟩
  · rintro ⟨before, x, after, es, left, k, hk, hr, hb, rfl⟩
    have hn : ¬ Readable ((located 1 lines).map (·.kind)) := by
      rw [hk]
      exact hb.not_readable_append hr
    obtain ⟨before', x', after', es', left', k', hk', hr', hb', he⟩ := parse_of_not_readable hn
    obtain ⟨rfl, rfl⟩ := Blocked.unique (hk.symm.trans hk') hr hb hr' hb'
    exact he

/-- the table of a file can be read up to its end, and its lines have no reading -/
def Malformed (start stop : Text) (ls : List Line) (f : Failure) : Prop :=
  ∃ x : Excerpt, Excerpt.Found start.isPrefixOf (fun t => stop.isPrefixOf t.trim) ls x ∧
    Rejected (x.lines.map Text.trim) f

theorem outcome_read_eq_error_iff {start stop : Text} {ls : List Line} {f : Failure} :
    (read start stop ls).outcome = .error f ↔
      (∃ e, ((Line.upToFault ls).2 = some e ∧ ¬ Excerpt.EndsIn start.isPrefixOf
        (fun t => stop.isPrefixOf t.trim) (Line.upToFault ls).1) ∧ f = .stream e) ∨
      Malformed start stop ls f := by
  unfold read
  rw [Run.outcome_bind_eq_error_iff, outcome_block]
  simp only [outcome_parse_eq_error_iff, ← Excerpt.read_eq_error_iff]
  unfold Malformed
  simp only [← Excerpt.read_eq_ok_iff_found]
  cases Excerpt.read start.isPrefixOf (fun t => stop.isPrefixOf t.trim) ls with
  | error e => simp [Except.map, eq_comm]
  | ok x => simp [Except.map]

example : (read ['['] [']'] [.ok ['['], .ok "A, true \x7d,".toList, .error .notUtf8]).outcome =
    .error (.stream .notUtf8) := rfl

end PrefTable

end Upkeep
