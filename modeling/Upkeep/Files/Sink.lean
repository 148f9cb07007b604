import Upkeep.Text.Lines

/-!
# Sinks

A sink takes bytes until its room is used up.  A piece that does not fit is taken as far as it
fits, and then the write fails.
-/

namespace Upkeep

structure Sink where
  /-- how many bytes more it takes; without a number it takes any -/
  room : Option Nat
  written : Bytes
deriving DecidableEq, Repr

namespace Sink

def new (room : Option Nat) : Sink := ⟨room, []⟩

def put (s : Sink) (b : Bytes) : Sink × Option IoFault :=
  match s.room with
  | none => (⟨none, s.written ++ b⟩, none)
  | some n =>
    if b.length ≤ n then (⟨some (n - b.length), s.written ++ b⟩, none)
    else (⟨some 0, s.written ++ b.take n⟩, some .noRoom)

/-- pieces written one after the other, up to the first that does not fit -/
def putAll (s : Sink) : List Bytes → Sink × Option IoFault
  | [] => (s, none)
  | b :: bs =>
    match s.put b with
    | (s', none) => putAll s' bs
    | (s', some e) => (s', some e)

theorem written_of_put {s s' : Sink} {b : Bytes} (h : s.put b = (s', none)) :
    s'.written = s.written ++ b := by
  unfold put at h
  split at h
  · cases h
    rfl
  · split at h
    · cases h
      rfl
    · cases h

theorem put_limited (n : Nat) (w b : Bytes) :
    put ⟨some n, w⟩ b =
      (⟨some (n - b.length), w ++ b.take n⟩, if b.length ≤ n then none else some .noRoom) := by
  show (if b.length ≤ n then _ else _) = _
  by_cases h : b.length ≤ n
  · rw [if_pos h, if_pos h, List.take_of_length_le h]
  · rw [if_neg h, if_neg h, Nat.sub_eq_zero_of_le (Nat.le_of_not_le h)]

theorem put_fault_eq_none_iff {n : Nat} {w b : Bytes} :
    (put ⟨some n, w⟩ b).2 = none ↔ b.length ≤ n := by
  rw [put_limited, ite_eq_left_iff]
  simp

theorem eq_noRoom_of_put {s : Sink} {b : Bytes} {e : IoFault} (h : (s.put b).2 = some e) :
    e = .noRoom := by
  obtain ⟨room, w⟩ := s
  cases room with
  | none => cases h
  | some n =>
    rw [put_limited, Option.ite_none_left_eq_some] at h
    exact (Option.some.inj h.2).symm

@[simp] theorem put_nil (s : Sink) : s.put [] = (s, none) := by
  obtain ⟨room, w⟩ := s
  cases room with
  | none => simp [put]
  | some n => simp [put_limited]

theorem put_append (s : Sink) (b c : Bytes) :
    s.put (b ++ c) =
      match s.put b with
      | (s', none) => s'.put c
      | (s', some e) => (s', some e) := by
  obtain ⟨room, w⟩ := s
  cases room with
  | none => simp [put]
  | some n =>
    rw [put_limited, put_limited]
    by_cases hb : b.length ≤ n
    · have hc : (b ++ c).length ≤ n ↔ c.length ≤ n - b.length := by
        rw [List.length_append]
        omega
      simp only [if_pos hb, put_limited, hc]
      rw [List.length_append, Nat.sub_sub, List.take_append, List.append_assoc]
    · -- the first piece fills the sink, so nothing of the second is taken
      have hbc : ¬ (b ++ c).length ≤ n := by
        rw [List.length_append]
        omega
      simp only [if_neg hb, if_neg hbc]
      rw [List.take_append_of_le_length (Nat.le_of_not_le hb), List.length_append]
      congr 3
      omega

/-- **Pieces are taken as if they were one**, so it does not matter where a text is cut. -/
theorem putAll_eq_put (s : Sink) (bs : List Bytes) : s.putAll bs = s.put bs.flatten := by
  induction bs generalizing s with
  | nil => exact s.put_nil.symm
  | cons b bs ih =>
    rw [putAll, List.flatten_cons, put_append]
    split
    · exact ih _
    · rfl

theorem written_of_putAll {s s' : Sink} {bs : List Bytes} (h : s.putAll bs = (s', none)) :
    s'.written = s.written ++ bs.flatten := by
  rw [putAll_eq_put] at h
  exact written_of_put h

end Sink

end Upkeep
