/-!
# The first line with a property

`FirstFrom p ts k i` says that line `i`, counted from 0, is the first one from line `k` on that has
the property `p`.  There is at most one such line (`FirstFrom.unique`), and there is one if any line
from `k` on has the property (`FirstFrom.exists_of_getElem?`).  It cuts the list of lines in two
(`FirstFrom.split`, `FirstFrom.append`).
-/

namespace Upkeep

variable {α : Type} {p : α → Prop} {ts : List α} {k i j : Nat}

/-- the `i`-th element is the first one from the `k`-th on that has the property -/
structure FirstFrom (p : α → Prop) (ts : List α) (k i : Nat) : Prop where
  le : k ≤ i
  holds : ∃ t, ts[i]? = some t ∧ p t
  first : ∀ j t, k ≤ j → j < i → ts[j]? = some t → ¬ p t

namespace FirstFrom

theorem unique (hi : FirstFrom p ts k i) (hj : FirstFrom p ts k j) : i = j := by
  obtain ⟨t, ht, hpt⟩ := hi.holds
  obtain ⟨u, hu, hpu⟩ := hj.holds
  have h1 : ¬ i < j := fun h => hj.first i t hi.le h ht hpt
  have h2 : ¬ j < i := fun h => hi.first j u hj.le h hu hpu
  omega

theorem lt_length (h : FirstFrom p ts k i) : i < ts.length := by
  obtain ⟨t, ht, -⟩ := h.holds
  exact (List.getElem?_eq_some_iff.1 ht).1

/-- the elements up to the first one with the property, that one, and the rest -/
theorem split (h : FirstFrom p ts k i) : ∃ before t, ts.drop k = before ++ t :: ts.drop (i + 1) ∧
    before.length = i - k ∧ (∀ u ∈ before, ∃ j, k ≤ j ∧ j < i ∧ ts[j]? = some u) ∧
    ts[i]? = some t ∧ p t := by
  obtain ⟨t, ht, hp⟩ := h.holds
  obtain ⟨hi, rfl⟩ := List.getElem?_eq_some_iff.1 ht
  have hk := h.le
  refine ⟨(ts.take i).drop k, ts[i], ?_, ?_, ?_, ht, hp⟩
  · have hd : ts.drop k = (ts.take i ++ ts.drop i).drop k := by rw [List.take_append_drop]
    rw [hd, List.drop_append_of_le_length (by rw [List.length_take]; omega),
      List.drop_eq_getElem_cons hi]
  · rw [List.length_drop, List.length_take]
    omega
  · intro u hu
    obtain ⟨n, hn, rfl⟩ := List.mem_iff_getElem.1 hu
    rw [List.length_drop, List.length_take] at hn
    have hlt : k + n < ts.length := by omega
    refine ⟨k + n, by omega, by omega, ?_⟩
    rw [List.getElem?_eq_getElem hlt, List.getElem_drop, List.getElem_take]

theorem of_le (h : FirstFrom p ts k i) (hkj : k ≤ j) (hji : j ≤ i) : FirstFrom p ts j i :=
  ⟨hji, h.holds, fun m t h1 h2 => h.first m t (by omega) h2⟩

theorem exists_of_getElem? {t : α} (hk : k ≤ i) (ht : ts[i]? = some t) (hp : p t) :
    ∃ j, FirstFrom p ts k j ∧ j ≤ i := by
  induction i using Nat.strongRecOn generalizing t with
  | _ i ih =>
    by_cases h : ∃ j u, k ≤ j ∧ j < i ∧ ts[j]? = some u ∧ p u
    · obtain ⟨j, u, hkj, hji, hu, hpu⟩ := h
      obtain ⟨m, hm, hmj⟩ := ih j hji hkj hu hpu
      exact ⟨m, hm, by omega⟩
    · exact ⟨i, ⟨hk, ⟨t, ht, hp⟩, fun j u h1 h2 h3 h4 => h ⟨j, u, h1, h2, h3, h4⟩⟩, Nat.le_refl i⟩

theorem not_forall (h : FirstFrom p ts k i) : ¬ ∀ t ∈ ts.drop k, ¬ p t := by
  obtain ⟨before, t, hts, -, -, -, hp⟩ := h.split
  exact fun hno => hno t (by simp [hts]) hp

theorem not_of_mem_drop (h : ∀ i, ¬ FirstFrom p ts k i) : ∀ t ∈ ts.drop k, ¬ p t := by
  intro t ht hp
  obtain ⟨n, hn, rfl⟩ := List.mem_iff_getElem.1 ht
  rw [List.length_drop] at hn
  have hlt : k + n < ts.length := by omega
  obtain ⟨j, hj, -⟩ := exists_of_getElem? (k := k) (i := k + n) (by omega)
    (by rw [List.getElem?_eq_getElem hlt, List.getElem_drop]) hp
  exact h j hj

/-- after other elements, those without the property and one that has it -/
theorem append {mid : List α} {x : α} (xs ys : List α) (hmid : ∀ t ∈ mid, ¬ p t) (hx : p x) :
    FirstFrom p (xs ++ (mid ++ x :: ys)) xs.length (xs.length + mid.length) := by
  have hat : ∀ n, (xs ++ (mid ++ x :: ys))[xs.length + n]? = (mid ++ x :: ys)[n]? := by
    intro n
    rw [List.getElem?_append_right (by omega)]
    congr 1
    omega
  refine ⟨by omega, ⟨x, ?_, hx⟩, ?_⟩
  · rw [hat, List.getElem?_append_right (by omega)]
    simp
  · intro j t hle hlt ht
    obtain ⟨n, rfl⟩ := Nat.exists_eq_add_of_le hle
    rw [hat, List.getElem?_append_left (by omega)] at ht
    exact hmid t (List.mem_of_getElem? ht)

end FirstFrom

end Upkeep
