import Upkeep.Text.Lowercase

/-!
# Lower case is stable

Lower-casing gives only characters that are their own lower-case forms (`IsLower`): no image of a
run of the table is covered by a run again, which is checked run by run (`lowerRuns_apart`), and
neither form of the sigma is a capital.  So lower-casing once more changes nothing, although it is
not done character by character.
-/

namespace Upkeep.Text

/-- the run of the one character whose lower-case form is two characters -/
def dottedRun : CaseRun := ⟨0x130, 0x130, 1, 0x69⟩

theorem covers_dottedRun_iff {n : Nat} : dottedRun.covers n = true ↔ n = 0x130 := by
  unfold CaseRun.covers dottedRun
  simp only [Bool.and_eq_true, decide_eq_true_eq, beq_iff_eq]
  omega

/-- no run has a lower-case form for the character -/
def IsLower (c : Char) : Prop := ∀ s ∈ dottedRun :: lowerRuns, s.covers c.toNat = false

instance : DecidablePred IsLower := fun c =>
  inferInstanceAs (Decidable (∀ s ∈ dottedRun :: lowerRuns, s.covers c.toNat = false))

/-! ## images of runs -/

/-- no image of the first run is covered by the second: they are apart as intervals, or every second
number is covered and the images are the others -/
def CaseRun.apart (r s : CaseRun) : Bool :=
  -- on numerals the kernel computes these comparisons at once
  Nat.blt (r.image + (r.last - r.first)) s.first || Nat.blt s.last r.image ||
    (Nat.beq s.stride 2 && (Nat.beq r.stride 2 || Nat.beq r.first r.last) &&
      Nat.beq ((r.image + s.first) % 2) 1)

theorem lowerRuns_apart :
    (lowerRuns.all fun r => (dottedRun :: lowerRuns).all r.apart) = true := by
  decide +kernel

theorem covers_image {r s : CaseRun} {n : Nat} (hn : r.covers n = true) (h : r.apart s = true) :
    s.covers (n - r.first + r.image) = false := by
  simp only [CaseRun.covers, Bool.and_eq_true, decide_eq_true_eq, beq_iff_eq] at hn
  simp only [CaseRun.apart, Bool.or_eq_true, Bool.and_eq_true, Nat.blt_eq, Nat.beq_eq] at h
  simp only [CaseRun.covers, Bool.and_eq_false_iff, decide_eq_false_iff_not, beq_eq_false_iff_ne]
  obtain ⟨⟨hfirst, hlast⟩, hstep⟩ := hn
  rcases h with (h | h) | ⟨⟨hs, hr⟩, hodd⟩
  · omega
  · omega
  · have heven : (n - r.first) % 2 = 0 := by
      rcases hr with hr | hr
      · rwa [hr] at hstep
      · omega
    rw [hs]
    omega

/-! ## lower-case texts -/

theorem isLower_zero : IsLower (Char.ofNat 0) := by decide +kernel

theorem lowerChar_of_isLower {c : Char} (h : IsLower c) : lowerChar c = [c] := by
  obtain ⟨hdotted, hruns⟩ := List.forall_mem_cons.1 h
  have hne : c.toNat ≠ 0x130 := fun hc => Bool.eq_false_iff.1 hdotted (covers_dottedRun_iff.2 hc)
  have hfind : lowerRuns.find? (·.covers c.toNat) = none :=
    List.find?_eq_none.2 fun s hs => by simp [hruns s hs]
  rw [lowerChar, if_neg hne, hfind]

theorem ne_sigma_of_isLower {c : Char} (h : IsLower c) : c.toNat ≠ 0x3A3 := by
  intro hc
  have hmem : (⟨0x3A3, 0x3AB, 1, 0x3C3⟩ : CaseRun) ∈ dottedRun :: lowerRuns := by decide +kernel
  have hcovers := h _ hmem
  rw [hc] at hcovers
  exact absurd hcovers (by decide)

theorem isLower_of_mem_lowerChar {c d : Char} (h : d ∈ lowerChar c) : IsLower d := by
  unfold lowerChar at h
  split at h
  · have hletter : IsLower (Char.ofNat 0x69) := by decide +kernel
    have hdot : IsLower (Char.ofNat 0x307) := by decide +kernel
    exact List.forall_mem_cons.2 ⟨hletter, List.forall_mem_singleton.2 hdot⟩ d h
  · next hdotted =>
    split at h
    · next r hr =>
      obtain rfl := List.mem_singleton.1 h
      have hapart := List.all_eq_true.1 lowerRuns_apart r (List.mem_of_find?_eq_some hr)
      have hcovers : r.covers c.toNat = true := by simpa using List.find?_some hr
      -- a number that is no code point stands for the code point 0
      by_cases hvalid : (c.toNat - r.first + r.image).isValidChar
      · intro s hs
        rw [Char.ofNat, dif_pos hvalid]
        exact covers_image hcovers (List.all_eq_true.1 hapart s hs)
      · rw [Char.ofNat, dif_neg hvalid]
        exact isLower_zero
    · next hnone =>
      obtain rfl := List.mem_singleton.1 h
      refine List.forall_mem_cons.2 ⟨?_, fun s hs => ?_⟩
      · exact Bool.eq_false_iff.2 fun hc => hdotted (covers_dottedRun_iff.1 hc)
      · simpa using List.find?_eq_none.1 hnone s hs

theorem isLower_of_mem_lowerFrom {t : Text} {b : Bool} {d : Char} (h : d ∈ lowerFrom b t) :
    IsLower d := by
  have hsigma : IsLower (Char.ofNat 0x3C2) ∧ IsLower (Char.ofNat 0x3C3) := by decide +kernel
  induction t generalizing b with
  | nil => cases h
  | cons c t ih =>
    unfold lowerFrom at h
    simp only at h
    split at h
    · rcases List.mem_cons.1 h with rfl | h
      · split
        · exact hsigma.1
        · exact hsigma.2
      · exact ih h
    · rcases List.mem_append.1 h with h | h
      · exact isLower_of_mem_lowerChar h
      · exact ih h

theorem lowerFrom_of_isLower {t : Text} (h : ∀ c ∈ t, IsLower c) (b : Bool) :
    lowerFrom b t = t := by
  induction t generalizing b with
  | nil => rfl
  | cons c t ih =>
    obtain ⟨hc, ht⟩ := List.forall_mem_cons.1 h
    rw [lowerFrom, if_neg (ne_sigma_of_isLower hc), lowerChar_of_isLower hc, ih ht]
    rfl

/-- **Lower-casing once more changes nothing.** -/
theorem lower_lower (t : Text) : lower (lower t) = lower t :=
  lowerFrom_of_isLower (fun _ hc => isLower_of_mem_lowerFrom hc) false

end Upkeep.Text
