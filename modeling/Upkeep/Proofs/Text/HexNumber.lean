import Mathlib.Data.List.Induction
import Mathlib.Data.Nat.Digits.Defs
import Upkeep.Text.Hex
import Upkeep.Text.Lowercase

/-!
# Hexadecimal numbers in lower case

A hexadecimal digit may be a capital or not, and in lower case it is the digit character of its
value.  So two sequences of digits of one length are the same in lower case exactly when they are
the same number (`lower_eq_iff_hexNumber?_eq`).  The first digits of a number can be split off from
it (`hexNumber?_append_eq_iff`).
-/

namespace Upkeep.Text

variable {c : Char} {d : Nat} {s t : Text}

/-! ## digits -/

theorem toNat_lt_of_hexDigit? (h : hexDigit? c = some d) : c.toNat < 103 := by
  have hle : ∀ a b : Char, a ≤ b → a.toNat ≤ b.toNat := fun a b hab => hab
  unfold hexDigit? at h
  simp only [Bool.and_eq_true, decide_eq_true_eq] at h
  split at h
  · next hc => exact Nat.lt_of_le_of_lt (hle _ _ hc.2) (by decide)
  split at h
  · next hc => exact Nat.lt_of_le_of_lt (hle _ _ hc.2) (by decide)
  split at h
  · next hc => exact Nat.lt_of_le_of_lt (hle _ _ hc.2) (by decide)
  · cases h

/-- a digit in lower case, and the one spelling of a digit below ten -/
theorem lowerChar_of_hexDigit? (h : hexDigit? c = some d) :
    d < 16 ∧ lowerChar c = [d.digitChar] ∧ (d < 10 → c = d.digitChar) := by
  have htable : ∀ n < 103, ∀ d ∈ hexDigit? (Char.ofNat n), d < 16 ∧
      lowerChar (Char.ofNat n) = [d.digitChar] ∧ (d < 10 → Char.ofNat n = d.digitChar) := by
    decide +kernel
  have hc := htable c.toNat (toNat_lt_of_hexDigit? h) d
  rw [Char.ofNat_toNat] at hc
  exact hc h

theorem hexDigit?_digitChar (h : d < 16) : hexDigit? d.digitChar = some d := by
  have hall : ∀ d < 16, hexDigit? (Nat.digitChar d) = some d := by decide
  exact hall d h

def AllHex (t : Text) : Prop := ∀ c ∈ t, (hexDigit? c).isSome = true

instance (t : Text) : Decidable t.AllHex :=
  decidable_of_iff ((t.all fun c => (hexDigit? c).isSome) = true) List.all_eq_true

def digitValues (t : Text) : List Nat := t.filterMap hexDigit?

theorem digitValues_cons (h : hexDigit? c = some d) (t : Text) :
    digitValues (c :: t) = d :: digitValues t :=
  List.filterMap_cons_some h

theorem digitValues_append (s t : Text) :
    digitValues (s ++ t) = digitValues s ++ digitValues t :=
  List.filterMap_append

theorem lt_of_mem_digitValues (h : d ∈ digitValues t) : d < 16 := by
  obtain ⟨c, -, hc⟩ := List.mem_filterMap.1 h
  exact (lowerChar_of_hexDigit? hc).1

theorem digitValues_map_digitChar {ds : List Nat} (h : ∀ d ∈ ds, d < 16) :
    digitValues (ds.map Nat.digitChar) = ds := by
  induction ds with
  | nil => rfl
  | cons d ds ih =>
    obtain ⟨hd, hds⟩ := List.forall_mem_cons.1 h
    rw [List.map_cons, digitValues_cons (hexDigit?_digitChar hd), ih hds]

namespace AllHex

theorem of_cons (h : AllHex (c :: t)) : (∃ d, hexDigit? c = some d) ∧ t.AllHex := by
  obtain ⟨hc, ht⟩ := List.forall_mem_cons.1 h
  exact ⟨Option.isSome_iff_exists.1 hc, ht⟩

theorem length_digitValues (h : t.AllHex) : (digitValues t).length = t.length :=
  List.filterMap_length_eq_length.2 h

theorem x_notMem (h : t.AllHex) : 'x' ∉ t := fun hx => absurd (h 'x' hx) (by decide)

/-- digits below ten have one spelling -/
theorem eq_map_digitChar (h : t.AllHex) (hten : ∀ d ∈ digitValues t, d < 10) :
    t = (digitValues t).map Nat.digitChar := by
  induction t with
  | nil => rfl
  | cons c t ih =>
    obtain ⟨⟨d, hd⟩, ht⟩ := of_cons h
    rw [digitValues_cons hd] at hten ⊢
    obtain ⟨hdten, htten⟩ := List.forall_mem_cons.1 hten
    rw [List.map_cons, ← (lowerChar_of_hexDigit? hd).2.2 hdten, ← ih ht htten]

end AllHex

/-! ## lower case -/

/-- without a capital sigma, lower-casing goes character by character -/
theorem lowerFrom_eq_flatMap (h : ∀ c ∈ t, c.toNat ≠ 0x3A3) (b : Bool) :
    lowerFrom b t = t.flatMap lowerChar := by
  induction t generalizing b with
  | nil => rfl
  | cons c t ih =>
    obtain ⟨hc, ht⟩ := List.forall_mem_cons.1 h
    rw [lowerFrom, if_neg hc, ih ht, List.flatMap_cons]

theorem AllHex.flatMap_lowerChar (h : t.AllHex) :
    t.flatMap lowerChar = (digitValues t).map Nat.digitChar := by
  induction t with
  | nil => rfl
  | cons c t ih =>
    obtain ⟨⟨d, hd⟩, ht⟩ := AllHex.of_cons h
    rw [List.flatMap_cons, (lowerChar_of_hexDigit? hd).2.1, ih ht, digitValues_cons hd,
      List.singleton_append, List.map_cons]

/-- digits and their `0x` in lower case -/
theorem AllHex.lower_prefixed (h : t.AllHex) :
    lower ("0x".toList ++ t) = "0x".toList ++ (digitValues t).map Nat.digitChar := by
  have hbegin : ∀ c ∈ "0x".toList, c.toNat ≠ 0x3A3 := by simp
  have hsigma : ∀ c ∈ "0x".toList ++ t, c.toNat ≠ 0x3A3 := by
    intro c hc
    rcases List.mem_append.1 hc with hc | hc
    · exact hbegin c hc
    · obtain ⟨d, hd⟩ := Option.isSome_iff_exists.1 (h c hc)
      have hlt := toNat_lt_of_hexDigit? hd
      omega
  have hlower : "0x".toList.flatMap lowerChar = "0x".toList := by decide +kernel
  rw [lower, lowerFrom_eq_flatMap hsigma, List.flatMap_append, hlower, h.flatMap_lowerChar]

theorem lower_prefixed_eq_iff (hs : s.AllHex) (ht : t.AllHex) :
    lower ("0x".toList ++ s) = lower ("0x".toList ++ t) ↔ digitValues s = digitValues t := by
  rw [hs.lower_prefixed, ht.lower_prefixed, List.append_cancel_left_eq]
  constructor
  · intro h
    have hvalues := congrArg digitValues h
    rwa [digitValues_map_digitChar fun _ => lt_of_mem_digitValues,
      digitValues_map_digitChar fun _ => lt_of_mem_digitValues] at hvalues
  · intro h
    rw [h]

/-! ## numbers -/

theorem AllHex.hexNumber?_eq (h : t.AllHex) :
    hexNumber? t = some (Nat.ofDigits 16 (digitValues t).reverse) := by
  induction t using List.reverseRecOn with
  | nil => rfl
  | append_singleton t c ih =>
    have ht : AllHex t := fun e he => h e (List.mem_append_left _ he)
    obtain ⟨d, hd⟩ := Option.isSome_iff_exists.1 (h c (by simp))
    have hc : digitValues [c] = [d] := digitValues_cons hd []
    rw [hexNumber?_append_digit, ih ht, hd, digitValues_append, hc, List.reverse_append,
      List.reverse_singleton, List.singleton_append, Nat.ofDigits_cons, Option.bind_some,
      Option.map_some, Nat.add_comm]

theorem digitValues_eq_iff (hs : s.AllHex) (ht : t.AllHex) (hlen : s.length = t.length) :
    digitValues s = digitValues t ↔ hexNumber? s = hexNumber? t := by
  rw [hs.hexNumber?_eq, ht.hexNumber?_eq, Option.some.injEq]
  constructor
  · intro h
    rw [h]
  · intro h
    apply List.reverse_inj.1
    refine Nat.ofDigits_inj_of_len_eq (by decide) ?_ ?_ ?_ h
    · rw [List.length_reverse, List.length_reverse, hs.length_digitValues, ht.length_digitValues,
        hlen]
    · exact fun d hd => lt_of_mem_digitValues (List.mem_reverse.1 hd)
    · exact fun d hd => lt_of_mem_digitValues (List.mem_reverse.1 hd)

/-- **Digits are the same in lower case exactly when they are the same number.** -/
theorem lower_eq_iff_hexNumber?_eq (hs : s.AllHex) (ht : t.AllHex) (hlen : s.length = t.length) :
    lower ("0x".toList ++ s) = lower ("0x".toList ++ t) ↔ hexNumber? s = hexNumber? t := by
  rw [lower_prefixed_eq_iff hs ht, digitValues_eq_iff hs ht hlen]

theorem AllHex.hexNumber?_lt {n : Nat} (h : t.AllHex) (hn : hexNumber? t = some n) :
    n < 16 ^ t.length := by
  obtain rfl := Option.some.inj (h.hexNumber?_eq.symm.trans hn)
  have hlt : Nat.ofDigits 16 (digitValues t).reverse < 16 ^ (digitValues t).reverse.length :=
    Nat.ofDigits_lt_base_pow_length (by decide) fun d hd =>
      lt_of_mem_digitValues (List.mem_reverse.1 hd)
  rwa [List.length_reverse, h.length_digitValues] at hlt

/-- the first digits count as many times sixteen as digits follow -/
theorem hexNumber?_append {m n : Nat} (hs : s.AllHex) (ht : t.AllHex)
    (hm : hexNumber? s = some m) (hn : hexNumber? t = some n) :
    hexNumber? (s ++ t) = some (16 ^ t.length * m + n) := by
  have hst : (s ++ t).AllHex := List.forall_mem_append.2 ⟨hs, ht⟩
  obtain rfl := Option.some.inj (hs.hexNumber?_eq.symm.trans hm)
  obtain rfl := Option.some.inj (ht.hexNumber?_eq.symm.trans hn)
  rw [hst.hexNumber?_eq, digitValues_append, List.reverse_append, Nat.ofDigits_append,
    List.length_reverse, ht.length_digitValues, Nat.add_comm]

/-- a number is given by the number of its first digits and the number of the others -/
theorem hexNumber?_append_eq_iff {k m n : Nat} (hs : s.AllHex) (ht : t.AllHex)
    (hk : t.length = k) (hn : n < 16 ^ k) :
    hexNumber? (s ++ t) = some (16 ^ k * m + n) ↔
      hexNumber? s = some m ∧ hexNumber? t = some n := by
  subst hk
  constructor
  · intro h
    have hlt := ht.hexNumber?_lt ht.hexNumber?_eq
    have hsum := hexNumber?_append hs ht hs.hexNumber?_eq ht.hexNumber?_eq
    have heq := Option.some.inj (hsum.symm.trans h)
    have hrest := congrArg (· % 16 ^ t.length) heq
    simp only [Nat.mul_add_mod, Nat.mod_eq_of_lt hlt, Nat.mod_eq_of_lt hn] at hrest
    rw [hrest] at heq
    have hpos : 0 < 16 ^ t.length := Nat.pow_pos (by decide)
    have hfirst := Nat.eq_of_mul_eq_mul_left hpos (Nat.add_right_cancel heq)
    exact ⟨hs.hexNumber?_eq.trans (congrArg some hfirst),
      ht.hexNumber?_eq.trans (congrArg some hrest)⟩
  · rintro ⟨hm, hn⟩
    exact hexNumber?_append hs ht hm hn

end Upkeep.Text
