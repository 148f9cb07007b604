import Mathlib.Data.List.TakeWhile
import Upkeep.Text.Token

/-!
# Tokens by their places

A line is cut at its white space.  Here each cut is told by what it cuts the line into, so that what
a reader takes can be compared with every other way to divide the line:

* `White w`    nothing but white space, perhaps nothing at all;
* `Solid m`    at least one character, and no white space;
* `Stops r`    what follows a run without white space that goes as far as it can.

`longestNonempty` takes the longest of the solid pieces after which its reader accepts the rest
(`longestNonempty_eq_some_iff`): the divisions of the text that the reader agrees to are `Cuts`.
-/

namespace Upkeep.Text

def White (w : Text) : Prop := ∀ c ∈ w, isWhite c = true

def Solid (m : Text) : Prop := m ≠ [] ∧ ∀ c ∈ m, isWhite c = false

def Stops (r : Text) : Prop := ∀ c ∈ r.head?, isWhite c = true

variable {t m r w : Text}

theorem white_nil : White [] := List.forall_mem_nil _

theorem White.stops_append (hw : White w) (hne : w ≠ []) (r : Text) : Stops (w ++ r) := by
  obtain ⟨c, w, rfl⟩ := List.exists_cons_of_ne_nil hne
  intro d hd
  obtain rfl : c = d := Option.some.inj hd
  exact hw c List.mem_cons_self

theorem Solid.head (hm : Solid m) (r : Text) : ∀ c ∈ (m ++ r).head?, isWhite c = false := by
  obtain ⟨hne, hw⟩ := hm
  obtain ⟨c, m, rfl⟩ := List.exists_cons_of_ne_nil hne
  intro d hd
  obtain rfl : c = d := Option.some.inj hd
  exact hw c List.mem_cons_self

/-- a run ends at a character outside its class -/
theorem head_dropWhile {p : Char → Bool} {c : Char} (h : c ∈ (t.dropWhile p).head?) :
    p c = false := by
  have hnot := List.head?_dropWhile_not p t
  rw [Option.mem_def.1 h] at hnot
  simpa using hnot

theorem head_skipWhite (t : Text) : ∀ c ∈ (skipWhite t).head?, isWhite c = false :=
  fun _ hc => head_dropWhile hc

theorem skipWhite_eq_iff (hr : ∀ c ∈ r.head?, isWhite c = false) :
    skipWhite t = r ↔ ∃ w, White w ∧ t = w ++ r := by
  constructor
  · rintro rfl
    obtain ⟨w, ht, hw⟩ := exists_white_append t
    exact ⟨w, hw, ht⟩
  · rintro ⟨w, hw, rfl⟩
    rw [skipWhite_append hw, skipWhite_of_head hr]

/-! ## maximal runs -/

theorem token?_eq_some_iff : token? t = some (m, r) ↔ Solid m ∧ Stops r ∧ t = m ++ r := by
  constructor
  · intro h
    unfold token? at h
    split at h
    · cases h
    · next c n htake =>
      obtain ⟨rfl, rfl⟩ : c :: n = m ∧ t.dropWhile (fun c => !isWhite c) = r := by simpa using h
      refine ⟨⟨by simp, ?_⟩, ?_, ?_⟩
      · intro d hd
        rw [← htake] at hd
        simpa using List.mem_takeWhile_imp hd
      · intro d hd
        simpa using head_dropWhile hd
      · rw [← htake, List.takeWhile_append_dropWhile]
  · rintro ⟨⟨hne, hm⟩, hr, rfl⟩
    exact token?_append hne hm hr

theorem white?_eq_some_iff : white? t = some r ↔
    (∀ c ∈ r.head?, isWhite c = false) ∧ ∃ w, w ≠ [] ∧ White w ∧ t = w ++ r := by
  constructor
  · intro h
    cases t with
    | nil => cases h
    | cons c t =>
      rw [white?] at h
      split at h
      · next hc =>
        obtain rfl : skipWhite t = r := Option.some.inj h
        obtain ⟨w, ht, hw⟩ := exists_white_append t
        refine ⟨head_skipWhite t, c :: w, by simp, ?_, congrArg (c :: ·) ht⟩
        exact List.forall_mem_cons.2 ⟨hc, hw⟩
      · cases h
  · rintro ⟨hr, w, hne, hw, rfl⟩
    obtain ⟨c, w, rfl⟩ := List.exists_cons_of_ne_nil hne
    obtain ⟨hc, hw⟩ := List.forall_mem_cons.1 hw
    show (if isWhite c = true then some (skipWhite (w ++ r)) else none) = some r
    rw [if_pos hc, skipWhite_append hw, skipWhite_of_head hr]

theorem white?_token?_eq_some_iff : (white? t).bind token? = some (m, r) ↔
    ∃ w, w ≠ [] ∧ White w ∧ Solid m ∧ Stops r ∧ t = w ++ (m ++ r) := by
  rw [Option.bind_eq_some_iff]
  constructor
  · rintro ⟨u, hu, htoken⟩
    obtain ⟨-, w, hne, hw, rfl⟩ := white?_eq_some_iff.1 hu
    obtain ⟨hm, hr, rfl⟩ := token?_eq_some_iff.1 htoken
    exact ⟨w, hne, hw, hm, hr, rfl⟩
  · rintro ⟨w, hne, hw, hm, hr, rfl⟩
    exact ⟨m ++ r, white?_eq_some_iff.2 ⟨hm.head r, w, hne, hw, rfl⟩,
      token?_eq_some_iff.2 ⟨hm, hr, rfl⟩⟩

/-! ## longest runs -/

section

variable {β : Type} {accept : Text → Option β} {b : β}

/-- after white space the text has the solid piece `m`, and its rest is accepted with the answer
`b` -/
def Cuts (accept : Text → Option β) (t m : Text) (b : β) : Prop :=
  ∃ w r, White w ∧ Solid m ∧ accept r = some b ∧ t = w ++ (m ++ r)

/-- the solid pieces that are cut off one text begin at the same place -/
theorem Cuts.exists_rest (h : Cuts accept t m b) :
    ∃ r, Solid m ∧ accept r = some b ∧ skipWhite t = m ++ r := by
  obtain ⟨w, r, hw, hm, hr, rfl⟩ := h
  exact ⟨r, hm, hr, (skipWhite_eq_iff (hm.head r)).2 ⟨w, hw, rfl⟩⟩

theorem cuts_of_longestNonempty (h : longestNonempty accept (skipWhite t) = some (m, b)) :
    Cuts accept t m b := by
  obtain ⟨w, ht, hw⟩ := exists_white_append t
  cases hs : skipWhite t with
  | nil =>
    rw [hs] at h
    cases h
  | cons c s =>
    rw [hs, longestNonempty] at h
    rw [hs] at ht
    split at h
    · cases h
    · next hc =>
      obtain ⟨x, hx, he⟩ := Option.map_eq_some_iff.1 h
      obtain ⟨rfl, rfl⟩ : c :: x.1 = m ∧ x.2 = b := by simpa using he
      obtain ⟨r, rfl, hm, hr⟩ := longest_sound hx
      refine ⟨w, r, hw, ⟨by simp, ?_⟩, hr, ht⟩
      exact List.forall_mem_cons.2 ⟨by simpa using hc, hm⟩

theorem Cuts.exists_longest (h : Cuts accept t m b) :
    ∃ n x, longestNonempty accept (skipWhite t) = some (n, x) ∧ m.length ≤ n.length := by
  obtain ⟨r, ⟨hne, hm⟩, hr, hs⟩ := h.exists_rest
  obtain ⟨c, m, rfl⟩ := List.exists_cons_of_ne_nil hne
  obtain ⟨hc, hm⟩ := List.forall_mem_cons.1 hm
  obtain ⟨n, x, hn, hle⟩ := longest_maximal hm hr
  refine ⟨c :: n, x, ?_, Nat.succ_le_succ hle⟩
  rw [hs]
  show (if isWhite c = true then none
    else (longest accept (m ++ r)).map fun x => (c :: x.1, x.2)) = _
  rw [hc, hn]
  rfl

/-- of all pieces that can be cut off, the longest one is taken -/
theorem longestNonempty_eq_some_iff : longestNonempty accept (skipWhite t) = some (m, b) ↔
    Cuts accept t m b ∧ ∀ n x, Cuts accept t n x → n.length ≤ m.length := by
  constructor
  · intro h
    refine ⟨cuts_of_longestNonempty h, ?_⟩
    intro n x hn
    obtain ⟨k, y, hk, hle⟩ := hn.exists_longest
    obtain ⟨rfl, rfl⟩ : m = k ∧ b = y := by simpa [h] using hk
    exact hle
  · rintro ⟨h, hmax⟩
    obtain ⟨n, x, hn, hle⟩ := h.exists_longest
    have hcut := cuts_of_longestNonempty hn
    -- two pieces of one length at one place are equal, and so are their rests
    obtain ⟨r, -, hr, hs⟩ := h.exists_rest
    obtain ⟨r', -, hr', hs'⟩ := hcut.exists_rest
    have hlength : m.length = n.length := Nat.le_antisymm hle (hmax n x hcut)
    obtain ⟨rfl, rfl⟩ := List.append_inj (hs.symm.trans hs') hlength
    rw [hn, Option.some.inj (hr'.symm.trans hr)]

theorem longestNonempty_eq_none_iff :
    longestNonempty accept (skipWhite t) = none ↔ ∀ m b, ¬ Cuts accept t m b := by
  constructor
  · intro h m b hcut
    obtain ⟨n, x, hn, -⟩ := hcut.exists_longest
    rw [h] at hn
    cases hn
  · intro h
    apply Option.eq_none_iff_forall_ne_some.2
    intro x hx
    exact h x.1 x.2 (cuts_of_longestNonempty hx)

end

end Upkeep.Text
