import Upkeep.Text.Basic

/-!
# Tokens

Two ways to cut white-space-free text off the front of a line: `token?` takes the maximal run, and
`longest` takes the longest run whose remainder is acceptable to a given reader.
-/

namespace Upkeep.Text

/-! ## maximal runs -/

/-- the maximal white-space-free run at the front, if nonempty, and what follows it -/
def token? (t : Text) : Option (Text × Text) :=
  match t.takeWhile (fun c => !isWhite c) with
  | [] => none
  | c :: m => some (c :: m, t.dropWhile (fun c => !isWhite c))

/-- white space, at least one character of it, and what follows it -/
def white? : Text → Option Text
  | [] => none
  | c :: cs => if isWhite c then some (skipWhite cs) else none

theorem token?_append {m r : Text} (hne : m ≠ []) (hm : ∀ c ∈ m, isWhite c = false)
    (hr : ∀ c ∈ r.head?, isWhite c = true) : token? (m ++ r) = some (m, r) := by
  have htake : (m ++ r).takeWhile (fun c => !isWhite c) = m := by
    rw [List.takeWhile_append_of_pos (by simpa using hm)]
    cases r with
    | nil => simp
    | cons c r => simp [hr c (by simp)]
  have hdrop : (m ++ r).dropWhile (fun c => !isWhite c) = r := by
    rw [List.dropWhile_append_of_pos (by simpa using hm)]
    cases r with
    | nil => simp
    | cons c r => simp [hr c (by simp)]
  obtain ⟨c, q, rfl⟩ := List.exists_cons_of_ne_nil hne
  rw [token?, htake, hdrop]

/-! ## the longest run with an acceptable remainder -/

/-- the longest white-space-free part at the front, possibly empty, after which `accept` takes
over, with the answer of `accept` -/
def longest {β : Type} (accept : Text → Option β) : Text → Option (Text × β)
  | [] => (accept []).map ([], ·)
  | c :: cs =>
    if isWhite c then (accept (c :: cs)).map ([], ·)
    else
      match longest accept cs with
      | some (m, b) => some (c :: m, b)
      | none => (accept (c :: cs)).map ([], ·)

def longestNonempty {β : Type} (accept : Text → Option β) : Text → Option (Text × β)
  | [] => none
  | c :: cs => if isWhite c then none else (longest accept cs).map fun x => (c :: x.1, x.2)

private theorem empty_split {β : Type} {accept : Text → Option β} {t m : Text} {b : β}
    (h : (accept t).map (fun x => (([] : Text), x)) = some (m, b)) : m = [] ∧ accept t = some b := by
  obtain ⟨x, hx, he⟩ := Option.map_eq_some_iff.1 h
  simp only [Prod.mk.injEq] at he
  exact ⟨he.1.symm, he.2 ▸ hx⟩

theorem longest_sound {β : Type} {accept : Text → Option β} {t m : Text} {b : β}
    (h : longest accept t = some (m, b)) :
    ∃ r, t = m ++ r ∧ (∀ c ∈ m, isWhite c = false) ∧ accept r = some b := by
  induction t generalizing m with
  | nil =>
    obtain ⟨rfl, ha⟩ := empty_split h
    exact ⟨[], rfl, by simp, ha⟩
  | cons c t ih =>
    have base : (accept (c :: t)).map (fun x => (([] : Text), x)) = some (m, b) →
        ∃ r, c :: t = m ++ r ∧ (∀ c ∈ m, isWhite c = false) ∧ accept r = some b := fun h => by
      obtain ⟨rfl, ha⟩ := empty_split h
      exact ⟨_, rfl, by simp, ha⟩
    rw [longest] at h
    by_cases hc : isWhite c = true
    · exact base (by rwa [if_pos hc] at h)
    · rw [if_neg hc] at h
      cases hl : longest accept t with
      | none => rw [hl] at h; exact base h
      | some x =>
        rw [hl] at h
        simp only [Option.some.injEq, Prod.mk.injEq] at h
        obtain ⟨rfl, rfl⟩ := h
        obtain ⟨r, hr, hw, ha⟩ := ih hl
        refine ⟨r, by rw [hr]; rfl, fun d hd => ?_, ha⟩
        rcases List.mem_cons.1 hd with rfl | hd
        · simpa using hc
        · exact hw d hd

/-- no acceptable split takes more than `longest` -/
theorem longest_maximal {β : Type} {accept : Text → Option β} {m r : Text} {b : β}
    (hm : ∀ c ∈ m, isWhite c = false) (h : accept r = some b) :
    ∃ n x, longest accept (m ++ r) = some (n, x) ∧ m.length ≤ n.length := by
  induction m with
  | nil =>
    cases r with
    | nil => exact ⟨[], b, by simp [longest, h], by simp⟩
    | cons c r =>
      by_cases hc : isWhite c = true
      · exact ⟨[], b, by simp [longest, hc, h], by simp⟩
      · cases hl : longest accept r with
        | none => exact ⟨[], b, by simp [longest, hc, h, hl], by simp⟩
        | some x => exact ⟨c :: x.1, x.2, by simp [longest, hc, hl], by simp⟩
  | cons c m ih =>
    obtain ⟨n, x, hn, hl⟩ := ih (fun d hd => hm d (by simp [hd]))
    have hc : isWhite c = false := hm c (by simp)
    exact ⟨c :: n, x, by simp [longest, hc, hn], by simpa using hl⟩

theorem longest_eq_some {β : Type} {accept : Text → Option β} {m r : Text} {b : β}
    (hm : ∀ c ∈ m, isWhite c = false) (h : accept r = some b)
    (hmax : ∀ k s, r = k ++ s → k ≠ [] → (∀ c ∈ k, isWhite c = false) → accept s = none) :
    longest accept (m ++ r) = some (m, b) := by
  obtain ⟨n, x, hl, hle⟩ := longest_maximal hm h
  obtain ⟨s, hs, hn, hx⟩ := longest_sound hl
  rcases List.append_eq_append_iff.1 hs with ⟨k, rfl, hk⟩ | ⟨k, rfl, hk⟩
  · cases k with
    | nil =>
      obtain rfl : r = s := hk
      rw [hl, List.append_nil, Option.some.inj (hx.symm.trans h)]
    | cons c k =>
      have hnone := hmax (c :: k) s hk (by simp) fun d hd => hn d (List.mem_append_right _ hd)
      rw [hnone] at hx
      cases hx
  · obtain rfl : k = [] := by
      rw [List.length_append] at hle
      exact List.length_eq_zero_iff.1 (by omega)
    obtain rfl : s = r := hk
    rw [hl, List.append_nil, Option.some.inj (hx.symm.trans h)]

theorem longest_eq_none {β : Type} {accept : Text → Option β} {t : Text}
    (h : ∀ m r, t = m ++ r → (∀ c ∈ m, isWhite c = false) → accept r = none) :
    longest accept t = none := by
  cases hl : longest accept t with
  | none => rfl
  | some x =>
    obtain ⟨r, hr, hm, ha⟩ := longest_sound hl
    rw [h _ _ hr hm] at ha
    cases ha

theorem longestNonempty_eq_some {β : Type} {accept : Text → Option β} {m r : Text} {b : β}
    (hne : m ≠ []) (hm : ∀ c ∈ m, isWhite c = false) (h : accept r = some b)
    (hmax : ∀ k s, r = k ++ s → k ≠ [] → (∀ c ∈ k, isWhite c = false) → accept s = none) :
    longestNonempty accept (m ++ r) = some (m, b) := by
  obtain ⟨c, m, rfl⟩ := List.exists_cons_of_ne_nil hne
  rw [List.cons_append, longestNonempty, hm c List.mem_cons_self,
    longest_eq_some (fun d hd => hm d (List.mem_cons_of_mem _ hd)) h hmax]
  rfl

theorem longestNonempty_eq_none {β : Type} {accept : Text → Option β} {t : Text}
    (h : ∀ m r, t = m ++ r → m ≠ [] → (∀ c ∈ m, isWhite c = false) → accept r = none) :
    longestNonempty accept t = none := by
  cases t with
  | nil => rfl
  | cons c t =>
    rw [longestNonempty]
    split
    · rfl
    · next hc =>
      rw [longest_eq_none fun m r hr hm => h (c :: m) r (by rw [hr]; rfl) (by simp) ?_]
      · rfl
      · intro d hd
        rcases List.mem_cons.1 hd with rfl | hd
        · simpa using hc
        · exact hm d hd

end Upkeep.Text
