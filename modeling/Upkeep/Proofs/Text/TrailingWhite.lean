import Upkeep.Directive
import Upkeep.Firefox.PrefDefaults

/-!
# White space at the end of a line

A definition and a `pref` line are read the same with one more character of white space at the end:
each step of a reader leaves that character at the end of what it has not read yet, or finds nothing
but white space left, and then fails with it and without it.  So the carriage return that a last
line may lose (`Text.dropReturn`) does not matter to these readers.
-/

namespace Upkeep

namespace Text

variable {c : Char} {p : Text}

theorem after?_concat (hp : c ∉ p) (t : Text) :
    after? p (t ++ [c]) = (after? p t).map (· ++ [c]) := by
  fun_induction after? p t with
  | case1 t => rw [after?_nil, Option.map_some]
  | case2 d ps =>
    have hd : d ≠ c := fun hd => hp (by simp [hd])
    show (if d = c then _ else none) = none
    rw [if_neg hd]
  | case3 ps d t ih =>
    rw [List.cons_append, after?, if_pos rfl, ih fun hc => hp (List.mem_cons_of_mem _ hc)]
  | case4 d ps e t hne => rw [List.cons_append, after?, if_neg hne, Option.map_none]

theorem after?_skipWhite_concat (hc : isWhite c = true) (hp : c ∉ p) (hne : p ≠ []) (t : Text) :
    after? p (skipWhite (t ++ [c])) = (after? p (skipWhite t)).map (· ++ [c]) := by
  rw [skipWhite_concat_white hc]
  split
  · next h =>
    obtain ⟨d, ps, rfl⟩ := List.exists_cons_of_ne_nil hne
    rw [h]
    rfl
  · exact after?_concat hp _

theorem token?_concat (hc : isWhite c = true) (t : Text) :
    token? (t ++ [c]) = (token? t).map fun x => (x.1, x.2 ++ [c]) := by
  have hcut : (t ++ [c]).takeWhile (fun d => !isWhite d) = t.takeWhile (fun d => !isWhite d) ∧
      (t ++ [c]).dropWhile (fun d => !isWhite d) = t.dropWhile (fun d => !isWhite d) ++ [c] := by
    induction t with
    | nil => simp [hc]
    | cons d t ih => cases hd : isWhite d <;> simp [hd, ih]
  unfold token?
  rw [hcut.1, hcut.2]
  cases t.takeWhile fun d => !isWhite d with
  | nil => rfl
  | cons d m => rfl

/-- a token after white space; without a token the new white space is no help -/
theorem white?_token?_concat (hc : isWhite c = true) (t : Text) :
    (white? (t ++ [c])).bind token? =
      ((white? t).bind token?).map fun x => (x.1, x.2 ++ [c]) := by
  cases t with
  | nil =>
    show (if isWhite c = true then some (skipWhite []) else none).bind token? = none
    rw [if_pos hc]
    rfl
  | cons d t =>
    show (if isWhite d = true then some (skipWhite (t ++ [c])) else none).bind token? =
      ((if isWhite d = true then some (skipWhite t) else none).bind token?).map _
    split
    · rw [Option.bind_some, Option.bind_some, skipWhite_concat_white hc]
      split
      · next h =>
        rw [h]
        rfl
      · exact token?_concat hc _
    · rfl

theorem longest_concat {β : Type} {accept : Text → Option β} (hc : isWhite c = true)
    (h : ∀ t, accept (t ++ [c]) = accept t) (t : Text) :
    longest accept (t ++ [c]) = longest accept t := by
  induction t with
  | nil =>
    show (if isWhite c = true then (accept [c]).map _ else _) = (accept []).map _
    rw [if_pos hc, ← h []]
    rfl
  | cons d t ih =>
    have hd : accept (d :: (t ++ [c])) = accept (d :: t) := h (d :: t)
    rw [List.cons_append, longest, longest, ih, hd]

theorem cut_append {f : Char → Bool} {t : Text} (h : t.dropWhile f ≠ []) (r : Text) :
    (t ++ r).takeWhile f = t.takeWhile f ∧ (t ++ r).dropWhile f = t.dropWhile f ++ r := by
  induction t with
  | nil => exact absurd rfl h
  | cons c t ih =>
    cases hc : f c with
    | false => simp [hc]
    | true =>
      rw [List.dropWhile_cons_of_pos hc] at h
      simp [hc, ih h]

/-- what does not see one more carriage return does not see that one is dropped -/
theorem apply_dropReturn {α : Type} {f : Text → α} (h : ∀ t, f (t ++ ['\r']) = f t) (t : Text) :
    f t.dropReturn = f t := by
  unfold dropReturn
  split
  · next hlast =>
    obtain ⟨s, rfl⟩ := List.getLast?_eq_some_iff.1 hlast
    rw [List.dropLast_concat, h]
  · rfl

end Text

open Text

/-! ## definitions -/

namespace Directive

theorem nameAndValue?_eq (t : Text) : nameAndValue? t =
    (after? "define".toList t).bind fun t => ((white? t).bind token?).bind fun x =>
      ((white? x.2).bind token?).map fun y => (x.1, y.1) := by
  simp only [nameAndValue?, Option.bind_eq_bind, Option.bind_assoc, Option.map_eq_bind]
  rfl

theorem nameAndValue?_concat {c : Char} (hc : isWhite c = true) (t : Text) :
    nameAndValue? (t ++ [c]) = nameAndValue? t := by
  have hp : c ∉ "define".toList := fun h => by
    have hall : ("define".toList.all fun c => !isWhite c) = true := by decide
    simpa [hc] using List.all_eq_true.1 hall c h
  rw [nameAndValue?_eq, nameAndValue?_eq, after?_concat hp, Option.bind_map]
  refine congrArg _ (funext fun t => ?_)
  rw [Function.comp_apply, white?_token?_concat hc, Option.bind_map]
  refine congrArg _ (funext fun x => ?_)
  rw [Function.comp_apply, white?_token?_concat hc, Option.map_map]
  rfl

theorem definition?_dropReturn (t : Text) : definition? t.dropReturn = definition? t := by
  refine apply_dropReturn (fun t => ?_) t
  rw [definition?, definition?, after?_concat (by decide), Option.bind_map]
  exact congrArg _ (funext fun t => nameAndValue?_concat (by decide) t)

end Directive

/-! ## `pref` lines -/

namespace PrefDefaults

theorem callEnd?_concat {c : Char} (hc : isWhite c = true) (t : Text) :
    callEnd? (t ++ [c]) = callEnd? t := by
  unfold callEnd?
  rw [skipWhite_concat_white hc]
  split
  · next h => rw [h]
  · next h =>
    obtain ⟨d, u, hu⟩ := List.exists_cons_of_ne_nil h
    rw [hu]
    rfl

/-- the part of a `pref` line after its name -/
def rest? (t : Text) : Option Text :=
  (after? ['"'] t).bind fun t => (after? [','] (skipWhite t)).bind fun t =>
    (longest callEnd? (skipWhite t)).map Prod.fst

theorem call?_eq (t : Text) : call? t = (after? "pref(\"".toList t).bind fun t =>
    (rest? (t.dropWhile (· ≠ '"'))).bind fun value =>
      if (t.takeWhile (· ≠ '"')).isEmpty then none else some (t.takeWhile (· ≠ '"'), value) := by
  simp only [call?, rest?, Option.bind_eq_bind, Option.bind_assoc, Option.map_eq_bind]
  rfl

theorem rest?_concat (t : Text) : rest? (t ++ ['\r']) = rest? t := by
  unfold rest?
  rw [after?_concat (by decide), Option.bind_map]
  refine congrArg _ (funext fun t => ?_)
  rw [Function.comp_apply, after?_skipWhite_concat (by decide) (by decide) (by decide),
    Option.bind_map]
  refine congrArg _ (funext fun t => ?_)
  rw [Function.comp_apply, skipWhite_concat_white (by decide)]
  split
  · next h => rw [h]
  · rw [longest_concat (by decide) (callEnd?_concat (by decide))]

theorem call?_dropReturn (t : Text) : call? t.dropReturn = call? t := by
  refine apply_dropReturn (fun t => ?_) t
  rw [call?_eq, call?_eq, after?_concat (by decide), Option.bind_map]
  refine congrArg _ (funext fun t => ?_)
  rw [Function.comp_apply]
  by_cases h : t.dropWhile (· ≠ '"') = []
  · -- the name has no second quote
    have hnil : (t ++ ['\r']).dropWhile (· ≠ '"') = [] := by
      rw [List.dropWhile_append, if_pos (List.isEmpty_iff.2 h)]
      rfl
    rw [h, hnil]
    rfl
  · rw [(cut_append h _).1, (cut_append h _).2, rest?_concat]

end PrefDefaults

end Upkeep
