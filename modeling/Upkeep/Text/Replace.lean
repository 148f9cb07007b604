import Upkeep.Text.Basic

/-!
# Replacement

`replace p r t` puts `r` for every occurrence of `p` in `t`, from the left and without overlap.  The
empty pattern occurs before every character and at the end.
-/

namespace Upkeep.Text

/-- replacement of a nonempty pattern; the first `k` characters belong to an occurrence already
replaced and are dropped -/
def substitute (p r : Text) : Nat → Text → Text
  | _, [] => []
  | k + 1, _ :: cs => substitute p r k cs
  | 0, c :: cs =>
    if p.isPrefixOf (c :: cs) then r ++ substitute p r (p.length - 1) cs
    else c :: substitute p r 0 cs

def replace (p r t : Text) : Text :=
  if p.isEmpty then r ++ t.flatMap (fun c => c :: r) else substitute p r 0 t

@[simp] theorem substitute_nil (p r : Text) (k : Nat) : substitute p r k [] = [] := by
  cases k <;> rfl

theorem substitute_drop (p r : Text) (k : Nat) (t : Text) :
    substitute p r k t = substitute p r 0 (t.drop k) := by
  induction t generalizing k with
  | nil => simp
  | cons c t ih =>
    cases k with
    | zero => rfl
    | succ k => exact ih k

theorem replace_append {p : Text} (hp : p ≠ []) (r t : Text) :
    replace p r (p ++ t) = r ++ replace p r t := by
  obtain ⟨c, q, rfl⟩ := List.exists_cons_of_ne_nil hp
  have h : (c :: q).isPrefixOf (c :: (q ++ t)) = true :=
    List.isPrefixOf_iff_prefix.2 ⟨t, rfl⟩
  simp [replace, substitute, h, substitute_drop _ _ q.length]

theorem replace_cons {p : Text} (hp : p ≠ []) (r : Text) {c : Char} {t : Text}
    (h : p.isPrefixOf (c :: t) = false) : replace p r (c :: t) = c :: replace p r t := by
  have : p.isEmpty = false := by simpa using hp
  simp [replace, substitute, h, this]

@[simp] theorem replace_nil {p : Text} (hp : p ≠ []) (r : Text) : replace p r [] = [] := by
  have : p.isEmpty = false := by simpa using hp
  simp [replace, this]

theorem replace_of_notMem {p : Text} {x : Char} (hx : x ∈ p) (r : Text) {t : Text} (ht : x ∉ t) :
    replace p r t = t := by
  have hp : p ≠ [] := List.ne_nil_of_mem hx
  induction t with
  | nil => exact replace_nil hp r
  | cons c t ih =>
    have hc : p.isPrefixOf (c :: t) = false := by
      rw [Bool.eq_false_iff, ne_eq, List.isPrefixOf_iff_prefix]
      intro hbegin
      exact ht (hbegin.subset hx)
    rw [replace_cons hp r hc, ih fun hmem => ht (List.mem_cons_of_mem _ hmem)]

end Upkeep.Text
