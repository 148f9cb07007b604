/-!
# Text

A text is a list of characters, so every rule about text is a rule about lists.  This file has the
white space class, trimming, and the two questions that every reader asks of a line: what is left
after a given beginning (`after?`), and does it hold a given piece (`hasInfix`).
-/

namespace Upkeep

abbrev Text := List Char

namespace Text

def string (t : Text) : String := String.ofList t

/-! ## white space -/

/-- the Unicode property `White_Space` -/
def isWhite (c : Char) : Bool :=
  let n := c.toNat
  (9 ≤ n && n ≤ 13) || n == 0x20 || n == 0x85 || n == 0xA0 || n == 0x1680 ||
    (0x2000 ≤ n && n ≤ 0x200A) || n == 0x2028 || n == 0x2029 || n == 0x202F || n == 0x205F ||
    n == 0x3000

def skipWhite (t : Text) : Text := t.dropWhile isWhite

@[simp] theorem skipWhite_nil : skipWhite [] = [] := rfl

theorem skipWhite_cons_white {c : Char} (h : isWhite c = true) (t : Text) :
    skipWhite (c :: t) = skipWhite t := by simp [skipWhite, h]

theorem skipWhite_cons {c : Char} (h : isWhite c = false) (t : Text) :
    skipWhite (c :: t) = c :: t := by simp [skipWhite, h]

theorem skipWhite_append {w : Text} (h : ∀ c ∈ w, isWhite c = true) (t : Text) :
    skipWhite (w ++ t) = skipWhite t := by
  induction w with
  | nil => rfl
  | cons c w ih =>
    rw [List.cons_append, skipWhite_cons_white (h c (by simp)), ih (fun d hd => h d (by simp [hd]))]

theorem exists_white_append (t : Text) :
    ∃ w, t = w ++ skipWhite t ∧ ∀ c ∈ w, isWhite c = true :=
  ⟨t.takeWhile isWhite, List.takeWhile_append_dropWhile.symm,
    List.all_eq_true.1 List.all_takeWhile⟩

def trim (t : Text) : Text := (skipWhite (skipWhite t).reverse).reverse

theorem skipWhite_of_head {t : Text} (h : ∀ c ∈ t.head?, isWhite c = false) : skipWhite t = t := by
  cases t with
  | nil => rfl
  | cons c t => exact skipWhite_cons (h c rfl) t

theorem trim_white_append {w : Text} (h : ∀ c ∈ w, isWhite c = true) (t : Text) :
    trim (w ++ t) = trim t := by
  rw [trim, skipWhite_append h, trim]

theorem trim_of_ends {t : Text} (hh : ∀ c ∈ t.head?, isWhite c = false)
    (hl : ∀ c ∈ t.getLast?, isWhite c = false) : trim t = t := by
  rw [trim, skipWhite_of_head hh, skipWhite_of_head (by rwa [List.head?_reverse]),
    List.reverse_reverse]

theorem skipWhite_concat_white {c : Char} (h : isWhite c = true) (t : Text) :
    skipWhite (t ++ [c]) = if skipWhite t = [] then [] else skipWhite t ++ [c] := by
  have hs : skipWhite (t ++ [c]) =
      if (skipWhite t).isEmpty then skipWhite [c] else skipWhite t ++ [c] := List.dropWhile_append
  rw [hs, skipWhite_cons_white h]
  simp

theorem trim_concat_white (t : Text) {c : Char} (h : isWhite c = true) :
    trim (t ++ [c]) = trim t := by
  rw [trim, skipWhite_concat_white h]
  by_cases he : skipWhite t = []
  · rw [if_pos he, trim, he]
  · rw [if_neg he, List.reverse_append, List.reverse_singleton, List.singleton_append,
      skipWhite_cons_white h, trim]

theorem prefix_trim_append {p : Text} (hne : p ≠ []) (hh : ∀ c ∈ p.head?, isWhite c = false)
    (hl : ∀ c ∈ p.getLast?, isWhite c = false) (r : Text) : p <+: trim (p ++ r) := by
  have hs : skipWhite (p ++ r) = p ++ r := skipWhite_of_head fun c hc => hh c (by
    obtain ⟨d, p, rfl⟩ := List.exists_cons_of_ne_nil hne
    exact hc)
  have hp : skipWhite p.reverse = p.reverse := skipWhite_of_head (by rwa [List.head?_reverse])
  rw [trim, hs, List.reverse_append, skipWhite, List.dropWhile_append]
  split
  · show p <+: (skipWhite p.reverse).reverse
    simp [hp]
  · rw [List.reverse_append, List.reverse_reverse]
    exact List.prefix_append _ _

/-! ## beginnings and pieces -/

/-- what follows the beginning `p`, if the text has it -/
def after? : Text → Text → Option Text
  | [], t => some t
  | _ :: _, [] => none
  | p :: ps, c :: cs => if p = c then after? ps cs else none

@[simp] theorem after?_nil (t : Text) : after? [] t = some t := by cases t <;> rfl

@[simp] theorem after?_append (p t : Text) : after? p (p ++ t) = some t := by
  induction p with
  | nil => simp
  | cons c p ih => simp [after?, ih]

theorem after?_eq_some_iff {p t r : Text} : after? p t = some r ↔ t = p ++ r := by
  refine ⟨fun h => ?_, fun h => h ▸ after?_append p r⟩
  fun_induction after? p t with
  | case1 t => simpa using h
  | case2 => simp at h
  | case3 ps c cs ih => simp [ih h]
  | case4 => simp at h

def hasInfix (p : Text) : Text → Bool
  | [] => p.isEmpty
  | c :: cs => p.isPrefixOf (c :: cs) || hasInfix p cs

theorem hasInfix_iff {p t : Text} : hasInfix p t = true ↔ p <:+: t := by
  induction t with
  | nil => rw [hasInfix, List.isEmpty_iff, List.infix_nil]
  | cons c t ih =>
    rw [hasInfix, Bool.or_eq_true, ih, List.isPrefixOf_iff_prefix, List.infix_cons_iff]

/-! ## parts -/

def split (sep : Char) (t : Text) : List Text := go [] t
where
  /-- `held` is the part begun, back to front -/
  go (held : Text) : Text → List Text
    | [] => [held.reverse]
    | c :: cs => if c = sep then held.reverse :: go [] cs else go (c :: held) cs

end Text

end Upkeep
