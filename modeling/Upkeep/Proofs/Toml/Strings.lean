import Upkeep.Proofs.Text.HexNumber
import Upkeep.Toml.Quoted

/-!
# Strings with escapes

A character can be written between quotes in several ways: as itself, as an escape of one letter, or
by its number.  A string is written character by character, each in any of its ways.

* `Spells c u`    `u` is one way to write the character `c`;
* `Spelled s t`   `t` is one way to write the string `s` between its quotes;
* `Quoted s u`    the same with the quotes.

The reader takes off one character at a time (`Spells.basic?_append`), and so gives the string back
however it was written (`Quoted.string?_append`).  Every string can be written (`exists_quoted`).
-/

namespace Upkeep.Toml

open Text

/-- the ways to write one character between quotes -/
inductive Spells (c : Char) : Text → Prop where
  | plain : c ≠ '"' → c ≠ '\\' → isControl c = false → Spells c [c]
  | letter {e : Char} : escape? e = some c → Spells c ['\\', e]
  | byte {ds : Text} : ds.length = 2 → hexChar? ds = some c → Spells c ('\\' :: 'x' :: ds)
  | short {ds : Text} : ds.length = 4 → hexChar? ds = some c → Spells c ('\\' :: 'u' :: ds)
  | long {ds : Text} : ds.length = 8 → hexChar? ds = some c → Spells c ('\\' :: 'U' :: ds)

inductive Spelled : Text → Text → Prop where
  | nil : Spelled [] []
  | cons {c : Char} {s u t : Text} : Spells c u → Spelled s t → Spelled (c :: s) (u ++ t)

def Quoted (s u : Text) : Prop := ∃ t, Spelled s t ∧ u = '"' :: (t ++ ['"'])

variable {c : Char} {s t u r : Text}

/-! ## reading -/

theorem escape?_letter {e : Char} (h : escape? e = some c) : e ≠ 'x' ∧ e ≠ 'u' ∧ e ≠ 'U' := by
  refine ⟨?_, ?_, ?_⟩ <;> rintro rfl <;> simp [escape?] at h

theorem Spells.basic?_append (h : Spells c u) (r : Text) :
    basic? (u ++ r) = push (some c) (basic? r) := by
  rw [basic?.eq_def]
  cases h with
  | plain hquote hslash hcontrol => simp [hquote, hslash, hcontrol]
  | letter he =>
    obtain ⟨hx, hu, hU⟩ := escape?_letter he
    simp [hx, hu, hU, he]
  | @byte ds hlen hc =>
    match ds, hlen with
    | [c1, c2], _ => simp [hc]
  | @short ds hlen hc =>
    match ds, hlen with
    | [c1, c2, c3, c4], _ => simp [hc]
  | @long ds hlen hc =>
    match ds, hlen with
    | [c1, c2, c3, c4, c5, c6, c7, c8], _ => simp [hc]

theorem basic?_quote (r : Text) : basic? ('"' :: r) = some ([], r) := by
  rw [basic?.eq_def]
  rfl

theorem Spelled.basic?_append (h : Spelled s t) (r : Text) :
    basic? (t ++ '"' :: r) = some (s, r) := by
  induction h with
  | nil => exact basic?_quote r
  | cons hc _ ih => rw [List.append_assoc, hc.basic?_append, ih]; rfl

theorem Spells.head (h : Spells c u) (r : Text) : ∃ d v, u ++ r = d :: v ∧ d ≠ '"' := by
  cases h with
  | plain hquote => exact ⟨c, r, rfl, hquote⟩
  | _ => exact ⟨'\\', _, rfl, by decide⟩

/-- behind its first quote a string has no two more quotes, unless it is empty and a third quote
follows it -/
theorem Spelled.after?_quotes (h : Spelled s t) (hr : r.head? ≠ some '"') :
    after? ['"', '"'] (t ++ '"' :: r) = none := by
  cases h with
  | nil =>
    cases r with
    | nil => rfl
    | cons d r =>
      have hd : '"' ≠ d := fun h => hr (congrArg some h.symm)
      show (if '"' = d then after? [] r else none) = none
      rw [if_neg hd]
  | @cons c s u t hc _ =>
    obtain ⟨d, v, hv, hd⟩ := hc.head (t ++ '"' :: r)
    rw [List.append_assoc, hv, after?, if_neg (Ne.symm hd)]

theorem Quoted.string?_append (h : Quoted s u) (hr : r.head? ≠ some '"') :
    string? (u ++ r) = some (s, r) := by
  obtain ⟨t, ht, rfl⟩ := h
  have hthree : after? ['"', '"', '"'] ('"' :: (t ++ '"' :: r)) = none := ht.after?_quotes hr
  show string? ('"' :: ((t ++ ['"']) ++ r)) = some (s, r)
  rw [List.append_assoc, List.singleton_append, string?, hthree]
  exact ht.basic?_append r

theorem Quoted.line?_append (h : Quoted s u) (r : Text) : line? (u ++ r) = some (s, r) := by
  obtain ⟨t, ht, rfl⟩ := h
  show line? ('"' :: ((t ++ ['"']) ++ r)) = some (s, r)
  rw [List.append_assoc]
  exact ht.basic?_append r

/-! ## writing -/

theorem hexChar?_two_digits (h : c.toNat < 256) :
    hexChar? [(c.toNat / 16).digitChar, (c.toNat % 16).digitChar] = some c := by
  have hnumber : hexNumber? [(c.toNat / 16).digitChar, (c.toNat % 16).digitChar] =
      some c.toNat := by
    have hhigh := hexDigit?_digitChar (d := c.toNat / 16) (by omega)
    have hlow := hexDigit?_digitChar (d := c.toNat % 16) (by omega)
    simp only [hexNumber?, List.foldlM_cons, List.foldlM_nil, hhigh, hlow]
    show some (16 * (16 * 0 + c.toNat / 16) + c.toNat % 16) = some c.toNat
    congr 1
    omega
  rw [hexChar?, hnumber]
  exact dif_pos c.valid

theorem exists_spells (c : Char) : ∃ u, Spells c u := by
  by_cases hquote : c = '"'
  · subst hquote
    exact ⟨['\\', '"'], .letter rfl⟩
  by_cases hslash : c = '\\'
  · subst hslash
    exact ⟨['\\', '\\'], .letter rfl⟩
  by_cases hcontrol : isControl c = true
  · have hsmall : c.toNat < 256 := by
      simp [isControl] at hcontrol
      omega
    exact ⟨_, .byte rfl (hexChar?_two_digits hsmall)⟩
  · exact ⟨_, .plain hquote hslash (by simpa using hcontrol)⟩

theorem exists_spelled (s : Text) : ∃ t, Spelled s t := by
  induction s with
  | nil => exact ⟨_, .nil⟩
  | cons c s ih =>
    obtain ⟨u, hu⟩ := exists_spells c
    obtain ⟨t, ht⟩ := ih
    exact ⟨_, .cons hu ht⟩

/-- a character that can stand for itself -/
def isPlain (c : Char) : Bool := c != '"' && c != '\\' && !isControl c

theorem spells_plain (h : isPlain c = true) : Spells c [c] := by
  obtain ⟨⟨hquote, hslash⟩, hcontrol⟩ : (c ≠ '"' ∧ c ≠ '\\') ∧ isControl c = false := by
    simpa [isPlain] using h
  exact .plain hquote hslash hcontrol

theorem spelled_plain (h : s.all isPlain = true) : Spelled s s := by
  induction s with
  | nil => exact .nil
  | cons c s ih =>
    obtain ⟨hc, hs⟩ := Bool.and_eq_true_iff.1 h
    exact .cons (spells_plain hc) (ih hs)

theorem quoted_plain (h : s.all isPlain = true) : Quoted s ('"' :: (s ++ ['"'])) :=
  ⟨s, spelled_plain h, rfl⟩

theorem exists_quoted (s : Text) : ∃ u, Quoted s u := by
  obtain ⟨t, ht⟩ := exists_spelled s
  exact ⟨_, t, ht, rfl⟩

end Upkeep.Toml
