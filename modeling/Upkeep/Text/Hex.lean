import Upkeep.Text.Basic

/-!
# Hexadecimal numbers

Digits may be capitals or not.  A number is read as a whole: a text with any other character in it
is no number.
-/

namespace Upkeep.Text

def hexDigit? (c : Char) : Option Nat :=
  if '0' ≤ c && c ≤ '9' then some (c.toNat - '0'.toNat)
  else if 'a' ≤ c && c ≤ 'f' then some (c.toNat - 'a'.toNat + 10)
  else if 'A' ≤ c && c ≤ 'F' then some (c.toNat - 'A'.toNat + 10)
  else none

def hexNumber? (digits : Text) : Option Nat :=
  digits.foldlM (fun n c => (hexDigit? c).map (16 * n + ·)) 0

def hexChar? (digits : Text) : Option Char := do
  let n ← hexNumber? digits
  if h : n.isValidChar then some (Char.ofNatAux n h) else none

theorem hexNumber?_append_digit (digits : Text) (c : Char) :
    hexNumber? (digits ++ [c]) =
      (hexNumber? digits).bind fun n => (hexDigit? c).map (16 * n + ·) := by
  simp [hexNumber?, List.foldlM_append]

end Upkeep.Text
