import Upkeep.Text.Basic
import Upkeep.Text.CaseTable

/-!
# Case folding

Two characters are case variants of each other if the standard's simple folding takes both to the
same character.  Folding is lower-casing for most characters; `foldExceptions` holds the others.
-/

namespace Upkeep.Text

/-- characters that are no capitals and still have a case variant to fold to -/
def foldExceptions : List (Nat × Nat) := [
  (0xB5, 0x3BC), (0x17F, 0x73), (0x345, 0x3B9), (0x3C2, 0x3C3), (0x3D0, 0x3B2), (0x3D1, 0x3B8),
  (0x3D5, 0x3C6), (0x3D6, 0x3C0), (0x3F0, 0x3BA), (0x3F1, 0x3C1), (0x3F5, 0x3B5), (0x1C80, 0x432),
  (0x1C81, 0x434), (0x1C82, 0x43E), (0x1C83, 0x441), (0x1C84, 0x442), (0x1C85, 0x442),
  (0x1C86, 0x44A), (0x1C87, 0x463), (0x1C88, 0xA64B), (0x1E9B, 0x1E61), (0x1FBE, 0x3B9),
  (0x1FD3, 0x390), (0x1FE3, 0x3B0), (0xFB06, 0xFB05)]

def foldPoint (n : Nat) : Nat :=
  match foldExceptions.lookup n with
  | some k => k
  | none =>
    match lowerRuns.find? (·.covers n) with
    | some r => n - r.first + r.image
    | none => n

def CaseRun.source? (r : CaseRun) (k : Nat) : Option Nat :=
  if r.image ≤ k ∧ r.covers (k - r.image + r.first) then some (k - r.image + r.first) else none

def foldSources (k : Nat) : List Nat :=
  k :: (foldExceptions.filter (·.2 = k)).map (·.1) ++ lowerRuns.filterMap (·.source? k)

def caseVariants (c : Char) : Text := c :: (foldSources (foldPoint c.toNat)).map Char.ofNat

/-- the ASCII letter in the other case, after the character itself -/
def asciiVariants (c : Char) : Text :=
  if 'a' ≤ c ∧ c ≤ 'z' then [c, Char.ofNat (c.toNat - 32)]
  else if 'A' ≤ c ∧ c ≤ 'Z' then [c, Char.ofNat (c.toNat + 32)]
  else [c]

end Upkeep.Text
