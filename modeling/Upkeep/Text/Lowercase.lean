import Upkeep.Text.CaseTable
import Upkeep.Text.Intervals

/-!
# Lower case

`lower` is full Unicode lower-casing.  It works character by character but for two rules: a capital
dotted I becomes two characters, and a capital sigma at the end of a word becomes the final sigma.
-/

namespace Upkeep.Text

def isCased (c : Char) : Bool := inRanges casedRanges c.toNat

/-- a character that does not end a word, such as an apostrophe or a combining mark -/
def isIgnorable (c : Char) : Bool := inRanges ignorableRanges c.toNat

def lowerChar (c : Char) : Text :=
  if c.toNat = 0x130 then [Char.ofNat 0x69, Char.ofNat 0x307]
  else
    match lowerRuns.find? (·.covers c.toNat) with
    | some r => [Char.ofNat (c.toNat - r.first + r.image)]
    | none => [c]

/-! ## the final sigma -/

/-- after the ignorable characters comes a cased one -/
def meetsCased (t : Text) : Bool :=
  match t.dropWhile isIgnorable with
  | [] => false
  | c :: _ => isCased c

/-- lower-casing inside a word or outside one: `inWord` says that the last character before the
text that is not ignorable is cased -/
def lowerFrom (inWord : Bool) : Text → Text
  | [] => []
  | c :: cs =>
    let word := if isIgnorable c then inWord else isCased c
    if c.toNat = 0x3A3 then
      Char.ofNat (if inWord && !meetsCased cs then 0x3C2 else 0x3C3) :: lowerFrom word cs
    else lowerChar c ++ lowerFrom word cs

def lower (t : Text) : Text := lowerFrom false t

end Upkeep.Text
