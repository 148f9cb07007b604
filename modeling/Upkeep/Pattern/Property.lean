import Upkeep.Pattern.CharSet
import Upkeep.Pattern.Term
import Upkeep.Text.Lowercase
import Upkeep.Text.ScriptTable

/-!
# Properties of characters

Properties are asked for by name.  Names are compared without regard to case, blanks, underscores
and dashes, and without an `is` in front.  A name alone may be that of a property with two values, a
general category or a script.
-/

namespace Upkeep.Pattern

open Text Text.CategoryTable

/-! ## names -/

def looseName (t : Text) : String :=
  let isMarked := "is".toList.isPrefixOf ((t.take 2).map Char.toLower)
  let kept := ((if isMarked then t.drop 2 else t).filter fun c =>
    c.toNat < 0x80 && c != ' ' && c != '_' && c != '-').map Char.toLower
  if isMarked && kept == ['c'] then "isc" else Text.string kept

/-! ## the sets -/

def binaryProperties : List (List String × Intervals) := [
  (["alphabetic", "alpha"], alphabetic),
  (["lowercase", "lower"], lowercaseLetter ++ otherLowercase),
  (["uppercase", "upper"], uppercaseLetter ++ otherUppercase),
  (["whitespace", "wspace", "space"], whiteSpace),
  (["cased"], casedRanges),
  (["caseignorable", "ci"], ignorableRanges),
  (["joincontrol", "joinc"], joinControl),
  (["asciihexdigit", "ahex"], [(0x30, 0x39), (0x41, 0x46), (0x61, 0x66)]),
  (["hexdigit", "hex"], [(0x30, 0x39), (0x41, 0x46), (0x61, 0x66), (0xFF10, 0xFF19),
    (0xFF21, 0xFF26), (0xFF41, 0xFF46)])]

def categories : List (List String × Intervals) := [
  (["lu", "uppercaseletter"], uppercaseLetter),
  (["ll", "lowercaseletter"], lowercaseLetter),
  (["lt", "titlecaseletter"], titlecaseLetter),
  (["lc", "casedletter"], casedLetter),
  (["lm", "modifierletter"], modifierLetter),
  (["lo", "otherletter"], otherLetter),
  (["l", "letter"], letter),
  (["mn", "nonspacingmark"], nonspacingMark),
  (["mc", "spacingmark"], spacingMark),
  (["me", "enclosingmark"], enclosingMark),
  (["m", "mark", "combiningmark"], mark),
  (["nd", "decimalnumber", "digit"], decimalNumber),
  (["nl", "letternumber"], letterNumber),
  (["no", "othernumber"], otherNumber),
  (["n", "number"], number),
  (["pc", "connectorpunctuation"], connectorPunctuation),
  (["pd", "dashpunctuation"], dashPunctuation),
  (["ps", "openpunctuation"], openPunctuation),
  (["pe", "closepunctuation"], closePunctuation),
  (["pi", "initialpunctuation"], initialPunctuation),
  (["pf", "finalpunctuation"], finalPunctuation),
  (["po", "otherpunctuation"], otherPunctuation),
  (["p", "punctuation", "punct"], punctuation),
  (["sm", "mathsymbol"], mathSymbol),
  (["sc", "currencysymbol"], currencySymbol),
  (["sk", "modifiersymbol"], modifierSymbol),
  (["so", "othersymbol"], otherSymbol),
  (["s", "symbol"], symbol),
  (["zs", "spaceseparator"], spaceSeparator),
  (["zl", "lineseparator"], lineSeparator),
  (["zp", "paragraphseparator"], paragraphSeparator),
  (["z", "separator"], separator),
  (["cc", "control", "cntrl"], CategoryTable.control),
  (["cf", "format"], CategoryTable.format),
  (["co", "privateuse"], privateUse),
  (["any"], [(0, 0x10FFFF)]),
  (["ascii"], [(0, 0x7F)])]

/-- the code points with a category other than that of unassigned ones -/
def assigned : Intervals :=
  letter ++ mark ++ number ++ punctuation ++ symbol ++ separator ++ CategoryTable.control ++
    CategoryTable.format ++ privateUse

/-! ## looking up -/

def category? (name : String) : Option CharSet :=
  if name = "assigned" then some (.intervals assigned)
  else if name = "cn" ∨ name = "unassigned" then some (.compl (.intervals assigned))
  else if name = "c" ∨ name = "other" then
    some (.union (.intervals (CategoryTable.control ++ CategoryTable.format ++ privateUse))
      (.compl (.intervals assigned)))
  else (categories.find? (·.1.contains name)).map (.intervals ·.2)

def script? (name : String) : Option CharSet :=
  (Script.all.find? (·.names.contains name)).map (.intervals ·.intervals)

def named? (name : String) : Option CharSet :=
  match binaryProperties.find? (·.1.contains name) with
  | some x => some (.intervals x.2)
  | none =>
    match category? name with
    | some s => some s
    | none => script? name

def Query.set : Query → Except FaultKind CharSet
  | .named name =>
    match named? (looseName name) with
    | some s => .ok s
    | none => .error .propertyNotFound
  | .valued negated name value =>
    let found :=
      match looseName name with
      | "gc" | "generalcategory" => some (category? (looseName value))
      | "sc" | "script" | "scx" | "scriptextensions" => some (script? (looseName value))
      | _ => none
    match found with
    | none => .error .propertyNotFound
    | some none => .error .propertyValueNotFound
    | some (some s) => .ok (if negated then .compl s else s)

/-! ## shorthands and ASCII classes -/

def Shorthand.set (unicode : Bool) : Shorthand → CharSet
  | .digit => .intervals (if unicode then decimalNumber else asciiDigit)
  | .space => .intervals (if unicode then whiteSpace else asciiSpace)
  | .word => .intervals (if unicode then wordCharacter else asciiWord)

def AsciiClass.set : AsciiClass → CharSet
  | .alnum => .intervals [(0x30, 0x39), (0x41, 0x5A), (0x61, 0x7A)]
  | .alpha => .intervals [(0x41, 0x5A), (0x61, 0x7A)]
  | .ascii => .intervals [(0, 0x7F)]
  | .blank => .intervals [(9, 9), (0x20, 0x20)]
  | .cntrl => .intervals [(0, 0x1F), (0x7F, 0x7F)]
  | .digit => .intervals asciiDigit
  | .graph => .intervals [(0x21, 0x7E)]
  | .lower => .intervals [(0x61, 0x7A)]
  | .print => .intervals [(0x20, 0x7E)]
  | .punct => .intervals [(0x21, 0x2F), (0x3A, 0x40), (0x5B, 0x60), (0x7B, 0x7E)]
  | .space => .intervals asciiSpace
  | .upper => .intervals [(0x41, 0x5A)]
  | .word => .intervals asciiWord
  | .xdigit => .intervals [(0x30, 0x39), (0x41, 0x46), (0x61, 0x66)]

end Upkeep.Pattern
