import Upkeep.Text.Token

/-!
# Preprocessor lines

The two kinds of C preprocessor lines that the library looks at: definitions of a macro and
inclusions of a header.
-/

namespace Upkeep.Directive

open Text

/-- `define`, a name and a value, each a maximal run without white space, with white space before
the name and between the two: the name and the value -/
def nameAndValue? (t : Text) : Option (Text × Text) := do
  let t ← after? "define".toList t
  let (name, t) ← token? (← white? t)
  let (value, _) ← token? (← white? t)
  pure (name, value)

/-- a definition whose `define` stands directly after the `#` -/
def definition? (t : Text) : Option (Text × Text) :=
  (after? ['#'] t).bind nameAndValue?

/-- a definition whose `define` may be set off from the `#` by spaces -/
def spacedDefinition? (t : Text) : Option (Text × Text) :=
  (after? ['#'] t).bind fun r => nameAndValue? (r.dropWhile (· = ' '))

/-- `#include`, with white space around the `#` allowed -/
def isInclude (t : Text) : Bool :=
  match after? ['#'] (skipWhite t) with
  | none => false
  | some r => (after? "include".toList (skipWhite r)).isSome

end Upkeep.Directive
