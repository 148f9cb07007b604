import Upkeep.Pattern.Cursor

/-!
# Single signs and escapes

Readers of what stands for one character, one set of characters or one kind of position.  Each
starts at its first character and leaves the cursor behind its last one.
-/

namespace Upkeep.Pattern

open Reading

/-! ## which characters -/

def isMeta (c : Char) : Bool := "\\.+*?()|[]\x7b\x7d^$#&-~".toList.contains c

/-- characters that a backslash may take the meaning from, whether they have one or not -/
def isEscapable (c : Char) : Bool :=
  isMeta c || (c.toNat < 0x80 && !c.isAlphanum && c != '<' && c != '>')

def control? (c : Char) : Option Char :=
  [('a', Char.ofNat 7), ('f', Char.ofNat 0xC), ('t', '\t'), ('n', '\n'), ('r', '\r'),
    ('v', Char.ofNat 0xB)].lookup c

def edgeSign? (c : Char) : Option EdgeSign :=
  [('A', .textStart), ('z', .textStop), ('B', .notWord), ('<', .wordStart),
    ('>', .wordStop)].lookup c

/-! ## hexadecimal numbers -/

/-- how many digits a number without braces has, by the letter in front of it -/
def hexLength (letter : Char) : Nat :=
  if letter = 'x' then 2 else if letter = 'u' then 4 else 8

def hexDigits : Nat → Text → Reading Text
  | 0, digits => pure digits
  | n + 1, digits => do
    match ← peek? with
    | none => refuse .escapeUnexpectedEnd (.before (← here))
    | some c =>
      if (Text.hexDigit? c).isNone then refuse .escapeHexInvalidDigit (.at (← here))
      else
        next
        hexDigits n (digits ++ [c])

/-- the digits up to the closing brace, from the character in front of them; `fuel` bounds their
number -/
def bracedDigits : Nat → Text → Reading Text
  | 0, digits => pure digits
  | fuel + 1, digits => do
    next
    match ← peek? with
    | none => pure digits
    | some '\x7d' => pure digits
    | some c =>
      if (Text.hexDigit? c).isNone then refuse .escapeHexInvalidDigit (.at (← here))
      else bracedDigits fuel (digits ++ [c])

def hexLiteral (start : Nat) (letter : Char) : Reading Literal := do
  next
  match ← peek? with
  | none => refuse .escapeUnexpectedEnd (.before (← here))
  | some '\x7b' => do
    let brace ← here
    let digits ← bracedDigits (← rest).length []
    if (← peek?).isNone then refuse .escapeUnexpectedEnd ⟨brace, ← here⟩
    let stop ← here
    next
    if digits.isEmpty then refuse .escapeHexEmpty ⟨brace, ← here⟩
    match Text.hexChar? digits with
    | none => refuse .escapeHexInvalid ⟨brace + 1, stop⟩
    | some c => return ⟨⟨start, ← here⟩, c, false⟩
  | some _ => do
    let first ← here
    let digits ← hexDigits (hexLength letter) []
    match Text.hexChar? digits with
    | none => refuse .escapeHexInvalid ⟨first, ← here⟩
    | some c => return ⟨⟨start, ← here⟩, c, letter == 'x'⟩

/-! ## properties -/

def bracedName : Nat → Text → Reading Text
  | 0, name => pure name
  | fuel + 1, name => do
    next
    match ← peek? with
    | none => pure name
    | some '\x7d' => pure name
    | some c => bracedName fuel (name ++ [c])

def cutAt? (sign : Text) : Text → Option (Text × Text)
  | [] => none
  | c :: cs =>
    if sign.isPrefixOf (c :: cs) then some ([], (c :: cs).drop sign.length)
    else (cutAt? sign cs).map fun x => (c :: x.1, x.2)

def Query.ofText (t : Text) : Query :=
  match cutAt? ['!', '='] t with
  | some (n, v) => .valued true n v
  | none =>
    match cutAt? [':'] t with
    | some (n, v) => .valued false n v
    | none =>
      match cutAt? ['='] t with
      | some (n, v) => .valued false n v
      | none => .named t

def property (start : Nat) (negated : Bool) : Reading Atom := do
  next
  match ← peek? with
  | none => refuse .escapeUnexpectedEnd (.before (← here))
  | some '\x7b' => do
    let name ← bracedName (← rest).length []
    if (← peek?).isNone then refuse .escapeUnexpectedEnd (.before (← here))
    skip 1
    return .property ⟨start, ← here⟩ negated (Query.ofText name)
  | some c => do
    if c = '\\' then refuse .categoryInvalid (.at (← here))
    next
    return .property ⟨start, ← here⟩ negated (.named [c])

/-! ## edges of words -/

def isEdgeNameChar (c : Char) : Bool := c.isAlpha || c == '-'

def edgeName : Nat → Text → Reading Text
  | 0, name => pure name
  | fuel + 1, name => do
    match ← peek? with
    | none => pure name
    | some c =>
      if isEdgeNameChar c then
        next
        edgeName fuel (name ++ [c])
      else pure name

def namedEdge? (name : Text) : Option EdgeSign :=
  [("start", EdgeSign.wordStart), ("end", .wordStop), ("start-half", .wordStartHalf),
    ("end-half", .wordStopHalf)].lookup name.string

/-- the edge named between braces, from the opening brace, for an escape that starts at `start`;
what cannot be a name is left alone, for it may be a number of repetitions -/
def bracedEdge? (start : Nat) : Reading (Option EdgeSign) := do
  let begun ← get
  let brace ← here
  next
  match ← peek? with
  | none => refuse .wordEdgeUnexpectedEnd ⟨start, ← here⟩
  | some c =>
    if !isEdgeNameChar c then
      set begun
      return none
    let first ← here
    let name ← edgeName (← rest).length []
    if (← peek?) ≠ some '\x7d' then refuse .wordEdgeUnclosed ⟨brace, ← here⟩
    let stop ← here
    skip 1
    match namedEdge? name with
    | some e => return some e
    | none => refuse .wordEdgeUnrecognized ⟨first, stop⟩

/-! ## escapes -/

def shortEscape (start : Nat) (c : Char) : Reading Atom := do
  skip 1
  let place : Place := ⟨start, ← here⟩
  if isEscapable c then return .literal ⟨place, c, false⟩
  match control? c with
  | some d => return .literal ⟨place, d, false⟩
  | none =>
    match edgeSign? c with
    | some e => return .edge place e
    | none =>
      if c ≠ 'b' then refuse .escapeUnrecognized place
      if (← peek?) ≠ some '\x7b' then return .edge place .word
      match ← bracedEdge? start with
      | some e => return .edge ⟨start, ← here⟩ e
      | none => return .edge place .word

def escape : Reading Atom := do
  let start ← here
  skip 1
  match ← peek? with
  | none => refuse .escapeUnexpectedEnd ⟨start, ← here⟩
  | some c =>
    if c.isDigit then refuse .backreference ⟨start, (← here) + 1⟩
    if c = 'x' ∨ c = 'u' ∨ c = 'U' then return .literal (← hexLiteral start c)
    if c = 'p' ∨ c = 'P' then property start (c == 'P')
    else
      match [('d', Shorthand.digit), ('s', .space), ('w', .word)].lookup c.toLower with
      | none => shortEscape start c
      | some kind =>
        skip 1
        return .shorthand ⟨start, ← here⟩ c.isUpper kind

def sign (c : Char) : Reading Atom := do
  let place : Place := .at (← here)
  if c = '\\' then escape
  else
    skip 1
    return if c = '.' then .dot place
      else if c = '^' then .edge place .caret
      else if c = '$' then .edge place .dollar
      else .literal ⟨place, c, false⟩

end Upkeep.Pattern
