import Upkeep.Pattern.Escape

/-!
# Bracket expressions

Between brackets stand characters, ranges, classes and further brackets, and the signs `&&`, `--`
and `~~` of operations on what is in front of them and behind them.  Operations are carried out from
left to right.
-/

namespace Upkeep.Pattern

open Reading

/-! ## ASCII classes -/

def asciiClass? (name : Text) : Option AsciiClass :=
  [("alnum", AsciiClass.alnum), ("alpha", .alpha), ("ascii", .ascii), ("blank", .blank),
    ("cntrl", .cntrl), ("digit", .digit), ("graph", .graph), ("lower", .lower), ("print", .print),
    ("punct", .punct), ("space", .space), ("upper", .upper), ("word", .word),
    ("xdigit", .xdigit)].lookup name.string

/-- an ASCII class between `[:` and `:]`, whether it is negated, and its length -/
def asciiAt? (t : Text) : Option (AsciiClass × Bool × Nat) := do
  let body ← Text.after? ['[', ':'] t
  let (negated, body) :=
    match body with
    | '^' :: r => (true, r)
    | r => (false, r)
  let name := body.takeWhile (· ≠ ':')
  let _ ← Text.after? [':', ']'] (body.drop name.length)
  let kind ← asciiClass? name
  return (kind, negated, name.length + if negated then 5 else 4)

/-! ## items -/

def classAtom (c : Char) : Reading Atom := do
  if c = '\\' then escape
  else
    let place : Place := .at (← here)
    skip 1
    return .literal ⟨place, c, false⟩

def Atom.asItem : Atom → Reading ClassTerm
  | .literal l => pure (.literal l)
  | .property p n q => pure (.property p n q)
  | .shorthand p n k => pure (.shorthand p n k)
  | .dot p | .edge p _ => refuse .classEscapeInvalid p

def Atom.asBound : Atom → Reading Literal
  | .literal l => pure l
  | a => refuse .classRangeLiteral a.place

/-- a range or a single item that starts with the given character; `opening` is the place of the
bracket that is open -/
def classItem (opening : Place) (c : Char) : Reading ClassTerm := do
  let first ← classAtom c
  skipSpace
  match ← peek? with
  | none => refuse .classUnclosed opening
  | some d =>
    let beyond ← peekBeyond?
    if d ≠ '-' ∨ beyond = some ']' ∨ beyond = some '-' then first.asItem
    else
      next
      match ← peek? with
      | none => refuse .classUnclosed opening
      | some e => do
        let last ← classAtom e
        let place : Place := ⟨first.place.start, last.place.stop⟩
        let lo ← first.asBound
        let hi ← last.asBound
        if hi.char < lo.char then refuse .classRangeInvalid place
        return .range place lo hi

/-! ## brackets -/

structure Opening where
  start : Nat
  stop : Nat
  negated : Bool

def Opening.place (o : Opening) : Place := ⟨o.start, o.stop⟩

/-- dashes in front, which stand for themselves, the last one first; `fuel` bounds their number -/
def leadingDashes (start : Nat) : Nat → List ClassTerm → Reading (List ClassTerm)
  | 0, items => pure items
  | fuel + 1, items => do
    if (← peek?) ≠ some '-' then return items
    let place : Place := .at (← here)
    next
    if (← peek?).isNone then refuse .classUnclosed (.before start)
    leadingDashes start fuel (.literal ⟨place, '-', false⟩ :: items)

/-- an opening bracket and the items behind it that would mean something else elsewhere -/
def openBracket : Reading (Opening × List ClassTerm) := do
  let start ← here
  next
  if (← peek?).isNone then refuse .classUnclosed ⟨start, ← here⟩
  let negated := (← peek?) == some '^'
  if negated then
    next
    if (← peek?).isNone then refuse .classUnclosed ⟨start, ← here⟩
  let dashes ← leadingDashes start (← rest).length []
  let items ←
    if dashes.isEmpty ∧ (← peek?) = some ']' then do
      let place : Place := .at (← here)
      next
      if (← peek?).isNone then refuse .classUnclosed ⟨start, ← here⟩
      pure [ClassTerm.literal ⟨place, ']', false⟩]
    else pure dashes
  return (⟨start, ← here, negated⟩, items)

/-- items, the last one first, as one term; `at` is the position where there could have been one -/
def closeItems (position : Nat) (items : List ClassTerm) : ClassTerm :=
  match items.reverse with
  | [] => .empty (.before position)
  | [c] => c
  | c :: cs => .union ⟨c.place.start, ((c :: cs).getLastD c).place.stop⟩ (c :: cs)

abbrev Pending := Option (SetOperation × ClassTerm)

def Pending.finish (p : Pending) (right : ClassTerm) : ClassTerm :=
  match p with
  | none => right
  | some (op, left) => .operation ⟨left.place.start, right.place.stop⟩ op left right

def operationAt? (t : Text) : Option SetOperation :=
  match t with
  | '&' :: '&' :: _ => some .intersection
  | '-' :: '-' :: _ => some .difference
  | '~' :: '~' :: _ => some .symmetricDifference
  | _ => none

/-- what follows an opening bracket, up to the closing one: `pending` waits, `items` were read since
the position `since`, and `fuel` bounds the number of items to come -/
def bracketBody (o : Opening) : Nat → Pending → Nat → List ClassTerm → Reading ClassTerm
  | 0, _, _, _ => refuse .classUnclosed o.place
  | fuel + 1, pending, since, items => do
    skipSpace
    let t ← rest
    match t with
    | [] => refuse .classUnclosed o.place
    | ']' :: _ =>
      let body := pending.finish (closeItems since items)
      skip 1
      return .bracket ⟨o.start, ← here⟩ o.negated body
    | '[' :: _ =>
      match asciiAt? t with
      | some (kind, negated, n) =>
        let start ← here
        skip n
        bracketBody o fuel pending since (.ascii ⟨start, ← here⟩ negated kind :: items)
      | none =>
        let (inner, first) ← openBracket
        let c ← bracketBody inner fuel none inner.stop first
        bracketBody o fuel pending since (c :: items)
    | c :: _ =>
      match operationAt? t with
      | some op =>
        let left := pending.finish (closeItems since items)
        skip 2
        bracketBody o fuel (some (op, left)) (← here) []
      | none =>
        let item ← classItem o.place c
        bracketBody o fuel pending since (item :: items)

def bracket : Reading ClassTerm := do
  let n := (← rest).length
  let (o, items) ← openBracket
  bracketBody o n none o.stop items

end Upkeep.Pattern
