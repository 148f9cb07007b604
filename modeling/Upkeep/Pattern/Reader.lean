import Upkeep.Pattern.Bracket

/-!
# Reading patterns

`Term.ofText` reads the text of a pattern.  A pattern is a choice between chains of terms; a sign of
repetition applies to the term in front of it, and a group holds a pattern between parentheses.
-/

namespace Upkeep.Pattern

open Reading

/-! ## repetition -/

def maxCount : Nat := 4294967295

def decimalDigits : Nat → Text → Reading Text
  | 0, digits => pure digits
  | fuel + 1, digits => do
    match ← peek? with
    | none => pure digits
    | some c =>
      if c.isDigit then
        next
        decimalDigits fuel (digits ++ [c])
      else pure digits

def skipWhite : Nat → Reading Unit
  | 0 => pure ()
  | fuel + 1 => do
    match ← peek? with
    | none => pure ()
    | some c =>
      if Text.isWhite c then
        next
        skipWhite fuel
      else pure ()

def decimal : Reading (Except Fault Nat) := do
  let n := (← rest).length
  skip (((← rest).takeWhile Text.isWhite).length)
  let start ← here
  let digits ← decimalDigits n []
  let place : Place := ⟨start, ← here⟩
  skipWhite n
  let value := digits.foldl (fun n c => 10 * n + (c.toNat - '0'.toNat)) 0
  return if digits.isEmpty then .error ⟨.repetitionCountEmpty, place, none⟩
    else if value ≤ maxCount then .ok value
    else .error ⟨.decimalInvalid, place, none⟩

def repeatable (items : List Term) : Reading (Term × List Term) := do
  match items with
  | [] => refuse .repetitionMissing (.before (← here))
  | .empty _ :: _ | .flags _ _ :: _ => refuse .repetitionMissing (.before (← here))
  | t :: ts => return (t, ts)

def skipReluctance : Reading Unit := do
  let _ ← skipped? ['?']

def shortRepetition (least : Nat) (most : Option Nat) (items : List Term) : Reading (List Term) := do
  let (t, ts) ← repeatable items
  skip 1
  skipReluctance
  return .repetition ⟨t.place.start, ← here⟩ least most t :: ts

def bounds (start : Nat) : Reading (Nat × Option Nat) := do
  let unclosed {α : Type} : Reading α := do refuse .repetitionCountUnclosed ⟨start, ← here⟩
  let least ← decimal
  match ← peek? with
  | none => unclosed
  | some ',' =>
    next
    match ← peek? with
    | none => unclosed
    | some '\x7d' => return (← ofExcept least, none)
    | some _ =>
      let a ← ofExcept least
      let b ← ofExcept (← decimal)
      return (a, some b)
  | some _ =>
    let a ← ofExcept least
    return (a, some a)

def countedRepetition (items : List Term) : Reading (List Term) := do
  let start ← here
  let (t, ts) ← repeatable items
  next
  if (← peek?).isNone then refuse .repetitionCountUnclosed ⟨start, ← here⟩
  let (least, most) ← bounds start
  if (← peek?) ≠ some '\x7d' then refuse .repetitionCountUnclosed ⟨start, ← here⟩
  next
  skipReluctance
  if most.any (· < least) then refuse .repetitionCountInvalid ⟨start, ← here⟩
  return .repetition ⟨t.place.start, ← here⟩ least most t :: ts

/-! ## groups -/

def flag? (c : Char) : Option Flag :=
  [('i', Flag.ignoreCase), ('m', .multiLine), ('s', .dotAll), ('U', .swapGreed), ('u', .unicode),
    ('R', .crlf), ('x', .loose)].lookup c

/-- flags as they are written: each with its place, and `none` for the sign that switches off -/
abbrev FlagSigns := List (Place × Option Flag)

def FlagSigns.earlier? (fs : FlagSigns) (f : Option Flag) : Option Place :=
  (fs.find? (·.2 = f)).map (·.1)

def flagSigns : Nat → FlagSigns → Reading FlagSigns
  | 0, fs => pure fs
  | fuel + 1, fs => do
    match ← peek? with
    | none => refuse .flagUnexpectedEnd (.before (← here))
    | some c =>
      let place : Place := .at (← here)
      if c = ':' ∨ c = ')' then
        match fs.getLast? with
        | some (p, none) => refuse .flagDanglingNegation p
        | _ => return fs
      else
        let f ←
          if c = '-' then pure none
          else
            match flag? c with
            | some f => pure (some f)
            | none => refuse .flagUnrecognized place
        match fs.earlier? f with
        | some p => clash (if f.isNone then .flagRepeatedNegation else .flagDuplicate) place p
        | none =>
          skip 1
          flagSigns fuel (fs ++ [(place, f)])

/-- the changes that flags make: those behind the sign for it are switched off -/
def FlagSigns.changes (fs : FlagSigns) : List FlagChange :=
  let written := fs.map (·.2)
  (written.takeWhile Option.isSome).filterMap (·.map (·, true)) ++
    (written.dropWhile Option.isSome).filterMap (·.map (·, false))

def looseAfter (changes : List FlagChange) (loose : Bool) : Bool :=
  ((changes.find? (·.1 = .loose)).map (·.2)).getD loose

def isNameChar (first : Bool) (c : Char) : Bool :=
  c == '_' ||
    if first then Text.isAlphabetic c
    else c == '.' || c == '[' || c == ']' || Text.isAlphanumeric c

def groupNameRest : Nat → Text → Reading Text
  | 0, name => pure name
  | fuel + 1, name => do
    match ← peek? with
    | none => refuse .groupNameUnexpectedEnd (.before (← here))
    | some c =>
      if c = '>' then pure name
      else if isNameChar name.isEmpty c then
        skip 1
        groupNameRest fuel (name ++ [c])
      else refuse .groupNameInvalid (.at (← here))

def groupName : Reading Unit := do
  let start ← here
  let name ← groupNameRest ((← rest).length + 1) []
  let place : Place := ⟨start, ← here⟩
  skip 1
  if name.isEmpty then refuse .groupNameEmpty (.before start)
  match (← get).names.lookup name with
  | some p => clash .groupNameDuplicate place p
  | none => modify fun c => { c with names := (name, place) :: c.names }

inductive GroupStart where
  | group (changes : List FlagChange)
  /-- nothing: the changes of flags are for the group around it -/
  | flags (changes : List FlagChange)

def groupStart (start : Nat) : Reading GroupStart := do
  next
  for look in ["?=", "?!", "?<=", "?<!"] do
    if ← skipped? look.toList then refuse .lookAround ⟨start, ← here⟩
  let inner ← here
  if ← skipped? "?P<".toList then
    groupName
    return .group []
  if ← skipped? "?<".toList then
    groupName
    return .group []
  if ← skipped? "?".toList then
    if (← peek?).isNone then refuse .groupUnclosed (.at start)
    let fs ← flagSigns ((← rest).length + 1) []
    let closes := (← peek?) == some ')'
    skip 1
    if !closes then return .group fs.changes
    if fs.isEmpty then refuse .repetitionMissing (.before inner)
    return .flags fs.changes
  return .group []

/-! ## patterns -/

def closeChain (start stop : Nat) (items : List Term) : Term :=
  match items.reverse with
  | [] => .empty ⟨start, stop⟩
  | [t] => t
  | ts => .chain ⟨start, stop⟩ ts

def closeChoice (start stop : Nat) (chains : List Term) : Term :=
  match chains.reverse with
  | [t] => t
  | ts => .choice ⟨start, stop⟩ ts

/-- a pattern that started at `start`, up to a closing parenthesis or the end: `chains` are
complete, the chain begun at `since` has `items`, and `fuel` bounds the number of signs to come -/
def alternatives (start : Nat) : Nat → List Term → Nat → List Term → Reading Term
  | 0, _, _, _ => refuse .groupUnclosed (.at start)
  | fuel + 1, chains, since, items => do
    skipSpace
    let position ← here
    let chain := closeChain since position items
    match ← peek? with
    | none => return closeChoice start position (chain :: chains)
    | some ')' => return closeChoice start position (chain :: chains)
    | some '|' =>
      skip 1
      alternatives start fuel (chain :: chains) (← here) []
    | some '(' =>
      match ← groupStart position with
      | .flags changes =>
        modify fun c => { c with loose := looseAfter changes c.loose }
        alternatives start fuel chains since (.flags ⟨position, ← here⟩ changes :: items)
      | .group changes =>
        let loose := (← get).loose
        modify fun c => { c with loose := looseAfter changes loose }
        let t ← alternatives (← here) fuel [] (← here) []
        if (← peek?).isNone then refuse .groupUnclosed (.at position)
        modify fun c => { c with loose := loose }
        skip 1
        alternatives start fuel chains since (.group ⟨position, ← here⟩ changes t :: items)
    | some '[' =>
      let c ← bracket
      alternatives start fuel chains since (.bracket c :: items)
    | some '?' => do alternatives start fuel chains since (← shortRepetition 0 (some 1) items)
    | some '*' => do alternatives start fuel chains since (← shortRepetition 0 none items)
    | some '+' => do alternatives start fuel chains since (← shortRepetition 1 none items)
    | some '\x7b' => do alternatives start fuel chains since (← countedRepetition items)
    | some c => do alternatives start fuel chains since (.atom (← sign c) :: items)

def maxDepth : Nat := 250

def whole : Reading Term := do
  let t ← alternatives 0 ((← rest).length + 1) [] 0 []
  if (← peek?).isSome then refuse .groupUnopened (.at (← here))
  match t.tooDeep? maxDepth with
  | some p => refuse (.nestedTooDeep maxDepth) p
  | none => return t

def Term.ofText (t : Text) : Except Fault Term := (whole.run (Cursor.start t)).map (·.1)

end Upkeep.Pattern
