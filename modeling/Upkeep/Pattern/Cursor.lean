import Upkeep.Pattern.Term

/-!
# Reading the text of a pattern

A cursor is a place in the text of a pattern.  In a loose text white space and comments stand for
nothing; readers pass over them where they may stand.
-/

namespace Upkeep.Pattern

structure Cursor where
  rest : Text
  /-- how many characters lie before it -/
  offset : Nat
  /-- white space and comments stand for nothing -/
  loose : Bool
  names : List (Text × Place)
deriving DecidableEq, Repr

namespace Cursor

def start (t : Text) : Cursor := ⟨t, 0, false, []⟩

def skip (c : Cursor) (n : Nat) : Cursor :=
  { c with rest := c.rest.drop n, offset := c.offset + min n c.rest.length }

end Cursor

def spaceLength (inComment : Bool) : Text → Nat
  | [] => 0
  | c :: cs =>
    if inComment then spaceLength (c != '\n') cs + 1
    else if Text.isWhite c then spaceLength false cs + 1
    else if c = '#' then spaceLength true cs + 1
    else 0

abbrev Reading := StateT Cursor (Except Fault)

namespace Reading

def refuse {α : Type} (kind : FaultKind) (place : Place) : Reading α := throw ⟨kind, place, none⟩

def clash {α : Type} (kind : FaultKind) (place earlier : Place) : Reading α :=
  throw ⟨kind, place, some earlier⟩

def here : Reading Nat := return (← get).offset

def rest : Reading Text := return (← get).rest

def peek? : Reading (Option Char) := return (← get).rest.head?

def skip (n : Nat) : Reading Unit := modify (·.skip n)

def skipSpace : Reading Unit :=
  modify fun c => if c.loose then c.skip (spaceLength false c.rest) else c

def next : Reading Unit := do
  skip 1
  skipSpace

def skipped? (p : Text) : Reading Bool := do
  if p.isPrefixOf (← rest) then
    skip p.length
    return true
  else return false

/-- the character after the next one, where what stands for nothing is passed over -/
def peekBeyond? : Reading (Option Char) := do
  let c ← get
  let after := c.rest.drop 1
  return (if c.loose then after.drop (spaceLength false after) else after).head?

end Reading

end Upkeep.Pattern
