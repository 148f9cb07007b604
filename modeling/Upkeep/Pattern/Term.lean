import Upkeep.Pattern.Basic
import Upkeep.Pattern.Fault

/-!
# Terms

A term is a pattern as it is written, with the places of its parts.  Flags are still part of the
term: what a term means depends on those in front of it.
-/

namespace Upkeep.Pattern

/-! ## single characters -/

structure Literal where
  place : Place
  char : Char
  /-- it is written as a byte, with two hexadecimal digits -/
  isByte : Bool
deriving DecidableEq, Repr

inductive Shorthand where
  | digit | space | word
deriving DecidableEq, Repr

inductive Query where
  | named (name : Text)
  /-- by its name and value, which the property has or, if `negated`, does not have -/
  | valued (negated : Bool) (name value : Text)
deriving DecidableEq, Repr

inductive AsciiClass where
  | alnum | alpha | ascii | blank | cntrl | digit | graph | lower | print | punct | space | upper
  | word | xdigit
deriving DecidableEq, Repr

inductive EdgeSign where
  | caret | dollar | textStart | textStop | word | notWord | wordStart | wordStop | wordStartHalf
  | wordStopHalf
deriving DecidableEq, Repr

inductive Atom where
  | literal (l : Literal)
  | dot (place : Place)
  | edge (place : Place) (sign : EdgeSign)
  | property (place : Place) (negated : Bool) (query : Query)
  | shorthand (place : Place) (negated : Bool) (kind : Shorthand)
deriving DecidableEq, Repr

def Atom.place : Atom → Place
  | .literal l => l.place
  | .dot p | .edge p _ | .property p _ _ | .shorthand p _ _ => p

/-! ## brackets -/

inductive SetOperation where
  | intersection | difference | symmetricDifference
deriving DecidableEq, Repr

inductive ClassTerm where
  | empty (place : Place)
  | literal (l : Literal)
  | range (place : Place) (first last : Literal)
  | ascii (place : Place) (negated : Bool) (kind : AsciiClass)
  | property (place : Place) (negated : Bool) (query : Query)
  | shorthand (place : Place) (negated : Bool) (kind : Shorthand)
  | bracket (place : Place) (negated : Bool) (body : ClassTerm)
  | union (place : Place) (items : List ClassTerm)
  | operation (place : Place) (op : SetOperation) (left right : ClassTerm)
deriving Repr

def ClassTerm.place : ClassTerm → Place
  | .empty p | .range p _ _ | .ascii p _ _ | .property p _ _ | .shorthand p _ _ | .bracket p _ _
  | .union p _ | .operation p _ _ _ => p
  | .literal l => l.place

/-! ## flags -/

inductive Flag where
  | ignoreCase | multiLine | dotAll | swapGreed | unicode | crlf | loose
deriving DecidableEq, Repr

abbrev FlagChange := Flag × Bool

/-! ## terms -/

inductive Term where
  | empty (place : Place)
  | atom (a : Atom)
  | bracket (c : ClassTerm)
  | flags (place : Place) (changes : List FlagChange)
  | repetition (place : Place) (least : Nat) (most : Option Nat) (t : Term)
  | group (place : Place) (changes : List FlagChange) (t : Term)
  | choice (place : Place) (ts : List Term)
  | chain (place : Place) (ts : List Term)
deriving Repr

def Term.place : Term → Place
  | .empty p | .flags p _ | .repetition p _ _ _ | .group p _ _ | .choice p _ | .chain p _ => p
  | .atom a => a.place
  | .bracket c => c.place

/-! ## depth -/

mutual

/-- the first part that lies deeper than `room` brackets -/
def ClassTerm.tooDeep? (room : Nat) : ClassTerm → Option Place
  | .bracket p _ body => if room = 0 then some p else body.tooDeep? (room - 1)
  | .union p items => if room = 0 then some p else ClassTerm.anyTooDeep? (room - 1) items
  | .operation p _ l r =>
    if room = 0 then some p
    else
      match l.tooDeep? (room - 1) with
      | some q => some q
      | none => r.tooDeep? (room - 1)
  | _ => none

def ClassTerm.anyTooDeep? (room : Nat) : List ClassTerm → Option Place
  | [] => none
  | c :: cs =>
    match c.tooDeep? room with
    | some q => some q
    | none => ClassTerm.anyTooDeep? room cs

end

mutual

/-- the first part that lies deeper than `room` terms -/
def Term.tooDeep? (room : Nat) : Term → Option Place
  | .bracket c => c.tooDeep? room
  | .repetition p _ _ t => if room = 0 then some p else t.tooDeep? (room - 1)
  | .group p _ t => if room = 0 then some p else t.tooDeep? (room - 1)
  | .choice p ts => if room = 0 then some p else Term.anyTooDeep? (room - 1) ts
  | .chain p ts => if room = 0 then some p else Term.anyTooDeep? (room - 1) ts
  | _ => none

def Term.anyTooDeep? (room : Nat) : List Term → Option Place
  | [] => none
  | t :: ts =>
    match t.tooDeep? room with
    | some q => some q
    | none => Term.anyTooDeep? room ts

end

end Upkeep.Pattern
