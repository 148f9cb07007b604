import Upkeep.Pattern.Property
import Upkeep.Pattern.Reader

/-!
# What a term means

The meaning of a term depends on the flags that hold where it stands.  Flags hold to the end of the
group in which they are changed, also in the later chains of a choice.  Without the flag `unicode` a
term must not describe anything but ASCII characters, save for characters that stand for themselves.
-/

namespace Upkeep.Pattern

structure Flags where
  ignoreCase : Bool
  multiLine : Bool
  dotAll : Bool
  crlf : Bool
  unicode : Bool
deriving DecidableEq, Repr

namespace Flags

def initial : Flags := ⟨false, false, false, false, true⟩

def change (f : Flags) : FlagChange → Flags
  | (.ignoreCase, on) => { f with ignoreCase := on }
  | (.multiLine, on) => { f with multiLine := on }
  | (.dotAll, on) => { f with dotAll := on }
  | (.crlf, on) => { f with crlf := on }
  | (.unicode, on) => { f with unicode := on }
  | (.swapGreed, _) | (.loose, _) => f

def fold (f : Flags) (s : CharSet) : CharSet :=
  if f.ignoreCase then (if f.unicode then .folded s else .asciiFolded s) else s

/-- the other characters, if that is asked for; there are characters that are not ASCII among
them -/
def negate (f : Flags) (place : Place) (negated : Bool) (s : CharSet) : Except Fault CharSet :=
  if !negated then .ok s
  else if f.unicode then .ok (.compl s)
  else .error ⟨.invalidUtf8, place, none⟩

end Flags

/-! ## sets -/

/-- the character of a literal; a byte beyond ASCII is no character -/
def Literal.meaning (f : Flags) (l : Literal) : Except Fault Char :=
  if !f.unicode && l.isByte && 0x7F < l.char.toNat then .error ⟨.invalidUtf8, l.place, none⟩
  else .ok l.char

def Literal.member (f : Flags) (l : Literal) : Except Fault Char := do
  let c ← l.meaning f
  if !f.unicode && 0x7F < c.toNat then .error ⟨.unicodeNotAllowed, l.place, none⟩ else pure c

def propertySet (f : Flags) (place : Place) (negated : Bool) (q : Query) : Except Fault CharSet :=
  if !f.unicode then .error ⟨.unicodeNotAllowed, place, none⟩
  else
    match q.set with
    | .error kind => .error ⟨kind, place, none⟩
    | .ok s => f.negate place negated (f.fold s)

/-- the characters of a shorthand; case makes no difference to them -/
def shorthandSet (f : Flags) (place : Place) (negated : Bool) (k : Shorthand) :
    Except Fault CharSet :=
  f.negate place negated (k.set f.unicode)

def SetOperation.apply : SetOperation → CharSet → CharSet → CharSet
  | .intersection => .inter
  | .difference => .diff
  | .symmetricDifference => .symDiff

mutual

def ClassTerm.meaning (f : Flags) : ClassTerm → Except Fault CharSet
  | .empty _ => .ok .none
  | .literal l => (l.member f).map .single
  | .range _ a b => do
    let lo ← a.member f
    let hi ← b.member f
    pure (.range lo hi)
  | .ascii p n k => f.negate p n (f.fold k.set)
  | .property p n q => propertySet f p n q
  | .shorthand p n k => shorthandSet f p n k
  | .bracket p n body => do f.negate p n (f.fold (← body.meaning f))
  | .union _ items => ClassTerm.meanings f items
  | .operation _ op l r => do
    let a ← l.meaning f
    let b ← r.meaning f
    pure (op.apply (f.fold a) (f.fold b))

def ClassTerm.meanings (f : Flags) : List ClassTerm → Except Fault CharSet
  | [] => .ok .none
  | c :: cs => do
    let a ← c.meaning f
    let b ← ClassTerm.meanings f cs
    pure (.union a b)

end

/-! ## atoms -/

def EdgeSign.meaning (f : Flags) : EdgeSign → Edge
  | .caret => if f.multiLine then (if f.crlf then .anyLineStart else .lineStart) else .start
  | .dollar => if f.multiLine then (if f.crlf then .anyLineStop else .lineStop) else .stop
  | .textStart => .start
  | .textStop => .stop
  | .word => .word (!f.unicode) true
  | .notWord => .word (!f.unicode) false
  | .wordStart => .wordStart (!f.unicode)
  | .wordStop => .wordStop (!f.unicode)
  | .wordStartHalf => .wordStartHalf (!f.unicode)
  | .wordStopHalf => .wordStopHalf (!f.unicode)

def dotSet (f : Flags) : CharSet :=
  if f.dotAll then .all else if f.crlf then .except ['\n', '\r'] else .except ['\n']

def Atom.meaning (f : Flags) : Atom → Except Fault Pattern
  | .literal l => (l.meaning f).map fun c => .one (f.fold (.single c))
  | .dot p => if f.unicode then .ok (.one (dotSet f)) else .error ⟨.invalidUtf8, p, none⟩
  | .edge _ e => .ok (.edge (e.meaning f))
  | .property p n q => (propertySet f p n q).map .one
  | .shorthand p n k => (shorthandSet f p n k).map .one

/-! ## terms -/

mutual

def Term.meaning (f : Flags) : Term → Except Fault (Pattern × Flags)
  | .empty _ => .ok (.nothing, f)
  | .atom a => (a.meaning f).map (·, f)
  | .bracket c => (c.meaning f).map (.one ·, f)
  | .flags _ changes => .ok (.nothing, changes.foldl Flags.change f)
  | .repetition _ least most t => do
    let (p, f) ← t.meaning f
    pure (.repeated p least most, f)
  | .group _ changes t => do
    let (p, _) ← t.meaning (changes.foldl Flags.change f)
    pure (p, f)
  | .choice _ ts => Term.anyMeaning f ts
  | .chain _ ts => Term.allMeaning f ts

def Term.anyMeaning (f : Flags) : List Term → Except Fault (Pattern × Flags)
  | [] => .ok (.one .none, f)
  | t :: ts => do
    let (p, f) ← t.meaning f
    let (q, f) ← Term.anyMeaning f ts
    pure (.alt p q, f)

def Term.allMeaning (f : Flags) : List Term → Except Fault (Pattern × Flags)
  | [] => .ok (.nothing, f)
  | t :: ts => do
    let (p, f) ← t.meaning f
    let (q, f) ← Term.allMeaning f ts
    pure (.seq p q, f)

end

def ofText (t : Text) : Except Fault Pattern := do
  let term ← Term.ofText t
  let (p, _) ← term.meaning .initial
  pure p

end Upkeep.Pattern
