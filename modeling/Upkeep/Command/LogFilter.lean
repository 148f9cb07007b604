import Upkeep.Notice
import Upkeep.Pattern.Meaning
import Upkeep.Text.Utf8

/-!
# Log filters

A filter says which notices are told.  Its rules give a level to the origins that begin with
a name; of the rules that apply the one with the longest name decides, and a rule without a name
applies to all.  Besides, a pattern may have to occur in the message.  Filters are written
`name=level,name,level/pattern`.
-/

namespace Upkeep

inductive Threshold where
  | off
  /-- this level and the graver ones -/
  | upTo (level : Level)
deriving DecidableEq, Repr

namespace Threshold

def admits (h : Threshold) (l : Level) : Bool :=
  match h with
  | off => false
  | upTo m => l.rank ≤ m.rank

private def lowerLetter (c : Char) : Char :=
  if 'A' ≤ c ∧ c ≤ 'Z' then Char.ofNat (c.toNat + 32) else c

/-- a threshold by its name, in any case of letters -/
def ofName? (t : Text) : Option Threshold :=
  let name := t.map lowerLetter
  if name = "off".toList then some off
  else if name = "error".toList then some (upTo .error)
  else if name = "warn".toList then some (upTo .warn)
  else if name = "info".toList then some (upTo .info)
  else if name = "debug".toList then some (upTo .debug)
  else if name = "trace".toList then some (upTo .trace)
  else none

end Threshold

structure LogFilter where
  /-- thresholds for the origins that begin with a name, or for all of them -/
  rules : List (Option Text × Threshold)
  pattern : Option Pattern
deriving DecidableEq, Repr

namespace LogFilter

/-! ## reading -/

def rule (t : Text) : Except Text (Option Text × Threshold) :=
  match Text.split '=' t with
  | [a] =>
    match Threshold.ofName? a with
    | some h => .ok (none, h)
    | none => .ok (some a, .upTo .trace)
  | [a, b] =>
    let b := b.trim
    if b.isEmpty then .ok (some a, .upTo .trace)
    else
      match Threshold.ofName? b with
      | some h => .ok (some a, h)
      | none => .error b
  | _ => .error t

/-- the rule in place of the one for the same name, or after the others -/
def setRule (rs : List (Option Text × Threshold)) (r : Option Text × Threshold) :
    List (Option Text × Threshold) :=
  if rs.any (·.1 = r.1) then rs.map fun x => if x.1 = r.1 then r else x else rs ++ [r]

def warning (what : Text) : Text := "warning: ".toList ++ what ++ ", ignoring it".toList

def badPart (part : Text) (why : String) : Text :=
  warning ("invalid logging spec '".toList ++ part ++ "'".toList ++ why.toList)

def badPattern (why : Text) : Text := warning ("invalid regex filter - ".toList ++ why)

/-- how large a pattern can be -/
def maxSize : Nat := 10485760

def tooLarge : String :=
  "Compiled regex exceeds size limit of " ++ toString maxSize ++ " bytes."

def readPattern : Option Text → Option Pattern × List Text
  | none => (none, [])
  | some t =>
    match Pattern.ofText t with
    | .ok p => if p.size ≤ maxSize then (some p, []) else (none, [badPattern tooLarge.toList])
    | .error f => (none, [badPattern (f.report t)])

/-- the filter of a specification, over a threshold for all origins, and what is said of the parts
that cannot be read -/
def ofSpec (base : Threshold) (spec : Text) : LogFilter × List Text :=
  match Text.split '/' spec with
  | names :: rest =>
    if 1 < rest.length then (⟨[(none, base)], none⟩, [badPart spec " (too many '/'s)"])
    else
      let parsed := (((Text.split ',' names).map Text.trim).filter (!·.isEmpty)).map rule
      let rules := parsed.filterMap fun | .ok r => some r | .error _ => none
      let faults := parsed.filterMap fun | .ok _ => none | .error e => some (badPart e "")
      let (pattern, fault) := readPattern rest.head?
      (⟨rules.foldl setRule [(none, base)], pattern⟩, faults ++ fault)
  | [] => (⟨[(none, base)], none⟩, [])

/-! ## filtering -/

/-- a rule without a name, or for a beginning of the origin, applies -/
def applies (origin : Text) (r : Option Text × Threshold) : Bool :=
  r.1.all (·.isPrefixOf origin)

/-- the length of the name of a rule, in bytes -/
def nameLength (r : Option Text × Threshold) : Nat := (Text.encode (r.1.getD [])).length

/-- the rule that decides about an origin: the longest name that the origin begins with, and of
several of one length the last -/
def decisive? (f : LogFilter) (origin : Text) : Option Threshold :=
  ((f.rules.filter (applies origin)).foldl
    (fun best r =>
      match best with
      | none => some r
      | some b => if nameLength b ≤ nameLength r then some r else some b)
    none).map (·.2)

def admits (f : LogFilter) (n : Notice) : Bool :=
  match f.decisive? n.origin.toList with
  | none => false
  | some h => h.admits n.level && f.pattern.all (·.occursIn n.message.toList)

end LogFilter

end Upkeep
