import Upkeep.Text.Token

/-!
# Lines of the preference table

An entry `{ "name", MACRO, flag },` of the preference table stands on one line, or on two: an opener
`{ "name",` and a closer `MACRO, flag },`.  Everything after the closing brace, and after the comma
of an opener, is free.

The macro of an entry is the longest run without white space that leaves a readable rest.  A comma
in front of a flag belongs to the macro when white space or a second comma lets it.
-/

namespace Upkeep

open Text

inductive EntryLine where
  | entry (name macroName : Text) (enabled : Bool)
  | opener (name : Text)
  | closer (macroName : Text) (enabled : Bool)
deriving DecidableEq, Repr

namespace EntryLine

/-! ## parts of a line -/

/-- `{ "name",` at the front: the name and what follows the comma -/
def opening? (t : Text) : Option (Text × Text) := do
  let t ← after? ['{'] t
  let t ← after? ['"'] (skipWhite t)
  let name := t.takeWhile (· ≠ '"')
  let rest ← after? ['"', ','] (t.dropWhile (· ≠ '"'))
  if name.isEmpty then none else pure (name, rest)

/-- a comma, white space and a flag at the front: the flag and what follows it -/
def flag? (t : Text) : Option (Bool × Text) := do
  let t := skipWhite (← after? [','] t)
  match after? "true".toList t with
  | some r => pure (true, r)
  | none => (after? "false".toList t).map (false, ·)

def closes (t : Text) : Bool := (skipWhite t).head? == some '}'

/-- the end of a complete entry: at most one flag, then the brace; the answer is the flag -/
def entryEnd? (t : Text) : Option Bool :=
  match flag? (skipWhite t) with
  | some (b, r) => if closes r then some b else none
  | none => if closes t then some false else none

theorem length_of_flag? {t r : Text} {b : Bool} (h : flag? t = some (b, r)) :
    r.length < t.length := by
  have drop : ∀ u : Text, (skipWhite u).length ≤ u.length := fun u =>
    (List.dropWhile_suffix isWhite).length_le
  cases t with
  | nil => simp [flag?, after?] at h
  | cons c t =>
    by_cases hc : c = ','
    · subst hc
      simp only [flag?, after?, if_true, Option.bind_eq_bind, Option.bind_some] at h
      have hd := drop t
      simp only [List.length_cons]
      split at h
      · next r' hr =>
        simp only [Option.pure_def, Option.some.injEq, Prod.mk.injEq] at h
        obtain ⟨_, rfl⟩ := h
        have := congrArg List.length (after?_eq_some_iff.1 hr)
        simp only [List.length_append] at this
        omega
      · obtain ⟨r', hr, he⟩ := Option.map_eq_some_iff.1 h
        simp only [Prod.mk.injEq] at he
        obtain ⟨_, rfl⟩ := he
        have := congrArg List.length (after?_eq_some_iff.1 hr)
        simp only [List.length_append] at this
        omega
    · simp [flag?, after?, Ne.symm hc] at h

/-- the end of a second half: one flag or more, then the brace; the answer is the last flag -/
def closerEnd? (t : Text) : Option Bool :=
  match _h : flag? t with
  | none => none
  | some (b, r) =>
    if r.head? = some ',' then closerEnd? r
    else if closes r then some b else none
termination_by t.length
decreasing_by exact length_of_flag? _h

/-! ## whole lines -/

def whole? (t : Text) : Option EntryLine := do
  let (name, rest) ← opening? t
  let (macroName, enabled) ← longestNonempty entryEnd? (skipWhite rest)
  pure (.entry name macroName enabled)

def opener? (t : Text) : Option EntryLine :=
  (opening? t).map fun x => .opener x.1

def closer? (t : Text) : Option EntryLine :=
  (longestNonempty closerEnd? (skipWhite t)).map fun x => .closer x.1 x.2

/-- what the line is: a complete entry before a first half, and that before a second half -/
def ofText (t : Text) : Option EntryLine :=
  (whole? t).or ((opener? t).or (closer? t))

/-! ## what the parts need at their front -/

theorem flag?_eq_none {t : Text} (h : t.head? ≠ some ',') : flag? t = none := by
  cases t with
  | nil => rfl
  | cons c t =>
    have hc : ',' ≠ c := fun hc => h (by rw [hc]; rfl)
    simp [flag?, after?, hc]

theorem closerEnd?_eq_none {t : Text} (h : t.head? ≠ some ',') : closerEnd? t = none := by
  rw [closerEnd?]
  split
  · rfl
  · next hf =>
    rw [flag?_eq_none h] at hf
    cases hf

theorem entryEnd?_eq_none {t : Text} (hc : (skipWhite t).head? ≠ some ',')
    (hb : (skipWhite t).head? ≠ some '}') : entryEnd? t = none := by
  have hcl : closes t = false := by simpa [closes] using hb
  rw [entryEnd?, flag?_eq_none hc, hcl]
  rfl

theorem opening?_eq_none {t : Text} (h : t.head? ≠ some '{') : opening? t = none := by
  cases t with
  | nil => rfl
  | cons c t =>
    have hc : '{' ≠ c := fun hc => h (by rw [hc]; rfl)
    simp [opening?, after?, hc]

theorem opening?_quoted {w name : Text} (hw : ∀ c ∈ w, isWhite c = true) (hne : name ≠ [])
    (hq : '"' ∉ name) (rest : Text) :
    opening? ('{' :: (w ++ '"' :: (name ++ '"' :: ',' :: rest))) = some (name, rest) := by
  have hp : ∀ c ∈ name, decide (c ≠ '"') = true := fun c hc => by
    simpa using fun he : c = '"' => hq (he ▸ hc)
  have hs : skipWhite (w ++ '"' :: (name ++ '"' :: ',' :: rest)) =
      '"' :: (name ++ '"' :: ',' :: rest) := by
    rw [skipWhite_append hw, skipWhite_cons (by decide)]
  have ht : (name ++ '"' :: ',' :: rest).takeWhile (· ≠ '"') = name := by
    rw [List.takeWhile_append_of_pos hp]
    simp
  have hd : (name ++ '"' :: ',' :: rest).dropWhile (· ≠ '"') = '"' :: ',' :: rest := by
    rw [List.dropWhile_append_of_pos hp]
    simp
  have he : name.isEmpty = false := by simpa using hne
  simp only [opening?, after?, if_true, hs, ht, hd, Option.bind_eq_bind, Option.bind_some,
    Option.pure_def]
  rw [he]
  rfl

/-! ## whole lines by their parts -/

theorem ofText_of_opening {t name rest : Text} (h : opening? t = some (name, rest)) :
    ofText t = match longestNonempty entryEnd? (skipWhite rest) with
      | some (m, b) => some (.entry name m b)
      | none => some (.opener name) := by
  simp only [ofText, whole?, opener?, h, Option.bind_eq_bind, Option.bind_some, Option.map_some]
  cases longestNonempty entryEnd? (skipWhite rest) with
  | none => rfl
  | some x => rfl

theorem ofText_of_no_opening {t : Text} (h : opening? t = none) : ofText t = closer? t := by
  simp [ofText, whole?, opener?, h]

end EntryLine

end Upkeep
