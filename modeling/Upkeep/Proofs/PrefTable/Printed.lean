import Upkeep.Firefox.PrefTable

/-!
# Printed entries

An entry is printed on one line, or in two halves: `Labels.firstHalf` and `Labels.secondHalf`.
This file says how each printed line is read.  The comma in front of the flag is the hard part: with
white space on one side of it the macro ends where it should (`ofText_whole_flag`), without any it
runs on over the flag (`ofText_whole_tight`), and a second half is no line of an entry once white
space stands before the comma (`ofText_secondHalf_spaced`).
-/

namespace Upkeep

open Text

theorem white_blank : ∀ c ∈ [' '], isWhite c = true := List.forall_mem_singleton.2 (by decide)

/-! ## labels -/

/-- letters and digits of ASCII, and the underscore -/
def isWordChar (c : Char) : Bool :=
  ('0' ≤ c && c ≤ '9') || ('A' ≤ c && c ≤ 'Z') || c == '_' || ('a' ≤ c && c ≤ 'z')

theorem toNat_of_isWordChar {c : Char} (h : isWordChar c = true) :
    (48 ≤ c.toNat ∧ c.toNat ≤ 57) ∨ (65 ≤ c.toNat ∧ c.toNat ≤ 90) ∨ c.toNat = 95 ∨
      (97 ≤ c.toNat ∧ c.toNat ≤ 122) := by
  simp only [isWordChar, Bool.or_eq_true, Bool.and_eq_true, decide_eq_true_eq, beq_iff_eq,
    Char.le_def, UInt32.le_iff_toNat_le] at h
  rcases h with ((h | h) | rfl) | h
  · exact .inl h
  · exact .inr (.inl h)
  · exact .inr (.inr (.inl rfl))
  · exact .inr (.inr (.inr h))

theorem isWhite_of_isWordChar {c : Char} (h : isWordChar c = true) : isWhite c = false := by
  have hn := toNat_of_isWordChar h
  simp only [isWhite, Bool.or_eq_false_iff, Bool.and_eq_false_iff, decide_eq_false_iff_not,
    beq_eq_false_iff_ne]
  omega

/-- a preference and a suite as they can stand in an entry -/
structure Labels where
  name : Text
  macroName : Text
  name_ne_nil : name ≠ []
  quote_notMem : '"' ∉ name
  newline_notMem : '\n' ∉ name
  macroName_ne_nil : macroName ≠ []
  isWordChar_of_mem : ∀ c ∈ macroName, isWordChar c = true

def Labels.sample : Labels where
  name := "p".toList
  macroName := "TLS_X".toList
  name_ne_nil := by decide
  quote_notMem := by decide
  newline_notMem := by decide
  macroName_ne_nil := by decide
  isWordChar_of_mem := List.all_eq_true.1 (by decide)

def flagText (flag : Bool) : Text := if flag then "true".toList else "false".toList

/-- a flag and the end of its entry, with `a` before the comma and `b` after it -/
def flagTail (a b : Text) (flag : Bool) : Text :=
  a ++ ',' :: (b ++ (flagText flag ++ [' ', '}', ',']))

/-- the end of an entry without a flag -/
def bareTail : Text := [' ', '}', ',']

namespace Labels

def firstHalf (x : Labels) : Text := '{' :: ' ' :: '"' :: (x.name ++ ['"', ','])

/-- the macro, and what ends the entry -/
def secondHalf (x : Labels) (tail : Text) : Text := x.macroName ++ tail

def whole (x : Labels) (tail : Text) : Text := x.firstHalf ++ ' ' :: x.secondHalf tail

end Labels

/-! ## ends of entries -/

namespace EntryLine

theorem skipWhite_flagText {w : Text} (hw : ∀ c ∈ w, isWhite c = true) (flag : Bool) (r : Text) :
    skipWhite (w ++ (flagText flag ++ r)) = flagText flag ++ r := by
  rw [skipWhite_append hw]
  cases flag with
  | false => exact skipWhite_cons (by decide) _
  | true => exact skipWhite_cons (by decide) _

theorem flag?_comma {w : Text} (hw : ∀ c ∈ w, isWhite c = true) (flag : Bool) (r : Text) :
    flag? (',' :: (w ++ (flagText flag ++ r))) = some (flag, r) := by
  simp only [flag?, after?, if_true, skipWhite_flagText hw, Option.bind_eq_bind, Option.bind_some]
  cases flag with
  | false => rfl
  | true => rfl

theorem entryEnd?_flagTail {a b : Text} (ha : ∀ c ∈ a, isWhite c = true)
    (hb : ∀ c ∈ b, isWhite c = true) (flag : Bool) :
    entryEnd? (flagTail a b flag) = some flag := by
  have hs : skipWhite (flagTail a b flag) = ',' :: (b ++ (flagText flag ++ [' ', '}', ','])) := by
    rw [flagTail, skipWhite_append ha]
    exact skipWhite_cons (by decide) _
  rw [entryEnd?, hs, flag?_comma hb]
  rfl

theorem entryEnd?_bareTail : entryEnd? bareTail = some false := rfl

theorem closerEnd?_flagTail {b : Text} (hb : ∀ c ∈ b, isWhite c = true) (flag : Bool) :
    closerEnd? (flagTail [] b flag) = some flag := by
  have hf : flag? (flagTail [] b flag) = some (flag, [' ', '}', ',']) := flag?_comma hb flag _
  rw [closerEnd?]
  split
  · next h =>
    rw [hf] at h
    cases h
  · next h =>
    rw [hf] at h
    cases h
    rfl

/-! ## no longer macro -/

/-- a run without white space does not reach into a text that starts with white space -/
theorem eq_nil_of_white_head {c : Char} (hc : isWhite c = true) {t k s : Text}
    (h : c :: t = k ++ s) (hk : ∀ d ∈ k, isWhite d = false) : k = [] := by
  cases k with
  | nil => rfl
  | cons d k =>
    obtain rfl : c = d := List.head_eq_of_cons_eq h
    have := hk c List.mem_cons_self
    rw [hc] at this
    cases this

/-- after a run without white space inside `u`, which has no comma, stands no comma -/
theorem head?_ne_comma {u v k s : Text} {c : Char} (hc : isWhite c = true) (hu : ',' ∉ u)
    (h : u ++ c :: v = k ++ s) (hk : ∀ d ∈ k, isWhite d = false) : s.head? ≠ some ',' := by
  have hcc : c ≠ ',' := fun he => by
    rw [he] at hc
    exact absurd hc (by decide)
  rcases List.append_eq_append_iff.1 h with ⟨k', rfl, hs⟩ | ⟨u', rfl, rfl⟩
  · obtain rfl := eq_nil_of_white_head hc hs fun d hd => hk d (List.mem_append_right _ hd)
    obtain rfl : c :: v = s := hs
    simpa using hcc
  · cases u' with
    | nil => simpa using hcc
    | cons d u' =>
      have hd : d ≠ ',' := fun he => hu (by simp [he])
      simpa using hd

theorem comma_notMem_flagText (flag : Bool) : ',' ∉ flagText flag := by
  cases flag <;> decide

theorem comma_notMem_white {w : Text} (hw : ∀ c ∈ w, isWhite c = true) : ',' ∉ w := fun h =>
  absurd (hw _ h) (by decide)

/-- a flag set off by white space is not the end of an entry without its comma -/
theorem entryEnd?_flag_eq_none {w : Text} (hw : ∀ c ∈ w, isWhite c = true) (flag : Bool)
    (r : Text) : entryEnd? (w ++ (flagText flag ++ r)) = none := by
  refine entryEnd?_eq_none ?_ ?_
  · rw [skipWhite_flagText hw]
    cases flag <;> simp [flagText]
  · rw [skipWhite_flagText hw]
    cases flag <;> simp [flagText]

/-! ## printed lines -/

variable (x : Labels)

theorem isWhite_macroName : ∀ c ∈ x.macroName, isWhite c = false := fun c hc =>
  isWhite_of_isWordChar (x.isWordChar_of_mem c hc)

theorem opening?_firstHalf (rest : Text) : opening? (x.firstHalf ++ rest) = some (x.name, rest) := by
  have h := opening?_quoted white_blank x.name_ne_nil x.quote_notMem rest
  rw [← h, Labels.firstHalf]
  simp

theorem ofText_firstHalf : ofText x.firstHalf = some (.opener x.name) := by
  have h := ofText_of_opening (opening?_firstHalf x [])
  rw [List.append_nil] at h
  rw [h]
  rfl

/-- a complete entry is read with the macro after which no longer one ends an entry -/
theorem ofText_whole_of_end {m r : Text} {b : Bool} (hne : m ≠ [])
    (hm : ∀ c ∈ m, isWhite c = false) (h : entryEnd? r = some b)
    (hmax : ∀ k s, r = k ++ s → k ≠ [] → (∀ c ∈ k, isWhite c = false) → entryEnd? s = none) :
    ofText (x.firstHalf ++ ' ' :: (m ++ r)) = some (.entry x.name m b) := by
  have hs : skipWhite (' ' :: (m ++ r)) = m ++ r := by
    rw [skipWhite_cons_white (by decide)]
    obtain ⟨c, m, rfl⟩ := List.exists_cons_of_ne_nil hne
    exact skipWhite_cons (hm c List.mem_cons_self) _
  rw [ofText_of_opening (opening?_firstHalf x _), hs, longestNonempty_eq_some hne hm h hmax]

theorem ofText_whole_bare : ofText (x.whole bareTail) = some (.entry x.name x.macroName false) :=
  ofText_whole_of_end x x.macroName_ne_nil (isWhite_macroName x) entryEnd?_bareTail
    fun _ _ h hne hk => absurd (eq_nil_of_white_head (by decide) h hk) hne

/-- with white space on one side of the comma the entry is read as it was printed -/
theorem ofText_whole_flag {a b : Text} (ha : ∀ c ∈ a, isWhite c = true)
    (hb : ∀ c ∈ b, isWhite c = true) (hab : a ≠ [] ∨ b ≠ []) (flag : Bool) :
    ofText (x.whole (flagTail a b flag)) = some (.entry x.name x.macroName flag) := by
  refine ofText_whole_of_end x x.macroName_ne_nil (isWhite_macroName x)
    (entryEnd?_flagTail ha hb flag) fun k s h hne hk => ?_
  cases a with
  | cons c a => exact absurd (eq_nil_of_white_head (ha c List.mem_cons_self) h hk) hne
  | nil =>
    -- the only longer macro takes the comma, and then the flag has none
    obtain ⟨c, k, rfl⟩ := List.exists_cons_of_ne_nil hne
    obtain ⟨d, b, rfl⟩ := List.exists_cons_of_ne_nil (hab.resolve_left fun h => h rfl)
    have hs : d :: (b ++ (flagText flag ++ [' ', '}', ','])) = k ++ s := (List.cons.inj h).2
    obtain rfl := eq_nil_of_white_head (hb d List.mem_cons_self) hs fun e he =>
      hk e (List.mem_cons_of_mem _ he)
    obtain rfl : _ = s := hs
    exact entryEnd?_flag_eq_none hb flag _

/-- without white space around the comma the macro takes the comma and the flag with it -/
theorem ofText_whole_tight (flag : Bool) : ofText (x.whole (flagTail [] [] flag)) =
    some (.entry x.name (x.macroName ++ ',' :: flagText flag) false) := by
  have hw : x.whole (flagTail [] [] flag) =
      x.firstHalf ++ ' ' :: ((x.macroName ++ ',' :: flagText flag) ++ bareTail) := by
    simp [Labels.whole, Labels.secondHalf, flagTail, bareTail]
  rw [hw]
  refine ofText_whole_of_end x (by simp) ?_ entryEnd?_bareTail
    fun _ _ h hne hk => absurd (eq_nil_of_white_head (by decide) h hk) hne
  have hf : ((',' :: flagText flag).all fun c => !isWhite c) = true := by
    cases flag <;> decide
  intro c hc
  rcases List.mem_append.1 hc with h | h
  · exact isWhite_macroName x c h
  · simpa using List.all_eq_true.1 hf c h

/-- a second half does not open an entry -/
theorem ofText_secondHalf_eq (tail : Text) : ofText (x.secondHalf tail) =
    (longestNonempty closerEnd? (x.macroName ++ tail)).map fun y => .closer y.1 y.2 := by
  obtain ⟨c, m, hm⟩ := List.exists_cons_of_ne_nil x.macroName_ne_nil
  have hc : isWordChar c = true := x.isWordChar_of_mem c (hm ▸ List.mem_cons_self)
  have ho : opening? (x.secondHalf tail) = none := opening?_eq_none fun h => by
    rw [Labels.secondHalf, hm] at h
    obtain rfl : c = '{' := Option.some.inj h
    exact absurd hc (by decide)
  have hs : skipWhite (x.secondHalf tail) = x.macroName ++ tail := by
    rw [Labels.secondHalf, hm]
    exact skipWhite_cons (isWhite_of_isWordChar hc) _
  rw [ofText_of_no_opening ho, closer?, hs]

theorem ofText_secondHalf {b : Text} (hb : ∀ c ∈ b, isWhite c = true) (flag : Bool) :
    ofText (x.secondHalf (flagTail [] b flag)) = some (.closer x.macroName flag) := by
  rw [ofText_secondHalf_eq, longestNonempty_eq_some x.macroName_ne_nil (isWhite_macroName x)
    (closerEnd?_flagTail hb flag) fun k s h hne hk => ?_]
  · rfl
  · obtain ⟨c, k, rfl⟩ := List.exists_cons_of_ne_nil hne
    have hs : (b ++ flagText flag) ++ ' ' :: ['}', ','] = k ++ s := by
      rw [List.append_assoc]
      exact (List.cons.inj h).2
    refine closerEnd?_eq_none (head?_ne_comma (by decide) ?_ hs fun e he =>
      hk e (List.mem_cons_of_mem _ he))
    exact fun hmem => (List.mem_append.1 hmem).elim (comma_notMem_white hb)
      (comma_notMem_flagText flag)

/-- a second half with white space before its comma is not taken for one -/
theorem ofText_secondHalf_spaced {a : Text} (ha : ∀ c ∈ a, isWhite c = true) (hne : a ≠ [])
    (b : Text) (flag : Bool) : ofText (x.secondHalf (flagTail a b flag)) = none := by
  obtain ⟨c, a, rfl⟩ := List.exists_cons_of_ne_nil hne
  have hm : ',' ∉ x.macroName := fun h => absurd (x.isWordChar_of_mem _ h) (by decide)
  have hn : longestNonempty closerEnd? (x.macroName ++ flagTail (c :: a) b flag) = none :=
    longestNonempty_eq_none fun m r h _ hw =>
      closerEnd?_eq_none (head?_ne_comma (ha c List.mem_cons_self) hm h hw)
  rw [ofText_secondHalf_eq, hn]
  rfl

end EntryLine

end Upkeep
