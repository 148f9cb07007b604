import Upkeep.Proofs.PrefTable.ClosedEntries
import Upkeep.Proofs.Text.Tokens

/-!
# The forms of an entry line

A line of the preference table is read from the front, with the longest macro that leaves a readable
rest.  Here its forms are told without a reader, by the pieces that the line can be divided into:

* `EntryForm t n m flag`   `{`, name, macro, at most one flag, `}`;
* `OpenerForm t n`         `{`, name, comma;
* `CloserForm t m b`       macro, one flag or more, the last of which is `b`, `}`.

A line can have many such divisions.  They agree on the name, which ends at its second quote, but a
macro may hold commas, flags and braces, and so end in several places; behind each place there is at
most one way to go on.  Main statement: `ofText` takes the first of the three forms that the line
has, in the division with the longest macro.
-/

namespace Upkeep.EntryLine

open Text

variable {t g gs r n m rest : Text} {b : Bool} {flag : Option Bool}

/-! ## pieces of a line -/

/-- `{`, white space, a name in quotes and a comma stand in front of `rest` -/
def Opened (t n rest : Text) : Prop :=
  ∃ w, White w ∧ n ≠ [] ∧ '"' ∉ n ∧ t = '{' :: (w ++ '"' :: (n ++ '"' :: ',' :: rest))

/-- a comma, white space and the flag `b` -/
def FlagForm (g : Text) (b : Bool) : Prop := ∃ w, White w ∧ g = ',' :: (w ++ flagText b)

/-- a flag or nothing -/
inductive OptionalFlag : Text → Option Bool → Prop
  | absent : OptionalFlag [] none
  | present {g : Text} {b : Bool} : FlagForm g b → OptionalFlag g (some b)

/-- one flag or more, the last of which is `b` -/
inductive Flags : Text → Bool → Prop
  | last {g : Text} {b : Bool} : FlagForm g b → Flags g b
  | more {g gs : Text} {b b' : Bool} : FlagForm g b → Flags gs b' → Flags (g ++ gs) b'

/-- white space, a closing brace, and whatever follows -/
def Braced (t : Text) : Prop := ∃ w rest, White w ∧ t = w ++ '}' :: rest

/-! ## whole lines -/

def EntryForm (t n m : Text) (flag : Option Bool) : Prop :=
  ∃ rest w w' g r, Opened t n rest ∧ White w ∧ Solid m ∧ White w' ∧ OptionalFlag g flag ∧
    Braced r ∧ rest = w ++ (m ++ (w' ++ (g ++ r)))

def OpenerForm (t n : Text) : Prop := ∃ rest, Opened t n rest

def CloserForm (t m : Text) (b : Bool) : Prop :=
  ∃ w gs r, White w ∧ Solid m ∧ Flags gs b ∧ Braced r ∧ t = w ++ (m ++ (gs ++ r))

/-! ## what the readers of the pieces accept -/

theorem opening?_eq_some_iff : opening? t = some (n, rest) ↔ Opened t n rest := by
  constructor
  · intro h
    unfold opening? at h
    simp only [Option.bind_eq_bind, Option.bind_eq_some_iff, after?_eq_some_iff] at h
    obtain ⟨u, rfl, v, hv, s, hs, h⟩ := h
    split at h
    · cases h
    · next hne =>
      obtain ⟨rfl, rfl⟩ : v.takeWhile (· ≠ '"') = n ∧ s = rest := by simpa using h
      obtain ⟨w, hu, hw⟩ := exists_white_append u
      refine ⟨w, hw, ?_, ?_, ?_⟩
      · simpa using hne
      · intro hmem
        simpa using List.mem_takeWhile_imp hmem
      · have hsplit : v.takeWhile (· ≠ '"') ++ ['"', ','] ++ s = v := by
          rw [List.append_assoc, ← hs, List.takeWhile_append_dropWhile]
        rw [hv, ← hsplit, List.append_assoc] at hu
        exact congrArg ('{' :: ·) hu
  · rintro ⟨w, hw, hne, hq, rfl⟩
    exact opening?_quoted hw hne hq rest

theorem flag?_eq_some_iff : flag? t = some (b, r) ↔ ∃ g, FlagForm g b ∧ t = g ++ r := by
  constructor
  · intro h
    have hcomma : t.head? = some ',' := by
      apply Classical.byContradiction
      intro hne
      rw [flag?_eq_none hne] at h
      cases h
    obtain ⟨u, rfl⟩ := List.head?_eq_some_iff.1 hcomma
    obtain ⟨w, hu, hw⟩ := exists_white_append u
    rw [eq_flagText_of_flag? h] at hu
    refine ⟨_, ⟨w, hw, rfl⟩, ?_⟩
    rw [hu, List.cons_append, List.append_assoc]
  · rintro ⟨g, ⟨w, hw, rfl⟩, rfl⟩
    rw [List.cons_append, List.append_assoc]
    exact flag?_comma hw b r

theorem FlagForm.exists_cons (h : FlagForm g b) : ∃ u, g = ',' :: u := by
  obtain ⟨w, -, rfl⟩ := h
  exact ⟨_, rfl⟩

theorem Flags.exists_cons (h : Flags gs b) : ∃ u, gs = ',' :: u := by
  cases h with
  | last hg => exact hg.exists_cons
  | more hg _ =>
    obtain ⟨u, rfl⟩ := hg.exists_cons
    exact ⟨_, rfl⟩

theorem Braced.skipWhite_eq (h : Braced t) : ∃ rest, skipWhite t = '}' :: rest := by
  obtain ⟨w, rest, hw, rfl⟩ := h
  refine ⟨rest, ?_⟩
  rw [skipWhite_append hw]
  exact skipWhite_cons (by decide) rest

theorem closes_iff : closes t = true ↔ Braced t := by
  constructor
  · intro h
    obtain ⟨rest, hrest⟩ := List.head?_eq_some_iff.1 (beq_iff_eq.1 h)
    obtain ⟨w, ht, hw⟩ := exists_white_append t
    exact ⟨w, rest, hw, by rwa [hrest] at ht⟩
  · intro h
    obtain ⟨rest, hrest⟩ := h.skipWhite_eq
    show ((skipWhite t).head? == some '}') = true
    rw [hrest]
    rfl

theorem Braced.head_ne_comma (h : Braced t) : t.head? ≠ some ',' := by
  intro hcomma
  obtain ⟨u, rfl⟩ := List.head?_eq_some_iff.1 hcomma
  obtain ⟨rest, hrest⟩ := h.skipWhite_eq
  rw [skipWhite_cons (by decide)] at hrest
  cases hrest

/-! ## the end of an entry -/

theorem entryEnd?_eq_some_iff : entryEnd? t = some b ↔
    ∃ w g r flag, White w ∧ OptionalFlag g flag ∧ Braced r ∧ t = w ++ (g ++ r) ∧
      b = (flag == some true) := by
  constructor
  · intro h
    obtain ⟨w, ht, hw⟩ := exists_white_append t
    unfold entryEnd? at h
    split at h
    · next b' r hflag =>
      split at h
      · next hcl =>
        obtain rfl : b' = b := Option.some.inj h
        obtain ⟨g, hg, hs⟩ := flag?_eq_some_iff.1 hflag
        rw [hs] at ht
        refine ⟨w, g, r, _, hw, .present hg, closes_iff.1 hcl, ht, ?_⟩
        cases b' <;> rfl
      · cases h
    · split at h
      · next hcl =>
        obtain rfl : false = b := Option.some.inj h
        exact ⟨[], [], t, none, white_nil, .absent, closes_iff.1 hcl, rfl, rfl⟩
      · cases h
  · rintro ⟨w, g, r, flag, hw, hflag, hr, rfl, rfl⟩
    unfold entryEnd?
    cases hflag with
    | absent =>
      -- what follows the white space is the brace, which starts no flag
      obtain ⟨rest, hrest⟩ := hr.skipWhite_eq
      have hs : skipWhite (w ++ ([] ++ r)) = '}' :: rest := by
        rw [List.nil_append, skipWhite_append hw, hrest]
      have hcl : closes (w ++ ([] ++ r)) = true := by
        unfold closes
        rw [hs]
        rfl
      have hnone : flag? ('}' :: rest) = none := flag?_eq_none (by simp)
      rw [hs, hnone, hcl]
      rfl
    | @present _ b hg =>
      have hflag : flag? (g ++ r) = some (b, r) := flag?_eq_some_iff.2 ⟨g, hg, rfl⟩
      have hs : skipWhite (w ++ (g ++ r)) = g ++ r := by
        obtain ⟨u, rfl⟩ := hg.exists_cons
        rw [skipWhite_append hw]
        exact skipWhite_cons (by decide) _
      rw [hs, hflag]
      show (if closes r = true then some b else none) = _
      rw [if_pos (closes_iff.2 hr)]
      cases b <;> rfl

/-! ## the end of a second half -/

theorem closerEnd?_of_flag? (h : flag? t = some (b, r)) : closerEnd? t =
    if r.head? = some ',' then closerEnd? r else if closes r then some b else none := by
  rw [closerEnd?]
  split
  · next hnone =>
    rw [h] at hnone
    cases hnone
  · next hsome =>
    rw [h] at hsome
    cases hsome
    rfl

theorem exists_flags_of_closerEnd? (h : closerEnd? t = some b) :
    ∃ gs r, Flags gs b ∧ Braced r ∧ t = gs ++ r := by
  induction ht : t.length using Nat.strongRecOn generalizing t with
  | _ k ih =>
    cases hflag : flag? t with
    | none =>
      rw [closerEnd?] at h
      split at h
      · cases h
      · next hsome =>
        rw [hflag] at hsome
        cases hsome
    | some x =>
      obtain ⟨b', r⟩ := x
      obtain ⟨g, hg, rfl⟩ := flag?_eq_some_iff.1 hflag
      rw [closerEnd?_of_flag? hflag] at h
      split at h
      · obtain ⟨gs, s, hgs, hs, rfl⟩ := ih r.length (ht ▸ length_of_flag? hflag) h rfl
        exact ⟨g ++ gs, s, .more hg hgs, hs, (List.append_assoc g gs s).symm⟩
      · split at h
        · next hcl =>
          obtain rfl : b' = b := Option.some.inj h
          exact ⟨g, r, .last hg, closes_iff.1 hcl, rfl⟩
        · cases h

theorem Flags.closerEnd?_append (h : Flags gs b) (hr : Braced r) :
    closerEnd? (gs ++ r) = some b := by
  induction h with
  | last hg =>
    rw [closerEnd?_of_flag? (flag?_eq_some_iff.2 ⟨_, hg, rfl⟩), if_neg hr.head_ne_comma,
      if_pos (closes_iff.2 hr)]
  | @more g gs b b' hg hgs ih =>
    have hflag : flag? (g ++ gs ++ r) = some (b, gs ++ r) :=
      flag?_eq_some_iff.2 ⟨g, hg, List.append_assoc g gs r⟩
    have hcomma : (gs ++ r).head? = some ',' := by
      obtain ⟨u, rfl⟩ := hgs.exists_cons
      rfl
    rw [closerEnd?_of_flag? hflag, if_pos hcomma, ih]

theorem closerEnd?_eq_some_iff :
    closerEnd? t = some b ↔ ∃ gs r, Flags gs b ∧ Braced r ∧ t = gs ++ r := by
  constructor
  · exact exists_flags_of_closerEnd?
  · rintro ⟨gs, r, hgs, hr, rfl⟩
    exact hgs.closerEnd?_append hr

/-! ## forms and cuts -/

theorem Opened.unique {n' rest' : Text} (h : Opened t n rest) (h' : Opened t n' rest') :
    n = n' ∧ rest = rest' := by
  have he := (opening?_eq_some_iff.2 h).symm.trans (opening?_eq_some_iff.2 h')
  simpa using he

theorem EntryForm.cuts {n' : Text} (ho : Opened t n rest) (h : EntryForm t n' m flag) :
    n' = n ∧ Cuts entryEnd? rest m (flag == some true) := by
  obtain ⟨rest', w, w', g, r, ho', hw, hm, hw', hflag, hr, rfl⟩ := h
  obtain ⟨rfl, rfl⟩ := ho.unique ho'
  have hend := entryEnd?_eq_some_iff.2 ⟨w', g, r, flag, hw', hflag, hr, rfl, rfl⟩
  exact ⟨rfl, w, _, hw, hm, hend, rfl⟩

theorem exists_entryForm_of_cuts (ho : Opened t n rest) (h : Cuts entryEnd? rest m b) :
    ∃ flag, EntryForm t n m flag ∧ b = (flag == some true) := by
  obtain ⟨w, s, hw, hm, hs, rfl⟩ := h
  obtain ⟨w', g, r, flag, hw', hflag, hr, rfl, hb⟩ := entryEnd?_eq_some_iff.1 hs
  exact ⟨flag, ⟨_, w, w', g, r, ho, hw, hm, hw', hflag, hr, rfl⟩, hb⟩

theorem closerForm_iff_cuts : CloserForm t m b ↔ Cuts closerEnd? t m b := by
  constructor
  · rintro ⟨w, gs, r, hw, hm, hgs, hr, rfl⟩
    exact ⟨w, _, hw, hm, closerEnd?_eq_some_iff.2 ⟨gs, r, hgs, hr, rfl⟩, rfl⟩
  · rintro ⟨w, s, hw, hm, hs, rfl⟩
    obtain ⟨gs, r, hgs, hr, rfl⟩ := closerEnd?_eq_some_iff.1 hs
    exact ⟨w, gs, r, hw, hm, hgs, hr, rfl⟩

/-! ## what a line is -/

def IsEntry (t : Text) : Prop := ∃ n m flag, EntryForm t n m flag

def IsOpener (t : Text) : Prop := ∃ n, OpenerForm t n

def IsCloser (t : Text) : Prop := ∃ m b, CloserForm t m b

theorem IsEntry.isOpener (h : IsEntry t) : IsOpener t := by
  obtain ⟨n, m, flag, rest, w, w', g, r, ho, -⟩ := h
  exact ⟨n, rest, ho⟩

/-- with a name at its front the line is an entry or a first half -/
theorem ofText_of_opened (ho : Opened t n rest) :
    (longestNonempty entryEnd? (skipWhite rest) = none ∧ ¬ IsEntry t ∧
      ofText t = some (.opener n)) ∨
    ∃ m b, longestNonempty entryEnd? (skipWhite rest) = some (m, b) ∧ IsEntry t ∧
      ofText t = some (.entry n m b) := by
  have hread := ofText_of_opening (opening?_eq_some_iff.2 ho)
  cases hl : longestNonempty entryEnd? (skipWhite rest) with
  | none =>
    left
    rw [hl] at hread
    refine ⟨rfl, ?_, hread⟩
    rintro ⟨n', m, flag, h⟩
    exact longestNonempty_eq_none_iff.1 hl m _ (h.cuts ho).2
  | some x =>
    right
    rw [hl] at hread
    obtain ⟨flag, h, -⟩ := exists_entryForm_of_cuts ho (longestNonempty_eq_some_iff.1 hl).1
    exact ⟨x.1, x.2, rfl, ⟨n, x.1, flag, h⟩, hread⟩

/-- any other line is a second half, or no line of an entry -/
theorem ofText_of_not_isOpener (h : ¬ IsOpener t) : ofText t =
    (longestNonempty closerEnd? (skipWhite t)).map fun x => .closer x.1 x.2 := by
  apply ofText_of_no_opening
  apply Option.eq_none_iff_forall_ne_some.2
  intro x hx
  exact h ⟨x.1, x.2, opening?_eq_some_iff.1 hx⟩

theorem ofText_eq_entry_iff : ofText t = some (.entry n m b) ↔
    (∃ flag, EntryForm t n m flag ∧ b = (flag == some true)) ∧
      ∀ n' m' flag', EntryForm t n' m' flag' → m'.length ≤ m.length := by
  by_cases hopen : IsOpener t
  · obtain ⟨n₀, rest, ho⟩ := hopen
    have hiff : ofText t = some (.entry n m b) ↔
        n = n₀ ∧ longestNonempty entryEnd? (skipWhite rest) = some (m, b) := by
      rcases ofText_of_opened ho with ⟨hl, -, hread⟩ | ⟨m₀, b₀, hl, -, hread⟩
      · rw [hread, hl]
        simp
      · rw [hread, hl]
        simp [eq_comm]
    rw [hiff, longestNonempty_eq_some_iff]
    constructor
    · rintro ⟨rfl, hcut, hmax⟩
      refine ⟨exists_entryForm_of_cuts ho hcut, ?_⟩
      intro n' m' flag' h
      exact hmax m' _ (h.cuts ho).2
    · rintro ⟨⟨flag, h, rfl⟩, hmax⟩
      obtain ⟨rfl, hcut⟩ := h.cuts ho
      refine ⟨rfl, hcut, ?_⟩
      intro m' b' hcut'
      obtain ⟨flag', h', -⟩ := exists_entryForm_of_cuts ho hcut'
      exact hmax _ m' flag' h'
  · have hne : ofText t ≠ some (.entry n m b) := by
      rw [ofText_of_not_isOpener hopen]
      cases longestNonempty closerEnd? (skipWhite t) <;> simp
    refine iff_of_false hne ?_
    rintro ⟨⟨flag, h, -⟩, -⟩
    exact hopen (IsEntry.isOpener ⟨n, m, flag, h⟩)

theorem exists_entry_iff : (∃ n m b, ofText t = some (.entry n m b)) ↔ IsEntry t := by
  constructor
  · rintro ⟨n, m, b, h⟩
    obtain ⟨⟨flag, hform, -⟩, -⟩ := ofText_eq_entry_iff.1 h
    exact ⟨n, m, flag, hform⟩
  · intro h
    obtain ⟨n, rest, ho⟩ := h.isOpener
    rcases ofText_of_opened ho with ⟨-, hno, -⟩ | ⟨m, b, -, -, hread⟩
    · exact absurd h hno
    · exact ⟨n, m, b, hread⟩

theorem ofText_eq_opener_iff :
    ofText t = some (.opener n) ↔ ¬ IsEntry t ∧ OpenerForm t n := by
  by_cases hopen : IsOpener t
  · obtain ⟨n₀, rest, ho⟩ := hopen
    have hname : OpenerForm t n ↔ n = n₀ := by
      constructor
      · rintro ⟨rest', ho'⟩
        exact (ho'.unique ho).1
      · rintro rfl
        exact ⟨rest, ho⟩
    rcases ofText_of_opened ho with ⟨-, hno, hread⟩ | ⟨m, b, -, his, hread⟩
    · rw [hread, hname]
      simp [hno, eq_comm]
    · rw [hread]
      simp [his]
  · rw [ofText_of_not_isOpener hopen]
    refine iff_of_false ?_ ?_
    · cases longestNonempty closerEnd? (skipWhite t) <;> simp
    · intro h
      exact hopen ⟨n, h.2⟩

theorem ofText_eq_closer_iff : ofText t = some (.closer m b) ↔ ¬ IsOpener t ∧
    CloserForm t m b ∧ ∀ m' b', CloserForm t m' b' → m'.length ≤ m.length := by
  by_cases hopen : IsOpener t
  · refine iff_of_false ?_ (fun h => h.1 hopen)
    obtain ⟨n, rest, ho⟩ := hopen
    rcases ofText_of_opened ho with ⟨-, -, hread⟩ | ⟨m, b, -, -, hread⟩
    · simp [hread]
    · simp [hread]
  · have hiff : ofText t = some (.closer m b) ↔
        longestNonempty closerEnd? (skipWhite t) = some (m, b) := by
      rw [ofText_of_not_isOpener hopen]
      cases longestNonempty closerEnd? (skipWhite t) with
      | none => simp
      | some x => simp [Prod.ext_iff]
    simp only [hiff, longestNonempty_eq_some_iff, closerForm_iff_cuts, hopen, not_false_eq_true,
      true_and]

theorem ofText_eq_none_iff : ofText t = none ↔ ¬ IsOpener t ∧ ¬ IsCloser t := by
  by_cases hopen : IsOpener t
  · refine iff_of_false ?_ (fun h => h.1 hopen)
    obtain ⟨n, rest, ho⟩ := hopen
    rcases ofText_of_opened ho with ⟨-, -, hread⟩ | ⟨m, b, -, -, hread⟩
    · simp [hread]
    · simp [hread]
  · rw [ofText_of_not_isOpener hopen, Option.map_eq_none_iff, longestNonempty_eq_none_iff]
    simp only [IsCloser, closerForm_iff_cuts, hopen, not_false_eq_true, true_and, not_exists]

/-- **A line is the first of the three forms that it has, with the longest macro.**  It is an entry
exactly when it can be divided as one; the name and the macro are then those of a division with the
longest macro, and the entry is enabled exactly when that division has the flag `true`.  If it is no
entry it is a first half exactly when it can be divided as one.  If it is neither, it is a second
half exactly when it can be divided as one, with the longest macro and the last flag behind it.  Any
other line belongs to no entry. -/
theorem ofText_forms (t : Text) :
    ((∃ n m b, ofText t = some (.entry n m b)) ↔ IsEntry t) ∧
    (∀ n m b, ofText t = some (.entry n m b) ↔
      (∃ flag, EntryForm t n m flag ∧ b = (flag == some true)) ∧
        ∀ n' m' flag', EntryForm t n' m' flag' → m'.length ≤ m.length) ∧
    (∀ n, ofText t = some (.opener n) ↔ ¬ IsEntry t ∧ OpenerForm t n) ∧
    ((∃ m b, ofText t = some (.closer m b)) ↔ ¬ IsEntry t ∧ ¬ IsOpener t ∧ IsCloser t) ∧
    (∀ m b, ofText t = some (.closer m b) ↔ ¬ IsEntry t ∧ ¬ IsOpener t ∧
      CloserForm t m b ∧ ∀ m' b', CloserForm t m' b' → m'.length ≤ m.length) ∧
    (ofText t = none ↔ ¬ IsEntry t ∧ ¬ IsOpener t ∧ ¬ IsCloser t) := by
  -- a line that is not even a first half is no entry
  have hentry : ¬ IsOpener t → ¬ IsEntry t := fun h he => h he.isOpener
  refine ⟨exists_entry_iff, fun n m b => ofText_eq_entry_iff, fun n => ofText_eq_opener_iff,
    ?_, ?_, ?_⟩
  · constructor
    · rintro ⟨m, b, h⟩
      obtain ⟨hno, hform, -⟩ := ofText_eq_closer_iff.1 h
      exact ⟨hentry hno, hno, m, b, hform⟩
    · rintro ⟨-, hno, hcloser⟩
      have hsome : ofText t ≠ none := fun h => (ofText_eq_none_iff.1 h).2 hcloser
      rw [ofText_of_not_isOpener hno] at hsome ⊢
      cases hl : longestNonempty closerEnd? (skipWhite t) with
      | none => simp [hl] at hsome
      | some x => exact ⟨x.1, x.2, rfl⟩
  · intro m b
    rw [ofText_eq_closer_iff]
    exact ⟨fun h => ⟨hentry h.1, h⟩, fun h => h.2⟩
  · rw [ofText_eq_none_iff]
    exact ⟨fun h => ⟨hentry h.1, h⟩, fun h => h.2⟩

/-! The macro of the first line could end before its comma, or before its brace; the second line
goes on after its brace with another flag. -/

example : ofText "\x7b\n\"p\",X\x7d,true\x7d".toList =
    some (.entry ['p'] "X\x7d,true".toList false) ∧
    ofText "X,false,\ttrue \x7d, false".toList = some (.closer "X,false".toList true) := by
  decide +kernel

end Upkeep.EntryLine
