import Mathlib.Data.List.TakeWhile
import Upkeep.Measure.Span
import Upkeep.Proofs.Text.FirstLine

/-!
# The segments of a source file

The scanner goes through a file line by line and keeps one span open at a time.  Here the spans are
told from the whole list of lines, by the positions of their lines (`FirstFrom`):

* `Signature t name`        the line `t` starts a function `name`;
* `Segments ts k segs`      the segments from line `k` on: each is opened by the first signature
                            after the one before it, and closed by the first closing brace after
                            that; where no brace closes it, there is none, and none after it.

Main statements: a list of lines has exactly one such list of segments (`Segments.total`,
`Segments.unique`), and `signature?` finds the signatures (`signature?_eq_some_iff`).
-/

namespace Upkeep

namespace Span

/-! ## signatures -/

/-- the line starts the function `name`: its identifier stands in the first column, an opening
parenthesis follows, perhaps after a comma, and it is no macro -/
def Signature (t name : Text) : Prop :=
  (∃ c cs, name = c :: cs ∧ isNameStart c = true ∧ ∀ d ∈ cs, isNameChar d = true) ∧
  name ∉ macroNames ∧ ∃ r, t = name ++ '(' :: r ∨ t = name ++ ',' :: '(' :: r

def Signs (t : Text) : Prop := ∃ name, Signature t name

abbrev Opens (t : Text) : Prop := t.head? = some '{'

abbrev Closes (t : Text) : Prop := t.head? = some '}'

/-- an identifier ends where the first other character stands -/
theorem takeWhile_isNameChar {cs r : Text} (hcs : ∀ d ∈ cs, isNameChar d = true)
    (hr : ∀ d ∈ r.head?, isNameChar d = false) :
    (cs ++ r).takeWhile isNameChar = cs ∧ (cs ++ r).dropWhile isNameChar = r := by
  rw [List.takeWhile_append_of_pos hcs, List.dropWhile_append_of_pos hcs]
  cases r with
  | nil => simp
  | cons d r => simp [hr d rfl]

theorem called?_eq_some_iff {t name : Text} : called? t = some name ↔
    (∃ c cs, name = c :: cs ∧ isNameStart c = true ∧ ∀ d ∈ cs, isNameChar d = true) ∧
    ∃ r, t = name ++ '(' :: r ∨ t = name ++ ',' :: '(' :: r := by
  constructor
  · intro h
    unfold called? at h
    cases t with
    | nil => cases h
    | cons c cs =>
      have hcs : cs = cs.takeWhile isNameChar ++ cs.dropWhile isNameChar :=
        (List.takeWhile_append_dropWhile).symm
      by_cases hc : isNameStart c = true
      · simp only [if_pos hc] at h
        have hid : ∀ d ∈ cs.takeWhile isNameChar, isNameChar d = true :=
          fun d hd => List.mem_takeWhile_imp hd
        split at h
        · next r hr =>
          cases h
          exact ⟨⟨c, _, rfl, hc, hid⟩, r, .inl (by rw [List.cons_append, ← hr, ← hcs])⟩
        · next r hr =>
          cases h
          exact ⟨⟨c, _, rfl, hc, hid⟩, r, .inr (by rw [List.cons_append, ← hr, ← hcs])⟩
        · cases h
      · simp only [if_neg hc] at h
        cases h
  · rintro ⟨⟨c, cs, rfl, hc, hcs⟩, r, rfl | rfl⟩
    · obtain ⟨h1, h2⟩ := takeWhile_isNameChar (r := '(' :: r) hcs (by simp; decide)
      simp only [called?, List.cons_append, if_pos hc, h1, h2]
    · obtain ⟨h1, h2⟩ := takeWhile_isNameChar (r := ',' :: '(' :: r) hcs (by simp; decide)
      simp only [called?, List.cons_append, if_pos hc, h1, h2]

theorem signature?_eq_some_iff {t name : Text} : signature? t = some name ↔ Signature t name := by
  unfold signature? Signature
  rw [Option.filter_eq_some_iff, called?_eq_some_iff, decide_eq_true_iff]
  exact ⟨fun ⟨⟨hid, hr⟩, hm⟩ => ⟨hid, hm, hr⟩, fun ⟨hid, hm, hr⟩ => ⟨⟨hid, hr⟩, hm⟩⟩

theorem signature?_eq_none {t : Text} (h : ¬ Signs t) : signature? t = none :=
  Option.eq_none_iff_forall_ne_some.2 fun name hn => h ⟨name, signature?_eq_some_iff.1 hn⟩

/-! ## segments -/

/-- a function of the file, by the positions of its lines -/
structure Segment where
  name : Text
  first : Nat
  /-- the line from which its lines are counted -/
  start : Nat
  last : Nat
deriving DecidableEq, Repr

def Segment.span (x : Segment) : Span := ⟨x.name, x.last - x.start + 1⟩

/-- line `s` is the first one between `g` and `e` that begins with an opening brace, or `g` where
there is none -/
def CountsFrom (ts : List Text) (g e s : Nat) : Prop :=
  (FirstFrom Opens ts (g + 1) s ∧ s < e) ∨ (s = g ∧ ∀ j, FirstFrom Opens ts (g + 1) j → ¬ j < e)

/-- the segments from line `k` on -/
inductive Segments (ts : List Text) : Nat → List Segment → Prop
  | outside {k : Nat} : (∀ g, ¬ FirstFrom Signs ts k g) → Segments ts k []
  | unclosed {k g : Nat} : FirstFrom Signs ts k g → (∀ e, ¬ FirstFrom Closes ts (g + 1) e) →
      Segments ts k []
  | closed {k g s e : Nat} {t name : Text} {segs : List Segment} : FirstFrom Signs ts k g →
      ts[g]? = some t → Signature t name → FirstFrom Closes ts (g + 1) e → CountsFrom ts g e s →
      Segments ts (e + 1) segs → Segments ts k (⟨name, g, s, e⟩ :: segs)

theorem CountsFrom.unique {ts : List Text} {g e s s' : Nat} (h : CountsFrom ts g e s)
    (h' : CountsFrom ts g e s') : s = s' := by
  rcases h with ⟨h, hs⟩ | ⟨rfl, h⟩ <;> rcases h' with ⟨h', hs'⟩ | ⟨rfl, h'⟩
  · exact h.unique h'
  · exact absurd hs (h' s h)
  · exact absurd hs' (h s' h')
  · rfl

namespace Segments

variable {ts : List Text} {k : Nat} {segs segs' : List Segment}

theorem unique (h : Segments ts k segs) (h' : Segments ts k segs') : segs = segs' := by
  induction h generalizing segs' with
  | outside hg =>
    cases h' with
    | outside _ => rfl
    | unclosed _ _ => rfl
    | closed hg' _ _ _ _ _ => exact absurd hg' (hg _)
  | unclosed hg he =>
    cases h' with
    | outside _ => rfl
    | unclosed _ _ => rfl
    | closed hg' _ _ he' _ _ =>
      obtain rfl := hg.unique hg'
      exact absurd he' (he _)
  | closed hg ht hn he hs _ ih =>
    cases h' with
    | outside hg' => exact absurd hg (hg' _)
    | unclosed hg' he' =>
      obtain rfl := hg.unique hg'
      exact absurd he (he' _)
    | closed hg' ht' hn' he' hs' hrest' =>
      obtain rfl := hg.unique hg'
      obtain rfl := he.unique he'
      obtain rfl := hs.unique hs'
      obtain rfl := Option.some.inj (ht.symm.trans ht')
      obtain rfl := Option.some.inj
        ((signature?_eq_some_iff.2 hn).symm.trans (signature?_eq_some_iff.2 hn'))
      rw [ih hrest']

theorem total (ts : List Text) (k : Nat) : ∃ segs, Segments ts k segs := by
  -- each segment ends further down, and no line is after the last one
  induction hn : ts.length - k using Nat.strongRecOn generalizing k with
  | _ n ih =>
    by_cases hg : ∃ g, FirstFrom Signs ts k g
    · obtain ⟨g, hg⟩ := hg
      by_cases he : ∃ e, FirstFrom Closes ts (g + 1) e
      · obtain ⟨e, he⟩ := he
        obtain ⟨t, ht, name, hname⟩ := hg.holds
        have hlt := he.lt_length
        have hke := hg.le
        have hge := he.le
        obtain ⟨segs, hsegs⟩ := ih (ts.length - (e + 1)) (by omega) (e + 1) rfl
        by_cases hs : ∃ s, FirstFrom Opens ts (g + 1) s ∧ s < e
        · obtain ⟨s, hs⟩ := hs
          exact ⟨_, .closed hg ht hname he (.inl hs) hsegs⟩
        · exact ⟨_, .closed hg ht hname he (.inr ⟨rfl, fun j hj hlt => hs ⟨j, hj, hlt⟩⟩) hsegs⟩
      · exact ⟨[], .unclosed hg fun e h => he ⟨e, h⟩⟩
    · exact ⟨[], .outside fun g h => hg ⟨g, h⟩⟩

theorem le_last (h : Segments ts k segs) : ∀ x ∈ segs, k ≤ x.last := by
  induction h with
  | outside _ => simp
  | unclosed _ _ => simp
  | closed hg _ _ he _ _ ih =>
    intro x hx
    have h1 := hg.le
    have h2 := he.le
    rcases List.mem_cons.1 hx with rfl | hx
    · dsimp only
      omega
    · have := ih x hx
      omega

end Segments

end Span

end Upkeep
