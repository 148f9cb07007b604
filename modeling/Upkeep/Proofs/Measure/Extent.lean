import Mathlib.Algebra.GroupWithZero.Nat
import Mathlib.Algebra.Order.BigOperators.Group.List
import Mathlib.Algebra.Order.Group.Nat
import Upkeep.Proofs.Measure.Agreement
import Upkeep.Proofs.Measure.Scanner
import Upkeep.Proofs.Measure.Streaming

/-!
# Functions fit in their file

The functions that a scan has found, and the one that it has open, lie one after the other among
the lines read so far.  `Scanner.Fits used s` says this in numbers: the functions found have `used`
lines together, and

* outside of all spans these are among the lines read;
* with a span open they are all in front of the line from which it counts, which has been read.

The second part survives the opening brace, where a span restarts its count: it restarts further
down.  So one line keeps the bound (`Scanner.fits_feed`), whether or not a function ends on it, and
with it all lines do (`Scanner.fits_after`).  Main statement: `Summary.functions_fit`.
-/

namespace Upkeep

namespace Span

/-- the line from which the open span counts -/
def Open.start? : Open → Option Nat
  | .outside => none
  | .signature _ start => some start
  | .body _ start => some start

def total (fs : List Span) : Nat := (fs.map Span.lineCount).sum

theorem lineCount_le_total {f : Span} {fs : List Span} (h : f ∈ fs) : f.lineCount ≤ total fs :=
  List.le_sum_of_mem (List.mem_map_of_mem h)

namespace Scanner

variable {s : Scanner} {t : Text} {used : Nat}

/-! ## one line -/

/-- a line leaves the open span where it counts from, or counts it from here, or ends it -/
theorem feed_cases (s : Scanner) (t : Text) :
    (∃ o, s.feed t = (⟨o, s.lineNumber + 1⟩, none) ∧
      (o.start? = s.span.start? ∨ o.start? = some (s.lineNumber + 1))) ∨
    ∃ name start, s.span.start? = some start ∧
      s.feed t = (⟨.outside, s.lineNumber + 1⟩, some ⟨name, s.lineNumber + 1 - start + 1⟩) := by
  obtain ⟨span, n⟩ := s
  cases span with
  | outside =>
    left
    by_cases h : Signs t
    · obtain ⟨name, hname⟩ := h
      exact ⟨_, feed_outside hname, .inr rfl⟩
    · exact ⟨_, passes_outside h n, .inl rfl⟩
  | signature name start =>
    by_cases hclose : Closes t
    · right
      exact ⟨name, start, rfl, feed_closes hclose (.inl rfl)⟩
    · left
      by_cases hopen : Opens t
      · exact ⟨_, feed_opens hopen, .inr rfl⟩
      · exact ⟨_, passes_signature hopen hclose n, .inl rfl⟩
  | body name start =>
    by_cases hclose : Closes t
    · right
      exact ⟨name, start, rfl, feed_closes hclose (.inr rfl)⟩
    · left
      exact ⟨_, passes_body hclose n, .inl rfl⟩

/-- the functions found have `used` lines, which lie among the lines read and in front of the open
span -/
def Fits (used : Nat) (s : Scanner) : Prop :=
  match s.span.start? with
  | none => used ≤ s.lineNumber
  | some start => used < start ∧ start ≤ s.lineNumber

theorem fits_of_start {start : Nat} (h : s.span.start? = some start) :
    Fits used s ↔ used < start ∧ start ≤ s.lineNumber := by
  unfold Fits
  rw [h]

theorem fits_new : Fits 0 new := Nat.le_refl 0

theorem Fits.used_le (h : Fits used s) : used ≤ s.lineNumber := by
  unfold Fits at h
  split at h
  · exact h
  · omega

theorem Fits.record (h : Fits used s) {f : Span} (hf : (s.feed t).2 = some f) :
    ∃ start, s.span.start? = some start ∧ f.lineCount + start = s.lineNumber + 2 ∧
      2 ≤ f.lineCount := by
  rcases feed_cases s t with ⟨o, ho, -⟩ | ⟨name, start, hstart, hfeed⟩
  · rw [ho] at hf
    cases hf
  · rw [hfeed] at hf
    cases hf
    obtain ⟨-, hle⟩ := (fits_of_start hstart).1 h
    refine ⟨start, hstart, ?_, ?_⟩
    · show s.lineNumber + 1 - start + 1 + start = _
      omega
    · show 2 ≤ s.lineNumber + 1 - start + 1
      omega

theorem lineNumber_feed (s : Scanner) (t : Text) :
    (s.feed t).1.lineNumber = s.lineNumber + 1 := by
  rcases feed_cases s t with ⟨o, ho, -⟩ | ⟨name, start, -, hfeed⟩
  · rw [ho]
  · rw [hfeed]

theorem fits_feed (h : Fits used s) (t : Text) :
    Fits (used + total (s.feed t).2.toList) (s.feed t).1 := by
  have hused := h.used_le
  rcases feed_cases s t with ⟨o, ho, hstart⟩ | ⟨name, start, hstart, hfeed⟩
  · rw [ho]
    show Fits used ⟨o, s.lineNumber + 1⟩
    rcases hstart with hstart | hstart
    · unfold Fits at h ⊢
      rw [hstart]
      split at h
      · show used ≤ s.lineNumber + 1
        omega
      · show used < _ ∧ _ ≤ s.lineNumber + 1
        omega
    · rw [fits_of_start hstart]
      show used < s.lineNumber + 1 ∧ s.lineNumber + 1 ≤ s.lineNumber + 1
      omega
  · obtain ⟨hlt, hle⟩ := (fits_of_start hstart).1 h
    rw [hfeed]
    show used + (s.lineNumber + 1 - start + 1 + 0) ≤ s.lineNumber + 1
    omega

/-! ## all lines -/

theorem lineNumber_after (s : Scanner) (ls : List Line) :
    (s.after ls).lineNumber = s.lineNumber + (oks ls).length := by
  induction ls generalizing s with
  | nil => rfl
  | cons l ls ih =>
    cases l with
    | error e => exact ih s
    | ok t =>
      rw [after_ok, ih, lineNumber_feed]
      show _ = s.lineNumber + ((oks ls).length + 1)
      omega

theorem fits_after (h : Fits used s) (ls : List Line) :
    Fits (used + total (oks (s.items ls).value)) (s.after ls) := by
  induction ls generalizing used s with
  | nil => exact h
  | cons l ls ih =>
    cases l with
    | error e => exact ih h
    | ok t =>
      have hfound : total (oks (s.items (.ok t :: ls)).value) =
          total (s.feed t).2.toList + total (oks ((s.feed t).1.items ls).value) := by
        rw [value_items_ok, oks_append, oks_map_ok]
        unfold total
        rw [List.map_append, List.sum_append]
      rw [hfound, ← Nat.add_assoc]
      exact ih (fits_feed h t)

theorem fits_after_new (ls : List Line) :
    Fits (total (oks (new.items ls).value)) (new.after ls) := by
  have h := fits_after fits_new ls
  rwa [Nat.zero_add] at h

end Scanner

end Span

namespace Summary

theorem longer_eq_some {best : Option Span} {g b : Span} (h : longer best g = some b) :
    b ∈ best.toList ++ [g] ∧ ∀ f ∈ best.toList ++ [g], f.lineCount ≤ b.lineCount := by
  cases best with
  | none =>
    obtain rfl : g = b := Option.some.inj h
    simp
  | some c =>
    unfold longer at h
    dsimp only at h
    split at h
    · next hle =>
      obtain rfl := Option.some.inj h
      simp [hle]
    · next hlt =>
      obtain rfl := Option.some.inj h
      simp [Nat.le_of_not_le hlt]

/-- the search for the longest function goes on from the best one so far -/
theorem foldl_longer_eq_some {fs : List Span} {best : Option Span} {f : Span}
    (h : fs.foldl longer best = some f) :
    f ∈ best.toList ++ fs ∧ ∀ g ∈ best.toList ++ fs, g.lineCount ≤ f.lineCount := by
  induction fs generalizing best with
  | nil =>
    obtain rfl : best = some f := h
    simp
  | cons g fs ih =>
    rw [List.foldl_cons] at h
    obtain ⟨b, hb⟩ : ∃ b, longer best g = some b := by
      cases best with
      | none => exact ⟨g, rfl⟩
      | some c => exact ⟨_, (apply_ite some _ _ _).symm⟩
    obtain ⟨hmemb, hmaxb⟩ := longer_eq_some hb
    rw [hb] at h
    obtain ⟨hmem, hmax⟩ := ih h
    have hbf : b.lineCount ≤ f.lineCount := hmax b List.mem_cons_self
    rw [List.append_cons]
    refine ⟨?_, fun c hc => ?_⟩
    · rcases List.mem_cons.1 hmem with rfl | hmem
      · exact List.mem_append_left _ hmemb
      · exact List.mem_append_right _ hmem
    · rcases List.mem_append.1 hc with hc | hc
      · exact (hmaxb c hc).trans hbf
      · exact hmax c (List.mem_cons_of_mem _ hc)

theorem longest?_eq_some {s : Summary} {f : Span} (h : s.longest? = some f) :
    f ∈ s.functions ∧ ∀ g ∈ s.functions, g.lineCount ≤ f.lineCount :=
  foldl_longer_eq_some h

open Upkeep.Span Upkeep.Span.Scanner

/-- **Functions fit in their file.**  After any lines, an open span counts from a line that has been
read.  A function that ends on the next line has the lines from there to that line, both included,
and they are two at least.  The functions of a text together have no more lines than the text, there
are no more inclusions than lines, and so the longest function is no longer than the text. -/
theorem functions_fit :
    (∀ ls start, (new.after ls).span.start? = some start →
      1 ≤ start ∧ start ≤ (new.after ls).lineNumber) ∧
    (∀ ls t f, ((new.after ls).feed t).2 = some f → 2 ≤ f.lineCount ∧
      ∃ start, (new.after ls).span.start? = some start ∧
        f.lineCount + start = ((new.after ls).feed t).1.lineNumber + 1) ∧
    ∀ t, ∃ s, (ofText t).value = .ok s ∧ total s.functions ≤ s.lines ∧ s.includes ≤ s.lines ∧
      ∀ f, s.longest? = some f → f ∈ s.functions ∧ f.lineCount ≤ s.lines ∧
        ∀ g ∈ s.functions, g.lineCount ≤ f.lineCount := by
  refine ⟨?_, ?_, ?_⟩
  · intro ls start hstart
    have h := (fits_of_start hstart).1 (fits_after_new ls)
    omega
  · intro ls t f hf
    obtain ⟨start, hstart, hcount, htwo⟩ := (fits_after_new ls).record hf
    refine ⟨htwo, start, hstart, ?_⟩
    rw [lineNumber_feed, hcount]
  · intro t
    obtain ⟨ts, fs, hlines, hsum, -, -, hspans⟩ := measures_of_decode (Text.decode_encode t)
    have htotal : total fs ≤ ts.length := by
      have h := (fits_after_new (Text.encode t).lines).used_le
      have hitems : (new.items (Text.encode t).lines).value = fs.map .ok := hspans
      rw [lineNumber_after, hitems, oks_map_ok, hlines, oks_map_ok] at h
      show _ ≤ ts.length
      have hzero : new.lineNumber = 0 := rfl
      omega
    refine ⟨_, hsum, htotal, List.countP_le_length, ?_⟩
    intro f hf
    obtain ⟨hmem, hmax⟩ := longest?_eq_some hf
    exact ⟨hmem, (lineCount_le_total hmem).trans htotal, hmax⟩

/-! Two functions that fill their file but for the signature of the second. -/

example : (ofText "f(\n\x7d\ng(\n\x7b\n\x7d".toList).value =
    .ok ⟨5, 0, [⟨['f'], 2⟩, ⟨['g'], 2⟩]⟩ := by
  decide +kernel

end Summary

end Upkeep
