import Upkeep.Firefox.SuiteArray
import Upkeep.Proofs.PrefTable.Printed
import Upkeep.Proofs.Text.ExcerptPlaces

/-!
# Where the delimited tables end

The preference table and the suite array are read between two lines of their files.  The readers
differ in how they find these lines: a beginning of the raw line or a piece of it, a beginning of
the trimmed line or of the raw line.  What they have in common is `ReadsBetween`: they fail exactly
at a line that is not UTF-8 before the closing line, they make their answer from the lines strictly
between the two, and what follows the closing line they do not see.
-/

namespace Upkeep

open Text Excerpt

/-- the reader makes its answer, by `keep`, from the lines of a file between the first one that
opens and the first one after it that closes -/
structure ReadsBetween (reader : List Line → Run (List Text)) (Opens Closes : Text → Prop)
    (keep : List Text → List Text) : Prop where
  fails_iff (b : Bytes) (f : Failure) : (reader b.lines).outcome = .error f ↔
    f = .stream .notUtf8 ∧ Spoiled Opens Closes b.lines
  /-- strictly between the two lines -/
  closed (b : Bytes) (i j : Nat) : FirstFrom (Line.Has Opens) b.lines 0 i →
    FirstFrom (Line.Has Closes) b.lines (i + 1) j → ¬ Spoiled Opens Closes b.lines →
    ∃ ts : List Text, (b.lines.take j).drop (i + 1) = ts.map .ok ∧
      (reader b.lines).outcome = .ok (keep ts)
  /-- to the end of the file -/
  unterminated (b : Bytes) (i : Nat) : FirstFrom (Line.Has Opens) b.lines 0 i →
    (∀ j, ¬ FirstFrom (Line.Has Closes) b.lines (i + 1) j) → ¬ Spoiled Opens Closes b.lines →
    ∃ ts : List Text, b.lines.drop (i + 1) = ts.map .ok ∧
      (reader b.lines).outcome = .ok (keep ts)
  absent (b : Bytes) : (∀ i, ¬ FirstFrom (Line.Has Opens) b.lines 0 i) →
    ¬ Spoiled Opens Closes b.lines → (reader b.lines).outcome = .ok []
  /-- the bytes after the line end of the closing line, or after a later one -/
  blind (a c c' : Bytes) (j : Nat) : ClosesAt Opens Closes (a ++ [10]).lines j →
    reader (a ++ 10 :: c).lines = reader (a ++ 10 :: c').lines

theorem readsBetween_of_excerpt {reader : List Line → Run (List Text)} {opens closes : Text → Bool}
    {keep : List Text → List Text} (g : Excerpt → Run (List Text))
    (hreader : ∀ ls, reader ls = Run.ofStream (Excerpt.read opens closes ls) >>= g)
    (hg : ∀ x, (g x).outcome = .ok (keep x.lines)) (hkeep : keep [] = []) :
    ReadsBetween reader (opens ·) (closes ·) keep := by
  have hok : ∀ {ls x}, Excerpt.read opens closes ls = .ok x →
      (reader ls).outcome = .ok (keep x.lines) := by
    intro ls x hx
    rw [hreader, hx, Run.outcome_bind_ok (a := x) rfl, hg]
  have herror : ∀ {ls e}, Excerpt.read opens closes ls = .error e →
      (reader ls).outcome = .error (.stream e) := by
    intro ls e he
    rw [hreader, he]
    rfl
  constructor
  case fails_iff =>
    intro b f
    rw [← read_fails_iff]
    cases hr : Excerpt.read opens closes b.lines with
    | error e =>
      obtain rfl := Bytes.eq_notUtf8_of_fault (read_eq_error_iff.1 hr).1
      rw [herror hr]
      simp [eq_comm]
    | ok x =>
      rw [hok hr]
      simp
  case closed =>
    intro b i j hi hj h
    obtain ⟨ts, hts, hread⟩ := read_at_closed hi hj h
    exact ⟨ts, hts, hok hread⟩
  case unterminated =>
    intro b i hi hj h
    obtain ⟨ts, hts, hread⟩ := read_at_unterminated hi hj h
    exact ⟨ts, hts, hok hread⟩
  case absent =>
    intro b hi h
    have hread := hok (read_at_absent hi h)
    rwa [hkeep] at hread
  case blind =>
    intro a c c' j hj
    have hended : Bytes.Ended (a ++ [10]) := .inr List.getLast?_concat
    have hlines : ∀ r : Bytes, (a ++ 10 :: r).lines = (a ++ [10]).lines ++ r.lines := by
      intro r
      rw [← Bytes.lines_append hended, List.append_assoc, List.singleton_append]
    rw [hreader, hreader, hlines c, hlines c', read_append_of_closesAt hj,
      read_append_of_closesAt hj]

/-! ## the lines of the suite array -/

namespace SuiteArray

/-- white space, an opening brace, white space, the suite, a comma, and anything -/
def SuiteLine (suite t : Text) : Prop :=
  ∃ w₁ w₂ r, t = w₁ ++ '{' :: (w₂ ++ (suite ++ ',' :: r)) ∧ (∀ c ∈ w₁, isWhite c = true) ∧
    (∀ c ∈ w₂, isWhite c = true) ∧ suite ≠ [] ∧ ∀ c ∈ suite, isSuiteChar c = true

theorem isWordChar_of_isSuiteChar {c : Char} (h : isSuiteChar c = true) : isWordChar c = true := by
  unfold isSuiteChar at h
  unfold isWordChar
  simp only [Bool.or_eq_true] at h ⊢
  rcases h with (h | h) | h
  · exact .inl (.inl (.inr h))
  · exact .inl (.inr h)
  · exact .inl (.inl (.inl h))

theorem suite?_of_suiteLine {suite t : Text} (h : SuiteLine suite t) : suite? t = some suite := by
  obtain ⟨w₁, w₂, r, rfl, h₁, h₂, hne, hsuite⟩ := h
  obtain ⟨c, m, rfl⟩ := List.exists_cons_of_ne_nil hne
  have hc : isWhite c = false :=
    isWhite_of_isWordChar (isWordChar_of_isSuiteChar (hsuite c List.mem_cons_self))
  have hbrace : skipWhite (w₁ ++ '{' :: (w₂ ++ (c :: m ++ ',' :: r))) =
      '{' :: (w₂ ++ (c :: m ++ ',' :: r)) := by
    rw [skipWhite_append h₁]
    exact skipWhite_cons (by decide) _
  have hname : skipWhite (w₂ ++ (c :: m ++ ',' :: r)) = c :: m ++ ',' :: r := by
    rw [skipWhite_append h₂]
    exact skipWhite_cons hc _
  have hcomma : isSuiteChar ',' = false := by decide
  have htake : (c :: m ++ ',' :: r).takeWhile isSuiteChar = c :: m := by
    rw [List.takeWhile_append_of_pos hsuite, List.takeWhile_cons_of_neg (by simp [hcomma]),
      List.append_nil]
  have hdrop : (c :: m ++ ',' :: r).dropWhile isSuiteChar = ',' :: r := by
    rw [List.dropWhile_append_of_pos hsuite, List.dropWhile_cons_of_neg (by simp [hcomma])]
  unfold suite?
  rw [hbrace]
  show (after? [','] ((skipWhite (w₂ ++ (c :: m ++ ',' :: r))).dropWhile isSuiteChar)).bind _ = _
  rw [hname, htake, hdrop]
  rfl

theorem suiteLine_of_suite? {suite t : Text} (h : suite? t = some suite) : SuiteLine suite t := by
  unfold suite? at h
  simp only [Option.bind_eq_bind, Option.bind_eq_some_iff, after?_eq_some_iff] at h
  obtain ⟨t₁, ht₁, r, hr, h⟩ := h
  obtain ⟨w₁, hw₁, h₁⟩ := exists_white_append t
  obtain ⟨w₂, hw₂, h₂⟩ := exists_white_append t₁
  have hname : skipWhite t₁ = (skipWhite t₁).takeWhile isSuiteChar ++ ',' :: r := by
    have hcut := List.takeWhile_append_dropWhile (p := isSuiteChar) (l := skipWhite t₁)
    rw [hr] at hcut
    exact hcut.symm
  split at h
  · cases h
  · next hne =>
    obtain rfl := Option.some.inj h
    refine ⟨w₁, w₂, r, ?_, h₁, h₂, by simpa using hne, List.all_eq_true.1 List.all_takeWhile⟩
    rw [← hname, ← hw₂]
    rw [ht₁] at hw₁
    exact hw₁

end SuiteArray

/-- **Both readers stop at their terminator.**  Each of them makes its answer from the lines between
its two markers and sees nothing after the second one: the table gives these lines trimmed, the
array gives the suites of those among them that are lines of a suite. -/
theorem readers_stop_at_terminator (start stop marker last : Text) :
    ReadsBetween (PrefTable.block start stop) (start <+: ·) (fun t => stop <+: t.trim)
      (fun ts => ts.map Text.trim) ∧
    ReadsBetween (SuiteArray.read marker last) (marker <:+: ·) (last <+: ·)
      (fun ts => ts.filterMap SuiteArray.suite?) ∧
    ∀ suite t, SuiteArray.suite? t = some suite ↔ SuiteArray.SuiteLine suite t := by
  have hstarts : ∀ p : Text, (fun t => p.isPrefixOf t = true) = (p <+: ·) := by
    intro p
    funext t
    exact propext List.isPrefixOf_iff_prefix
  have htrim : (fun t : Text => stop.isPrefixOf t.trim = true) = fun t => stop <+: t.trim := by
    funext t
    exact propext List.isPrefixOf_iff_prefix
  have hholds : (fun t => hasInfix marker t = true) = (marker <:+: ·) := by
    funext t
    exact propext hasInfix_iff
  refine ⟨?_, ?_, fun suite t => ⟨SuiteArray.suiteLine_of_suite?, SuiteArray.suite?_of_suiteLine⟩⟩
  · rw [← hstarts, ← htrim]
    refine readsBetween_of_excerpt _ (fun ls => rfl) (fun x => ?_) rfl
    obtain ⟨extent, ts⟩ := x
    cases extent <;> rfl
  · rw [← hstarts, ← hholds]
    exact readsBetween_of_excerpt _ (fun ls => rfl) (fun x => rfl) rfl

/-! What follows the closing line need not be text. -/

example : (SuiteArray.read "cfg[".toList "\x7d;".toList
    (encode "cfg[\n \x7b TLS_A, 1\n\x7d;\n".toList ++ [255]).lines).outcome =
      .ok ["TLS_A".toList] := by
  decide +kernel

end Upkeep
