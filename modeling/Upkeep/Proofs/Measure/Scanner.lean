import Upkeep.Proofs.Measure.Segments

/-!
# The records of the scanner

What one line does to the scanner (`Passes`, `feed_outside`, `feed_opens`, `feed_closes`), and from
that what many lines do, up to the line that ends a span.  Main statement: the scanner answers with
a record on the last line of each segment and on no other line.

The scanner numbers the lines from 1: when it has read `k` lines it meets line `k` next, and stores
`k + 1` for it.  The number of lines of a span is a difference, so it is that of the positions.
-/

namespace Upkeep.Span

/-! ## one more line -/

namespace Scanner

variable {n start : Nat} {t name : Text} {o : Open}

/-- a line that neither ends the open span nor changes it -/
def Passes (o : Open) (t : Text) : Prop :=
  ∀ n, (⟨o, n⟩ : Scanner).feed t = (⟨o, n + 1⟩, none)

theorem passes_outside (h : ¬ Signs t) : Passes .outside t := by
  intro n
  unfold feed
  rw [signature?_eq_none h]

theorem passes_signature (hopen : ¬ Opens t) (hclose : ¬ Closes t) :
    Passes (.signature name start) t := by
  intro n
  show (if _ then _ else if _ then _ else _) = _
  rw [if_neg hopen, if_neg hclose]

theorem passes_body (hclose : ¬ Closes t) : Passes (.body name start) t := by
  intro n
  show (if _ then _ else _) = _
  rw [if_neg hclose]

theorem feed_outside (h : Signature t name) :
    (⟨.outside, n⟩ : Scanner).feed t = (⟨.signature name (n + 1), n + 1⟩, none) := by
  unfold feed
  rw [signature?_eq_some_iff.2 h]

theorem feed_opens (h : Opens t) :
    (⟨.signature name start, n⟩ : Scanner).feed t = (⟨.body name (n + 1), n + 1⟩, none) := by
  show (if _ then _ else if _ then _ else _) = _
  rw [if_pos h]

/-- a closing brace ends the span, whether or not its opening brace was seen -/
theorem feed_closes (h : Closes t) (ho : o = .signature name start ∨ o = .body name start) :
    (⟨o, n⟩ : Scanner).feed t = (⟨.outside, n + 1⟩, some ⟨name, n + 1 - start + 1⟩) := by
  rcases ho with rfl | rfl
  · have hopen : ¬ Opens t := by
      rw [Opens, h]
      decide
    show (if _ then _ else if _ then _ else _) = _
    rw [if_neg hopen, if_pos h]
  · show (if _ then _ else _) = _
    rw [if_pos h]

/-- an open span stays open until a closing brace -/
theorem feed_open (h : ¬ Closes t) (ho : o ≠ .outside) :
    ∃ o', o' ≠ .outside ∧ (⟨o, n⟩ : Scanner).feed t = (⟨o', n + 1⟩, none) := by
  cases o with
  | outside => exact absurd rfl ho
  | signature name start =>
    by_cases hopen : Opens t
    · exact ⟨_, by simp, feed_opens hopen⟩
    · exact ⟨_, ho, passes_signature hopen h n⟩
  | body name start => exact ⟨_, ho, passes_body h n⟩

/-! ## many lines -/

theorem value_feedAll_cons (s : Scanner) (t : Text) (ts : List Text) :
    (s.feedAll (t :: ts)).value = (s.feed t).2 :: ((s.feed t).1.feedAll ts).value := rfl

theorem length_feedAll (s : Scanner) (ts : List Text) :
    (s.feedAll ts).value.length = ts.length := by
  induction ts generalizing s with
  | nil => rfl
  | cons t ts ih => rw [value_feedAll_cons, List.length_cons, ih, List.length_cons]

theorem feedAll_passes {before : List Text} (h : ∀ t ∈ before, Passes o t) (rest : List Text) :
    ((⟨o, n⟩ : Scanner).feedAll (before ++ rest)).value = List.replicate before.length none ++
      ((⟨o, n + before.length⟩ : Scanner).feedAll rest).value := by
  induction before generalizing n with
  | nil => rfl
  | cons t before ih =>
    rw [List.cons_append, value_feedAll_cons, h t List.mem_cons_self n,
      ih fun u hu => h u (List.mem_cons_of_mem _ hu), List.length_cons, List.replicate_succ,
      Nat.add_right_comm, Nat.add_assoc]
    rfl

theorem feedAll_unclosed {ts : List Text} (h : ∀ t ∈ ts, ¬ Closes t) (ho : o ≠ .outside) :
    ((⟨o, n⟩ : Scanner).feedAll ts).value = List.replicate ts.length none := by
  induction ts generalizing o n with
  | nil => rfl
  | cons t ts ih =>
    obtain ⟨o', ho', hf⟩ := feed_open (n := n) (h t List.mem_cons_self) ho
    rw [value_feedAll_cons, hf, ih (fun u hu => h u (List.mem_cons_of_mem _ hu)) ho',
      List.length_cons, List.replicate_succ]

/-- lines that pass up to the first one with a property, and that line -/
theorem feedAll_upto {p : Text → Prop} {ts : List Text} {k i : Nat} {q : Open} {r : Option Span}
    (h : FirstFrom p ts k i) (hpass : ∀ j u, k ≤ j → j < i → ts[j]? = some u → Passes o u)
    (hfeed : ∀ t, ts[i]? = some t → p t → (⟨o, i⟩ : Scanner).feed t = (⟨q, i + 1⟩, r)) :
    ((⟨o, k⟩ : Scanner).feedAll (ts.drop k)).value = List.replicate (i - k) none ++
      r :: ((⟨q, i + 1⟩ : Scanner).feedAll (ts.drop (i + 1))).value := by
  obtain ⟨before, t, hd, hlen, hbefore, ht, hp⟩ := h.split
  have hb : ∀ u ∈ before, Passes o u := by
    intro u hu
    obtain ⟨j, hkj, hji, hj⟩ := hbefore u hu
    exact hpass j u hkj hji hj
  have hk : k + before.length = i := by
    have := h.le
    omega
  rw [hd, feedAll_passes hb, hk, value_feedAll_cons, hfeed t ht hp, hlen]

theorem replicate_none_append (a b : Nat) (l : List (Option Span)) :
    List.replicate a none ++ none :: (List.replicate b none ++ l) =
      List.replicate (a + 1 + b) none ++ l := by
  rw [← List.replicate_append_replicate, ← List.replicate_append_replicate, List.append_assoc,
    List.append_assoc]
  rfl

theorem feedAll_counted {ts : List Text} {g s e : Nat} (he : FirstFrom Closes ts (g + 1) e)
    (hs : CountsFrom ts g e s) :
    ((⟨.signature name (g + 1), g + 1⟩ : Scanner).feedAll (ts.drop (g + 1))).value =
      List.replicate (e - (g + 1)) none ++ some ⟨name, e - s + 1⟩ ::
        ((⟨.outside, e + 1⟩ : Scanner).feedAll (ts.drop (e + 1))).value := by
  have hcount : ∀ s, e + 1 - (s + 1) + 1 = e - s + 1 := fun s => by omega
  rcases hs with ⟨hs, hse⟩ | ⟨rfl, hs⟩
  · have hgs := hs.le
    have hsig := feedAll_upto (o := .signature name (g + 1)) (q := .body name (s + 1)) hs
      (fun j u h1 h2 h3 => passes_signature (hs.first j u h1 h2 h3)
        (he.first j u h1 (by omega) h3)) fun t _ ht => feed_opens ht
    have he' : FirstFrom Closes ts (s + 1) e := he.of_le (by omega) (by omega)
    have hbody := feedAll_upto (o := .body name (s + 1)) he'
      (fun j u h1 h2 h3 => passes_body (he'.first j u h1 h2 h3))
      fun t _ ht => feed_closes ht (.inr rfl)
    rw [hsig, hbody, replicate_none_append, hcount]
    congr 2
    omega
  · have hopens : ∀ j u, s + 1 ≤ j → j < e → ts[j]? = some u → ¬ Opens u := by
      intro j u h1 h2 h3 hu
      obtain ⟨m, hm, hmj⟩ := FirstFrom.exists_of_getElem? h1 h3 hu
      exact hs m hm (by omega)
    rw [feedAll_upto he (fun j u h1 h2 h3 => passes_signature (hopens j u h1 h2 h3)
      (he.first j u h1 h2 h3)) fun t _ ht => feed_closes ht (.inl rfl), hcount]

theorem feedAll_signature {ts : List Text} {k g : Nat} (hg : FirstFrom Signs ts k g)
    (ht : ts[g]? = some t) (hname : Signature t name) :
    ((⟨.outside, k⟩ : Scanner).feedAll (ts.drop k)).value = List.replicate (g - k) none ++ none ::
      ((⟨.signature name (g + 1), g + 1⟩ : Scanner).feedAll (ts.drop (g + 1))).value := by
  refine feedAll_upto hg (fun j u h1 h2 h3 => passes_outside (hg.first j u h1 h2 h3)) ?_
  intro u hu _
  obtain rfl := Option.some.inj (ht.symm.trans hu)
  exact feed_outside hname

theorem getElem?_replicate_none_append (m : Nat) (a f : Span) (l : List (Option Span)) (i : Nat) :
    (List.replicate m none ++ some a :: l)[i]? = some (some f) ↔
      (i = m ∧ f = a) ∨ ∃ n, i = m + (n + 1) ∧ l[n]? = some (some f) := by
  rcases Nat.lt_trichotomy i m with hi | rfl | hi
  · rw [List.getElem?_append_left (by simpa using hi), List.getElem?_replicate, if_pos hi]
    constructor
    · intro h
      cases h
    · rintro (⟨h, -⟩ | ⟨n, h, -⟩) <;> omega
  · rw [List.getElem?_append_right (by simp), List.length_replicate, Nat.sub_self,
      List.getElem?_cons_zero]
    constructor
    · intro h
      cases h
      exact .inl ⟨rfl, rfl⟩
    · rintro (⟨-, rfl⟩ | ⟨n, h, -⟩)
      · rfl
      · omega
  · obtain ⟨n, rfl⟩ : ∃ n, i = m + (n + 1) := ⟨i - m - 1, by omega⟩
    rw [List.getElem?_append_right (by simp), List.length_replicate, Nat.add_sub_cancel_left,
      List.getElem?_cons_succ]
    constructor
    · exact fun h => .inr ⟨n, rfl, h⟩
    · rintro (⟨h, -⟩ | ⟨n', h, hl⟩)
      · omega
      · obtain rfl : n = n' := by omega
        exact hl

/-- up to the next segment there is no record, and then there is the one of this segment -/
theorem feedAll_segment {ts : List Text} {k : Nat} {x : Segment} {segs : List Segment}
    (h : Segments ts k (x :: segs)) : k ≤ x.last ∧ Segments ts (x.last + 1) segs ∧
      ((⟨.outside, k⟩ : Scanner).feedAll (ts.drop k)).value = List.replicate (x.last - k) none ++
        some x.span :: ((⟨.outside, x.last + 1⟩ : Scanner).feedAll (ts.drop (x.last + 1))).value := by
  cases h with
  | @closed _ g s e t name _ hg ht hname he hs hrest =>
    have hkg := hg.le
    have hge := he.le
    refine ⟨by dsimp only; omega, hrest, ?_⟩
    rw [feedAll_signature hg ht hname, feedAll_counted he hs, replicate_none_append]
    congr 2
    dsimp only
    omega

theorem feedAll_no_segment {ts : List Text} {k : Nat} (h : Segments ts k []) :
    ∃ m, ((⟨.outside, k⟩ : Scanner).feedAll (ts.drop k)).value = List.replicate m none := by
  cases h with
  | outside hg =>
    have hpass : ∀ t ∈ ts.drop k, Passes .outside t := fun t ht =>
      passes_outside (FirstFrom.not_of_mem_drop hg t ht)
    have hval := feedAll_passes (n := k) hpass []
    rw [List.append_nil] at hval
    exact ⟨(ts.drop k).length, by rw [hval]; exact List.append_nil _⟩
  | @unclosed _ g hg he =>
    obtain ⟨t, ht, name, hname⟩ := hg.holds
    refine ⟨g - k + ((ts.drop (g + 1)).length + 1), ?_⟩
    rw [feedAll_signature hg ht hname,
      feedAll_unclosed (FirstFrom.not_of_mem_drop he) (by simp), ← List.replicate_succ,
      List.replicate_append_replicate]

/-- the records of the scanner from line `k` on, outside of all spans, are those of the segments -/
theorem feedAll_outside {ts : List Text} {k : Nat} {segs : List Segment} (h : Segments ts k segs) :
    ∀ i f, ((⟨.outside, k⟩ : Scanner).feedAll (ts.drop k)).value[i]? = some (some f) ↔
      ∃ x ∈ segs, x.last = k + i ∧ f = x.span := by
  induction segs generalizing k with
  | nil =>
    intro i f
    obtain ⟨m, hval⟩ := feedAll_no_segment h
    rw [hval]
    simp [List.getElem?_replicate]
  | cons y segs ih =>
    intro i f
    obtain ⟨hky, hrest, hval⟩ := feedAll_segment h
    rw [hval, getElem?_replicate_none_append]
    simp only [List.mem_cons, or_and_right, exists_or, exists_eq_left, ih hrest]
    refine or_congr ⟨?_, ?_⟩ ⟨?_, ?_⟩
    · rintro ⟨rfl, rfl⟩
      exact ⟨by omega, rfl⟩
    · rintro ⟨hlast, rfl⟩
      exact ⟨by omega, rfl⟩
    · rintro ⟨n, rfl, x, hx, hlast, rfl⟩
      exact ⟨x, hx, by omega, rfl⟩
    · rintro ⟨x, hx, hlast, rfl⟩
      have := hrest.le_last x hx
      exact ⟨i - (y.last - k) - 1, by omega, x, hx, by omega, rfl⟩

/-- **A record is given on the last line of each segment and on no other line.**  Every list of
lines has exactly one list of segments; a new scanner gives one answer for each line, and its answer
to line `e` is a record exactly when a segment ends there, with the name on the segment's first line
and the number of lines from where it counts. -/
theorem feedAll_new_segments (ts : List Text) :
    ∃ segs, Segments ts 0 segs ∧ (∀ segs', Segments ts 0 segs' → segs' = segs) ∧
      (new.feedAll ts).value.length = ts.length ∧
      ∀ e f, (new.feedAll ts).value[e]? = some (some f) ↔
        ∃ x ∈ segs, x.last = e ∧ f = ⟨x.name, x.last - x.start + 1⟩ := by
  obtain ⟨segs, h⟩ := Segments.total ts 0
  refine ⟨segs, h, fun segs' h' => h'.unique h, length_feedAll _ _, fun e f => ?_⟩
  have := feedAll_outside h e f
  rwa [Nat.zero_add] at this

/-! A prototype opens a span, the body of the next function ends it, and a brace outside counts for
nothing. -/

example : (new.feedAll ["p(int);".toList, "f(x)".toList, ['{'], ['}'], ['}']]).value =
    [none, none, none, some ⟨['p'], 2⟩, none] := by decide

end Scanner

end Upkeep.Span
