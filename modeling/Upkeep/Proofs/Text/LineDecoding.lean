import Upkeep.Text.Lines

/-!
# Decoding line by line

A line feed is never part of the written form of another character, so bytes are UTF-8 exactly when
the parts before and after each of their line feeds are.  A carriage return at the end of a line is
a character of its own too.  Main statement: the whole file can be decoded exactly when each of its
lines can (`Bytes.decode_isSome_iff_lines`).

The lines of a file are followed by `Bytes.line_induction`: a last line without a line feed, or a
line with its line feed and the rest of the file.
-/

namespace Upkeep

theorem exists_eq_map_ok_iff {ε α : Type} {xs : List (Except ε α)} :
    (∃ as : List α, xs = as.map .ok) ↔ ∀ x ∈ xs, ∃ a, x = .ok a := by
  constructor
  · rintro ⟨as, rfl⟩ x hx
    obtain ⟨a, -, rfl⟩ := List.mem_map.1 hx
    exact ⟨a, rfl⟩
  · intro h
    induction xs with
    | nil => exact ⟨[], rfl⟩
    | cons x xs ih =>
      obtain ⟨⟨a, rfl⟩, hxs⟩ := List.forall_mem_cons.1 h
      obtain ⟨as, rfl⟩ := ih hxs
      exact ⟨a :: as, rfl⟩

namespace Text

theorem decode_isSome_iff {b : Bytes} : (decode b).isSome = true ↔ ∃ t, b = encode t := by
  rw [Option.isSome_iff_exists]
  exact exists_congr fun t => decode_eq_some_iff

theorem newline_notMem_encodeChar {c : Char} (h : c ≠ '\n') :
    (10 : UInt8) ∉ String.utf8EncodeChar c := by
  intro hb
  have hc := (encodeChar_of_mem_lt hb (by decide)).1
  exact h (by rw [← Char.ofNat_toNat c, hc]; rfl)

/-- a line feed among the bytes of a text is one of its characters -/
theorem encode_eq_append_newline {t : Text} {l r : Bytes} (h : encode t = l ++ 10 :: r)
    (hl : (10 : UInt8) ∉ l) : ∃ u v, l = encode u ∧ r = encode v := by
  induction t generalizing l with
  | nil => simp at h
  | cons c t ih =>
    rw [encode_cons] at h
    by_cases hc : c = '\n'
    · subst hc
      cases l with
      | nil =>
        obtain ⟨-, rfl⟩ := List.cons.inj h
        exact ⟨[], t, rfl, rfl⟩
      | cons x l =>
        obtain ⟨rfl, -⟩ := List.cons.inj h
        exact absurd List.mem_cons_self hl
    · have hno := newline_notMem_encodeChar hc
      rcases List.append_eq_append_iff.1 h with ⟨m, rfl, hm⟩ | ⟨m, hm, hr⟩
      · obtain ⟨u, v, rfl, rfl⟩ := ih hm fun hx => hl (List.mem_append_right _ hx)
        exact ⟨c :: u, v, rfl, rfl⟩
      · cases m with
        | nil =>
          -- the character ends where the line feed stands
          rw [List.append_nil] at hm
          have ht : encode t = [] ++ 10 :: r := hr.symm
          obtain ⟨u, v, hu, rfl⟩ := ih ht List.not_mem_nil
          obtain rfl : u = [] := encode_inj hu.symm
          exact ⟨[c], v, by rw [← hm, encode_cons, encode_nil, List.append_nil], rfl⟩
        | cons x m =>
          obtain ⟨rfl, -⟩ := List.cons.inj hr
          exact absurd (hm ▸ List.mem_append_right _ List.mem_cons_self) hno

end Text

namespace Bytes

open Text

/-- a statement about files that holds for a line on its own, and for a line and its line feed in
front of a file for which it holds -/
theorem line_induction {P : Bytes → Prop} (last : ∀ l, 10 ∉ l → P l)
    (line : ∀ l r, 10 ∉ l → P r → P (l ++ 10 :: r)) (b : Bytes) : P b := by
  induction hn : b.length using Nat.strongRecOn generalizing b with
  | _ n ih =>
    by_cases h : 10 ∈ b
    · obtain ⟨l, r, rfl, hl⟩ := List.eq_append_cons_of_mem h
      rw [List.length_append, List.length_cons] at hn
      exact line l r hl (ih r.length (by omega) r rfl)
    · exact last b h

theorem decode_isSome_append_newline {l r : Bytes} (hl : 10 ∉ l) :
    (decode (l ++ 10 :: r)).isSome = true ↔
      (decode l).isSome = true ∧ (decode r).isSome = true := by
  simp only [decode_isSome_iff]
  constructor
  · rintro ⟨t, ht⟩
    obtain ⟨u, v, hu, hv⟩ := encode_eq_append_newline ht.symm hl
    exact ⟨⟨u, hu⟩, v, hv⟩
  · rintro ⟨⟨u, rfl⟩, v, rfl⟩
    exact ⟨u ++ '\n' :: v, by rw [encode_append]; rfl⟩

theorem decode_isSome_closeLine (l : Bytes) :
    (decode (closeLine l.reverse)).isSome = true ↔ (decode l).isSome = true := by
  simp only [decode_isSome_iff]
  constructor
  · rintro ⟨u, hu⟩
    rw [closeLine_reverse] at hu
    split at hu
    · next h =>
      obtain ⟨m, rfl⟩ := List.getLast?_eq_some_iff.1 h
      rw [List.dropLast_concat] at hu
      exact ⟨u ++ ['\r'], by rw [hu, encode_append]; rfl⟩
    · exact ⟨u, hu⟩
  · rintro ⟨u, rfl⟩
    exact ⟨u.dropReturn, closeLine_encode u⟩

theorem ofBytes_eq_ok_iff {b : Bytes} : (∃ t, Line.ofBytes b = .ok t) ↔ (decode b).isSome = true := by
  unfold Line.ofBytes
  cases decode b with
  | none => simp
  | some t => simp

theorem ofBytes_eq_error {b : Bytes} {e : IoFault} (h : Line.ofBytes b = .error e) :
    e = .notUtf8 := by
  unfold Line.ofBytes at h
  split at h
  · cases h
  · cases h
    rfl

theorem lines_append_newline {l r : Bytes} (hl : 10 ∉ l) :
    lines (l ++ 10 :: r) = Line.ofBytes (closeLine l.reverse) :: lines r := by
  rw [lines, rawLines_append _ _ hl]
  rfl

theorem lines_last {l : Bytes} (hl : 10 ∉ l) :
    lines l = if l = [] then [] else [Line.ofBytes l] := by
  rw [lines, rawLines_last _ hl]
  split <;> rfl

/-- a bad line is one that is not UTF-8 -/
theorem eq_notUtf8_of_mem_lines {b : Bytes} {e : IoFault} (h : .error e ∈ b.lines) :
    e = .notUtf8 := by
  obtain ⟨raw, -, hraw⟩ := List.mem_map.1 h
  exact ofBytes_eq_error hraw

/-- only such a line ends the reading -/
theorem eq_notUtf8_of_fault {b : Bytes} {e : IoFault} (h : (Line.upToFault b.lines).2 = some e) :
    e = .notUtf8 := by
  obtain ⟨rest, hrest⟩ := Line.upToFault_eq_some_iff.1 (Prod.ext rfl h)
  apply eq_notUtf8_of_mem_lines
  rw [hrest]
  simp

/-- **A file can be decoded as a whole exactly when each of its lines can.** -/
theorem decode_isSome_iff_lines (b : Bytes) :
    (decode b).isSome = true ↔ ∀ x ∈ b.lines, ∃ t, x = .ok t := by
  induction b using line_induction with
  | last l hl =>
    rw [lines_last hl]
    by_cases h : l = []
    · subst h
      exact ⟨fun _ => by simp, fun _ => rfl⟩
    · rw [if_neg h, List.forall_mem_singleton, ofBytes_eq_ok_iff]
  | line l r hl ih =>
    rw [decode_isSome_append_newline hl, lines_append_newline hl, List.forall_mem_cons,
      ofBytes_eq_ok_iff, decode_isSome_closeLine, ih]

theorem exists_lines_encode (t : Text) : ∃ ts : List Text, (encode t).lines = ts.map .ok := by
  rw [exists_eq_map_ok_iff, ← decode_isSome_iff_lines, decode_isSome_iff]
  exact ⟨t, rfl⟩

/-- the number of lines: one for each line feed, and one for what follows the last of them -/
theorem length_lines (b : Bytes) : b.lines.length =
    b.count 10 + if b = [] ∨ b.getLast? = some 10 then 0 else 1 := by
  induction b using line_induction with
  | last l hl =>
    have hlast : l.getLast? ≠ some 10 := fun h => hl (List.mem_of_getLast? h)
    rw [lines_last hl, List.count_eq_zero.2 hl]
    by_cases h : l = []
    · simp [h]
    · simp [h, hlast]
  | line l r hl ih =>
    have hend : (l ++ 10 :: r = [] ∨ (l ++ 10 :: r).getLast? = some 10) ↔
        (r = [] ∨ r.getLast? = some 10) := by
      cases r with
      | nil => simp
      | cons x r => simp [List.getLast?_cons_cons, List.getLast?_append]
    rw [lines_append_newline hl, List.length_cons, ih, List.count_append, List.count_eq_zero.2 hl,
      List.count_cons_self]
    simp only [hend]
    omega

end Bytes

end Upkeep
