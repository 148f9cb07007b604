import Upkeep.IoFault
import Upkeep.Text.Utf8

/-!
# Lines

A line ends with a line feed; one carriage return directly before that line feed belongs to the
line end.  What follows the last line feed is a line if it is not empty, and is kept as it is.  Each
line is decoded on its own: one bad line does not spoil the others (`lines`), and a reader that
needs every line stops at the first bad one (`upToFault`, `readAll`).
-/

namespace Upkeep

abbrev Line := Except IoFault Text

namespace Line

def ofBytes (b : Bytes) : Line :=
  match Text.decode b with
  | some t => .ok t
  | none => .error .notUtf8

end Line

namespace Bytes

/-- a line held back to front, without the carriage return before the line feed -/
def closeLine : Bytes → Bytes
  | [] => []
  | c :: r => if c = 13 then r.reverse else (c :: r).reverse

/-- the lines of `b`, the first of which begins with `held`, back to front -/
def rawLinesFrom (held : Bytes) : Bytes → List Bytes
  | [] => if held.isEmpty then [] else [held.reverse]
  | c :: r => if c = 10 then closeLine held :: rawLinesFrom [] r else rawLinesFrom (c :: held) r

def rawLines (b : Bytes) : List Bytes := rawLinesFrom [] b

def lines (b : Bytes) : List Line := (rawLines b).map Line.ofBytes

@[simp] theorem rawLines_nil : rawLines [] = [] := rfl

@[simp] theorem lines_nil : lines [] = [] := rfl

theorem rawLinesFrom_append (held l r : Bytes) (h : 10 ∉ l) :
    rawLinesFrom held (l ++ 10 :: r) = closeLine (l.reverse ++ held) :: rawLines r := by
  induction l generalizing held with
  | nil => simp [rawLinesFrom, rawLines]
  | cons c l ih =>
    simp only [List.mem_cons, not_or] at h
    rw [List.cons_append, rawLinesFrom, if_neg (Ne.symm h.1), ih _ h.2]
    simp

theorem rawLines_append (l r : Bytes) (h : 10 ∉ l) :
    rawLines (l ++ 10 :: r) = closeLine l.reverse :: rawLines r := by
  simpa [rawLines] using rawLinesFrom_append [] l r h

theorem rawLinesFrom_last (held l : Bytes) (h : 10 ∉ l) :
    rawLinesFrom held l = if held ++ l = [] then [] else [held.reverse ++ l] := by
  induction l generalizing held with
  | nil => cases held <;> simp [rawLinesFrom]
  | cons c l ih =>
    simp only [List.mem_cons, not_or] at h
    rw [rawLinesFrom, if_neg (Ne.symm h.1), ih _ h.2]
    simp

theorem rawLines_last (l : Bytes) (h : 10 ∉ l) : rawLines l = if l = [] then [] else [l] := by
  simpa [rawLines] using rawLinesFrom_last [] l h

end Bytes

/-! ## the lines of a written text -/

namespace Text

/-- the text of lines, each ended by a line feed -/
def unlines (ts : List Text) : Text := ts.flatMap (· ++ ['\n'])

theorem unlines_eq_intercalate (ts : List Text) :
    unlines ts = ['\n'].intercalate (ts ++ [[]]) := by
  induction ts with
  | nil => rfl
  | cons t ts ih =>
    have hne : ts ++ [[]] ≠ [] := by simp
    rw [List.cons_append, List.intercalate_cons_of_ne_nil hne, ← ih, unlines, List.flatMap_cons,
      unlines]

theorem intercalate_append_newline {ts : List Text} (h : ts ≠ []) :
    ['\n'].intercalate ts ++ ['\n'] = unlines ts := by
  induction ts with
  | nil => exact absurd rfl h
  | cons t ts ih =>
    by_cases hts : ts = []
    · subst hts
      simp [unlines]
    · rw [List.intercalate_cons_of_ne_nil hts, List.append_assoc, ih hts, unlines, unlines,
        List.flatMap_cons]

theorem unlines_inj {ss ts : List Text} (hs : ∀ t ∈ ss, '\n' ∉ t) (ht : ∀ t ∈ ts, '\n' ∉ t)
    (h : unlines ss = unlines ts) : ss = ts := by
  -- the empty text at the end is what follows the last line feed
  have hsplit : ∀ us : List Text, (∀ u ∈ us, '\n' ∉ u) →
      (unlines us).splitOn '\n' = us ++ [[]] := by
    intro us hus
    rw [unlines_eq_intercalate]
    refine List.splitOn_intercalate '\n' ?_ (by simp)
    intro u hu
    rcases List.mem_append.1 hu with hu | hu
    · exact hus u hu
    · simp [List.mem_singleton.1 hu]
  have hlists := congrArg (List.splitOn '\n') h
  rw [hsplit ss hs, hsplit ts ht] at hlists
  exact List.append_cancel_right hlists

/-- a line as it is read back: a carriage return at its end is taken for part of the line end -/
def dropReturn (t : Text) : Text := if t.getLast? = some '\r' then t.dropLast else t

theorem isPrefix_dropReturn (t : Text) : t.dropReturn <+: t := by
  unfold dropReturn
  split
  · exact t.dropLast_prefix
  · exact t.prefix_rfl

theorem prefix_dropReturn_append {p : Text} (hp : p.getLast? ≠ some '\r') (r : Text) :
    p <+: dropReturn (p ++ r) := by
  unfold dropReturn
  split
  · next h =>
    rcases List.eq_nil_or_concat r with rfl | ⟨r, c, rfl⟩
    · rw [List.append_nil] at h
      exact absurd h hp
    · rw [List.concat_eq_append, ← List.append_assoc, List.dropLast_concat]
      exact List.prefix_append _ _
  · exact List.prefix_append _ _

theorem trim_dropReturn (t : Text) : trim t.dropReturn = trim t := by
  unfold dropReturn
  split
  · next h =>
    obtain ⟨s, rfl⟩ := List.getLast?_eq_some_iff.1 h
    rw [List.dropLast_concat, trim_concat_white s (by decide)]
  · rfl

theorem getLast?_encode_eq_iff (t : Text) :
    (encode t).getLast? = some 13 ↔ t.getLast? = some '\r' := by
  rcases List.eq_nil_or_concat t with rfl | ⟨s, c, rfl⟩
  · simp
  · obtain ⟨bs, x, hx⟩ := (List.eq_nil_or_concat (String.utf8EncodeChar c)).resolve_left
      String.utf8EncodeChar_ne_nil
    rw [List.concat_eq_append] at hx ⊢
    rw [encode_append, encode_cons, encode_nil, List.append_nil, hx, ← List.append_assoc,
      List.getLast?_concat, List.getLast?_concat, Option.some.injEq, Option.some.injEq]
    constructor
    · rintro rfl
      have hc := (encodeChar_of_mem_lt (c := c) (b := 13) (by simp [hx]) (by decide)).1
      rw [← Char.ofNat_toNat c, hc]
      rfl
    · rintro rfl
      have h13 : bs ++ [x] = [] ++ [13] := hx.symm
      exact List.head_eq_of_cons_eq (List.append_inj' h13 rfl).2

end Text

namespace Bytes

open Text

theorem closeLine_reverse (b : Bytes) :
    closeLine b.reverse = if b.getLast? = some 13 then b.dropLast else b := by
  rcases List.eq_nil_or_concat b with rfl | ⟨s, x, rfl⟩
  · rfl
  · rw [List.concat_eq_append, List.reverse_append, List.getLast?_concat]
    show (if x = 13 then _ else _) = _
    by_cases h : x = 13
    · simp [h]
    · simp [h]

theorem closeLine_encode (t : Text) : closeLine (encode t).reverse = encode t.dropReturn := by
  rw [closeLine_reverse]
  unfold dropReturn
  by_cases h : t.getLast? = some '\r'
  · rw [if_pos h, if_pos ((getLast?_encode_eq_iff t).2 h)]
    obtain ⟨s, rfl⟩ := List.getLast?_eq_some_iff.1 h
    rw [encode_append, List.dropLast_concat]
    exact List.dropLast_concat
  · rw [if_neg h, if_neg fun hb => h ((getLast?_encode_eq_iff t).1 hb)]

theorem ofBytes_encode (t : Text) : Line.ofBytes (encode t) = .ok t := by
  rw [Line.ofBytes, decode_encode]

theorem newline_notMem_encode {t : Text} (h : '\n' ∉ t) : (10 : UInt8) ∉ encode t :=
  fun hb => h (mem_of_mem_encode (by decide) hb)

theorem lines_encode_append {t : Text} (h : '\n' ∉ t) (rest : Bytes) :
    lines (encode t ++ 10 :: rest) = .ok t.dropReturn :: lines rest := by
  rw [lines, rawLines_append _ _ (newline_notMem_encode h), List.map_cons, closeLine_encode,
    ofBytes_encode]
  rfl

theorem lines_encode_last {t : Text} (h : '\n' ∉ t) (hne : t ≠ []) :
    lines (encode t) = [.ok t] := by
  have hb : encode t ≠ [] := fun he => hne (encode_inj he)
  rw [lines, rawLines_last _ (newline_notMem_encode h), if_neg hb, List.map_singleton,
    ofBytes_encode]

theorem lines_encode_unlines {ts : List Text} (h : ∀ t ∈ ts, '\n' ∉ t) (rest : Bytes) :
    lines (encode (unlines ts) ++ rest) = (ts.map dropReturn).map .ok ++ lines rest := by
  induction ts with
  | nil => rfl
  | cons t ts ih =>
    have hu : encode (unlines (t :: ts)) ++ rest =
        encode t ++ 10 :: (encode (unlines ts) ++ rest) := by
      simp only [unlines, List.flatMap_cons, encode_append, List.append_assoc]
      rfl
    rw [hu, lines_encode_append (h t List.mem_cons_self),
      ih fun t ht => h t (List.mem_cons_of_mem _ ht)]
    rfl

end Bytes

/-! ## reading on until a fault -/

namespace Line

def upToFault : List Line → List Text × Option IoFault
  | [] => ([], none)
  | .error e :: _ => ([], some e)
  | .ok t :: rest => (t :: (upToFault rest).1, (upToFault rest).2)

def readAll (ls : List Line) : Except IoFault (List Text) :=
  match upToFault ls with
  | (ts, none) => .ok ts
  | (_, some e) => .error e

@[simp] theorem upToFault_ok (ts : List Text) : upToFault (ts.map .ok) = (ts, none) := by
  induction ts with
  | nil => rfl
  | cons t ts ih => simp [upToFault, ih]

theorem upToFault_fault (ts : List Text) (e : IoFault) (rest : List Line) :
    upToFault (ts.map .ok ++ .error e :: rest) = (ts, some e) := by
  induction ts with
  | nil => rfl
  | cons t ts ih => simp [upToFault, ih]

@[simp] theorem readAll_ok (ts : List Text) : readAll (ts.map .ok) = .ok ts := by
  simp [readAll]

theorem upToFault_eq_none_iff {ls : List Line} {ts : List Text} :
    upToFault ls = (ts, none) ↔ ls = ts.map .ok := by
  refine ⟨fun h => ?_, fun h => h ▸ upToFault_ok ts⟩
  induction ls generalizing ts with
  | nil =>
    cases h
    rfl
  | cons l ls ih =>
    cases l with
    | error e => cases h
    | ok t =>
      simp only [upToFault, Prod.mk.injEq] at h
      obtain ⟨rfl, h⟩ := h
      rw [List.map_cons, ← ih (Prod.ext rfl h)]

theorem upToFault_eq_some_iff {ls : List Line} {ts : List Text} {e : IoFault} :
    upToFault ls = (ts, some e) ↔ ∃ rest, ls = ts.map .ok ++ .error e :: rest := by
  refine ⟨fun h => ?_, fun ⟨rest, h⟩ => h ▸ upToFault_fault ts e rest⟩
  induction ls generalizing ts with
  | nil => cases h
  | cons l ls ih =>
    cases l with
    | error e' =>
      cases h
      exact ⟨ls, rfl⟩
    | ok t =>
      simp only [upToFault, Prod.mk.injEq] at h
      obtain ⟨rfl, h⟩ := h
      obtain ⟨rest, hrest⟩ := ih (Prod.ext rfl h)
      exact ⟨rest, congrArg (.ok t :: ·) hrest⟩

theorem readAll_eq_ok_iff {ls : List Line} {ts : List Text} :
    readAll ls = .ok ts ↔ ls = ts.map .ok := by
  rw [← upToFault_eq_none_iff, readAll]
  cases hu : upToFault ls with
  | mk us fault => cases fault <;> simp

theorem readAll_fault (ts : List Text) (e : IoFault) (rest : List Line) :
    readAll (ts.map .ok ++ .error e :: rest) = .error e := by
  simp [readAll, upToFault_fault]

theorem readAll_eq_error_iff {ls : List Line} {e : IoFault} :
    readAll ls = .error e ↔ ∃ (ts : List Text) (rest : List Line),
      ls = ts.map .ok ++ .error e :: rest := by
  refine ⟨fun h => ?_, fun ⟨ts, rest, h⟩ => h ▸ readAll_fault ts e rest⟩
  unfold readAll at h
  split at h
  · cases h
  · next ts e' hu =>
    cases h
    exact ⟨ts, upToFault_eq_some_iff.1 hu⟩

end Line

end Upkeep
