import Mathlib.Data.List.Nodup
import Upkeep.Proofs.Toml.Strings
import Upkeep.Text.Lines
import Upkeep.Toml.Document

/-!
# Documents with one setting on each line

A plain document sets keys to values, one on each line: `key = value`.

* `Setting`           a value: a text, a list of texts, or a word such as an integer;
* `Setting.Written`   the ways to write it;
* `KeyForm`           the ways to write a key, with or without quotes;
* `Describes es doc`  the lines of the document set the keys of `es` to their values, in order.

Each reader is followed from the value outwards: `Setting.Written.value?_append`,
`LineForm.statement?_append`, `statements?_unlines`.  The table of the document holds the settings
last to first, because each one is entered in front (`Describes.parse`).
-/

namespace Upkeep.Toml

open Text

variable {c : Char} {r t u : Text}

theorem ne_of_class {p : Char → Bool} {d : Char} (hc : p c = true) (hd : p d = false) : c ≠ d := by
  rintro rfl
  rw [hc] at hd
  cases hd

/-! ## blanks and gaps -/

/-- a character that is passed over neither as white space nor as the start of a comment -/
def isFirm (c : Char) : Bool := !isBlank c && c != '#' && c != '\n' && c != '\r'

theorem newline?_firm (h : isFirm c = true) (r : Text) : newline? (c :: r) = none := by
  have hn : c ≠ '\n' := ne_of_class h rfl
  have hr : c ≠ '\r' := ne_of_class h rfl
  rw [newline?.eq_def]
  simp [hn, hr]

theorem skipBlank_cons (h : isBlank c = false) (r : Text) : skipBlank (c :: r) = c :: r :=
  List.dropWhile_cons_of_neg (by simp [h])

theorem isBlank_firm (h : isFirm c = true) : isBlank c = false := by
  simp [isFirm] at h
  exact h.1.1.1

theorem comment?_firm (h : isFirm c = true) (r : Text) : comment? (c :: r) = some (c :: r) := by
  unfold comment?
  split
  · next heq =>
    obtain ⟨rfl, -⟩ := List.cons.inj heq
    cases h
  · rfl

/-- a gap of blanks ends at the first character that is firm -/
theorem gap?_append {b : Text} (hb : ∀ d ∈ b, isBlank d = true) (h : isFirm c = true) (r : Text) :
    gap? (b ++ c :: r) = some (c :: r) := by
  have hskip : skipBlank (b ++ c :: r) = c :: r := by
    rw [skipBlank, List.dropWhile_append_of_pos hb]
    exact skipBlank_cons (isBlank_firm h) r
  rw [gap?, skipLines?, hskip, comment?_firm h, Option.bind_eq_bind, Option.bind_some,
    newline?_firm h]
  rfl

theorem gap?_firm (h : isFirm c = true) (r : Text) : gap? (c :: r) = some (c :: r) :=
  gap?_append (List.forall_mem_nil _) h r

/-! ## runs -/

section

variable {p : Char → Bool} {w : Text} (hw : ∀ c ∈ w, p c = true)
  (hr : ∀ c ∈ r.head?, p c = false)
include hw hr

theorem takeWhile_run : (w ++ r).takeWhile p = w := by
  rw [List.takeWhile_append_of_pos hw]
  cases r with
  | nil => rw [List.takeWhile_nil, List.append_nil]
  | cons c r => rw [List.takeWhile_cons_of_neg (by simp [hr c rfl]), List.append_nil]

theorem dropWhile_run : (w ++ r).dropWhile p = r := by
  rw [List.dropWhile_append_of_pos hw]
  cases r with
  | nil => rfl
  | cons c r => rw [List.dropWhile_cons_of_neg (by simp [hr c rfl])]

end

/-! ## values -/

/-- a value on one line -/
inductive Setting where
  | text (t : Text)
  | texts (ts : List Text)
  /-- a value without quotes and brackets, such as an integer -/
  | word (w : Text)
deriving DecidableEq

namespace Setting

def value? : Setting → Option Value
  | text t => some (.string t)
  | texts ts => some (.array (ts.map .string))
  | word w => ofWord? w

inductive Written : Setting → Text → Prop where
  | text {t u : Text} : Quoted t u → Written (.text t) u
  | texts {ts us : List Text} : List.Forall₂ Quoted ts us →
      Written (.texts ts) ('[' :: (", ".toList.intercalate us ++ [']']))
  | word {w : Text} : w ≠ [] → (∀ c ∈ w, isWordChar c = true) → Written (.word w) w

end Setting

theorem Quoted.exists_cons (h : Quoted t u) : ∃ v, u = '"' :: v := by
  obtain ⟨v, -, rfl⟩ := h
  exact ⟨_, rfl⟩

theorem Quoted.value?_append (h : Quoted t u) (hr : r.head? ≠ some '"') (depth : Nat) :
    value? depth (u ++ r) = some (.string t, r) := by
  have hstring := h.string?_append hr
  obtain ⟨v, rfl⟩ := h.exists_cons
  rw [List.cons_append] at hstring ⊢
  cases depth with
  | zero => rw [value?, hstring]
  | succ depth => simp [value?, hstring]

section

variable {b : Text} (hb : ∀ d ∈ b, isBlank d = true) (depth fuel : Nat)
include hb

theorem gap?_quoted (h : Quoted t u) (r : Text) : gap? (b ++ (u ++ r)) = some (u ++ r) := by
  obtain ⟨v, rfl⟩ := h.exists_cons
  exact gap?_append hb rfl _

theorem items?_close (h : Quoted t u) (r : Text) :
    items? ']' (value? depth) (fuel + 1) (b ++ (u ++ ']' :: r)) = some ([.string t], r) := by
  have hitem : value? depth (u ++ ']' :: r) = some (.string t, ']' :: r) :=
    h.value?_append (by simp) depth
  have hopen : after? [']'] (u ++ ']' :: r) = none := by
    obtain ⟨v, rfl⟩ := h.exists_cons
    rfl
  rw [items?, gap?_quoted hb h]
  simp only [Option.bind_eq_bind, Option.bind_some, hopen, hitem, gap?_firm (c := ']') rfl]
  rfl

theorem items?_comma (h : Quoted t u) (r : Text) :
    items? ']' (value? depth) (fuel + 1) (b ++ (u ++ ',' :: r)) =
      (items? ']' (value? depth) fuel r).map fun x => (.string t :: x.1, x.2) := by
  have hitem : value? depth (u ++ ',' :: r) = some (.string t, ',' :: r) :=
    h.value?_append (by simp) depth
  have hopen : after? [']'] (u ++ ',' :: r) = none := by
    obtain ⟨v, rfl⟩ := h.exists_cons
    rfl
  rw [items?, gap?_quoted hb h]
  simp only [Option.bind_eq_bind, Option.bind_some, hopen, hitem, gap?_firm (c := ',') rfl]
  show (items? ']' (value? depth) fuel r).bind _ = _
  cases items? ']' (value? depth) fuel r <;> rfl

end

/-- quoted strings with commas between them are read up to the closing bracket -/
theorem items?_quoted {ts us : List Text} (h : List.Forall₂ Quoted ts us) (depth : Nat) (r : Text) :
    ∀ (fuel : Nat) (b : Text), (", ".toList.intercalate us).length < fuel →
      (∀ d ∈ b, isBlank d = true) →
      items? ']' (value? depth) fuel (b ++ (", ".toList.intercalate us ++ ']' :: r)) =
        some (ts.map .string, r) := by
  induction h with
  | nil =>
    intro fuel b hfuel hb
    obtain ⟨fuel, rfl⟩ := Nat.exists_eq_succ_of_ne_zero (Nat.ne_of_gt hfuel)
    show items? ']' (value? depth) (fuel + 1) (b ++ ']' :: r) = some ([], r)
    rw [items?, gap?_append hb rfl]
    rfl
  | @cons t u ts us hu hus ih =>
    intro fuel b hfuel hb
    obtain ⟨fuel, rfl⟩ := Nat.exists_eq_succ_of_ne_zero (Nat.ne_of_gt (Nat.zero_lt_of_lt hfuel))
    cases hus with
    | nil =>
      rw [List.intercalate_singleton]
      exact items?_close hb depth fuel hu r
    | @cons t' u' ts us hu' hus =>
      have hlen : (", ".toList.intercalate (u' :: us)).length < fuel := by
        rw [List.intercalate_cons_of_ne_nil (List.cons_ne_nil _ _)] at hfuel
        have hsep : ", ".toList.length = 2 := rfl
        simp only [List.length_append, hsep] at hfuel
        omega
      have hrest := ih fuel [' '] hlen (List.forall_mem_singleton.2 rfl)
      rw [List.intercalate_cons_of_ne_nil (List.cons_ne_nil _ _), List.append_assoc,
        List.append_assoc]
      show items? ']' (value? depth) (fuel + 1) (b ++ (u ++ ',' :: ([' '] ++ _))) = _
      rw [items?_comma hb depth fuel hu, hrest]
      rfl

theorem word_append {w : Text} (hw : ∀ c ∈ w, isWordChar c = true) (r : Text) :
    word (w ++ '\n' :: r) = (w, '\n' :: r) := by
  have hstop : ∀ c ∈ ('\n' :: r).head?, isWordChar c = false := by
    intro c hc
    obtain rfl : '\n' = c := Option.some.inj hc
    decide
  simp [word, takeWhile_run hw hstop, dropWhile_run hw hstop]

theorem value?_word {w : Text} (hne : w ≠ []) (hw : ∀ c ∈ w, isWordChar c = true) (depth : Nat)
    (r : Text) : Toml.value? depth (w ++ '\n' :: r) = (ofWord? w).map (·, '\n' :: r) := by
  have hscalar : scalar? (w ++ '\n' :: r) = (ofWord? w).map (·, '\n' :: r) := by
    rw [scalar?, word_append hw]
  obtain ⟨c, w, rfl⟩ := List.exists_cons_of_ne_nil hne
  have hc : isWordChar c = true := hw c List.mem_cons_self
  have hbracket : c ≠ '[' := ne_of_class hc rfl
  have hbrace : c ≠ '\x7b' := ne_of_class hc rfl
  have hquote : c ≠ '"' := ne_of_class hc rfl
  have hsingle : c ≠ '\'' := ne_of_class hc rfl
  have hstring : string? (c :: (w ++ '\n' :: r)) = none := by
    simp [string?, line?, after?, hquote, hsingle, Ne.symm hquote, Ne.symm hsingle]
  rw [List.cons_append] at hscalar ⊢
  cases depth with
  | zero => rw [value?, hstring, hscalar]
  | succ depth => simp [value?, hbracket, hbrace, hstring, hscalar]

theorem Setting.Written.value?_append {v : Setting} (h : v.Written u) (depth : Nat) (r : Text) :
    Toml.value? (depth + 1) (u ++ '\n' :: r) = v.value?.map (·, '\n' :: r) := by
  cases h with
  | text hu => exact hu.value?_append (by simp) (depth + 1)
  | @texts ts us hus =>
    have hlen : (", ".toList.intercalate us).length <
        (", ".toList.intercalate us ++ ']' :: '\n' :: r).length + 1 := by
      rw [List.length_append]
      omega
    have hitems := items?_quoted hus depth ('\n' :: r) _ [] hlen (List.forall_mem_nil _)
    rw [List.nil_append] at hitems
    show Toml.value? (depth + 1) ('[' :: ((", ".toList.intercalate us ++ [']']) ++ '\n' :: r)) = _
    rw [List.append_assoc, List.singleton_append, Toml.value?, hitems]
    rfl
  | word hne hw => exact value?_word hne hw (depth + 1) r

/-! ## keys -/

/-- the ways to write a key of one name -/
inductive KeyForm (k : Text) : Text → Prop where
  | bare : k ≠ [] → (∀ c ∈ k, isKeyChar c = true) → KeyForm k k
  | quoted {u : Text} : Quoted k u → KeyForm k u

variable {k : Text}

theorem isKeyChar_firm (h : isKeyChar c = true) : isFirm c = true := by
  have hspace : c ≠ ' ' := ne_of_class h rfl
  have htab : c ≠ '\t' := ne_of_class h rfl
  have hcomment : c ≠ '#' := ne_of_class h rfl
  have hn : c ≠ '\n' := ne_of_class h rfl
  have hr : c ≠ '\r' := ne_of_class h rfl
  simp [isFirm, isBlank, hspace, htab, hcomment, hn, hr]

/-- a key starts with a character that tells it from a header, a comment and an empty line -/
theorem KeyForm.exists_cons (h : KeyForm k u) :
    ∃ c v, u = c :: v ∧ isFirm c = true ∧ c ≠ '[' ∧ c.toNat ≠ 0xFEFF := by
  cases h with
  | bare hne hk =>
    obtain ⟨c, v, rfl⟩ := List.exists_cons_of_ne_nil hne
    have hc : isKeyChar c = true := hk c List.mem_cons_self
    have hmark : c ≠ Char.ofNat 0xFEFF := ne_of_class hc rfl
    exact ⟨c, v, rfl, isKeyChar_firm hc, ne_of_class hc rfl, fun h => hmark (Char.toNat_inj.1 h)⟩
  | quoted h =>
    obtain ⟨v, rfl⟩ := h.exists_cons
    exact ⟨'"', v, rfl, rfl, by decide, by decide⟩

theorem KeyForm.name?_append (h : KeyForm k u) (hr : ∀ c ∈ r.head?, isKeyChar c = false) :
    name? (u ++ r) = some (k, r) := by
  cases h with
  | bare hne hk =>
    rw [name?, takeWhile_run hk hr, dropWhile_run hk hr]
    obtain ⟨c, v, rfl⟩ := List.exists_cons_of_ne_nil hne
    rfl
  | quoted h =>
    have hline := h.line?_append r
    obtain ⟨v, rfl⟩ := h.exists_cons
    exact hline

theorem KeyForm.key?_append (h : KeyForm k u) (r : Text) :
    key? (u ++ ' ' :: '=' :: r) = some ([k], '=' :: r) := by
  have hskip : skipBlank (u ++ ' ' :: '=' :: r) = u ++ ' ' :: '=' :: r := by
    obtain ⟨c, v, rfl, hc, -⟩ := h.exists_cons
    exact skipBlank_cons (isBlank_firm hc) _
  have hname : name? (u ++ ' ' :: '=' :: r) = some (k, ' ' :: '=' :: r) :=
    h.name?_append (by simp; decide)
  rw [key?, names?, hskip, hname]
  rfl

/-! ## lines -/

/-- the ways to write that a key has a value -/
def LineForm (e : Text × Setting) (line : Text) : Prop :=
  ∃ k u, KeyForm e.1 k ∧ e.2.Written u ∧ line = k ++ " = ".toList ++ u

def Describes (es : List (Text × Setting)) (doc : Text) : Prop :=
  ∃ ls, List.Forall₂ LineForm es ls ∧ doc = unlines ls

variable {e : Text × Setting} {line : Text}

theorem LineForm.exists_cons (h : LineForm e line) :
    ∃ c v, line = c :: v ∧ isFirm c = true ∧ c ≠ '[' ∧ c.toNat ≠ 0xFEFF := by
  obtain ⟨k, u, hk, -, rfl⟩ := h
  obtain ⟨c, v, rfl, hc⟩ := hk.exists_cons
  exact ⟨c, _, rfl, hc⟩

theorem Setting.Written.skipBlank_append {v : Setting} (h : v.Written u) (r : Text) :
    skipBlank (' ' :: (u ++ r)) = u ++ r := by
  show skipBlank (u ++ r) = u ++ r
  cases h with
  | text hu =>
    obtain ⟨v, rfl⟩ := hu.exists_cons
    rfl
  | texts => rfl
  | word hne hw =>
    obtain ⟨c, w, rfl⟩ := List.exists_cons_of_ne_nil hne
    have hc : isWordChar c = true := hw c List.mem_cons_self
    have hspace : c ≠ ' ' := ne_of_class hc rfl
    have htab : c ≠ '\t' := ne_of_class hc rfl
    exact skipBlank_cons (by simp [isBlank, hspace, htab]) _

theorem LineForm.statement?_append (h : LineForm e line) (r : Text) :
    statement? (line ++ '\n' :: r) =
      e.2.value?.map fun v => (.pair [e.1] v, '\n' :: r) := by
  obtain ⟨c, v, hcons, -, hheader, -⟩ := h.exists_cons
  have hpair : statement? (line ++ '\n' :: r) =
      (pair? (some ∘ skipBlank) (Toml.value? maxDepth) (line ++ '\n' :: r)).map
        fun x => (.pair x.1.1 x.1.2, x.2) := by
    rw [hcons]
    unfold statement?
    split
    · next heq => exact absurd (List.cons.inj heq).1 hheader
    · rfl
  obtain ⟨k, u, hk, hu, rfl⟩ := h
  have hkey := hk.key?_append (' ' :: (u ++ '\n' :: r))
  have hvalue : Toml.value? maxDepth (u ++ '\n' :: r) = e.2.value?.map (·, '\n' :: r) :=
    hu.value?_append (maxDepth - 1) r
  have hline : k ++ " = ".toList ++ u ++ '\n' :: r =
      k ++ ' ' :: '=' :: ' ' :: (u ++ '\n' :: r) := by
    rw [List.append_assoc, List.append_assoc]
    rfl
  rw [hpair, hline, pair?, hkey]
  show Option.map _ ((Toml.value? maxDepth (skipBlank (' ' :: (u ++ '\n' :: r)))).bind _) = _
  rw [hu.skipBlank_append, hvalue]
  cases e.2.value? <;> rfl

/-! ## documents -/

/-- the keys with the values that the settings stand for, if all of them stand for one -/
def entries? (es : List (Text × Setting)) : Option Table :=
  es.mapM fun e => e.2.value?.map (e.1, ·)

theorem entries?_cons (e : Text × Setting) (es : List (Text × Setting)) :
    entries? (e :: es) = e.2.value?.bind fun v => (entries? es).map ((e.1, v) :: ·) := by
  rw [entries?, List.mapM_cons]
  cases e.2.value? with
  | none => rfl
  | some v =>
    show (entries? es).bind _ = _
    cases entries? es <;> rfl

theorem unlines_cons (l : Text) (ls : List Text) : unlines (l :: ls) = l ++ '\n' :: unlines ls := by
  simp [unlines]

theorem statements?_unlines {es : List (Text × Setting)} {ls : List Text}
    (h : List.Forall₂ LineForm es ls) : ∀ fuel, (unlines ls).length < fuel →
      statements? fuel (unlines ls) =
        (entries? es).map fun ps => ps.map fun p => .pair [p.1] p.2 := by
  induction h with
  | nil =>
    intro fuel hfuel
    obtain ⟨fuel, rfl⟩ := Nat.exists_eq_succ_of_ne_zero (Nat.ne_of_gt hfuel)
    rfl
  | @cons e line es ls hline hls ih =>
    intro fuel hfuel
    obtain ⟨fuel, rfl⟩ := Nat.exists_eq_succ_of_ne_zero (Nat.ne_of_gt (Nat.zero_lt_of_lt hfuel))
    rw [unlines_cons] at hfuel ⊢
    have hrest : statements? fuel (unlines ls) =
        (entries? es).map fun ps => ps.map fun p => .pair [p.1] p.2 := by
      apply ih
      rw [List.length_append, List.length_cons] at hfuel
      omega
    have hstatement := hline.statement?_append (unlines ls)
    obtain ⟨c, v, rfl, hc, -⟩ := hline.exists_cons
    rw [List.cons_append] at hstatement ⊢
    rw [statements?, gap?_firm hc, entries?_cons]
    show (statement? (c :: (v ++ '\n' :: unlines ls))).bind _ = _
    rw [hstatement]
    cases e.2.value? with
    | none => rfl
    | some w =>
      show (statements? fuel (unlines ls)).bind _ = _
      rw [hrest]
      cases entries? es <;> rfl

theorem keys_entries? {es : List (Text × Setting)} : ∀ {ps : Table}, entries? es = some ps →
    ps.map Prod.fst = es.map Prod.fst := by
  induction es with
  | nil =>
    intro ps h
    obtain rfl : [] = ps := Option.some.inj h
    rfl
  | cons e es ih =>
    intro ps h
    rw [entries?_cons] at h
    obtain ⟨v, -, h⟩ := Option.bind_eq_some_iff.1 h
    obtain ⟨qs, hqs, rfl⟩ := Option.map_eq_some_iff.1 h
    rw [List.map_cons, List.map_cons, ih hqs]

theorem exists_entries? {es : List (Text × Setting)} (h : ∀ e ∈ es, e.2.value?.isSome) :
    ∃ ps, entries? es = some ps := by
  induction es with
  | nil => exact ⟨[], rfl⟩
  | cons e es ih =>
    obtain ⟨he, hes⟩ := List.forall_mem_cons.1 h
    obtain ⟨v, hv⟩ := Option.isSome_iff_exists.1 he
    obtain ⟨ps, hps⟩ := ih hes
    refine ⟨(e.1, v) :: ps, ?_⟩
    rw [entries?_cons, hv, hps]
    rfl

theorem mem_entries? {es : List (Text × Setting)} {e : Text × Setting} :
    ∀ {ps : Table}, entries? es = some ps → e ∈ es → ∃ v, e.2.value? = some v ∧ (e.1, v) ∈ ps := by
  induction es with
  | nil =>
    intro ps _ he
    cases he
  | cons d es ih =>
    intro ps h he
    rw [entries?_cons] at h
    obtain ⟨v, hv, h⟩ := Option.bind_eq_some_iff.1 h
    obtain ⟨qs, hqs, rfl⟩ := Option.map_eq_some_iff.1 h
    obtain rfl | he := List.mem_cons.1 he
    · exact ⟨v, hv, List.mem_cons_self⟩
    · obtain ⟨w, hw, hmem⟩ := ih hqs he
      exact ⟨w, hw, List.mem_cons_of_mem _ hmem⟩

theorem lookup_of_mem {t : Table} {k : Text} {v : Value} (hkeys : (t.map Prod.fst).Nodup)
    (h : (k, v) ∈ t) : t.lookup k = some v := by
  obtain ⟨before, after, rfl⟩ := List.append_of_mem h
  refine List.lookup_eq_some_iff.2 ⟨before, after, rfl, ?_⟩
  intro p hp
  rw [List.map_append, List.map_cons, List.nodup_middle] at hkeys
  have hk : k ∉ before.map Prod.fst ++ after.map Prod.fst := (List.nodup_cons.1 hkeys).1
  have hne : k ≠ p.1 := fun he =>
    hk (List.mem_append_left _ (List.mem_map.2 ⟨p, hp, he.symm⟩))
  exact bne_iff_ne.2 hne

theorem enter_name {t : Table} {k : Text} (h : t.lookup k = none) (v : Value) :
    Table.enter t [k] v = some ((k, v) :: t) := by
  simp [Table.enter, Table.change, h]

/-- pairs whose keys are new and differ are entered one after the other -/
theorem build?_pairs (ps : Table) : ∀ (t : Table) (fuel : Nat), ps.length < fuel →
    (ps.map Prod.fst).Nodup → (∀ p ∈ ps, t.lookup p.1 = none) →
    build? fuel t (ps.map fun p => .pair [p.1] p.2) = some (ps.reverse ++ t) := by
  induction ps with
  | nil =>
    intro t fuel _ _ _
    rw [List.map_nil, build?]
    rfl
  | cons p ps ih =>
    intro t fuel hfuel hkeys hnew
    obtain ⟨k, v⟩ := p
    obtain ⟨fuel, rfl⟩ := Nat.exists_eq_succ_of_ne_zero (Nat.ne_of_gt (Nat.zero_lt_of_lt hfuel))
    obtain ⟨hk, hkeys⟩ := List.nodup_cons.1 hkeys
    have hlookup : t.lookup k = none := hnew (k, v) List.mem_cons_self
    have hnew' : ∀ q ∈ ps, ((k, v) :: t).lookup q.1 = none := by
      intro q hq
      have hne : (q.1 == k) = false :=
        beq_false_of_ne fun he => hk (List.mem_map.2 ⟨q, hq, he⟩)
      rw [List.lookup_cons, hne]
      exact hnew q (List.mem_cons_of_mem _ hq)
    rw [List.map_cons, build?, enter_name hlookup, Option.bind_some,
      ih _ fuel (Nat.lt_of_succ_lt_succ hfuel) hkeys hnew', List.reverse_cons, List.append_assoc]
    rfl

/-- **The table of a document of settings holds them, last to first.** -/
theorem Describes.parse {es : List (Text × Setting)} {doc : Text} (h : Describes es doc)
    (hkeys : (es.map Prod.fst).Nodup) : Toml.parse doc = (entries? es).map List.reverse := by
  obtain ⟨ls, hls, rfl⟩ := h
  have hmark : skipMark (unlines ls) = unlines ls := by
    cases hls with
    | nil => rfl
    | @cons e line es ls hline _ =>
      obtain ⟨c, v, rfl, -, -, hc⟩ := hline.exists_cons
      rw [unlines_cons]
      exact if_neg hc
  have hstatements := statements?_unlines hls _ (Nat.lt_succ_self _)
  rw [Toml.parse, hmark]
  show (statements? ((unlines ls).length + 1) (unlines ls)).bind _ = _
  rw [hstatements]
  cases hps : entries? es with
  | none => rfl
  | some ps =>
    have hnodup : (ps.map Prod.fst).Nodup := (keys_entries? hps).symm ▸ hkeys
    have hbuild := build?_pairs ps [] (ps.length + 1) (Nat.lt_succ_self _) hnodup (by simp)
    rw [List.append_nil] at hbuild
    show build? (List.length (ps.map _) + 1) [] (ps.map _) = _
    rw [List.length_map, hbuild]
    rfl

section

variable {es : List (Text × Setting)} {doc : Text} {table : Table} (h : Describes es doc)
  (hkeys : (es.map Prod.fst).Nodup) (ht : Toml.parse doc = some table)
include h hkeys ht

theorem Describes.exists_entries : ∃ ps, entries? es = some ps ∧ table = ps.reverse := by
  rw [h.parse hkeys] at ht
  obtain ⟨ps, hps, rfl⟩ := Option.map_eq_some_iff.1 ht
  exact ⟨ps, hps, rfl⟩

theorem Describes.lookup_of_mem {e : Text × Setting} (he : e ∈ es) :
    ∃ v, e.2.value? = some v ∧ table.lookup e.1 = some v := by
  obtain ⟨ps, hps, rfl⟩ := h.exists_entries hkeys ht
  obtain ⟨v, hv, hmem⟩ := mem_entries? hps he
  have hnodup : (ps.reverse.map Prod.fst).Nodup := by
    rw [List.map_reverse, List.nodup_reverse, keys_entries? hps]
    exact hkeys
  exact ⟨v, hv, Toml.lookup_of_mem hnodup (List.mem_reverse.2 hmem)⟩

theorem Describes.lookup_of_notMem {k : Text} (hk : k ∉ es.map Prod.fst) :
    table.lookup k = none := by
  obtain ⟨ps, hps, rfl⟩ := h.exists_entries hkeys ht
  rw [← keys_entries? hps] at hk
  rw [List.lookup_eq_none_iff]
  intro p hp
  have hne : k ≠ p.1 := fun he => hk (List.mem_map.2 ⟨p, List.mem_reverse.1 hp, he.symm⟩)
  exact bne_iff_ne.2 hne

end

/-! ## writing -/

theorem exists_forall₂ {α β : Type} {R : α → β → Prop} {as : List α} (h : ∀ a ∈ as, ∃ b, R a b) :
    ∃ bs, List.Forall₂ R as bs := by
  induction as with
  | nil => exact ⟨[], .nil⟩
  | cons a as ih =>
    obtain ⟨⟨b, hb⟩, has⟩ := List.forall_mem_cons.1 h
    obtain ⟨bs, hbs⟩ := ih has
    exact ⟨b :: bs, .cons hb hbs⟩

/-- a word of a setting has characters of words only, and at least one -/
def Setting.Spellable (v : Setting) : Prop :=
  ∀ w, v = .word w → w ≠ [] ∧ ∀ c ∈ w, isWordChar c = true

theorem Setting.exists_written {v : Setting} (h : v.Spellable) : ∃ u, v.Written u := by
  cases v with
  | text t =>
    obtain ⟨u, hu⟩ := exists_quoted t
    exact ⟨u, .text hu⟩
  | texts ts =>
    obtain ⟨us, hus⟩ : ∃ us, List.Forall₂ Quoted ts us := exists_forall₂ fun t _ => exists_quoted t
    exact ⟨_, .texts hus⟩
  | word w =>
    obtain ⟨hne, hw⟩ := h w rfl
    exact ⟨w, .word hne hw⟩

theorem exists_describes {es : List (Text × Setting)} (h : ∀ e ∈ es, e.2.Spellable) :
    ∃ doc, Describes es doc := by
  have hlines : ∀ e ∈ es, ∃ line, LineForm e line := by
    intro e he
    obtain ⟨k, hk⟩ := exists_quoted e.1
    obtain ⟨u, hu⟩ := Setting.exists_written (h e he)
    exact ⟨_, k, u, .quoted hk, hu, rfl⟩
  obtain ⟨ls, hls⟩ := exists_forall₂ hlines
  exact ⟨_, ls, hls, rfl⟩

end Upkeep.Toml
