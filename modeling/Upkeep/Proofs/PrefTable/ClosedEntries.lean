import Mathlib.Control.Monad.Basic
import Upkeep.Proofs.PrefTable.Malformed
import Upkeep.Proofs.PrefTable.Printed

/-!
# Entries closed on their own line

An entry `{ "name", MACRO, flag },` is closed on its line, whatever the flag is.  It is read as a
complete entry only when the flag is one of the two that there are (`ClosedEntry.ofText_line`); with
any other flag the line is taken for a first half, its brace is not looked at, and its name stays
pending.  Main statement: in front of a table that is accepted such a line does no harm exactly when
its flag is `true` or `false`, or no line of the table belongs to an entry.
-/

namespace Upkeep

open Text EntryLine

/-- text without white space, commas and braces -/
def IsToken (t : Text) : Prop :=
  t ≠ [] ∧ ∀ c ∈ t, isWhite c = false ∧ c ≠ ',' ∧ c ≠ '{' ∧ c ≠ '}'

instance (t : Text) : Decidable (IsToken t) :=
  @instDecidableAnd _ _ inferInstance
    (List.decidableBAll (fun c => isWhite c = false ∧ c ≠ ',' ∧ c ≠ '{' ∧ c ≠ '}') t)

theorem IsToken.head {x : Text} (hx : IsToken x) (r : Text) :
    ∃ c u, x ++ r = c :: u ∧ isWhite c = false ∧ c ≠ ',' ∧ c ≠ '}' := by
  obtain ⟨hne, hmem⟩ := hx
  obtain ⟨c, x, rfl⟩ := List.exists_cons_of_ne_nil hne
  obtain ⟨hw, hcomma, -, hbrace⟩ := hmem c List.mem_cons_self
  exact ⟨c, x ++ r, rfl, hw, hcomma, hbrace⟩

/-- an entry with a flag that may be any token -/
structure ClosedEntry where
  name : Text
  macroName : Text
  flag : Text
  name_ne_nil : name ≠ []
  quote_notMem : '"' ∉ name
  isToken_macroName : IsToken macroName
  isToken_flag : IsToken flag

namespace ClosedEntry

def tail (e : ClosedEntry) : Text := ',' :: ' ' :: (e.flag ++ [' ', '}', ','])

def line (e : ClosedEntry) : Text :=
  '{' :: ([' '] ++ '"' :: (e.name ++ '"' :: ',' :: ' ' :: (e.macroName ++ e.tail)))

def flagged (e : ClosedEntry) : Prop := e.flag = "true".toList ∨ e.flag = "false".toList

instance (e : ClosedEntry) : Decidable e.flagged := inferInstanceAs (Decidable (_ ∨ _))

def entry (e : ClosedEntry) : PrefEntry := ⟨e.name, e.macroName, e.flag = "true".toList⟩

end ClosedEntry

/-! ## ends of entries -/

namespace EntryLine

theorem closes_token {x : Text} (hx : IsToken x) (r : Text) : closes (x ++ r) = false := by
  obtain ⟨c, u, hu, hw, -, hbrace⟩ := hx.head r
  rw [hu, closes, skipWhite_cons hw]
  simpa using hbrace

theorem entryEnd?_token {w x : Text} (hw : ∀ c ∈ w, isWhite c = true) (hx : IsToken x) (r : Text) :
    entryEnd? (w ++ (x ++ r)) = none := by
  obtain ⟨c, u, hu, hc, hcomma, hbrace⟩ := hx.head r
  have hs : skipWhite (w ++ (x ++ r)) = c :: u := by
    rw [skipWhite_append hw, hu, skipWhite_cons hc]
  refine entryEnd?_eq_none ?_ ?_
  · rw [hs]
    simpa using hcomma
  · rw [hs]
    simpa using hbrace

theorem eq_flagText_of_flag? {t r : Text} {b : Bool} (h : flag? (',' :: t) = some (b, r)) :
    skipWhite t = flagText b ++ r := by
  simp only [flag?, after?, if_true, Option.bind_eq_bind, Option.bind_some] at h
  split at h
  · next r' hr =>
    cases h
    exact after?_eq_some_iff.1 hr
  · obtain ⟨r', hr, he⟩ := Option.map_eq_some_iff.1 h
    cases he
    exact after?_eq_some_iff.1 hr

/-- a token that only begins with a flag does not end with that flag -/
theorem closes_eq_false_of_flagText {x r : Text} {b : Bool} (hx : IsToken x)
    (hne : x ≠ flagText b) (h : x ++ [' ', '}', ','] = flagText b ++ r) : closes r = false := by
  rcases List.append_eq_append_iff.1 h with ⟨k, hk, hr⟩ | ⟨k, hk, rfl⟩
  · -- the token would end inside the flag, where the blank after it has no place
    cases k with
    | nil => exact absurd (by simpa using hk.symm) hne
    | cons c k =>
      obtain rfl : ' ' = c := List.head_eq_of_cons_eq hr
      have hblank : ' ' ∈ flagText b := by simp [hk]
      cases b <;> exact absurd hblank (by decide)
  · have hkne : k ≠ [] := by
      rintro rfl
      exact hne (by simpa using hk)
    have hmem : ∀ c ∈ k, c ∈ x := fun c hc => by simp [hk, hc]
    exact closes_token ⟨hkne, fun c hc => hx.2 c (hmem c hc)⟩ _

end EntryLine

namespace ClosedEntry

variable (e : ClosedEntry)

theorem entryEnd?_tail_of_not_flagged (h : ¬ e.flagged) : entryEnd? e.tail = none := by
  have hs : skipWhite e.tail = e.tail := skipWhite_cons (by decide) _
  rw [entryEnd?, hs]
  cases hf : flag? e.tail with
  | none => rfl
  | some x =>
    obtain ⟨b, r⟩ := x
    have htext : skipWhite (' ' :: (e.flag ++ [' ', '}', ','])) = flagText b ++ r :=
      eq_flagText_of_flag? hf
    obtain ⟨c, u, hu, hw, -, -⟩ := e.isToken_flag.head [' ', '}', ',']
    have hskip : skipWhite (' ' :: (e.flag ++ [' ', '}', ','])) = e.flag ++ [' ', '}', ','] := by
      rw [skipWhite_cons_white (by decide), hu, skipWhite_cons hw]
    rw [hskip] at htext
    have hne : e.flag ≠ flagText b := by
      intro hb
      cases b
      · exact h (.inr hb)
      · exact h (.inl hb)
    have hcl : closes r = false := closes_eq_false_of_flagText e.isToken_flag hne htext
    show (if closes r = true then some b else none) = none
    rw [hcl]
    rfl

theorem entryEnd?_tail_of_flagged (h : e.flagged) :
    entryEnd? e.tail = some (decide (e.flag = "true".toList)) := by
  unfold tail
  rcases h with hf | hf <;> rw [hf] <;> rfl

/-- a macro that takes the comma with it leaves no end of an entry -/
theorem entryEnd?_of_longer {k s : Text} (h : e.tail = k ++ s) (hne : k ≠ [])
    (hk : ∀ c ∈ k, isWhite c = false) : entryEnd? s = none := by
  obtain ⟨c, k, rfl⟩ := List.exists_cons_of_ne_nil hne
  have hs : ' ' :: (e.flag ++ [' ', '}', ',']) = k ++ s := (List.cons.inj h).2
  obtain rfl := eq_nil_of_white_head (by decide) hs fun d hd => hk d (List.mem_cons_of_mem _ hd)
  obtain rfl : ' ' :: (e.flag ++ [' ', '}', ',']) = s := hs
  exact entryEnd?_token white_blank e.isToken_flag _

theorem skipWhite_macroName (r : Text) :
    skipWhite (' ' :: (e.macroName ++ r)) = e.macroName ++ r := by
  obtain ⟨c, u, hu, hw, -, -⟩ := e.isToken_macroName.head r
  rw [skipWhite_cons_white (by decide), hu, skipWhite_cons hw]

/-- the line is a complete entry with one of the two flags, and a first half with any other -/
theorem ofText_line : ofText e.line =
    some (if e.flagged then .entry e.name e.macroName (e.flag = "true".toList)
      else .opener e.name) := by
  have ho : opening? e.line = some (e.name, ' ' :: (e.macroName ++ e.tail)) :=
    opening?_quoted white_blank e.name_ne_nil e.quote_notMem _
  have hwhite : ∀ c ∈ e.macroName, isWhite c = false := fun c hc => (e.isToken_macroName.2 c hc).1
  rw [ofText_of_opening ho, e.skipWhite_macroName]
  by_cases h : e.flagged
  · rw [longestNonempty_eq_some e.isToken_macroName.1 hwhite (e.entryEnd?_tail_of_flagged h)
      fun _ _ hks => e.entryEnd?_of_longer hks, if_pos h]
  · have hnone : longestNonempty entryEnd? (e.macroName ++ e.tail) = none := by
      refine longestNonempty_eq_none fun k s hks hne hk => ?_
      -- the run ends inside the macro, at its end, or after the comma
      rcases List.append_eq_append_iff.1 hks with ⟨k', rfl, hs⟩ | ⟨m, hm, rfl⟩
      · cases k' with
        | nil =>
          obtain rfl : e.tail = s := hs
          exact e.entryEnd?_tail_of_not_flagged h
        | cons c k' =>
          exact e.entryEnd?_of_longer hs (by simp) fun d hd => hk d (List.mem_append_right _ hd)
      · cases m with
        | nil => exact e.entryEnd?_tail_of_not_flagged h
        | cons c m =>
          have hmem : ∀ d ∈ c :: m, d ∈ e.macroName := fun d hd => by
            rw [hm]
            exact List.mem_append_right _ hd
          exact entryEnd?_token (w := []) (List.forall_mem_nil _)
            ⟨by simp, fun d hd => e.isToken_macroName.2 d (hmem d hd)⟩ _
    rw [hnone, if_neg h]

end ClosedEntry

/-! ## the entry in front of a table -/

namespace EntryLine

theorem blocked_of_readable (left : Text) {k : EntryLine} {ks : List EntryLine}
    (h : Readable (k :: ks)) : ∃ f, Blocked (some left) k f := by
  obtain ⟨es, left', hr⟩ := h
  cases hr with
  | opener name => exact ⟨_, .opener left name⟩
  | entry name m b _ => exact ⟨_, .entry left name m b⟩
  | halves name _ _ _ => exact ⟨_, .opener left name⟩

end EntryLine

namespace PrefTable

theorem ofEntries_cons_disabled {e : PrefEntry} (h : e.enabled = false) (es : List PrefEntry) :
    ofEntries (e :: es) = ofEntries es := by
  have hf : (e :: es).filter (·.enabled) = es.filter (·.enabled) :=
    List.filter_cons_of_neg (by simp [h])
  unfold ofEntries
  rw [hf]

variable (e : ClosedEntry) {ts : List Text}

theorem parse_closed_of_flagged (h : e.flagged) {es : List PrefEntry} {left : Option Text}
    (hr : Reading (ts.filterMap ofText) es left) :
    (parse (e.line :: ts)).outcome = .ok (.ofEntries (e.entry :: es)) := by
  have hline := e.ofText_line
  rw [if_pos h] at hline
  have hread : Reading ((e.line :: ts).filterMap ofText) (e.entry :: es) left := by
    rw [List.filterMap_cons_some hline]
    exact .entry _ _ _ hr
  exact parse_of_reading_lines hread

theorem parse_closed_of_none (h : ¬ e.flagged) (hts : ts.filterMap ofText = []) :
    (parse (e.line :: ts)).outcome = .ok (.ofEntries [e.entry]) := by
  have hline := e.ofText_line
  rw [if_neg h] at hline
  have hr : Reading ((e.line :: ts).filterMap ofText) [] (some e.name) := by
    rw [List.filterMap_cons_some hline, hts]
    exact .opener _
  have hoff : e.entry.enabled = false := decide_eq_false fun hf => h (.inl hf)
  rw [parse_of_reading_lines hr, ofEntries_cons_disabled hoff]

/-- the name stays pending, and the next line of an entry cannot follow it -/
theorem parse_closed_of_some (h : ¬ e.flagged) (hts : Readable (ts.filterMap ofText))
    {x : Located} {after : List Located} (hx : located 2 ts = x :: after) :
    ∃ f, (parse (e.line :: ts)).outcome = .error (.malformedTable x.number x.text f) ∧
      Blocked (some e.name) x.kind f := by
  have hline := e.ofText_line
  rw [if_neg h] at hline
  have hkinds : x.kind :: after.map (·.kind) = ts.filterMap ofText := by
    rw [← map_kind_located 2, hx, List.map_cons]
  obtain ⟨f, hb⟩ := blocked_of_readable e.name (hkinds ▸ hts)
  have hlocated : located 1 (e.line :: ts) = [⟨1, e.line, .opener e.name⟩] ++ x :: after := by
    rw [located_cons_some hline, hx]
    rfl
  refine ⟨f, outcome_parse_eq_error_iff.2 ?_, hb⟩
  exact ⟨_, x, after, [], some e.name, f, hlocated, .opener e.name, hb, rfl⟩

theorem exists_parse_closed_iff (hts : Readable (ts.filterMap ofText)) :
    (∃ t', (parse (e.line :: ts)).outcome = .ok t') ↔ e.flagged ∨ ts.filterMap ofText = [] := by
  by_cases h : e.flagged
  · obtain ⟨es, left, hr⟩ := hts
    exact ⟨fun _ => .inl h, fun _ => ⟨_, parse_closed_of_flagged e h hr⟩⟩
  · by_cases hnil : ts.filterMap ofText = []
    · exact ⟨fun _ => .inr hnil, fun _ => ⟨_, parse_closed_of_none e h hnil⟩⟩
    · have hne : located 2 ts ≠ [] := by
        intro hl
        rw [← map_kind_located 2, hl] at hnil
        exact hnil rfl
      obtain ⟨x, after, hx⟩ := List.exists_cons_of_ne_nil hne
      obtain ⟨f, herr, -⟩ := parse_closed_of_some e h hts hx
      refine ⟨?_, fun ho => absurd ho (not_or.2 ⟨h, hnil⟩)⟩
      rintro ⟨t', ht'⟩
      rw [herr] at ht'
      cases ht'

theorem entries_of_parse_closed {es : List PrefEntry} {left : Option Text}
    (hr : Reading (ts.filterMap ofText) es left) {t : PrefTable}
    (ht : (parse (e.line :: ts)).outcome = .ok t) : t = .ofEntries (e.entry :: es) := by
  by_cases h : e.flagged
  · exact Except.ok.inj (ht.symm.trans (parse_closed_of_flagged e h hr))
  · have hnil := ((exists_parse_closed_iff e ⟨es, left, hr⟩).1 ⟨t, ht⟩).resolve_left h
    rw [hnil] at hr
    obtain ⟨rfl, -⟩ := hr.unique .nil
    exact Except.ok.inj (ht.symm.trans (parse_closed_of_none e h hnil))

/-- **When an entry closed on its line leaves no name pending.**  In front of a table that is
accepted it is accepted exactly when its flag is `true` or `false`, or no line of the table belongs
to an entry; it is then enabled only by `true`, and without that nothing of the table changes.  It
is read as a first half exactly when its flag is another one, and then the failure is at the first
line of the table that belongs to an entry. -/
theorem parse_closed_iff {t : PrefTable} (ht : (parse ts).outcome = .ok t) :
    ((∃ t', (parse (e.line :: ts)).outcome = .ok t') ↔
      e.flagged ∨ ∀ u ∈ ts, ofText u = none) ∧
    (∀ t', (parse (e.line :: ts)).outcome = .ok t' →
      (∃ es left, Reading (ts.filterMap ofText) es left ∧ t' = .ofEntries (e.entry :: es)) ∧
      (e.flag ≠ "true".toList → t' = t)) ∧
    (ofText e.line = some (.opener e.name) ↔ ¬ e.flagged) ∧
    (¬ e.flagged → ∀ x after, located 2 ts = x :: after →
      ∃ f, (parse (e.line :: ts)).outcome = .error (.malformedTable x.number x.text f) ∧
        Blocked (some e.name) x.kind f) := by
  have hread : Readable (ts.filterMap ofText) := map_kind_located 1 ts ▸ readable_of_parse ht
  obtain ⟨es, left, hr⟩ := hread
  have htable : t = .ofEntries es := Except.ok.inj (ht.symm.trans (parse_of_reading_lines hr))
  refine ⟨?_, fun t' ht' => ?_, ?_, fun h _ _ hx => parse_closed_of_some e h ⟨es, left, hr⟩ hx⟩
  · rw [exists_parse_closed_iff e ⟨es, left, hr⟩, List.filterMap_eq_nil_iff]
  · have hentries := entries_of_parse_closed e hr ht'
    refine ⟨⟨es, left, hr, hentries⟩, fun hf => ?_⟩
    rw [hentries, htable, ofEntries_cons_disabled (decide_eq_false hf)]
  · rw [e.ofText_line]
    by_cases h : e.flagged <;> simp [h]

/-! An entry with the flag `TRUE` spoils the table after it. -/

def oddFlag : ClosedEntry where
  name := Labels.sample.name
  macroName := Labels.sample.macroName
  flag := "TRUE".toList
  name_ne_nil := Labels.sample.name_ne_nil
  quote_notMem := Labels.sample.quote_notMem
  isToken_macroName := by decide
  isToken_flag := by decide

def noteAndEntry : List Text := ["// why".toList, "\x7b \"q\", TLS_Y, true \x7d,".toList]

theorem parse_closed_iff_odd_flag :
    (parse noteAndEntry).outcome = .ok (.ofEntries [⟨"q".toList, "TLS_Y".toList, true⟩]) ∧
    oddFlag.line = "\x7b \"p\", TLS_X, TRUE \x7d,".toList ∧
    ofText oddFlag.line = some (.opener "p".toList) ∧
    ¬ ∃ t', (parse (oddFlag.line :: noteAndEntry)).outcome = .ok t' := by
  have ht : (parse noteAndEntry).outcome =
      .ok (.ofEntries [⟨"q".toList, "TLS_Y".toList, true⟩]) := by decide +kernel
  have hodd : ¬ oddFlag.flagged := by decide
  have hline : oddFlag.line = "\x7b \"p\", TLS_X, TRUE \x7d,".toList := by decide +kernel
  have hentry : ¬ ∀ u ∈ noteAndEntry, ofText u = none := by decide +kernel
  obtain ⟨haccepted, -, hopener, -⟩ := parse_closed_iff oddFlag ht
  exact ⟨ht, hline, hopener.2 hodd, fun h => (haccepted.1 h).elim hodd hentry⟩

/-- the line before is closed, and still the entry after it is refused -/
theorem parse_closed_unknown_flag :
    IsToken "TLS_X".toList ∧ IsToken "TRUE".toList ∧
    (parse ["\x7b \"q\", TLS_Y, true \x7d,".toList]).outcome =
      .ok (.ofEntries [⟨"q".toList, "TLS_Y".toList, true⟩]) ∧
    (parse ["\x7b \"p\", TLS_X, TRUE \x7d,".toList,
        "\x7b \"q\", TLS_Y, true \x7d,".toList]).outcome =
      .error (.malformedTable 2 "\x7b \"q\", TLS_Y, true \x7d,".toList .entryWhilePending) := by
  decide +kernel

end PrefTable

end Upkeep
