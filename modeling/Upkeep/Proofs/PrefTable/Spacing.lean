import Mathlib.Control.Monad.Basic
import Upkeep.Proofs.PrefTable.Parse
import Upkeep.Proofs.PrefTable.Printed

/-!
# White space around the comma of a flag

An entry on one line and the same entry in two halves do not always come to the same.  White space
before the comma hides the second half from the reader, so that the entry is never closed; without
any white space around the comma the entry on one line loses its flag to the macro.  Main statement:
the two forms record the entry alike exactly when the flag is `false`, or white space stands after
the comma and none before it.
-/

namespace Upkeep.PrefTable

open Text EntryLine

variable (x : Labels) {a b : Text} (flag : Bool)

theorem ofEntries_disabled (name macroName : Text) :
    ofEntries [⟨name, macroName, false⟩] = .empty := rfl

theorem ofEntries_enabled_ne_empty (name macroName : Text) :
    ofEntries [⟨name, macroName, true⟩] ≠ .empty := fun h => by
  have hn : (ofEntries [⟨name, macroName, true⟩]).byName.find? name = none := by
    rw [h]
    rfl
  rw [(indexes_ofEntries _).byName] at hn
  simp [PrefEntry.lastNamed] at hn

/-! ## the two forms -/

theorem outcome_parse_whole (ha : ∀ c ∈ a, isWhite c = true) (hb : ∀ c ∈ b, isWhite c = true) :
    (parse [x.whole (flagTail a b flag)]).outcome =
      .ok (if a = [] ∧ b = [] then .empty else .ofEntries [⟨x.name, x.macroName, flag⟩]) := by
  by_cases hab : a = [] ∧ b = []
  · obtain ⟨rfl, rfl⟩ := hab
    have hr : Reading ([x.whole (flagTail [] [] flag)].filterMap ofText)
        [⟨x.name, x.macroName ++ ',' :: flagText flag, false⟩] none := by
      rw [List.filterMap_cons_some (ofText_whole_tight x flag)]
      exact .entry _ _ _ .nil
    rw [if_pos ⟨rfl, rfl⟩, parse_of_reading_lines hr, ofEntries_disabled]
  · have hr : Reading ([x.whole (flagTail a b flag)].filterMap ofText)
        [⟨x.name, x.macroName, flag⟩] none := by
      rw [List.filterMap_cons_some (ofText_whole_flag x ha hb (not_and_or.1 hab) flag)]
      exact .entry _ _ _ .nil
    rw [if_neg hab, parse_of_reading_lines hr]

theorem outcome_parse_halves (ha : ∀ c ∈ a, isWhite c = true) (hb : ∀ c ∈ b, isWhite c = true) :
    (parse [x.firstHalf, x.secondHalf (flagTail a b flag)]).outcome =
      .ok (if a = [] then .ofEntries [⟨x.name, x.macroName, flag⟩] else .empty) := by
  by_cases h : a = []
  · subst h
    have hr : Reading ([x.firstHalf, x.secondHalf (flagTail [] b flag)].filterMap ofText)
        [⟨x.name, x.macroName, flag⟩] none := by
      rw [List.filterMap_cons_some (ofText_firstHalf x),
        List.filterMap_cons_some (ofText_secondHalf x hb flag)]
      exact .halves _ _ _ .nil
    rw [if_pos rfl, parse_of_reading_lines hr]
  · have hr : Reading ([x.firstHalf, x.secondHalf (flagTail a b flag)].filterMap ofText) []
        (some x.name) := by
      rw [List.filterMap_cons_some (ofText_firstHalf x),
        List.filterMap_cons_none (ofText_secondHalf_spaced x ha h b flag)]
      exact .opener _
    rw [if_neg h, parse_of_reading_lines hr]
    rfl

/-- **When the two forms of an entry agree.**  Both are always accepted.  They come to the same, the
entry being recorded exactly if its flag is `true`, exactly when the flag is `false`, or white space
stands after the comma and none before it. -/
theorem parse_halves_eq_whole_iff (ha : ∀ c ∈ a, isWhite c = true)
    (hb : ∀ c ∈ b, isWhite c = true) :
    (parse [x.whole (flagTail a b flag)]).outcome =
        .ok (if a = [] ∧ b = [] then .empty else .ofEntries [⟨x.name, x.macroName, flag⟩]) ∧
    (parse [x.firstHalf, x.secondHalf (flagTail a b flag)]).outcome =
        .ok (if a = [] then .ofEntries [⟨x.name, x.macroName, flag⟩] else .empty) ∧
    ((parse [x.firstHalf, x.secondHalf (flagTail a b flag)]).outcome =
        (parse [x.whole (flagTail a b flag)]).outcome ∧
      (parse [x.whole (flagTail a b flag)]).outcome =
        .ok (.ofEntries [⟨x.name, x.macroName, flag⟩]) ↔
      flag = false ∨ (a = [] ∧ b ≠ [])) := by
  refine ⟨outcome_parse_whole x flag ha hb, outcome_parse_halves x flag ha hb, ?_⟩
  rw [outcome_parse_whole x flag ha hb, outcome_parse_halves x flag ha hb]
  cases flag with
  | false => simp [ofEntries_disabled]
  | true =>
    have hne := ofEntries_enabled_ne_empty x.name x.macroName
    by_cases h : a = []
    · by_cases h' : b = []
      · simp [h, h', hne]
      · simp [h, h']
    · simp [h, hne.symm]

theorem parse_halves_eq_whole_sample :
    ((∀ c ∈ ([] : Text), isWhite c = true) ∧ ∀ c ∈ [' ', '\t'], isWhite c = true) ∧
    (parse [Labels.sample.firstHalf, Labels.sample.secondHalf (flagTail [] [' ', '\t'] true)]).outcome
        = (parse [Labels.sample.whole (flagTail [] [' ', '\t'] true)]).outcome :=
  have ha : ∀ c ∈ ([] : Text), isWhite c = true := List.forall_mem_nil _
  have hb : ∀ c ∈ [' ', '\t'], isWhite c = true := List.all_eq_true.1 (by decide)
  ⟨⟨ha, hb⟩, (((parse_halves_eq_whole_iff .sample true ha hb).2.2).2 (.inr ⟨rfl, by decide⟩)).1⟩

/-- a blank before the comma loses the entry in two halves, and no blank the entry on one line -/
theorem parse_halves_ne_whole_spaced :
    (parse ["\x7b \"p\",".toList, "TLS_X , true \x7d,".toList]).outcome = .ok .empty ∧
    (parse ["\x7b \"p\", TLS_X , true \x7d,".toList]).outcome =
      .ok (.ofEntries [⟨"p".toList, "TLS_X".toList, true⟩]) ∧
    (parse ["\x7b \"p\",".toList, "TLS_X,true \x7d,".toList]).outcome =
      .ok (.ofEntries [⟨"p".toList, "TLS_X".toList, true⟩]) ∧
    (parse ["\x7b \"p\", TLS_X,true \x7d,".toList]).outcome = .ok .empty ∧
    PrefTable.empty ≠ .ofEntries [⟨"p".toList, "TLS_X".toList, true⟩] := by
  decide +kernel

end Upkeep.PrefTable
