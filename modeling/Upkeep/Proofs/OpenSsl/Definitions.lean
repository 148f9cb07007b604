import Upkeep.Firefox.ProtocolIds
import Upkeep.Proofs.OpenSsl.Lookups
import Upkeep.Proofs.Text.Tokens
import Upkeep.Proofs.Text.TrailingWhite

/-!
# Two readers of definitions

The protocol header and the OpenSSL headers are read for the same lines, except that OpenSSL may set
`define` off from the `#` by spaces.  `Directive.Definition` tells such a line by its parts.  Each
part is as long as it can be, because the next one starts with a character that it cannot hold; so
a line has one division at most, and both readers find it.

A name that the protocol header gives a value is therefore defined for the index of OpenSSL macros,
if that reads the same file.
-/

namespace Upkeep

open Text

namespace Directive

variable {t name value : Text}

/-- the line is `#define`, a name and a value, with white space before the name and between the
two; the value goes on to the next white space or to the end of the line -/
def Definition (line name value : Text) : Prop :=
  ∃ w w' rest, White w ∧ w ≠ [] ∧ Solid name ∧ White w' ∧ w' ≠ [] ∧ Solid value ∧ Stops rest ∧
    line = "#define".toList ++ (w ++ (name ++ (w' ++ (value ++ rest))))

theorem nameAndValue?_eq_some_iff : nameAndValue? t = some (name, value) ↔
    Definition ('#' :: t) name value := by
  rw [nameAndValue?_eq, Option.bind_eq_some_iff]
  constructor
  · rintro ⟨u, hu, h⟩
    obtain ⟨⟨n, s⟩, hname, h⟩ := Option.bind_eq_some_iff.1 h
    obtain ⟨⟨v, rest⟩, hvalue, he⟩ := Option.map_eq_some_iff.1 h
    obtain ⟨rfl, rfl⟩ : n = name ∧ v = value := by simpa using he
    obtain ⟨w, hne, hw, hn, -, rfl⟩ := white?_token?_eq_some_iff.1 hname
    obtain ⟨w', hne', hw', hv, hrest, rfl⟩ := white?_token?_eq_some_iff.1 hvalue
    obtain rfl := after?_eq_some_iff.1 hu
    exact ⟨w, w', rest, hw, hne, hn, hw', hne', hv, hrest, rfl⟩
  · rintro ⟨w, w', rest, hw, hne, hn, hw', hne', hv, hrest, ht⟩
    obtain rfl : t = "define".toList ++ (w ++ (name ++ (w' ++ (value ++ rest)))) :=
      (List.cons.inj ht).2
    have hname : (white? (w ++ (name ++ (w' ++ (value ++ rest))))).bind token? =
        some (name, w' ++ (value ++ rest)) :=
      white?_token?_eq_some_iff.2 ⟨w, hne, hw, hn, hw'.stops_append hne' _, rfl⟩
    have hvalue : (white? (w' ++ (value ++ rest))).bind token? = some (value, rest) :=
      white?_token?_eq_some_iff.2 ⟨w', hne', hw', hv, hrest, rfl⟩
    refine ⟨_, after?_append _ _, ?_⟩
    rw [hname, Option.bind_some, hvalue, Option.map_some]

theorem bind_hash_eq_some_iff {α : Type} {f : Text → Option α} {a : α} :
    (after? ['#'] t).bind f = some a ↔ ∃ r, t = '#' :: r ∧ f r = some a := by
  rw [Option.bind_eq_some_iff]
  exact exists_congr fun r => and_congr_left fun _ => after?_eq_some_iff

theorem definition?_eq_some_iff :
    definition? t = some (name, value) ↔ Definition t name value := by
  rw [definition?, bind_hash_eq_some_iff]
  constructor
  · rintro ⟨r, rfl, h⟩
    exact nameAndValue?_eq_some_iff.1 h
  · intro h
    obtain ⟨w, w', rest, -, -, -, -, -, -, -, rfl⟩ := id h
    exact ⟨_, rfl, nameAndValue?_eq_some_iff.2 h⟩

/-- spaces after the `#` make no difference to the one reader, and the other does not allow them -/
theorem spacedDefinition?_eq_some_iff {d : Text × Text} : spacedDefinition? t = some d ↔
    ∃ r, t = '#' :: r ∧ definition? ('#' :: r.dropWhile (· = ' ')) = some d :=
  bind_hash_eq_some_iff

theorem exists_spaces_append (t : Text) :
    ∃ k, t = List.replicate k ' ' ++ t.dropWhile (· = ' ') := by
  have hspaces : ∀ c ∈ t.takeWhile (· = ' '), c = ' ' := by
    intro c hc
    simpa using List.mem_takeWhile_imp hc
  refine ⟨(t.takeWhile (· = ' ')).length, ?_⟩
  rw [← List.eq_replicate_of_mem hspaces, List.takeWhile_append_dropWhile]

theorem dropWhile_spaces (k : Nat) {r : Text} (hr : ∀ c ∈ r.head?, c ≠ ' ') :
    (List.replicate k ' ' ++ r).dropWhile (· = ' ') = r := by
  rw [List.dropWhile_append_of_pos (by simp [List.mem_replicate])]
  cases r with
  | nil => rfl
  | cons c r =>
    have hc := hr c rfl
    rw [List.dropWhile_cons_of_neg (by simpa using hc)]

theorem spacedDefinition?_eq_some_iff_spaces : spacedDefinition? t = some (name, value) ↔
    ∃ k r, t = '#' :: (List.replicate k ' ' ++ r) ∧ Definition ('#' :: r) name value := by
  rw [spacedDefinition?_eq_some_iff]
  constructor
  · rintro ⟨r, rfl, h⟩
    obtain ⟨k, hk⟩ := exists_spaces_append r
    exact ⟨k, _, congrArg _ hk, definition?_eq_some_iff.1 h⟩
  · rintro ⟨k, r, rfl, h⟩
    refine ⟨_, rfl, ?_⟩
    have hhead : ∀ c ∈ r.head?, c ≠ ' ' := by
      obtain ⟨w, w', rest, -, -, -, -, -, -, -, hr⟩ := h
      obtain rfl := (List.cons.inj hr).2
      intro c hc
      obtain rfl : 'd' = c := Option.some.inj hc
      decide
    rw [dropWhile_spaces k hhead]
    exact definition?_eq_some_iff.2 h

theorem spacedDefinition?_of_definition? {d : Text × Text} (h : definition? t = some d) :
    spacedDefinition? t = some d := by
  have hline : Definition t d.1 d.2 := definition?_eq_some_iff.1 h
  obtain ⟨w, w', rest, -, -, -, -, -, -, -, rfl⟩ := id hline
  exact spacedDefinition?_eq_some_iff_spaces.2 ⟨0, _, rfl, hline⟩

end Directive

/-! ## the two tables of one file -/

theorem Dictionary.contains_insertAll {ps : List (Text × Text)} {name : Text}
    (h : name ∈ ps.map Prod.fst) (d : Dictionary) : (d.insertAll ps).contains name = true := by
  have hlast := contains_ofList_iff.2 h
  unfold contains at hlast ⊢
  rw [find?_ofList] at hlast
  rw [find?_insertAll]
  obtain ⟨v, hv⟩ := Option.isSome_iff_exists.1 hlast
  rw [hv]
  rfl

theorem ProtocolIds.exists_hexValue_iff {d : ProtocolIds} {name : Text} :
    (∃ v, d.hexValue name = .ok v) ↔ d.values.contains name = true := by
  unfold hexValue Dictionary.contains
  cases d.values.find? name <;> simp

open Directive in
/-- **Both readers of definitions agree on every line.**  The line of a protocol header is told by
its parts; that of an OpenSSL header is the same after the spaces behind its `#` are dropped, and
with such spaces put in it is again one.  So, in a file that is a text, each name that has a
protocol identifier is defined for the index, whatever the index held before. -/
theorem definitions_agree :
    (∀ line d, spacedDefinition? line = some d ↔
      ∃ r, line = '#' :: r ∧ definition? ('#' :: r.dropWhile (· = ' ')) = some d) ∧
    (∀ line name value, spacedDefinition? line = some (name, value) ↔
      ∃ k r, line = '#' :: (List.replicate k ' ' ++ r) ∧ Definition ('#' :: r) name value) ∧
    (∀ line name value, definition? line = some (name, value) ↔ Definition line name value) ∧
    ∀ (t : Text) (l : Layout) (ix : MacroIndex), ∃ d,
      (ProtocolIds.read (encode t).lines).outcome = .ok d ∧
      ∀ name, (∃ v, d.hexValue name = .ok v) →
        (ix.scan l (encode t).lines).value.1.isDefined name = true := by
  refine ⟨fun line d => spacedDefinition?_eq_some_iff,
    fun line name value => spacedDefinition?_eq_some_iff_spaces,
    fun line name value => definition?_eq_some_iff, ?_⟩
  intro t l ix
  obtain ⟨us, hus⟩ := Bytes.exists_lines_encode t
  refine ⟨_, ProtocolIds.outcome_read_eq_ok_iff.2 ⟨us, hus, rfl⟩, ?_⟩
  intro name hvalue
  have hname := ProtocolIds.exists_hexValue_iff.1 hvalue
  obtain ⟨d, hd, rfl⟩ := List.mem_map.1 (Dictionary.contains_ofList_iff.1 hname)
  obtain ⟨line, hline, hdef⟩ := List.mem_filterMap.1 hd
  rw [MacroIndex.value_scan, hus, Line.upToFault_ok]
  apply Dictionary.contains_insertAll
  apply List.mem_map_of_mem
  exact List.mem_filterMap.2 ⟨line, hline, spacedDefinition?_of_definition? hdef⟩

/-! A tab after the `#` is no space, and a value is cut at the first white space of any kind. -/

example : Directive.spacedDefinition? "#\tdefine A 1".toList = none ∧
    Directive.spacedDefinition? "#  define\tA \u2003\u000B1\u00852".toList =
      some (['A'], ['1']) := by
  decide +kernel

end Upkeep
