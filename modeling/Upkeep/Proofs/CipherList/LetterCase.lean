import Mathlib.Logic.Function.Iterate
import Upkeep.Proofs.CipherList.Blocks
import Upkeep.Proofs.OpenSsl.Lookups
import Upkeep.Proofs.Text.Lowercase

/-!
# Identifiers in any letter case

The identifier of a suite is put into lower case when its block is made, and once more when the
index is asked for it.  The id macros were entered under identifiers that were put into lower case
once.  Lower case is stable, so this makes no difference: the identifier finds the same macro as the
protocol header writes it, as the block has it, and after any number of further conversions.

* `MacroIndex.Filled ids ix`   the index `ix` comes from scanning headers, and `ids` are the id
                               macros met on the way, with their values before the conversion;
* `MacroIndex.lastSpelled?`    the last of them with a given value in some letter case;
* `Sources.Matched`            what a block has to do with the identifier of its suite.

The index holds the id macros of `ids` under their values in lower case (`Filled.byHex_eq`), by
induction on the headers scanned; what a look-up finds follows from that.
-/

namespace Upkeep

open Text

namespace Text

theorem iterate_lower (t : Text) (n : Nat) : lower^[n] t.lower = t.lower :=
  Function.iterate_fixed (lower_lower t) n

theorem lower_iterate (t : Text) (n : Nat) : (lower^[n] t).lower = t.lower := by
  rw [← Function.iterate_succ_apply' lower, Function.iterate_succ_apply, iterate_lower]

end Text

namespace MacroIndex

variable {ix : MacroIndex} {ids : List (Text × Text)}

/-! ## look-up in any letter case -/

theorem idMacro?_iterate (ix : MacroIndex) (hex : Text) (n : Nat) :
    ix.idMacro? (lower^[n] hex) = ix.idMacro? hex := by
  rw [idMacro?, lower_iterate, idMacro?]

theorem textMacro?_iterate (l : Layout) (ix : MacroIndex) (hex : Text) (n : Nat) :
    ix.textMacro? l (lower^[n] hex) = ix.textMacro? l hex := by
  rw [textMacro?, idMacro?_iterate, textMacro?]

/-! ## what an index is filled with -/

/-- the id macros that a scan of the lines enters: the value of each, shortened and in the letter
case of the header, and the name -/
def idSpellings (l : Layout) (ls : List Line) : List (Text × Text) :=
  let ds := (Line.upToFault ls).1.filterMap Directive.spacedDefinition?
  (ds.filter fun d => "0x".toList <+: d.2 ∧ l.idMarker <:+: d.1).map
    fun d => (replace l.hexPrefix "0x".toList d.2, d.1)

/-- the index comes from scanning headers, and these are the id macros that were met -/
inductive Filled : List (Text × Text) → MacroIndex → Prop
  | empty : Filled [] empty
  | scan {ids : List (Text × Text)} {ix : MacroIndex} (l : Layout) (ls : List Line) :
      Filled ids ix → Filled (ids ++ idSpellings l ls) (ix.scan l ls).value.1

/-- the last id macro with the value in some letter case -/
def lastSpelled? (ids : List (Text × Text)) (value : Text) : Option Text :=
  ((ids.filter fun i => i.1.lower = value.lower).getLast?).map Prod.snd

theorem byHex_scan (l : Layout) (ix : MacroIndex) (ls : List Line) :
    (ix.scan l ls).value.1.byHex =
      ix.byHex.insertAll ((idSpellings l ls).map fun i => (i.1.lower, i.2)) := by
  rw [value_scan, idSpellings, List.map_map, enter, filterMap_idPair?]
  rfl

theorem Filled.byHex_eq (h : Filled ids ix) :
    ix.byHex = .ofList (ids.map fun i => (i.1.lower, i.2)) := by
  induction h with
  | empty => rfl
  | scan l ls _ ih =>
    rw [byHex_scan, ih, List.map_append]
    exact (Dictionary.insertAll_append _ _ _).symm

theorem Filled.idMacro?_eq (h : Filled ids ix) (hex : Text) :
    ix.idMacro? hex = lastSpelled? ids hex := by
  rw [idMacro?, h.byHex_eq, Dictionary.find?_ofList_eq_getLast?, List.filter_map,
    List.getLast?_map, Option.map_map]
  rfl

theorem Filled.lower_of_find? (h : Filled ids ix) {key name : Text}
    (hkey : ix.byHex.find? key = some name) : key.lower = key := by
  rw [h.byHex_eq, Dictionary.find?_ofList_eq_getLast?] at hkey
  obtain ⟨p, hp, -⟩ := Option.map_eq_some_iff.1 hkey
  obtain ⟨hmem, hp⟩ := List.mem_filter.1 (List.mem_of_getLast? hp)
  obtain ⟨i, -, rfl⟩ := List.mem_map.1 hmem
  obtain rfl : i.1.lower = key := of_decide_eq_true hp
  exact lower_lower i.1

/-- no id macro is out of reach -/
theorem Filled.idMacro?_of_find? (h : Filled ids ix) {key name : Text}
    (hkey : ix.byHex.find? key = some name) (n : Nat) :
    ix.idMacro? (lower^[n] key) = some name := by
  rw [idMacro?_iterate, idMacro?, h.lower_of_find? hkey, hkey]

theorem filled_scanFiles (l : Layout) (files : List Bytes) :
    Filled (files.flatMap fun b => idSpellings l b.lines) (scanFiles l .empty files) := by
  induction files using List.reverseRecOn with
  | nil => exact .empty
  | append_singleton files b ih =>
    rw [List.flatMap_append, List.flatMap_singleton, scanFiles_append]
    exact ih.scan l b.lines

end MacroIndex

def Block.openSslName? (b : Block) : Option Text := if b.unnamed then none else some b.macroName

namespace Sources

open MacroIndex

variable {s : Sources} {suite : Text} {b : Block} {ids : List (Text × Text)}

/-! ## blocks -/

/-- the block of a suite against the identifier `v` that the protocol header has for the suite: the
name of the block is found under `v`, and under the block's own identifier however often that is put
into lower case; there the id macro is the last one of `ids` that has `v` in some letter case -/
structure Matched (s : Sources) (ids : List (Text × Text)) (suite v : Text) (b : Block) : Prop where
  written : s.protocol.values.find? suite = some v
  hexValue : s.protocol.hexValue suite = .ok b.hex
  lower_hex : b.hex.lower = b.hex
  textMacro?_written : s.index.textMacro? s.layout v = b.openSslName?
  textMacro?_hex : ∀ n, s.index.textMacro? s.layout (lower^[n] b.hex) = b.openSslName?
  idMacro?_hex : ∀ n, s.index.idMacro? (lower^[n] b.hex) = lastSpelled? ids v

theorem Emits.exists_written (h : s.Emits suite b) : ∃ v,
    s.protocol.values.find? suite = some v ∧ b.hex = v.lower ∧
      s.index.textMacro? s.layout v.lower = b.openSslName? := by
  cases h with
  | named hv hname => exact ⟨_, hv, rfl, hname⟩
  | unnamed hv hnone => exact ⟨_, hv, rfl, hnone⟩

theorem Emits.matched (hindex : Filled ids s.index) (h : s.Emits suite b) :
    ∃ v, s.Matched ids suite v b := by
  obtain ⟨v, hv, hhex, hname⟩ := h.exists_written
  -- whatever the block's identifier becomes, the header's becomes after one step more
  have hiterate : ∀ n, lower^[n] b.hex = lower^[n + 1] v := fun n => by
    rw [hhex, Function.iterate_succ_apply]
  have hwritten : s.index.textMacro? s.layout v = b.openSslName? := by
    rw [← hname]
    exact (textMacro?_iterate s.layout s.index v 1).symm
  refine ⟨v, hv, ?_, ?_, hwritten, fun n => ?_, fun n => ?_⟩
  · rw [ProtocolIds.hexValue, hv, hhex]
  · rw [hhex, lower_lower]
  · rw [hiterate, textMacro?_iterate, hwritten]
  · rw [hiterate, idMacro?_iterate, hindex.idMacro?_eq]

/-- **Lower-casing again loses no match.**  The identifier of every block is in lower case.  It finds
the same OpenSSL name as the identifier that the protocol header has for the suite, and as itself in
lower case any number of times; its id macro is the last one whose value is that identifier in some
letter case.  And every id macro of the index is found under its own identifier. -/
theorem blocks_found_in_any_case {bs : List Block} (hindex : Filled ids s.index)
    (hbs : s.blocks.outcome = .ok bs) :
    List.Forall₂ (fun suite b => ∃ v, s.Matched ids suite v b) (s.suites.filter s.selects) bs ∧
    ∀ key name, s.index.byHex.find? key = some name →
      ∀ n, s.index.idMacro? (lower^[n] key) = some name := by
  have hwalk : List.Forall₂ s.Resolves (s.suites.filter s.selects) bs :=
    outcome_blocksOf_eq_ok_iff.1 hbs
  refine ⟨hwalk.imp fun suite b hb => ?_, fun key name hkey => hindex.idMacro?_of_find? hkey⟩
  obtain ⟨v, hv, rfl⟩ := hb
  exact (emits_blockFor hv).matched hindex

/-! A capital dotted I, which becomes two characters, and a capital sigma, which becomes the final
one: the two headers write the identifier differently. -/

def dottedHeader : Bytes := encode "#define A_CK_X 0x0300\u0130\u03A3\n#define A_TXT_X 1".toList

def dottedSources : Sources where
  layout := .standard
  table := .ofEntries [⟨['p'], ['X'], true⟩]
  suites := [['X']]
  defaults := .ofList [(['p'], "true".toList)]
  protocol := .ofList [(['X'], "0xI\u0307\u03A3".toList)]
  index := scanFiles .standard .empty [dottedHeader]

theorem blocks_found_in_any_case_dotted :
    Filled [("0x\u0130\u03A3".toList, "A_CK_X".toList)] dottedSources.index ∧
    dottedSources.blocks.outcome = .ok [⟨"0xi\u0307\u03C2".toList, "A_TXT_X".toList, false⟩] ∧
    dottedSources.index.textMacro? .standard "0xI\u0307\u03A3".toList = some "A_TXT_X".toList ∧
    (∀ n, dottedSources.index.textMacro? .standard (lower^[n] "0xi\u0307\u03C2".toList) =
      some "A_TXT_X".toList) ∧
    ∀ n, dottedSources.index.idMacro? (lower^[n] "0xi\u0307\u03C2".toList) =
      some "A_CK_X".toList := by
  have hids : [dottedHeader].flatMap (fun b => idSpellings .standard b.lines) =
      [("0x\u0130\u03A3".toList, "A_CK_X".toList)] := by decide +kernel
  have hindex : Filled [("0x\u0130\u03A3".toList, "A_CK_X".toList)] dottedSources.index :=
    hids ▸ filled_scanFiles .standard [dottedHeader]
  have hbs : dottedSources.blocks.outcome =
      .ok [⟨"0xi\u0307\u03C2".toList, "A_TXT_X".toList, false⟩] := by decide +kernel
  have hkey : dottedSources.index.byHex.find? "0xi\u0307\u03C2".toList =
      some "A_CK_X".toList := by decide +kernel
  have hsuites : dottedSources.suites.filter dottedSources.selects = [['X']] := by decide +kernel
  have hv : dottedSources.protocol.values.find? ['X'] = some "0xI\u0307\u03A3".toList := by
    decide +kernel
  obtain ⟨hblocks, hfound⟩ := blocks_found_in_any_case hindex hbs
  rw [hsuites] at hblocks
  cases hblocks with
  | cons hfirst _ =>
    obtain ⟨v, hmatched⟩ := hfirst
    obtain rfl : v = "0xI\u0307\u03A3".toList := Option.some.inj (hmatched.written.symm.trans hv)
    exact ⟨hindex, hbs, hmatched.textMacro?_written, hmatched.textMacro?_hex, hfound _ _ hkey⟩

end Sources

end Upkeep
