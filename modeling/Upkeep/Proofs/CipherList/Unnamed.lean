import Mathlib.Control.Monad.Basic
import Upkeep.Proofs.CipherList.Blocks
import Upkeep.Proofs.OpenSsl.Lookups
import Upkeep.Proofs.Text.Lowercase

/-!
# Blocks without an OpenSSL name

A block is told to have no OpenSSL name when the last id macro of its identifier has no text macro
(`Sources.unnamed_iff_last`).  The id macros before the last one are not asked, so the note can be
there although one of them has a text macro: it is truthful exactly when the last id macro has a
text macro if any of them has.
-/

namespace Upkeep

open Text

namespace MacroIndex

variable {l : Layout} {ts : List Text} {hex name : Text}

/-- some line of the headers defines `name` as an id macro of the identifier -/
def Identifies (l : Layout) (ts : List Text) (hex name : Text) : Prop :=
  ∃ t ∈ ts, ∃ line value, .ok line ∈ (encode t).lines ∧
    Directive.spacedDefinition? line = some (name, value) ∧
    "0x".toList <+: value ∧ l.idMarker <:+: name ∧ shortened l value = hex

/-- the name of the text macro that goes with an id macro -/
def textName (l : Layout) (name : Text) : Text := replace l.idMarker l.textMarker name

theorem mem_definitionsOf_iff {d : Text × Text} : d ∈ definitionsOf ts ↔
    ∃ t ∈ ts, ∃ line, .ok line ∈ (encode t).lines ∧ Directive.spacedDefinition? line = some d := by
  simp only [definitionsOf, definitions, List.mem_flatMap, List.mem_filterMap]
  refine exists_congr fun t => and_congr_right fun _ => ?_
  constructor
  · rintro ⟨x, hx, hd⟩
    cases x with
    | error e => cases hd
    | ok line => exact ⟨line, hx, hd⟩
  · rintro ⟨line, hline, hd⟩
    exact ⟨.ok line, hline, hd⟩

theorem identifies_iff : Identifies l ts hex name ↔ ∃ d ∈ definitionsOf ts,
    ("0x".toList <+: d.2 ∧ l.idMarker <:+: d.1 ∧ shortened l d.2 = hex) ∧ d.1 = name := by
  constructor
  · rintro ⟨t, ht, line, value, hline, hd, hid⟩
    exact ⟨(name, value), mem_definitionsOf_iff.2 ⟨t, ht, line, hline, hd⟩, hid, rfl⟩
  · rintro ⟨⟨n, value⟩, hd, hid, rfl⟩
    obtain ⟨t, ht, line, hline, hd⟩ := mem_definitionsOf_iff.1 hd
    exact ⟨t, ht, line, value, hline, hd, hid⟩

theorem identifies_of_lastId? (h : lastId? l (definitionsOf ts) hex = some name) :
    Identifies l ts hex name := by
  obtain ⟨d, hd, rfl⟩ := Option.map_eq_some_iff.1 h
  obtain ⟨hmem, hid⟩ := List.mem_filter.1 (List.mem_of_getLast? hd)
  exact identifies_iff.2 ⟨d, hmem, of_decide_eq_true hid, rfl⟩

end MacroIndex

namespace Sources

open MacroIndex

variable {s : Sources} {ts : List Text} {suite : Text} {b : Block}

theorem exists_emits_of_mem {bs : List Block} (h : s.blocks.outcome = .ok bs) (hb : b ∈ bs) :
    ∃ suite, s.Emits suite b := by
  have hwalk : List.Forall₂ s.Resolves (s.suites.filter s.selects) bs :=
    outcome_blocksOf_eq_ok_iff.1 h
  clear h
  generalize s.suites.filter s.selects = kept at hwalk
  induction hwalk with
  | nil => cases hb
  | cons hfirst _ ih =>
    rcases List.mem_cons.1 hb with rfl | hb
    · obtain ⟨v, hv, rfl⟩ := hfirst
      exact ⟨_, emits_blockFor hv⟩
    · exact ih hb

theorem textMacro?_hex (hindex : s.index = ofTexts s.layout ts) {v name : Text} :
    s.index.textMacro? s.layout v.lower = some name ↔ ∃ id,
      lastId? s.layout (definitionsOf ts) v.lower = some id ∧ textName s.layout id = name ∧
        Defines ts name := by
  rw [hindex, textMacro?_ofTexts, lower_lower, Option.map_eq_some_iff]
  constructor
  · rintro ⟨⟨id, hid, hname⟩, hdefined⟩
    exact ⟨id, hid, hname, hdefined⟩
  · rintro ⟨id, hid, hname, hdefined⟩
    exact ⟨⟨id, hid, hname⟩, hdefined⟩

theorem named_of_emits (hindex : s.index = ofTexts s.layout ts) (h : s.Emits suite b)
    (hb : b.unnamed = false) : ∃ id, lastId? s.layout (definitionsOf ts) b.hex = some id ∧
      Defines ts (textName s.layout id) ∧ b.macroName = textName s.layout id := by
  cases h with
  | named hv hname =>
    obtain ⟨id, hid, rfl, hdefined⟩ := (textMacro?_hex hindex).1 hname
    exact ⟨id, hid, hdefined, rfl⟩
  | unnamed _ _ => cases hb

theorem not_defines_of_emits (hindex : s.index = ofTexts s.layout ts) (h : s.Emits suite b)
    (hb : b.unnamed = true) {id : Text}
    (hid : lastId? s.layout (definitionsOf ts) b.hex = some id) :
    ¬ Defines ts (textName s.layout id) := by
  cases h with
  | named _ _ => cases hb
  | unnamed hv hnone =>
    intro hdefined
    have hsome := (textMacro?_hex hindex).2 ⟨id, hid, rfl, hdefined⟩
    rw [hnone] at hsome
    cases hsome

/-- **When a block has no OpenSSL name.**  It has none exactly when the last id macro of its
identifier, if there is one, has no text macro that is defined; otherwise its name is that text
macro.  So the note tells the truth about all id macros of the identifier exactly when the last one
has a text macro if any of them has. -/
theorem unnamed_iff_last (hindex : s.index = ofTexts s.layout ts) {bs : List Block}
    (hbs : s.blocks.outcome = .ok bs) (hb : b ∈ bs) :
    (b.unnamed = true ↔ ∀ id, lastId? s.layout (definitionsOf ts) b.hex = some id →
      ¬ Defines ts (textName s.layout id)) ∧
    (b.unnamed = false → ∃ id, Identifies s.layout ts b.hex id ∧
      Defines ts (textName s.layout id) ∧ b.macroName = textName s.layout id) ∧
    ((b.unnamed = true → ∀ id, Identifies s.layout ts b.hex id →
        ¬ Defines ts (textName s.layout id)) ↔
      ((∃ id, Identifies s.layout ts b.hex id ∧ Defines ts (textName s.layout id)) →
        ∃ id, lastId? s.layout (definitionsOf ts) b.hex = some id ∧
          Defines ts (textName s.layout id))) := by
  obtain ⟨suite, he⟩ := exists_emits_of_mem hbs hb
  have hlast : b.unnamed = true ↔ ∀ id, lastId? s.layout (definitionsOf ts) b.hex = some id →
      ¬ Defines ts (textName s.layout id) := by
    refine ⟨fun hu id hid => not_defines_of_emits hindex he hu hid, fun hno => ?_⟩
    refine Bool.not_eq_false _ ▸ fun hu => ?_
    obtain ⟨id, hid, hdefined, -⟩ := named_of_emits hindex he hu
    exact hno id hid hdefined
  refine ⟨hlast, fun hu => ?_, ?_⟩
  · obtain ⟨id, hid, hdefined, hname⟩ := named_of_emits hindex he hu
    exact ⟨id, identifies_of_lastId? hid, hdefined, hname⟩
  · rw [hlast]
    constructor
    · rintro htruth ⟨id, hid, hdefined⟩
      refine Classical.byContradiction fun hnone => ?_
      have hno : ∀ id, lastId? s.layout (definitionsOf ts) b.hex = some id →
          ¬ Defines ts (textName s.layout id) := fun last hl hd => hnone ⟨last, hl, hd⟩
      exact htruth hno id hid hdefined
    · intro hany hno id hid hdefined
      obtain ⟨last, hl, hd⟩ := hany ⟨id, hid, hdefined⟩
      exact hno last hl hd

/-! A later id macro without a text macro hides one that has it. -/

def shadowedHeaders : List Text :=
  ["#define A_CK_X 0x03000001\n#define A_TXT_X 1".toList, "#define B_CK_X 0x03000001".toList]

def shadowedSources : Sources where
  layout := .standard
  table := .ofEntries [⟨['p'], ['X'], true⟩]
  suites := [['X']]
  defaults := .ofList [(['p'], "true".toList)]
  protocol := .ofList [(['X'], "0x0001".toList)]
  index := ofTexts .standard shadowedHeaders

theorem unnamed_iff_last_shadowed :
    shadowedSources.blocks.outcome = .ok [⟨"0x0001".toList, ['X'], true⟩] ∧
    lastId? .standard (definitionsOf shadowedHeaders) "0x0001".toList =
      some "B_CK_X".toList ∧
    ¬ Defines shadowedHeaders "B_TXT_X".toList := by
  have hbs : shadowedSources.blocks.outcome = .ok [⟨"0x0001".toList, ['X'], true⟩] := by
    decide +kernel
  have hlast : lastId? .standard (definitionsOf shadowedHeaders) "0x0001".toList =
      some "B_CK_X".toList := by decide +kernel
  have hindex : shadowedSources.index = ofTexts shadowedSources.layout shadowedHeaders := rfl
  obtain ⟨hunnamed, -, -⟩ := unnamed_iff_last hindex hbs (List.mem_singleton_self _)
  exact ⟨hbs, hlast, hunnamed.1 rfl _ hlast⟩

/-- the note is there, and still an id macro of the identifier has a text macro -/
theorem unnamed_though_identified :
    shadowedSources.blocks.outcome = .ok [⟨"0x0001".toList, ['X'], true⟩] ∧
    Identifies .standard shadowedHeaders "0x0001".toList "A_CK_X".toList ∧
    Defines shadowedHeaders (textName .standard "A_CK_X".toList) := by
  have hid : ("A_CK_X".toList, "0x03000001".toList) ∈ definitionsOf shadowedHeaders := by
    decide +kernel
  refine ⟨by decide +kernel, identifies_iff.2 ⟨_, hid, by decide +kernel, rfl⟩, ?_⟩
  exact defines_iff.2 (by decide +kernel)

end Sources

end Upkeep
