import Mathlib.Data.List.Infix
import Upkeep.OpenSsl.MacroIndex
import Upkeep.Proofs.Text.LineDecoding

/-!
# What a look-up depends on

The index is filled line by line, header by header, and holds two dictionaries.  What it answers is
told here from the definitions of the headers alone (`MacroIndex.definitionsOf`): a name is defined
when some line defines it, wherever that line stands, and the id macro of an identifier is the last
one that was defined for it (`MacroIndex.lastId?`).  So two sequences of headers that define the
same names, and whose last id macros are the same, answer every look-up alike, whatever else is
different between them: the order of the lines, their division into headers, values and
repetitions.
-/

namespace Upkeep.MacroIndex

open Text

variable {l : Layout}

/-- the index of header texts that are scanned one after the other -/
def ofTexts (l : Layout) (ts : List Text) : MacroIndex :=
  ts.foldl (fun ix t => (ix.scan l (encode t).lines).value.1) .empty

/-- the index after the files are scanned one after the other, whether or not they are texts -/
def scanFiles (l : Layout) (ix : MacroIndex) (bs : List Bytes) : MacroIndex :=
  bs.foldl (fun ix b => (ix.scan l b.lines).value.1) ix

/-! ## the definitions of headers -/

def definitions (ls : List Line) : List (Text × Text) :=
  ls.filterMap fun x => x.toOption.bind Directive.spacedDefinition?

/-- the definitions of a file before its first bad line -/
def scanned (b : Bytes) : List (Text × Text) :=
  (Line.upToFault b.lines).1.filterMap Directive.spacedDefinition?

def definitionsOf (ts : List Text) : List (Text × Text) :=
  ts.flatMap fun t => definitions (encode t).lines

def Defines (ts : List Text) (name : Text) : Prop :=
  ∃ t ∈ ts, ∃ line value, .ok line ∈ (encode t).lines ∧
    Directive.spacedDefinition? line = some (name, value)

/-- the last name that is defined as an id macro of the identifier `key` -/
def lastId? (l : Layout) (ds : List (Text × Text)) (key : Text) : Option Text :=
  let ids := ds.filter fun d =>
    "0x".toList <+: d.2 ∧ l.idMarker <:+: d.1 ∧ shortened l d.2 = key
  ids.getLast?.map Prod.fst

theorem defines_iff {ts : List Text} {name : Text} :
    Defines ts name ↔ name ∈ (definitionsOf ts).map Prod.fst := by
  simp only [Defines, definitionsOf, definitions, List.mem_map, List.mem_flatMap, List.mem_filterMap]
  constructor
  · rintro ⟨t, ht, line, value, hline, hd⟩
    exact ⟨(name, value), ⟨t, ht, .ok line, hline, hd⟩, rfl⟩
  · rintro ⟨⟨name, value⟩, ⟨t, ht, x, hx, hd⟩, rfl⟩
    cases x with
    | error e => cases hd
    | ok line => exact ⟨t, ht, line, value, hx, hd⟩

theorem definitions_map_ok (us : List Text) :
    definitions (us.map .ok) = us.filterMap Directive.spacedDefinition? := by
  rw [definitions, List.filterMap_map]
  rfl

/-! ## the index from the definitions -/

theorem value_scan (l : Layout) (ix : MacroIndex) (ls : List Line) : (ix.scan l ls).value =
    (ix.enter l ((Line.upToFault ls).1.filterMap Directive.spacedDefinition?),
      (Line.upToFault ls).2) := rfl

theorem scanned_encode (t : Text) : scanned (encode t) = definitions (encode t).lines := by
  obtain ⟨us, hus⟩ := Bytes.exists_lines_encode t
  rw [scanned, hus, Line.upToFault_ok, definitions_map_ok]

theorem enter_nil (l : Layout) (ix : MacroIndex) : ix.enter l [] = ix := rfl

theorem enter_append (l : Layout) (ix : MacroIndex) (ds es : List (Text × Text)) :
    ix.enter l (ds ++ es) = (ix.enter l ds).enter l es := by
  simp only [enter, List.filterMap_append, Dictionary.insertAll_append]

theorem scanFiles_append (l : Layout) (ix : MacroIndex) (as bs : List Bytes) :
    scanFiles l ix (as ++ bs) = scanFiles l (scanFiles l ix as) bs :=
  List.foldl_append

/-- the files are scanned in turn, each up to its first bad line -/
theorem scanFiles_eq_enter (l : Layout) (ix : MacroIndex) (bs : List Bytes) :
    scanFiles l ix bs = ix.enter l (bs.flatMap scanned) := by
  induction bs generalizing ix with
  | nil => exact (enter_nil l ix).symm
  | cons b bs ih =>
    show scanFiles l (ix.enter l (scanned b)) bs = _
    rw [ih, List.flatMap_cons, enter_append]

theorem ofTexts_eq_enter (l : Layout) (ts : List Text) :
    ofTexts l ts = empty.enter l (definitionsOf ts) := by
  have hfiles : ofTexts l ts = scanFiles l .empty (ts.map encode) := by
    unfold ofTexts scanFiles
    rw [List.foldl_map]
  have hscanned : (ts.map encode).flatMap scanned = definitionsOf ts := by
    rw [List.flatMap_map]
    exact List.flatMap_congr fun t _ => scanned_encode t
  rw [hfiles, scanFiles_eq_enter, hscanned]

/-! ## the answers of the index -/

theorem idPair?_eq_some_iff {d e : Text × Text} : idPair? l d = some e ↔
    "0x".toList <+: d.2 ∧ l.idMarker <:+: d.1 ∧ (shortened l d.2, d.1) = e := by
  unfold idPair?
  rw [Option.ite_none_right_eq_some, Bool.and_eq_true, List.isPrefixOf_iff_prefix, hasInfix_iff,
    and_assoc, Option.some.injEq]

theorem idPair?_eq_none {d : Text × Text} (h : ¬ ("0x".toList <+: d.2 ∧ l.idMarker <:+: d.1)) :
    idPair? l d = none := by
  apply Option.eq_none_iff_forall_ne_some.2
  intro e he
  obtain ⟨hvalue, hmarker, -⟩ := idPair?_eq_some_iff.1 he
  exact h ⟨hvalue, hmarker⟩

theorem filterMap_idPair? (l : Layout) (ds : List (Text × Text)) : ds.filterMap (idPair? l) =
    (ds.filter fun d => "0x".toList <+: d.2 ∧ l.idMarker <:+: d.1).map
      fun d => (shortened l d.2, d.1) := by
  induction ds with
  | nil => rfl
  | cons d ds ih =>
    by_cases hd : "0x".toList <+: d.2 ∧ l.idMarker <:+: d.1
    · have hpair : idPair? l d = some (shortened l d.2, d.1) :=
        idPair?_eq_some_iff.2 ⟨hd.1, hd.2, rfl⟩
      rw [List.filterMap_cons_some hpair, ih, List.filter_cons_of_pos (by simpa using hd),
        List.map_cons]
    · rw [List.filterMap_cons_none (idPair?_eq_none hd), ih,
        List.filter_cons_of_neg (by simpa using hd)]

/-- the last id macro of an identifier is the last pair under it -/
theorem lastId?_eq (l : Layout) (ds : List (Text × Text)) (key : Text) : lastId? l ds key =
    (((ds.filterMap (idPair? l)).filter fun p => p.1 = key).getLast?).map Prod.snd := by
  have hids : (ds.filter fun d => "0x".toList <+: d.2 ∧ l.idMarker <:+: d.1).filter
        (fun d => shortened l d.2 = key) =
      ds.filter fun d => "0x".toList <+: d.2 ∧ l.idMarker <:+: d.1 ∧ shortened l d.2 = key := by
    rw [List.filter_filter]
    refine List.filter_congr fun d _ => ?_
    rw [← Bool.decide_and, decide_eq_decide, and_comm, and_assoc]
  rw [filterMap_idPair?, List.filter_map, List.getLast?_map, Option.map_map]
  exact congrArg (fun ids : List (Text × Text) => ids.getLast?.map Prod.fst) hids.symm

theorem idMacro?_enter (l : Layout) (ds : List (Text × Text)) (hex : Text) :
    (empty.enter l ds).idMacro? hex = lastId? l ds hex.lower := by
  rw [lastId?_eq]
  exact Dictionary.find?_ofList_eq_getLast? _ _

theorem idMacro?_ofTexts (l : Layout) (ts : List Text) (hex : Text) :
    (ofTexts l ts).idMacro? hex = lastId? l (definitionsOf ts) hex.lower := by
  rw [ofTexts_eq_enter, idMacro?_enter]

theorem isDefined_ofTexts {ts : List Text} {name : Text} :
    (ofTexts l ts).isDefined name = true ↔ Defines ts name := by
  rw [ofTexts_eq_enter, defines_iff]
  exact Dictionary.contains_ofList_iff

/-- the text macro of an identifier is the name that its id macro leads to, if that is defined -/
theorem textMacro?_ofTexts {ts : List Text} {hex name : Text} :
    (ofTexts l ts).textMacro? l hex = some name ↔
      (lastId? l (definitionsOf ts) hex.lower).map (replace l.idMarker l.textMarker) = some name ∧
        Defines ts name := by
  unfold textMacro?
  rw [idMacro?_ofTexts]
  cases lastId? l (definitionsOf ts) hex.lower with
  | none => simp
  | some idName =>
    show (if (ofTexts l ts).isDefined (replace l.idMarker l.textMarker idName) = true then _
      else _) = some name ↔ _
    rw [Option.ite_none_right_eq_some, isDefined_ofTexts, Option.map_some, Option.some.injEq]
    constructor
    · rintro ⟨hd, rfl⟩
      exact ⟨rfl, hd⟩
    · rintro ⟨rfl, hd⟩
      exact ⟨hd, rfl⟩

/-- **Look-ups depend on the names that are defined and on the last id macros, and on nothing
else.**  Headers that agree in these two answer every look-up alike.  The text macro of an
identifier is the name that its last id macro leads to, as long as some line defines that name: a
line before or after it, in the same header or in another one. -/
theorem lookups_agree {ts us : List Text} (hnames : ∀ name, Defines ts name ↔ Defines us name)
    (hids : ∀ key, lastId? l (definitionsOf ts) key = lastId? l (definitionsOf us) key) :
    (∀ hex, (ofTexts l ts).idMacro? hex = (ofTexts l us).idMacro? hex) ∧
    (∀ name, (ofTexts l ts).isDefined name = (ofTexts l us).isDefined name) ∧
    (∀ hex, (ofTexts l ts).textMacro? l hex = (ofTexts l us).textMacro? l hex) ∧
    ∀ hex name, (ofTexts l ts).textMacro? l hex = some name ↔
      (lastId? l (definitionsOf ts) hex.lower).map (replace l.idMarker l.textMarker) = some name ∧
        Defines ts name := by
  refine ⟨fun hex => ?_, fun name => ?_, fun hex => ?_, fun hex name => textMacro?_ofTexts⟩
  · rw [idMacro?_ofTexts, idMacro?_ofTexts, hids]
  · rw [Bool.eq_iff_iff, isDefined_ofTexts, isDefined_ofTexts, hnames]
  · apply Option.ext
    intro name
    rw [textMacro?_ofTexts, textMacro?_ofTexts, hids, hnames]

/-! The same names in another order and division.  In the second sequence the text macro comes
first, and the id macro is defined once more, as no id macro. -/

def sampleHeaders : List Text :=
  ["#define A_CK_ 0x0300A\n".toList, "#  define B_CK_ 0x0300a\n#define B_TXT_ 1".toList]

def shuffledHeaders : List Text :=
  ["#define B_TXT_ 2\n#define A_CK_ 0xA\n#define B_CK_ 0x0300A\n#define B_CK_ 7".toList]

theorem lookups_agree_shuffled :
    (∀ name, Defines sampleHeaders name ↔ Defines shuffledHeaders name) ∧
    (∀ key, lastId? .standard (definitionsOf sampleHeaders) key =
      lastId? .standard (definitionsOf shuffledHeaders) key) ∧
    (∀ hex, (ofTexts .standard sampleHeaders).textMacro? .standard hex =
      (ofTexts .standard shuffledHeaders).textMacro? .standard hex) ∧
    (ofTexts .standard shuffledHeaders).textMacro? .standard "0XA".toList =
      some "B_TXT_".toList := by
  have hts : definitionsOf sampleHeaders = [("A_CK_".toList, "0x0300A".toList),
      ("B_CK_".toList, "0x0300a".toList), ("B_TXT_".toList, ['1'])] := by decide +kernel
  have hus : definitionsOf shuffledHeaders = [("B_TXT_".toList, ['2']),
      ("A_CK_".toList, "0xA".toList), ("B_CK_".toList, "0x0300A".toList),
      ("B_CK_".toList, ['7'])] := by decide +kernel
  have hnames : ∀ name, Defines sampleHeaders name ↔ Defines shuffledHeaders name := by
    intro name
    rw [defines_iff, defines_iff, hts, hus]
    simp only [List.map_cons, List.map_nil, List.mem_cons, List.not_mem_nil, or_false]
    constructor
    · rintro (h | h | h) <;> simp [h]
    · rintro (h | h | h | h) <;> simp [h]
  have hids : ∀ key, lastId? .standard (definitionsOf sampleHeaders) key =
      lastId? .standard (definitionsOf shuffledHeaders) key := by
    intro key
    have hpairs : (definitionsOf sampleHeaders).filterMap (idPair? .standard) =
        (definitionsOf shuffledHeaders).filterMap (idPair? .standard) := by
      rw [hts, hus]
      decide +kernel
    rw [lastId?_eq, lastId?_eq, hpairs]
  obtain ⟨-, -, htext, hiff⟩ := lookups_agree hnames hids
  have hlast : (lastId? .standard (definitionsOf sampleHeaders) (lower "0XA".toList)).map
      (replace Layout.standard.idMarker Layout.standard.textMarker) = some "B_TXT_".toList := by
    rw [hts]
    decide +kernel
  have hdefined : Defines sampleHeaders "B_TXT_".toList := by
    rw [defines_iff, hts]
    decide
  refine ⟨hnames, hids, htext, ?_⟩
  rw [← htext, hiff]
  exact ⟨hlast, hdefined⟩

end Upkeep.MacroIndex
