import Mathlib.Control.Monad.Basic
import Mathlib.Data.List.Pairwise
import Upkeep.Proofs.CipherList.FirstFault
import Upkeep.Proofs.CipherList.LineEndings
import Upkeep.Proofs.PrefTable.Insertion
import Upkeep.Proofs.Text.TrailingWhite

/-!
# Lines that have no bearing on the list

The list asks its sources for the listed suites only: for the preference of each, whether that is
on, and for the identifier.  Sources that agree on these (`Sources.Agree`) give the same list.

A line may be put into the preference table, among the defaults or into the protocol header, and say
something about other names only (`Unrelated`).  The part of the sources that comes from this file is
replaced, and the others load as before (`Sources.outcome_load_replaced`).  What is loaded then
agrees with what was loaded before, so the file that is written, and the failure if there is one,
stay the same (`Sources.generate_unrelated`).
-/

namespace Upkeep

open Text

/-! ## sources that agree -/

namespace Sources

variable {s s' : Sources}

/-- the second sources answer as the first ones whatever is asked for the list -/
structure Agree (s s' : Sources) : Prop where
  layout : s'.layout = s.layout
  index : s'.index = s.index
  suites : s'.suites = s.suites
  control : ∀ suite ∈ s.suites, s'.control? suite = s.control? suite
  hexValue : ∀ suite ∈ s.suites, s'.protocol.hexValue suite = s.protocol.hexValue suite

theorem agree_of_table {t : PrefTable}
    (h : ∀ suite ∈ s.suites, t.preferenceFor? suite = s.table.preferenceFor? suite) :
    s.Agree { s with table := t } := by
  refine ⟨rfl, rfl, rfl, fun suite hsuite => ?_, fun _ _ => rfl⟩
  show (t.preferenceFor? suite).map _ = (s.table.preferenceFor? suite).map _
  rw [h suite hsuite]

/-- of the defaults only those of the preferences that control a listed suite count -/
theorem agree_of_defaults {d : PrefDefaults} (h : ∀ suite ∈ s.suites, ∀ pref,
      s.table.preferenceFor? suite = some pref → d.isEnabled pref = s.defaults.isEnabled pref) :
    s.Agree { s with defaults := d } := by
  refine ⟨rfl, rfl, rfl, fun suite hsuite => ?_, fun _ _ => rfl⟩
  show (s.table.preferenceFor? suite).map _ = (s.table.preferenceFor? suite).map _
  cases hpref : s.table.preferenceFor? suite with
  | none => rfl
  | some pref =>
    have hon := h suite hsuite pref hpref
    show some (pref, d.isEnabled pref) = some (pref, s.defaults.isEnabled pref)
    rw [hon]

theorem agree_of_protocol {p : ProtocolIds}
    (h : ∀ suite ∈ s.suites, p.hexValue suite = s.protocol.hexValue suite) :
    s.Agree { s with protocol := p } :=
  ⟨rfl, rfl, rfl, fun _ _ => rfl, h⟩

theorem Agree.block? (h : Agree s s') {suite : Text} (hsuite : suite ∈ s.suites) :
    s'.block? suite = s.block? suite := by
  have hblock : s'.blockFor suite = s.blockFor suite := by
    funext hex
    unfold blockFor
    rw [h.layout, h.index]
  unfold Sources.block?
  rw [h.control suite hsuite, h.hexValue suite hsuite, hblock]

theorem Agree.blocksOf (h : Agree s s') {suites : List Text}
    (hs : ∀ suite ∈ suites, suite ∈ s.suites) : s'.blocksOf suites = s.blocksOf suites := by
  induction suites with
  | nil => rfl
  | cons suite suites ih =>
    obtain ⟨hsuite, hs⟩ := List.forall_mem_cons.1 hs
    rw [Sources.blocksOf, Sources.blocksOf, h.block? hsuite, ih hs]

theorem Agree.render (h : Agree s s') (sink : Sink) : s'.render sink = s.render sink := by
  have hblocks : s'.blocks = s.blocks := by
    show s'.blocksOf s'.suites = s.blocksOf s.suites
    rw [h.suites]
    exact h.blocksOf fun _ => id
  unfold Sources.render
  rw [hblocks]

end Sources

/-! ## tables with one more entry -/

theorem Dictionary.find?_ofList_insert {mid : List (Text × Text)} {q : Text}
    (h : ∀ c ∈ mid, c.1 ≠ q) (ps qs : List (Text × Text)) :
    (ofList (ps ++ (mid ++ qs))).find? q = (ofList (ps ++ qs)).find? q := by
  have hmid : mid.filter (fun c => c.1 = q) = [] := by simpa using h
  rw [find?_ofList_eq_getLast?, find?_ofList_eq_getLast?, List.filter_append, List.filter_append,
    hmid, List.nil_append, List.filter_append]

section
variable {before before' after : List Line} {line : Text}

theorem PrefDefaults.isEnabled_inserted {space : Text} {d : PrefDefaults}
    (hb : List.Forall₂ Line.Rereads before before')
    (hd : (PrefDefaults.read space (before ++ after)).outcome = .ok d) :
    ∃ d', (PrefDefaults.read space (before' ++ .ok line :: after)).outcome = .ok d' ∧
      ∀ name, (∀ c ∈ call? line, space <+: c.1 → c.1 ≠ name) →
        d'.isEnabled name = d.isEnabled name := by
  obtain ⟨ts, hts, rfl⟩ := outcome_read_eq_ok_iff.1 hd
  obtain ⟨ts', ps, qs, hts', hold, hnew⟩ :=
    Line.filterMap_insert call?_dropReturn hb hts line
  refine ⟨_, outcome_read_eq_ok_iff.2 ⟨ts', hts', rfl⟩, fun name hname => ?_⟩
  have hmid : ∀ c ∈ (call? line).toList.filter (fun c => space.isPrefixOf c.1), c.1 ≠ name := by
    intro c hc
    obtain ⟨hcall, hspace⟩ := List.mem_filter.1 hc
    exact hname c (Option.mem_toList.1 hcall) (List.isPrefixOf_iff_prefix.1 hspace)
  have hfind : (ofList ((ts'.filterMap call?).filter fun c => space.isPrefixOf c.1)).values.find?
      name = (ofList ((ts.filterMap call?).filter fun c => space.isPrefixOf c.1)).values.find?
      name := by
    rw [hold, hnew, List.filter_append, List.filter_append, List.filter_append]
    exact Dictionary.find?_ofList_insert hmid _ _
  unfold isEnabled value
  rw [hfind]

theorem ProtocolIds.hexValue_inserted {d : ProtocolIds}
    (hb : List.Forall₂ Line.Rereads before before')
    (hd : (ProtocolIds.read (before ++ after)).outcome = .ok d) :
    ∃ d', (ProtocolIds.read (before' ++ .ok line :: after)).outcome = .ok d' ∧
      ∀ suite, (∀ c ∈ Directive.definition? line, c.1 ≠ suite) →
        d'.hexValue suite = d.hexValue suite := by
  obtain ⟨ts, hts, rfl⟩ := outcome_read_eq_ok_iff.1 hd
  obtain ⟨ts', ps, qs, hts', hold, hnew⟩ :=
    Line.filterMap_insert Directive.definition?_dropReturn hb hts line
  refine ⟨_, outcome_read_eq_ok_iff.2 ⟨ts', hts', rfl⟩, fun suite hsuite => ?_⟩
  have hmid : ∀ c ∈ (Directive.definition? line).toList, c.1 ≠ suite := fun c hc =>
    hsuite c (Option.mem_toList.1 hc)
  have hfind : (ofList (ts'.filterMap Directive.definition?)).values.find? suite =
      (ofList (ts.filterMap Directive.definition?)).values.find? suite := by
    rw [hold, hnew]
    exact Dictionary.find?_ofList_insert hmid _ _
  unfold hexValue
  rw [hfind]

end

/-! ## unrelated lines -/

def prefLine (name value : Text) : Text :=
  "pref(\"".toList ++ (name ++ '"' :: ',' :: ' ' :: (value ++ [')', ';']))

def defineLine (name value : Text) : Text :=
  '#' :: ("define".toList ++ ' ' :: (name ++ ' ' :: value))

theorem name_of_call?_prefLine {name value : Text} (hq : '"' ∉ name) :
    ∀ c ∈ PrefDefaults.call? (prefLine name value), c.1 = name := by
  have hp : ∀ c ∈ name, decide (c ≠ '"') = true := fun c hc => by
    simpa using fun he : c = '"' => hq (he ▸ hc)
  have htake : (name ++ '"' :: ',' :: ' ' :: (value ++ [')', ';'])).takeWhile (· ≠ '"') = name := by
    rw [List.takeWhile_append_of_pos hp]
    simp
  intro c hc
  have hcall : PrefDefaults.call? ("pref(\"".toList ++
      (name ++ '"' :: ',' :: ' ' :: (value ++ [')', ';']))) = some c := hc
  rw [PrefDefaults.call?_eq, after?_append, Option.bind_some, htake,
    Option.bind_eq_some_iff] at hcall
  obtain ⟨v, -, hv⟩ := hcall
  split at hv
  · cases hv
  · cases hv
    rfl

theorem white?_token?_blank {m r : Text} (hne : m ≠ []) (hm : ∀ c ∈ m, isWhite c = false)
    (hr : ∀ c ∈ r.head?, isWhite c = true) :
    (white? (' ' :: (m ++ r))).bind token? = some (m, r) := by
  have hs : skipWhite (m ++ r) = m ++ r := by
    obtain ⟨c, m, rfl⟩ := List.exists_cons_of_ne_nil hne
    exact skipWhite_cons (hm c List.mem_cons_self) _
  show token? (skipWhite (m ++ r)) = _
  rw [hs, token?_append hne hm hr]

theorem definition?_defineLine {name value : Text} (hn : name ≠ [])
    (hname : ∀ c ∈ name, isWhite c = false) (hv : value ≠ [])
    (hvalue : ∀ c ∈ value, isWhite c = false) :
    Directive.definition? (defineLine name value) = some (name, value) := by
  have hblank : ∀ c ∈ (' ' :: value).head?, isWhite c = true := by simp [isWhite]
  have hend := white?_token?_blank hv hvalue (r := []) (by simp)
  rw [List.append_nil] at hend
  show Directive.nameAndValue? ("define".toList ++ ' ' :: (name ++ ' ' :: value)) = _
  rw [Directive.nameAndValue?_eq, after?_append, Option.bind_some,
    white?_token?_blank hn hname hblank, Option.bind_some, hend]
  rfl

theorem alone_whole (r : Row) {w : Text} (hw : Indent w) : (w ++ r.whole r.tail).Alone := by
  have hsplit : w ++ r.whole r.tail = w ++ (r.firstHalf ++ ' ' :: r.macroName) ++ r.tail := by
    simp [Labels.whole, Labels.secondHalf]
  have hlast : (w ++ r.whole r.tail).getLast? = some ',' := by
    rw [hsplit, r.getLast?_append_tail]
  refine ⟨?_, (r.bodyLine_whole hw).newline_notMem, ?_⟩
  · intro hnil
    rw [hnil] at hlast
    cases hlast
  · rw [hlast]
    decide

theorem alone_prefLine {name value : Text} (hn : '\n' ∉ name)
    (hv : ∀ c ∈ value, isWhite c = false) : (prefLine name value).Alone := by
  have hvalue : '\n' ∉ value := fun h => absurd (hv _ h) (by decide)
  have hsplit : prefLine name value =
      ("pref(\"".toList ++ (name ++ '"' :: ',' :: ' ' :: (value ++ [')']))) ++ [';'] := by
    show "pref(\"".toList ++ (name ++ '"' :: ',' :: ' ' :: (value ++ [')', ';'])) = _
    simp
  rw [hsplit]
  refine ⟨by simp, by simp [hn, hvalue], ?_⟩
  rw [List.getLast?_concat]
  decide

theorem alone_defineLine {name value : Text} (hname : ∀ c ∈ name, isWhite c = false)
    (hv : value ≠ []) (hvalue : ∀ c ∈ value, isWhite c = false) :
    (defineLine name value).Alone := by
  have hn : '\n' ∉ name := fun h => absurd (hname _ h) (by decide)
  have hm : '\n' ∉ value := fun h => absurd (hvalue _ h) (by decide)
  have hsplit : defineLine name value =
      ('#' :: ("define".toList ++ ' ' :: (name ++ [' ']))) ++ value := by
    simp [defineLine]
  have hmem : '\n' ∉ defineLine name value := by simp [defineLine, hn, hm]
  obtain ⟨v, c, rfl⟩ := (List.eq_nil_or_concat value).resolve_left hv
  refine ⟨by simp [defineLine], hmem, fun hlast => ?_⟩
  rw [hsplit, List.getLast?_append, List.concat_eq_append, List.getLast?_concat] at hlast
  obtain rfl : c = '\r' := Option.some.inj hlast
  exact absurd (hvalue '\r' (by simp)) (by decide)

/-- a line for the file `changed` of the Firefox tree, in the standard layout, that says nothing
about the listed suites; `before` are the lines of the file before it -/
inductive Unrelated (disk : Disk) (firefox : Path) (before : List Line) : Path → Text → Prop
  | entry (r : Row) {w : Text} : Indent w →
      PrefTable.Settled Layout.standard.tableStart Layout.standard.tableEnd before →
      (r.flag ≠ some true ∨
        ∀ suites, ArraySuites .standard disk firefox suites → r.macroName ∉ suites) →
      Unrelated disk firefox before Layout.standard.tableFile (w ++ r.whole r.tail)
  | pref {name value : Text} : name ≠ [] → '"' ∉ name → '\n' ∉ name →
      (∀ c ∈ value, isWhite c = false) →
      (¬ Layout.standard.prefNamespace <+: name ∨
        ∀ es suites, TableEntries .standard disk firefox es →
          ArraySuites .standard disk firefox suites →
          ∀ suite ∈ suites, ∀ e ∈ PrefEntry.lastFor es suite, e.name ≠ name) →
      Unrelated disk firefox before Layout.standard.defaultsFile (prefLine name value)
  | define {name value : Text} : name ≠ [] → (∀ c ∈ name, isWhite c = false) →
      value ≠ [] → (∀ c ∈ value, isWhite c = false) →
      (∀ suites, ArraySuites .standard disk firefox suites → name ∉ suites) →
      Unrelated disk firefox before Layout.standard.protocolHeader (defineLine name value)

variable {disk disk' : Disk} {firefox openssl changed : Path} {line : Text} {before : List Line}

theorem Unrelated.alone (h : Unrelated disk firefox before changed line) : line.Alone := by
  cases h with
  | entry r hw _ _ => exact alone_whole r hw
  | pref _ _ hn hv _ => exact alone_prefLine hn hv
  | define _ hname hv hvalue _ => exact alone_defineLine hname hv hvalue

/-! ## one file changed -/

theorem Path.suffix_join (p q : Path) : q <:+ p.join q := by
  unfold Path.join
  split
  · exact List.suffix_rfl
  · split
    · exact List.suffix_append p q
    · exact (List.suffix_cons '/' q).trans (List.suffix_append p _)

/-- neither path is the end of the other -/
def Path.Apart (q q' : Path) : Prop := ¬ q <:+ q' ∧ ¬ q' <:+ q

instance : DecidableRel Path.Apart := fun q q' => inferInstanceAs (Decidable (¬ q <:+ q' ∧ _))

theorem Path.Apart.join_ne_join {q q' : Path} (h : Path.Apart q q') (p p' : Path) :
    p.join q ≠ p'.join q' := by
  intro he
  rcases List.suffix_or_suffix_of_suffix (suffix_join p q) (he ▸ suffix_join p' q') with hq | hq
  · exact h.1 hq
  · exact h.2 hq

namespace Sources

/-- what the sources hold of the Firefox tree, each part from a file of its own -/
inductive Part
  | table | suites | defaults | protocol
deriving DecidableEq

namespace Part

def file : Part → Path
  | table => Layout.standard.tableFile
  | suites => Layout.standard.suitesFile
  | defaults => Layout.standard.defaultsFile
  | protocol => Layout.standard.protocolHeader

def all : List Part := [table, suites, defaults, protocol]

theorem mem_all (p : Part) : p ∈ all := by
  cases p <;> simp [all]

instance : Std.Symm fun p q : Part => Path.Apart p.file q.file := ⟨fun _ _ => And.symm⟩

/-- no two of the files can be the same, wherever the trees are -/
theorem file_apart {p q : Part} (h : p ≠ q) : Path.Apart p.file q.file := by
  have hall : all.Pairwise fun p q => Path.Apart p.file q.file := by decide +kernel
  exact hall.forall p.mem_all q.mem_all h

theorem headers_apart (p : Part) : ∀ h ∈ Layout.standard.headers, Path.Apart h p.file := by
  have hall : ∀ q ∈ all, ∀ h ∈ Layout.standard.headers, Path.Apart h q.file := by decide +kernel
  exact hall p p.mem_all

theorem join_file_mem_paths (p : Part) (firefox openssl : Path) :
    firefox.join p.file ∈ paths .standard firefox openssl := by
  cases p <;> simp [paths, file]

/-- the file gives what the sources hold of it -/
def Holds (disk : Disk) (firefox : Path) (s : Sources) : Part → Prop
  | table => (readFile disk firefox Layout.standard.tableFile
      (PrefTable.read Layout.standard.tableStart Layout.standard.tableEnd)).outcome = .ok s.table
  | suites => (readFile disk firefox Layout.standard.suitesFile
      (SuiteArray.read Layout.standard.suitesMarker Layout.standard.suitesEnd)).outcome
        = .ok s.suites
  | defaults => (readFile disk firefox Layout.standard.defaultsFile
      (PrefDefaults.read Layout.standard.prefNamespace)).outcome = .ok s.defaults
  | protocol => (readFile disk firefox Layout.standard.protocolHeader ProtocolIds.read).outcome
      = .ok s.protocol

theorem Holds.of_open?_eq {p : Part} {s : Sources} (h : p.Holds disk firefox s)
    (ho : disk'.open? (firefox.join p.file) = disk.open? (firefox.join p.file)) :
    p.Holds disk' firefox s := by
  cases p <;> exact (congrArg Run.outcome (readFile_congr ho _)).trans h

end Part

variable {s s' : Sources}

/-- the second sources hold something else of one file -/
inductive Replaced (s : Sources) : Part → Sources → Prop
  | table (t : PrefTable) : Replaced s .table { s with table := t }
  | suites (l : List Text) : Replaced s .suites { s with suites := l }
  | defaults (d : PrefDefaults) : Replaced s .defaults { s with defaults := d }
  | protocol (i : ProtocolIds) : Replaced s .protocol { s with protocol := i }

theorem Replaced.layout_eq {p : Part} (h : s.Replaced p s') : s'.layout = s.layout := by
  cases h <;> rfl

theorem Replaced.index_eq {p : Part} (h : s.Replaced p s') : s'.index = s.index := by
  cases h <;> rfl

theorem Replaced.holds {p q : Part} (h : s.Replaced p s') (hne : q ≠ p)
    (hq : q.Holds disk firefox s) : q.Holds disk firefox s' := by
  cases h <;> cases q <;> first | exact hq | exact absurd rfl hne

theorem outcome_load_standard_eq_ok_iff :
    (load .standard disk firefox openssl).outcome = .ok s ↔ s.layout = .standard ∧
      (∀ p : Part, p.Holds disk firefox s) ∧
      (readIndex .standard disk openssl).outcome = .ok s.index := by
  rw [outcome_load_eq_ok_iff]
  constructor
  · rintro ⟨hl, ht, hs, hd, hp, hi⟩
    refine ⟨hl, fun p => ?_, hi⟩
    cases p with
    | table => exact ht
    | suites => exact hs
    | defaults => exact hd
    | protocol => exact hp
  · rintro ⟨hl, hparts, hi⟩
    exact ⟨hl, hparts .table, hparts .suites, hparts .defaults, hparts .protocol, hi⟩

/-- the disks show the same of every file that is read but one -/
def SameBut (disk disk' : Disk) (firefox openssl changed : Path) : Prop :=
  ∀ q ∈ paths .standard firefox openssl, q ≠ firefox.join changed → disk'.open? q = disk.open? q

theorem readIndex_sameBut {p : Part} (h : SameBut disk disk' firefox openssl p.file) :
    readIndex .standard disk' openssl = readIndex .standard disk openssl := by
  refine scanHeaders_of_sameLines (fun q hq => ?_) _
  have hmem : q ∈ paths .standard firefox openssl := List.mem_append_right _ hq
  obtain ⟨header, hheader, rfl⟩ := List.mem_map.1 hq
  have hopen := h _ hmem ((p.headers_apart header hheader).join_ne_join _ _)
  show (disk'.open? _).map _ = (disk.open? _).map _
  rw [hopen]

/-- with one file changed its part of the sources is replaced, and the others load as before -/
theorem outcome_load_replaced {p : Part} (hr : s.Replaced p s')
    (h : SameBut disk disk' firefox openssl p.file)
    (hs : (load .standard disk firefox openssl).outcome = .ok s) (hp : p.Holds disk' firefox s') :
    (load .standard disk' firefox openssl).outcome = .ok s' := by
  obtain ⟨hl, hparts, hi⟩ := outcome_load_standard_eq_ok_iff.1 hs
  refine outcome_load_standard_eq_ok_iff.2 ⟨hr.layout_eq.trans hl, fun q => ?_, ?_⟩
  · by_cases hq : q = p
    · exact hq ▸ hp
    · have hopen := h _ (q.join_file_mem_paths firefox openssl)
        ((Part.file_apart hq).join_ne_join _ _)
      exact (hr.holds hq (hparts q)).of_open?_eq hopen
  · rw [readIndex_sameBut h, hi, hr.index_eq]

theorem outcome_readFile_file {α : Type} {root relative : Path} {reader : List Line → Run α}
    {x : α} {b : Bytes} (ho : disk.open? (root.join relative) = .ok (.file b)) :
    (readFile disk root relative reader).outcome = .ok x ↔ (reader b.lines).outcome = .ok x := by
  rw [outcome_readFile_eq_ok_iff, ho]
  constructor
  · rintro ⟨o, ho, h⟩
    obtain rfl := Except.ok.inj ho
    exact h
  · exact fun h => ⟨_, rfl, h⟩

/-- with an unrelated line put in, loading gives sources that agree with those before -/
theorem exists_agree {a b c : Bytes} (hline : Unrelated disk firefox a.lines changed line)
    (hopen : disk.open? (firefox.join changed) = .ok (.file (a ++ c)))
    (hopen' : disk'.open? (firefox.join changed) = .ok (.file b)) (hb : Bytes.Inserts line a c b)
    (hsame : SameBut disk disk' firefox openssl changed)
    (hs : (load .standard disk firefox openssl).outcome = .ok s) :
    ∃ s', (load .standard disk' firefox openssl).outcome = .ok s' ∧ s.Agree s' := by
  obtain ⟨before, after, hold, hrereads, hnew⟩ := Bytes.lines_of_inserts hb hline.alone
  obtain ⟨-, ht, -, hd, hp, -⟩ := outcome_load_eq_ok_iff.1 hs
  obtain ⟨es, calls, hes, hindexes, hsuites, -⟩ := tables_of_load hs
  cases hline with
  | entry r hw hsettled hmacro =>
    rw [outcome_readFile_file hopen, hold] at ht
    obtain ⟨t', ht', hpref⟩ := PrefTable.preferenceFor?_inserted r hw hsettled hrereads ht
    rw [← hnew, ← outcome_readFile_file hopen'] at ht'
    have hload := outcome_load_replaced (.table t') hsame hs ht'
    refine ⟨_, hload, agree_of_table fun suite hsuite => hpref suite ?_⟩
    rintro hflag rfl
    exact hmacro.elim (fun hno => hno hflag) fun hno => hno s.suites hsuites hsuite
  | pref _ hq hn hv hname =>
    rw [outcome_readFile_file hopen, hold] at hd
    obtain ⟨d', hd', hon⟩ := PrefDefaults.isEnabled_inserted hrereads hd
    rw [← hnew, ← outcome_readFile_file hopen'] at hd'
    have hload := outcome_load_replaced (.defaults d') hsame hs hd'
    refine ⟨_, hload, agree_of_defaults fun suite hsuite pref hpref => ?_⟩
    obtain ⟨e, he, rfl⟩ := Option.map_eq_some_iff.1 ((hindexes.byMacro suite).symm.trans hpref)
    refine hon e.name fun p hp hspace he' => ?_
    rw [name_of_call?_prefLine hq p hp] at hspace he'
    exact hname.elim (fun hno => hno hspace) fun hno =>
      hno es s.suites hes hsuites suite hsuite e he he'.symm
  | define hn hname hv hvalue hnot =>
    rw [outcome_readFile_file hopen, hold] at hp
    obtain ⟨p', hp', hhex⟩ := ProtocolIds.hexValue_inserted hrereads hp
    rw [← hnew, ← outcome_readFile_file hopen'] at hp'
    have hload := outcome_load_replaced (.protocol p') hsame hs hp'
    refine ⟨_, hload, agree_of_protocol fun suite hsuite => hhex suite fun d hd => ?_⟩
    rw [definition?_defineLine hn hname hv hvalue] at hd
    obtain rfl := Option.some.inj hd
    rintro rfl
    exact hnot s.suites hsuites hsuite

theorem outcome_load_ne_undefinedSuite {l : Layout} {suite : Text} :
    (load l disk firefox openssl).outcome ≠ .error (.undefinedSuite suite) := by
  intro h
  obtain ⟨before, x, after, hxs, -, hx⟩ := (failsFirst_load l disk firefox openssl _).1 h
  cases hx with
  | refused _ hg =>
    have hmem : x ∈ inputs l firefox openssl := by
      rw [hxs]
      simp
    obtain ⟨n, t, k, hf⟩ := malformed_of_refuses hmem hg
    cases hf

/-- **Unrelated lines do not matter.**  When the list is written, or fails for a suite without an
identifier, then a line about other names changes neither what is written nor the failure, wherever
it is put into its file. -/
theorem generate_unrelated {a b c : Bytes} (hline : Unrelated disk firefox a.lines changed line)
    (hopen : disk.open? (firefox.join changed) = .ok (.file (a ++ c)))
    (hopen' : disk'.open? (firefox.join changed) = .ok (.file b)) (hb : Bytes.Inserts line a c b)
    (hsame : SameBut disk disk' firefox openssl changed) {sink : Sink}
    (hrun : ∀ f ∈ (generate .standard disk firefox openssl sink).value.failure?,
      ∃ suite, f = .undefinedSuite suite) :
    (generate .standard disk' firefox openssl sink).value =
      (generate .standard disk firefox openssl sink).value := by
  rw [value_generate] at hrun
  rw [value_generate, value_generate]
  cases hs : (load .standard disk firefox openssl).outcome with
  | error e =>
    rw [hs] at hrun
    obtain ⟨suite, rfl⟩ := hrun e rfl
    exact absurd hs outcome_load_ne_undefinedSuite
  | ok s =>
    obtain ⟨s', hs', hagree⟩ := exists_agree hline hopen hopen' hb hsame hs
    rw [hs']
    show (s'.render sink).value = (s.render sink).value
    rw [hagree.render]

/-! A small tree, and an entry that takes the name of the only preference for a suite that is not
listed. -/

def sampleEntry : Text := "\x7b \"security.ssl3.a\", A, true \x7d,".toList

def sampleBefore : Bytes :=
  Text.encode (Text.unlines ["static const CipherPref sCipherPrefs[]".toList, sampleEntry])

def sampleAfter : Bytes := Text.encode "\x7b nullptr, 0\x7d".toList

def sampleSuites : Opened := sampleFile ["ssl3CipherSuiteCfg cipherSuites[", "\x7bA,", "\x7d;"]

def sampleDisk (table : Bytes) : Disk := Upkeep.Tree.disk ⟨[
  (Path.components Layout.standard.tableFile, .file table),
  (Path.components Layout.standard.suitesFile, sampleSuites),
  (Path.components Layout.standard.defaultsFile, sampleFile ["pref(\"security.ssl3.a\", true);"]),
  (Path.components Layout.standard.protocolHeader, sampleFile ["#define A 0x1"])]⟩

def sampleOriginal : Disk := sampleDisk (sampleBefore ++ sampleAfter)

/-- the name is the one of `sampleEntry` -/
def sampleRow : Row where
  name := "security.ssl3.a".toList
  macroName := ['B']
  name_ne_nil := by decide
  quote_notMem := by decide
  newline_notMem := by decide
  macroName_ne_nil := by decide
  isWordChar_of_mem := List.all_eq_true.1 (by decide)
  flag := some true

def sampleInserted : Bytes :=
  sampleBefore ++ [] ++ Text.encode (sampleRow.whole sampleRow.tail) ++ [10] ++ sampleAfter

theorem generate_unrelated_same_name :
    (generate .standard sampleOriginal [] ['o'] (.new none)).value.failure? = none ∧
    (generate .standard (sampleDisk sampleInserted) [] ['o'] (.new none)).value =
      (generate .standard sampleOriginal [] ['o'] (.new none)).value := by
  have hrun : (generate .standard sampleOriginal [] ['o'] (.new none)).value.failure? = none := by
    decide +kernel
  have hsettled : PrefTable.Settled Layout.standard.tableStart Layout.standard.tableEnd
      (Bytes.lines sampleBefore) := by
    have hkinds : [sampleEntry].filterMap bodyKind =
        [.entry "security.ssl3.a".toList ['A'] true] := by decide +kernel
    have hreading : EntryLine.Reading ([sampleEntry].filterMap bodyKind)
        [⟨"security.ssl3.a".toList, ['A'], true⟩] none := by
      rw [hkinds]
      exact .entry _ _ _ .nil
    exact ⟨⟨.unterminated, [_]⟩, by decide +kernel, .inr ⟨_, hreading⟩⟩
  have hsuites : ∀ suites, ArraySuites .standard sampleOriginal [] suites →
      sampleRow.macroName ∉ suites := by
    rintro suites ⟨o, ho, hs⟩
    have hopen : sampleOriginal.open? (Path.join [] Layout.standard.suitesFile) =
        .ok sampleSuites := by decide +kernel
    have hread : (SuiteArray.read Layout.standard.suitesMarker Layout.standard.suitesEnd
        sampleSuites.lines).outcome = .ok [['A']] := by decide +kernel
    obtain rfl := Except.ok.inj (hopen.symm.trans ho)
    obtain rfl := Except.ok.inj (hread.symm.trans hs)
    decide
  have hline : Unrelated sampleOriginal [] (Bytes.lines sampleBefore) Layout.standard.tableFile
      ([] ++ sampleRow.whole sampleRow.tail) :=
    .entry sampleRow (List.forall_mem_nil _) hsettled (.inr hsuites)
  have hb : Bytes.Inserts ([] ++ sampleRow.whole sampleRow.tail) sampleBefore sampleAfter
      sampleInserted := ⟨[], [10], rfl, .inl ⟨by decide +kernel, rfl⟩, .inl .feed⟩
  refine ⟨hrun, generate_unrelated hline (by decide +kernel) (by decide +kernel) hb ?_ ?_⟩
  · show ∀ q ∈ paths .standard [] ['o'], _
    decide +kernel
  · intro f hf
    cases hrun.symm.trans hf

end Sources

end Upkeep
