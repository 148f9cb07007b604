import Upkeep.LayoutFile
import Upkeep.Proofs.Toml.Settings

/-!
# What a layout file overrides

A layout file that has one setting on each line takes the fields that it names from the settings and
all others from the standard layout, in whatever order the lines stand and whatever other keys they
set.

* `settings l`     the keys of all fields with the values they have in `l`;
* `overlaid l ks`  the standard layout with the fields whose keys are in `ks` as in `l`;
* `Sets l e`       the setting `e` gives a field the value it has in `l`, or names no field;
* `Misfits e`      the setting `e` names a field and is of another type than the field;
* `Rejected doc`   the text describes no layout, and a file with it is refused.

The fields are replaced one after the other, and a field that is replaced by its own value stays
(`TextField.set_get`).  So each field can be told apart from the others, and all of them together
are one induction over the list of fields (`foldlM_override`).
-/

namespace Upkeep.Layout

open Toml

/-! ## fields -/

def settings (l : Layout) : List (Text × Setting) :=
  (headersKey.toList, .texts l.headers) :: textFields.map fun f => (f.key.toList, .text (f.get l))

/-- one of two values, the first one if the key is there -/
def pick {α : Type} (keys : List Text) (key : String) (new old : α) : α :=
  if keys.contains key.toList then new else old

def overlaid (l : Layout) (keys : List Text) : Layout where
  tableFile := pick keys "cipher_prefs_file" l.tableFile standard.tableFile
  tableStart := pick keys "cipher_prefs_start" l.tableStart standard.tableStart
  tableEnd := pick keys "cipher_prefs_end" l.tableEnd standard.tableEnd
  suitesFile := pick keys "cipher_suites_file" l.suitesFile standard.suitesFile
  suitesMarker := pick keys "cipher_suites_marker" l.suitesMarker standard.suitesMarker
  suitesEnd := pick keys "cipher_suites_end" l.suitesEnd standard.suitesEnd
  defaultsFile := pick keys "prefs_file" l.defaultsFile standard.defaultsFile
  prefNamespace := pick keys "pref_namespace" l.prefNamespace standard.prefNamespace
  protocolHeader := pick keys "proto_header" l.protocolHeader standard.protocolHeader
  includeDir := pick keys "openssl_include_dir" l.includeDir standard.includeDir
  headers := pick keys "openssl_headers" l.headers standard.headers
  hexPrefix := pick keys "openssl_hex_prefix" l.hexPrefix standard.hexPrefix
  idMarker := pick keys "openssl_id_marker" l.idMarker standard.idMarker
  textMarker := pick keys "openssl_text_marker" l.textMarker standard.textMarker

/-! ## tables -/

/-- the table has the settings of `l` under the given keys, and no other fields -/
def Agrees (l : Layout) (keys : List Text) (t : Table) : Prop :=
  ∀ e ∈ l.settings, t.lookup e.1 = if keys.contains e.1 then e.2.value? else none

variable {l : Layout} {keys : List Text} {t : Table}

theorem override_eq_pick {f : TextField} (h : t.lookup f.key.toList =
      if keys.contains f.key.toList then some (.string (f.get l)) else none) (m : Layout) :
    override t m f = some (f.set m (pick keys f.key (f.get l) (f.get m))) := by
  unfold override pick
  by_cases hk : keys.contains f.key.toList = true
  · rw [h, if_pos hk, if_pos hk]
    rfl
  · rw [h, if_neg hk, if_neg hk, f.set_get]

theorem foldlM_override (fs : List TextField) (h : ∀ f ∈ fs, t.lookup f.key.toList =
      if keys.contains f.key.toList then some (.string (f.get l)) else none) (m : Layout) :
    fs.foldlM (override t) m =
      some (fs.foldl (fun m f => f.set m (pick keys f.key (f.get l) (f.get m))) m) := by
  induction fs generalizing m with
  | nil => rfl
  | cons f fs ih =>
    obtain ⟨hf, hfs⟩ := List.forall_mem_cons.1 h
    rw [List.foldlM_cons, override_eq_pick hf]
    exact ih hfs _

theorem mapM_asText? (ts : List Text) : (ts.map Value.string).mapM asText? = some ts := by
  induction ts with
  | nil => rfl
  | cons t ts ih =>
    rw [List.map_cons, List.mapM_cons, ih]
    rfl

theorem overrideHeaders_eq_pick
    (h : t.lookup headersKey.toList =
      if keys.contains headersKey.toList then some (.array (l.headers.map .string)) else none)
    (m : Layout) : overrideHeaders t m =
      some { m with headers := pick keys headersKey l.headers m.headers } := by
  unfold overrideHeaders pick
  by_cases hk : keys.contains headersKey.toList = true
  · rw [h, if_pos hk, if_pos hk]
    show ((l.headers.map Value.string).mapM asText?).map _ = _
    rw [mapM_asText?]
    rfl
  · rw [h, if_neg hk, if_neg hk]

theorem foldl_textFields (l : Layout) (keys : List Text) :
    textFields.foldl (fun m f => f.set m (pick keys f.key (f.get l) (f.get m))) standard =
      { l.overlaid keys with headers := standard.headers } := by
  simp only [textFields, List.foldl_cons, List.foldl_nil]
  rfl

theorem ofTable_eq_overlaid (h : Agrees l keys t) : ofTable t = some (l.overlaid keys) := by
  obtain ⟨hheaders, hfields⟩ := List.forall_mem_cons.1 h
  have hfields' : ∀ f ∈ textFields, t.lookup f.key.toList =
      if keys.contains f.key.toList then some (.string (f.get l)) else none := fun f hf =>
    hfields _ (List.mem_map_of_mem hf)
  rw [ofTable, foldlM_override textFields hfields', foldl_textFields]
  exact overrideHeaders_eq_pick hheaders _

/-! ## values of other types -/

/-- the key names a field, and the value is of another type than the field -/
def WrongType (k : Text) (v : Value) : Prop :=
  k = headersKey.toList ∧ asTexts? v = none ∨
    (∃ f ∈ textFields, k = f.key.toList) ∧ asText? v = none

theorem foldlM_eq_none {α β : Type} {f : β → α → Option β} {as : List α} {a : α} (ha : a ∈ as)
    (h : ∀ b, f b a = none) (b : β) : as.foldlM f b = none := by
  induction as generalizing b with
  | nil => cases ha
  | cons c as ih =>
    rw [List.foldlM_cons]
    obtain rfl | ha := List.mem_cons.1 ha
    · rw [h]
      rfl
    · cases f b c with
      | none => rfl
      | some d => exact ih ha d

theorem ofTable_eq_none {k : Text} {v : Value} (hk : t.lookup k = some v) (h : WrongType k v) :
    ofTable t = none := by
  rw [ofTable]
  obtain ⟨rfl, hv⟩ | ⟨⟨f, hf, rfl⟩, hv⟩ := h
  · have hheaders : ∀ m, overrideHeaders t m = none := by
      intro m
      rw [overrideHeaders, hk]
      show (asTexts? v).map _ = none
      rw [hv]
      rfl
    rw [Option.bind_eq_bind]
    cases textFields.foldlM (override t) standard with
    | none => rfl
    | some m => exact hheaders m
  · have hfield : ∀ m, override t m f = none := by
      intro m
      rw [override, hk]
      show (asText? v).map _ = none
      rw [hv]
      rfl
    rw [foldlM_eq_none hf hfield]
    rfl

def Misfits (e : Text × Setting) : Prop :=
  e.1 = headersKey.toList ∧ (∀ ts, e.2 ≠ .texts ts) ∨
    (∃ f ∈ textFields, e.1 = f.key.toList) ∧ ∀ t, e.2 ≠ .text t

/-- no word stands for a string or for an array -/
theorem not_string_of_ofWord? {w : Text} {v : Value} (h : ofWord? w = some v) :
    asText? v = none ∧ asTexts? v = none := by
  unfold ofWord? at h
  split at h
  · cases h
    exact ⟨rfl, rfl⟩
  split at h
  · cases h
    exact ⟨rfl, rfl⟩
  split at h
  · cases h
    exact ⟨rfl, rfl⟩
  split at h
  · cases h
    exact ⟨rfl, rfl⟩
  split at h
  · cases h
    exact ⟨rfl, rfl⟩
  · cases h

theorem Misfits.wrongType {e : Text × Setting} {v : Value} (h : Misfits e)
    (hv : e.2.value? = some v) : WrongType e.1 v := by
  obtain ⟨k, s⟩ := e
  cases s with
  | text u =>
    obtain ⟨hk, -⟩ | ⟨-, hne⟩ := h
    · obtain rfl : Value.string u = v := Option.some.inj hv
      exact .inl ⟨hk, rfl⟩
    · exact absurd rfl (hne u)
  | texts us =>
    obtain ⟨-, hne⟩ | ⟨hk, -⟩ := h
    · exact absurd rfl (hne us)
    · obtain rfl : Value.array (us.map .string) = v := Option.some.inj hv
      exact .inr ⟨hk, rfl⟩
  | word w =>
    obtain ⟨htext, htexts⟩ := not_string_of_ofWord? hv
    obtain ⟨hk, -⟩ | ⟨hk, -⟩ := h
    · exact .inl ⟨hk, htexts⟩
    · exact .inr ⟨hk, htext⟩

/-! ## files -/

def Sets (l : Layout) (e : Text × Setting) : Prop :=
  e ∈ l.settings ∨ e.1 ∉ l.settings.map Prod.fst ∧ e.2.value?.isSome

/-- there is no layout in the text, and a file that holds it is refused with the reader's words -/
def Rejected (doc : Text) : Prop :=
  parse doc = none ∧ ∀ (disk : Disk) (path : Path), disk.readText path = .ok doc →
    (load disk path).outcome =
      .error (.badLayout path ("Failed to parse layout: ".toList ++ complaint doc))

theorem rejected_of_parse_eq_none {doc : Text} (h : parse doc = none) : Rejected doc := by
  refine ⟨h, ?_⟩
  intro disk path hread
  have htext : (Run.ofExcept ((disk.readText path).mapError (.unreadable path))).outcome =
      .ok doc := by
    rw [hread]
    rfl
  rw [load, Run.outcome_bind_ok htext, h]
  rfl

theorem keys_settings (l : Layout) :
    l.settings.map Prod.fst = headersKey.toList :: textFields.map fun f => f.key.toList := by
  rw [settings, List.map_cons, List.map_map]
  rfl

theorem nodup_settings (l : Layout) : (l.settings.map Prod.fst).Nodup := by
  rw [keys_settings]
  decide +kernel

theorem isSome_value? {e : Text × Setting} (h : e ∈ l.settings) : e.2.value?.isSome := by
  obtain rfl | h := List.mem_cons.1 h
  · rfl
  · obtain ⟨f, -, rfl⟩ := List.mem_map.1 h
    rfl

section

variable {es : List (Text × Setting)} {doc : Text} (hdoc : Describes es doc)
  (hkeys : (es.map Prod.fst).Nodup)
include hdoc hkeys

theorem agrees_of_describes (hl : ∀ e ∈ es, Sets l e) (ht : Toml.parse doc = some t) :
    Agrees l (es.map Prod.fst) t := by
  intro e he
  by_cases hmem : e.1 ∈ es.map Prod.fst
  · rw [if_pos (List.contains_iff_mem.2 hmem)]
    obtain ⟨d, hd, hde⟩ := List.mem_map.1 hmem
    have hdl : d ∈ l.settings := by
      obtain h | ⟨h, -⟩ := hl d hd
      · exact h
      · exact absurd (hde ▸ List.mem_map_of_mem he) h
    obtain rfl : d = e := List.inj_on_of_nodup_map l.nodup_settings hdl he hde
    obtain ⟨v, hv, hlookup⟩ := hdoc.lookup_of_mem hkeys ht hd
    rw [hlookup, hv]
  · rw [if_neg (mt List.contains_iff_mem.1 hmem)]
    exact hdoc.lookup_of_notMem hkeys ht hmem

theorem parse_eq_overlaid (hl : ∀ e ∈ es, Sets l e) :
    parse doc = some (l.overlaid (es.map Prod.fst)) := by
  have hvalues : ∀ e ∈ es, e.2.value?.isSome := by
    intro e he
    obtain h | ⟨-, h⟩ := hl e he
    · exact isSome_value? h
    · exact h
  obtain ⟨ps, hps⟩ := exists_entries? hvalues
  have ht : Toml.parse doc = some ps.reverse := by
    rw [hdoc.parse hkeys, hps]
    rfl
  rw [parse, ht]
  exact ofTable_eq_overlaid (agrees_of_describes hdoc hkeys hl ht)

theorem rejected_of_misfits {e : Text × Setting} (he : e ∈ es) (h : Misfits e) : Rejected doc := by
  apply rejected_of_parse_eq_none
  rw [parse]
  cases ht : Toml.parse doc with
  | none => rfl
  | some t =>
    obtain ⟨v, hv, hlookup⟩ := hdoc.lookup_of_mem hkeys ht he
    exact ofTable_eq_none hlookup (h.wrongType hv)

end

/-- **A layout file overrides exactly the fields that it names.**  Whatever fields it sets, in
whatever order and with whatever other keys among them, the fields that it names are as in `l` and
all others as in the standard layout; every choice of settings can be written as a file.  A field
with a value of another type makes the file one that describes no layout. -/
theorem parse_overrides {es : List (Text × Setting)} (hkeys : (es.map Prod.fst).Nodup) :
    ((∀ e ∈ es, e.2.Spellable) → ∃ doc, Describes es doc) ∧
    (∀ doc l, Describes es doc → (∀ e ∈ es, Sets l e) →
      parse doc = some (l.overlaid (es.map Prod.fst))) ∧
    (∀ doc, Describes es doc → (∃ e ∈ es, Misfits e) → Rejected doc) ∧
    ∀ doc t k v, Toml.parse doc = some t → t.lookup k = some v → WrongType k v → Rejected doc := by
  refine ⟨exists_describes, ?_, ?_, ?_⟩
  · intro doc l hdoc hl
    exact parse_eq_overlaid hdoc hkeys hl
  · rintro doc hdoc ⟨e, he, h⟩
    exact rejected_of_misfits hdoc hkeys he h
  · intro doc t k v ht hk h
    apply rejected_of_parse_eq_none
    rw [parse, ht]
    exact ofTable_eq_none hk h

/-- two fields, and between them a number under a key that names no field -/
def sampleSettings : List (Text × Setting) :=
  [("openssl_headers".toList, .texts ["tls1.h".toList, "ssl.h".toList]),
    ("no field".toList, .word "0x1F".toList),
    ("pref_namespace".toList, .text "a\"b".toList)]

def sampleFile : Text :=
  ("openssl_headers = [\"tls1.h\", \"ssl.h\"]\n" ++
    "\"no field\" = 0x1F\n" ++
    "pref_namespace = \"a\\u0022b\"\n").toList

def sampleLayout : Layout :=
  { standard with
    headers := ["tls1.h".toList, "ssl.h".toList]
    prefNamespace := "a\"b".toList }

theorem describes_sampleFile : Describes sampleSettings sampleFile := by
  have hheaders : List.Forall₂ Quoted ["tls1.h".toList, "ssl.h".toList]
      ["\"tls1.h\"".toList, "\"ssl.h\"".toList] :=
    .cons (quoted_plain rfl) (.cons (quoted_plain rfl) .nil)
  have hspelled : Spelled "a\"b".toList "a\\u0022b".toList :=
    .cons (spells_plain rfl) <| .cons (u := "\\u0022".toList) (.short rfl rfl) (spelled_plain rfl)
  have hfirst : LineForm ("openssl_headers".toList, .texts ["tls1.h".toList, "ssl.h".toList])
      "openssl_headers = [\"tls1.h\", \"ssl.h\"]".toList :=
    ⟨_, _, .bare (by decide) (List.all_eq_true.1 rfl), .texts hheaders, rfl⟩
  have hsecond : LineForm ("no field".toList, .word "0x1F".toList) "\"no field\" = 0x1F".toList :=
    ⟨_, _, .quoted (quoted_plain rfl), .word (by decide) (List.all_eq_true.1 rfl), rfl⟩
  have hthird : LineForm ("pref_namespace".toList, .text "a\"b".toList)
      "pref_namespace = \"a\\u0022b\"".toList :=
    ⟨_, _, .bare (by decide) (List.all_eq_true.1 rfl), .text ⟨_, hspelled, rfl⟩, rfl⟩
  exact ⟨_, .cons hfirst (.cons hsecond (.cons hthird .nil)), rfl⟩

theorem parse_overrides_sample :
    (sampleSettings.map Prod.fst).Nodup ∧ parse sampleFile = some sampleLayout := by
  have hkeys : (sampleSettings.map Prod.fst).Nodup := by decide
  have hsets : ∀ e ∈ sampleSettings, Sets sampleLayout e := by
    intro e he
    simp only [sampleSettings, List.mem_cons, List.not_mem_nil, or_false] at he
    obtain rfl | rfl | rfl := he
    · exact .inl (by decide)
    · exact .inr (by decide)
    · exact .inl (by decide)
  exact ⟨hkeys, (parse_overrides hkeys).2.1 sampleFile sampleLayout describes_sampleFile hsets⟩

/-! A field may be given a bare string only if it holds one text. -/

example : parse "openssl_headers = \"tls1.h\"\n".toList = none ∧
    parse "prefs_file = 7\n".toList = none := by
  decide +kernel

end Upkeep.Layout
