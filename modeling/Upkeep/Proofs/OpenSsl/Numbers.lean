import Upkeep.Firefox.ProtocolIds
import Upkeep.Proofs.OpenSsl.Lookups
import Upkeep.Proofs.Text.HexNumber
import Upkeep.Proofs.Text.Lowercase

/-!
# Identifiers as numbers

The two trees write the identifier of a suite in two ways: the protocol header as `0x` and four
digits, OpenSSL as `0x0300` and these four digits, and each as it likes with capitals or without.
They are compared as texts, with `0x0300` replaced by `0x` and in lower case, and never read as
numbers.  For values of these lengths it comes to the same: OpenSSL's value shortened is the
protocol's value in lower case exactly when it is larger by `0x03000000`
(`shortened_eq_lower_iff`).
-/

namespace Upkeep

open Text

namespace MacroIndex

variable {s t v w : Text} {n : Nat}

/-- `0x` and so many hexadecimal digits -/
def IsHex (n : Nat) (t : Text) : Prop := ∃ ds, t = "0x".toList ++ ds ∧ ds.length = n ∧ ds.AllHex

def number? (t : Text) : Option Nat := (after? "0x".toList t).bind hexNumber?

theorem number?_prefixed (t : Text) : number? ("0x".toList ++ t) = hexNumber? t := by
  rw [number?, after?_append, Option.bind_some]

/-! ## shortened values -/

/-- the beginning `0x0300` of a number is replaced -/
theorem shortened_prefixed (ht : t.AllHex) :
    shortened .standard ("0x".toList ++ ("0300".toList ++ t)) = lower ("0x".toList ++ t) := by
  have hx : 'x' ∈ "0x0300".toList := by decide
  have hbegin : "0x".toList ++ ("0300".toList ++ t) = "0x0300".toList ++ t := rfl
  show (replace "0x0300".toList "0x".toList _).lower = _
  rw [hbegin, replace_append (by decide), replace_of_notMem hx _ ht.x_notMem]

/-- a number that begins otherwise stays whole -/
theorem shortened_of_ne (hs : s.AllHex) (ht : t.AllHex) (hlen : s.length = 4)
    (hne : s ≠ "0300".toList) :
    shortened .standard ("0x".toList ++ (s ++ t)) = lower ("0x".toList ++ (s ++ t)) := by
  have hx : 'x' ∈ "0x0300".toList := by decide
  have hpattern : "0x0300".toList ≠ [] := by decide
  have hst : AllHex (s ++ t) := List.forall_mem_append.2 ⟨hs, ht⟩
  have hfirst : "0x0300".toList.isPrefixOf ('0' :: 'x' :: (s ++ t)) = false := by
    rw [Bool.eq_false_iff, ne_eq, List.isPrefixOf_iff_prefix]
    rintro ⟨r, hr⟩
    have hdigits : "0300".toList ++ r = s ++ t := (List.cons.inj (List.cons.inj hr).2).2
    exact hne (List.append_inj_left hdigits (by rw [hlen]; rfl)).symm
  have hsecond : "0x0300".toList.isPrefixOf ('x' :: (s ++ t)) = false := rfl
  show (replace "0x0300".toList "0x".toList ('0' :: 'x' :: (s ++ t))).lower = _
  rw [replace_cons hpattern _ hfirst, replace_cons hpattern _ hsecond,
    replace_of_notMem hx _ hst.x_notMem]
  rfl

theorem hexNumber?_eq_0x300_iff (hs : s.AllHex) (hlen : s.length = 4) :
    hexNumber? s = some 0x300 ↔ s = "0300".toList := by
  have hmajor : AllHex "0300".toList := by decide +kernel
  constructor
  · intro h
    have hvalues : digitValues s = [0, 3, 0, 0] := (digitValues_eq_iff hs hmajor hlen).2 h
    have hten : ∀ d ∈ digitValues s, d < 10 := by
      rw [hvalues]
      decide
    rw [hs.eq_map_digitChar hten, hvalues]
    rfl
  · rintro rfl
    rfl

/-- replacing and lower-casing compare the numbers -/
theorem shortened_eq_lower_iff (hw : IsHex 8 w) (hv : IsHex 4 v) (hn : number? v = some n) :
    shortened .standard w = v.lower ↔ number? w = some (0x03000000 + n) := by
  obtain ⟨ds, rfl, hlen, hds⟩ := hw
  obtain ⟨es, rfl, hlenv, hes⟩ := hv
  obtain ⟨s, t, rfl, hs, ht⟩ : ∃ s t : Text, ds = s ++ t ∧ s.length = 4 ∧ t.length = 4 :=
    ⟨ds.take 4, ds.drop 4, (List.take_append_drop 4 ds).symm, by simp [hlen], by simp [hlen]⟩
  obtain ⟨hsdigits, htdigits⟩ : s.AllHex ∧ t.AllHex := List.forall_mem_append.1 hds
  rw [number?_prefixed] at hn ⊢
  have hlt : n < 16 ^ 4 := hlenv ▸ hes.hexNumber?_lt hn
  have hnumber : hexNumber? (s ++ t) = some (0x03000000 + n) ↔
      s = "0300".toList ∧ hexNumber? t = some n := by
    have hscale : 0x03000000 = 16 ^ 4 * 0x300 := by decide
    rw [← hexNumber?_eq_0x300_iff hsdigits hs, hscale]
    exact hexNumber?_append_eq_iff hsdigits htdigits ht hlt
  rw [hnumber]
  by_cases hmajor : s = "0300".toList
  · rw [hmajor, shortened_prefixed htdigits,
      lower_eq_iff_hexNumber?_eq htdigits hes (ht.trans hlenv.symm), hn, and_iff_right rfl]
  · -- eight digits are left, and the protocol has four
    rw [shortened_of_ne hsdigits htdigits hs hmajor, lower_prefixed_eq_iff hds hes]
    refine iff_of_false (fun h => ?_) fun h => hmajor h.1
    have hlength := congrArg List.length h
    rw [hds.length_digitValues, hes.length_digitValues] at hlength
    omega

/-! ## look-up -/

def IsIdDefinition (d : Text × Text) : Prop := "_CK_".toList <:+: d.1 ∧ "0x".toList <+: d.2

instance : DecidablePred IsIdDefinition :=
  fun d => inferInstanceAs (Decidable ("_CK_".toList <:+: d.1 ∧ "0x".toList <+: d.2))

/-- the last id macro that is defined as the number -/
def lastNumbered? (ds : List (Text × Text)) (n : Nat) : Option Text :=
  ((ds.filter fun d => IsIdDefinition d ∧ number? d.2 = some n).getLast?).map Prod.fst

theorem lastId?_lower {ds : List (Text × Text)} (hids : ∀ d ∈ ds, IsIdDefinition d → IsHex 8 d.2)
    (hv : IsHex 4 v) (hn : number? v = some n) :
    lastId? .standard ds v.lower = lastNumbered? ds (0x03000000 + n) := by
  have hfilter : ds.filter (fun d => "0x".toList <+: d.2 ∧ Layout.standard.idMarker <:+: d.1 ∧
        shortened .standard d.2 = v.lower) =
      ds.filter fun d => IsIdDefinition d ∧ number? d.2 = some (0x03000000 + n) := by
    refine List.filter_congr fun d hd => decide_eq_decide.2 ?_
    constructor
    · rintro ⟨hvalue, hname, hkey⟩
      have hid : IsIdDefinition d := ⟨hname, hvalue⟩
      exact ⟨hid, (shortened_eq_lower_iff (hids d hd hid) hv hn).1 hkey⟩
    · rintro ⟨hid, hnumber⟩
      exact ⟨hid.2, hid.1, (shortened_eq_lower_iff (hids d hd hid) hv hn).2 hnumber⟩
  unfold lastId? lastNumbered?
  rw [← hfilter]

/-- **Protocol values and OpenSSL ids are matched by their numbers.**  Where OpenSSL writes its ids
with eight digits, and the protocol header the value of a suite with four, the id macro of the suite
is the last one that is defined as the number of that value and `0x03000000`. -/
theorem ids_match_by_number {files : List Bytes} {header : Bytes} {lines : List Text} {suite : Text}
    (hids : ∀ d ∈ files.flatMap scanned, IsIdDefinition d → IsHex 8 d.2)
    (hlines : header.lines = lines.map .ok)
    (hlast : ((lines.filterMap Directive.definition?).filter fun d => d.1 = suite).getLast? =
      some (suite, v))
    (hv : IsHex 4 v) :
    ∃ p hex n, (ProtocolIds.read header.lines).outcome = .ok p ∧ p.hexValue suite = .ok hex ∧
      number? v = some n ∧
      (scanFiles .standard .empty files).idMacro? hex =
        lastNumbered? (files.flatMap scanned) (0x03000000 + n) := by
  have hread := ProtocolIds.outcome_read_eq_ok_iff.2 ⟨lines, hlines, rfl⟩
  have hfind : (Dictionary.ofList (lines.filterMap Directive.definition?)).find? suite =
      some v := by
    rw [Dictionary.find?_ofList_eq_getLast?, hlast]
    rfl
  have hhex : (ProtocolIds.ofList (lines.filterMap Directive.definition?)).hexValue suite =
      .ok v.lower := by
    unfold ProtocolIds.hexValue ProtocolIds.ofList
    rw [hfind]
  obtain ⟨n, hn⟩ : ∃ n, number? v = some n := by
    obtain ⟨ds, rfl, -, hds⟩ := hv
    exact ⟨_, (number?_prefixed ds).trans hds.hexNumber?_eq⟩
  refine ⟨_, v.lower, n, hread, hhex, hn, ?_⟩
  rw [scanFiles_eq_enter, idMacro?_enter, lower_lower, lastId?_lower hids hv hn]

/-! The three spellings are one number, and the last macro has it. -/

def spelledIds : List Bytes :=
  [encode "#define A_CK_ 0x0300C02f\n#define B_CK_ 0x03000001\n".toList,
    encode "# define C_CK_ 0x0300c02F\n".toList]

theorem ids_match_by_number_spelled : ∃ p hex,
    (ProtocolIds.read (encode "#define TLS_X 0xc02f\n".toList).lines).outcome = .ok p ∧
    p.hexValue "TLS_X".toList = .ok hex ∧
    (scanFiles .standard .empty spelledIds).idMacro? hex = some "C_CK_".toList := by
  have hdefinitions : spelledIds.flatMap scanned = [("A_CK_".toList, "0x0300C02f".toList),
      ("B_CK_".toList, "0x03000001".toList), ("C_CK_".toList, "0x0300c02F".toList)] := by
    decide +kernel
  have hids : ∀ d ∈ spelledIds.flatMap scanned, IsIdDefinition d → IsHex 8 d.2 := by
    intro d hd _
    rw [hdefinitions] at hd
    simp only [List.mem_cons, List.not_mem_nil, or_false] at hd
    rcases hd with rfl | rfl | rfl
    · exact ⟨"0300C02f".toList, rfl, rfl, by decide +kernel⟩
    · exact ⟨"03000001".toList, rfl, rfl, by decide +kernel⟩
    · exact ⟨"0300c02F".toList, rfl, rfl, by decide +kernel⟩
  have hlines : (encode "#define TLS_X 0xc02f\n".toList).lines =
      ["#define TLS_X 0xc02f".toList].map .ok := by decide +kernel
  have hlast : ((["#define TLS_X 0xc02f".toList].filterMap Directive.definition?).filter
      fun d => d.1 = "TLS_X".toList).getLast? = some ("TLS_X".toList, "0xc02f".toList) := by
    decide +kernel
  have hv : IsHex 4 "0xc02f".toList := ⟨"c02f".toList, rfl, rfl, by decide +kernel⟩
  obtain ⟨p, hex, n, hread, hhex, hn, hid⟩ := ids_match_by_number hids hlines hlast hv
  have hnumber : number? "0xc02f".toList = some 0xc02f := by decide +kernel
  obtain rfl := Option.some.inj (hnumber.symm.trans hn)
  have hname : lastNumbered? (spelledIds.flatMap scanned) (0x03000000 + 0xc02f) =
      some "C_CK_".toList := by
    rw [hdefinitions]
    decide +kernel
  exact ⟨p, hex, hread, hhex, hid.trans hname⟩

end MacroIndex

end Upkeep
