import Upkeep.Proofs.PrefTable.Printed
import Upkeep.Proofs.Text.Insertion
import Upkeep.Proofs.Text.TrailingWhite

/-!
# Text after a `pref` call

A line `pref("key", value)` may go on after its closing parenthesis, with a semicolon and a comment.
The value is the longest run without white space that a closing parenthesis follows.  So it ends
where it should if white space stands before the parenthesis of the call; otherwise it runs on into
the text after the call when that text closes a parenthesis once more, directly or after white
space, before a second run begins (`ClosesAgain`).

Main statement: the line gives its key exactly its value in the first case, and in the second case
if and only if nothing is closed again (`read_call_eq_iff`).
-/

namespace Upkeep

open Text

/-- a line `pref("key", value)` with white space where it may stand, and what follows the call -/
structure PrefCall where
  key : Text
  value : Text
  beforeComma : Text
  afterComma : Text
  beforeEnd : Text
  /-- what follows the closing parenthesis -/
  trailing : Text
  key_ne_nil : key ≠ []
  quote_notMem : '"' ∉ key
  value_ne_nil : value ≠ []
  isWordChar_of_mem : ∀ c ∈ value, isWordChar c = true
  isWhite_beforeComma : ∀ c ∈ beforeComma, isWhite c = true
  isWhite_afterComma : ∀ c ∈ afterComma, isWhite c = true
  isWhite_beforeEnd : ∀ c ∈ beforeEnd, isWhite c = true
  newline_notMem : ∀ t ∈ [key, beforeComma, afterComma, beforeEnd, trailing], '\n' ∉ t

namespace PrefCall

def valuePart (p : PrefCall) : Text := p.value ++ (p.beforeEnd ++ ')' :: p.trailing)

def line (p : PrefCall) : Text :=
  "pref(\"".toList ++
    (p.key ++ '"' :: (p.beforeComma ++ ',' :: (p.afterComma ++ p.valuePart)))

theorem isWhite_of_mem_value (p : PrefCall) : ∀ c ∈ p.value, isWhite c = false := fun c hc =>
  isWhite_of_isWordChar (p.isWordChar_of_mem c hc)

theorem newline_notMem_line (p : PrefCall) : '\n' ∉ p.line := by
  have hvalue : '\n' ∉ p.value := fun h => absurd (p.isWhite_of_mem_value _ h) (by decide)
  have hparts := p.newline_notMem
  simp only [List.forall_mem_cons] at hparts
  obtain ⟨hkey, hbefore, hafter, hend, htrailing, -⟩ := hparts
  have hstart : '\n' ∉ "pref(\"".toList := by decide
  have hrest : '\n' ∉ p.key ++ '"' :: (p.beforeComma ++ ',' :: (p.afterComma ++ p.valuePart)) := by
    simp [valuePart, hkey, hbefore, hafter, hend, htrailing, hvalue]
  intro h
  rcases List.mem_append.1 h with h | h
  · exact hstart h
  · exact hrest h

theorem line_ne_nil (p : PrefCall) : p.line ≠ [] := by
  show 'p' :: _ ≠ []
  exact List.cons_ne_nil _ _

end PrefCall

namespace PrefDefaults

/-! ## where a value ends -/

/-- a closing parenthesis follows a run without white space and white space, either possibly empty -/
def ClosesAgain (t : Text) : Prop :=
  ∃ u w v, t = u ++ (w ++ ')' :: v) ∧ (∀ c ∈ u, isWhite c = false) ∧ ∀ c ∈ w, isWhite c = true

theorem callEnd?_white {w : Text} (hw : ∀ c ∈ w, isWhite c = true) (t : Text) :
    callEnd? (w ++ ')' :: t) = some () := by
  have hs : skipWhite (w ++ ')' :: t) = ')' :: t := by
    rw [skipWhite_append hw]
    exact skipWhite_cons (by decide) t
  rw [callEnd?, hs]
  rfl

theorem exists_of_callEnd? {t : Text} {x : Unit} (h : callEnd? t = some x) :
    ∃ w v, t = w ++ ')' :: v ∧ ∀ c ∈ w, isWhite c = true := by
  unfold callEnd? at h
  split at h
  · next hhead =>
    obtain ⟨v, hv⟩ := List.head?_eq_some_iff.1 (beq_iff_eq.1 hhead)
    obtain ⟨w, ht, hw⟩ := exists_white_append t
    rw [hv] at ht
    exact ⟨w, v, ht, hw⟩
  · cases h

theorem length_lt_of_closesAgain {m n t : Text} {x : Unit} (hm : ∀ c ∈ m, isWhite c = false)
    (hn : longest callEnd? (m ++ ')' :: t) = some (n, x)) (h : ClosesAgain t) :
    m.length < n.length := by
  obtain ⟨u, w, v, rfl, hu, hw⟩ := h
  have hrun : ∀ c ∈ m ++ ')' :: u, isWhite c = false :=
    List.forall_mem_append.2 ⟨hm, List.forall_mem_cons.2 ⟨by decide, hu⟩⟩
  have hsplit : m ++ ')' :: (u ++ (w ++ ')' :: v)) = (m ++ ')' :: u) ++ (w ++ ')' :: v) := by simp
  obtain ⟨n', x', hn', hle⟩ := longest_maximal hrun (callEnd?_white hw v)
  rw [← hsplit, hn] at hn'
  obtain ⟨rfl, -⟩ := Prod.mk.inj (Option.some.inj hn')
  rw [List.length_append, List.length_cons] at hle
  omega

/-- a run goes on behind the white space `w` only where there is none and the rest closes again -/
theorem closesAgain_of_longer {w t more r : Text} {c : Char} {x : Unit}
    (hw : ∀ d ∈ w, isWhite d = true) (hrest : w ++ ')' :: t = c :: more ++ r)
    (hmore : ∀ d ∈ c :: more, isWhite d = false) (hend : callEnd? r = some x) :
    w = [] ∧ ClosesAgain t := by
  obtain ⟨hc, htail⟩ := List.forall_mem_cons.1 hmore
  cases w with
  | cons d w =>
    obtain ⟨rfl, -⟩ := List.cons.inj hrest
    rw [hw d List.mem_cons_self] at hc
    cases hc
  | nil =>
    obtain ⟨-, rfl⟩ := List.cons.inj hrest
    obtain ⟨w', v, rfl, hw'⟩ := exists_of_callEnd? hend
    exact ⟨rfl, more, w', v, rfl, htail, hw'⟩

/-- the run that is taken begins with the one before the white space `w`, and ends with it unless
there is no white space and the rest closes again -/
theorem exists_longest_callEnd? {m w : Text} (hm : ∀ c ∈ m, isWhite c = false)
    (hw : ∀ c ∈ w, isWhite c = true) (t : Text) :
    ∃ more, longest callEnd? (m ++ (w ++ ')' :: t)) = some (m ++ more, ()) ∧
      (more = [] ↔ w ≠ [] ∨ ¬ ClosesAgain t) := by
  obtain ⟨n, x, hn, hle⟩ := longest_maximal hm (callEnd?_white hw t)
  obtain ⟨r, hr, hnw, hend⟩ := longest_sound hn
  have hn' : n <+: m ++ (w ++ ')' :: t) := ⟨r, hr.symm⟩
  obtain ⟨more, rfl⟩ := List.prefix_of_prefix_length_le (List.prefix_append m _) hn' hle
  have hrest : w ++ ')' :: t = more ++ r := by
    rw [List.append_assoc] at hr
    exact List.append_cancel_left hr
  refine ⟨more, hn, ?_⟩
  constructor
  · intro hmore
    by_cases hwnil : w = []
    · right
      intro hagain
      rw [hwnil, List.nil_append, hmore] at hn
      have hlt := length_lt_of_closesAgain hm hn hagain
      rw [List.append_nil] at hlt
      omega
    · left
      exact hwnil
  · intro hkeeps
    cases more with
    | nil => rfl
    | cons c more =>
      have hmore : ∀ d ∈ c :: more, isWhite d = false := fun d hd =>
        hnw d (List.mem_append_right _ hd)
      obtain ⟨hnil, hagain⟩ := closesAgain_of_longer hw hrest hmore hend
      rcases hkeeps with hkeeps | hkeeps
      · exact absurd hnil hkeeps
      · exact absurd hagain hkeeps

/-! ## the line of a call -/

theorem rest?_quote {w₁ w₂ t : Text} (h₁ : ∀ c ∈ w₁, isWhite c = true)
    (h₂ : ∀ c ∈ w₂, isWhite c = true) (ht : ∀ c ∈ t.head?, isWhite c = false) :
    rest? ('"' :: (w₁ ++ ',' :: (w₂ ++ t))) = (longest callEnd? t).map Prod.fst := by
  have hcomma : skipWhite (w₁ ++ ',' :: (w₂ ++ t)) = ',' :: (w₂ ++ t) := by
    rw [skipWhite_append h₁]
    exact skipWhite_cons (by decide) _
  have hvalue : skipWhite (w₂ ++ t) = t := by rw [skipWhite_append h₂, skipWhite_of_head ht]
  show (after? [','] (skipWhite (w₁ ++ ',' :: (w₂ ++ t)))).bind _ = _
  rw [hcomma]
  show (longest callEnd? (skipWhite (w₂ ++ t))).map Prod.fst = _
  rw [hvalue]

theorem call?_line (p : PrefCall) : ∃ more, call? p.line = some (p.key, p.value ++ more) ∧
    (more = [] ↔ p.beforeEnd ≠ [] ∨ ¬ ClosesAgain p.trailing) := by
  obtain ⟨more, hlongest, hmore⟩ :=
    exists_longest_callEnd? p.isWhite_of_mem_value p.isWhite_beforeEnd p.trailing
  refine ⟨more, ?_, hmore⟩
  have hkey : ∀ c ∈ p.key, decide (c ≠ '"') = true := fun c hc => by
    simpa using fun he : c = '"' => p.quote_notMem (he ▸ hc)
  have htake : ∀ t : Text, (p.key ++ '"' :: t).takeWhile (· ≠ '"') = p.key := fun t => by
    rw [List.takeWhile_append_of_pos hkey]
    simp
  have hdrop : ∀ t : Text, (p.key ++ '"' :: t).dropWhile (· ≠ '"') = '"' :: t := fun t => by
    rw [List.dropWhile_append_of_pos hkey]
    simp
  have hhead : ∀ c ∈ p.valuePart.head?, isWhite c = false := by
    obtain ⟨d, m, hd⟩ := List.exists_cons_of_ne_nil p.value_ne_nil
    intro c hc
    rw [PrefCall.valuePart, hd] at hc
    obtain rfl : d = c := Option.some.inj hc
    exact p.isWhite_of_mem_value d (hd ▸ List.mem_cons_self)
  have hname : p.key.isEmpty = false := by simpa using p.key_ne_nil
  have hstart : after? "pref(\"".toList p.line =
      some (p.key ++ '"' :: (p.beforeComma ++ ',' :: (p.afterComma ++ p.valuePart))) :=
    after?_append _ _
  have hrest : rest? ('"' :: (p.beforeComma ++ ',' :: (p.afterComma ++ p.valuePart))) =
      some (p.value ++ more) := by
    rw [rest?_quote p.isWhite_beforeComma p.isWhite_afterComma hhead, PrefCall.valuePart, hlongest]
    rfl
  rw [call?_eq, hstart, Option.bind_some, htake, hdrop, hrest, Option.bind_some, hname]
  rfl

/-! ## the file with that line -/

theorem outcome_read_single {space : Text} {t name value : Text} (h : call? t = some (name, value))
    (hspace : space <+: name) {ls : List Line} (hls : List.Forall₂ Line.Rereads [.ok t] ls) :
    (read space ls).outcome = .ok (.ofList [(name, value)]) := by
  have hmap : List.Forall₂ Line.Rereads ([t].map .ok) ls := hls
  obtain ⟨ts, rfl, hts⟩ := Line.forall_ok_of_rereads hmap
  have hcalls : ts.filterMap call? = [(name, value)] := by
    rw [filterMap_rereads call?_dropReturn hts, List.filterMap_cons_some h]
    rfl
  have hkept : [(name, value)].filter (fun c => space.isPrefixOf c.1) = [(name, value)] :=
    List.filter_cons_of_pos (List.isPrefixOf_iff_prefix.2 hspace)
  rw [outcome_read_eq_ok_iff]
  exact ⟨ts, rfl, by rw [hcalls, hkept]⟩

theorem rereads_line (p : PrefCall) {e : Bytes} (he : e = [] ∨ Bytes.LineEnd e) :
    List.Forall₂ Line.Rereads [.ok p.line] (encode p.line ++ e).lines := by
  have hlines : (encode p.line).lines = [.ok p.line] :=
    Bytes.lines_encode_last p.newline_notMem_line p.line_ne_nil
  rcases he with rfl | he
  · rw [List.append_nil, hlines]
    exact Line.rereads_refl _
  · have hended : ¬ Bytes.Ended (encode p.line) := by
      rintro (hnil | hlast)
      · exact p.line_ne_nil (encode_inj hnil)
      · exact Bytes.newline_notMem_encode p.newline_notMem_line (List.mem_of_getLast? hlast)
    rw [← hlines]
    exact (Bytes.lines_append_lineEnd hended he).2

theorem ofList_single_inj {key v w : Text} :
    (ofList [(key, v)] = ofList [(key, w)]) ↔ v = w := by
  refine ⟨fun h => ?_, fun h => h ▸ rfl⟩
  have hentries := congrArg (fun d : PrefDefaults => d.values.entries) h
  exact congrArg Prod.snd (List.cons.inj hentries).1

theorem isEnabled_single {key v : Text} :
    (ofList [(key, v)]).isEnabled key = true ↔ v = "true".toList := by
  have hvalue : (ofList [(key, v)]).value key = v := by
    show ((Dictionary.ofList [(key, v)]).find? key).getD _ = v
    rw [Dictionary.find?_ofList]
    simp
  rw [isEnabled, hvalue, beq_iff_eq]

/-- **The value of a `pref` line with text after the call.**  The line always sets its key, to a
value that begins with the one written.  It is that value exactly when white space stands before the
closing parenthesis or the text after it does not close again, and exactly then a preference that is
set to `true` is enabled. -/
theorem read_call_eq_iff (p : PrefCall) {space : Text} (hspace : space <+: p.key) {e : Bytes}
    (he : e = [] ∨ Bytes.LineEnd e) :
    ∃ more, (read space (encode p.line ++ e).lines).outcome =
        .ok (.ofList [(p.key, p.value ++ more)]) ∧
      ((read space (encode p.line ++ e).lines).outcome = .ok (.ofList [(p.key, p.value)]) ↔
        p.beforeEnd ≠ [] ∨ ¬ ClosesAgain p.trailing) ∧
      (p.value = "true".toList →
        ((ofList [(p.key, p.value ++ more)]).isEnabled p.key = true ↔
          p.beforeEnd ≠ [] ∨ ¬ ClosesAgain p.trailing)) := by
  obtain ⟨more, hcall, hmore⟩ := call?_line p
  have hread := outcome_read_single hcall hspace (rereads_line p he)
  refine ⟨more, hread, ?_, fun htrue => ?_⟩
  · rw [hread, Except.ok.injEq, ofList_single_inj, List.append_right_eq_self, hmore]
  · rw [isEnabled_single, htrue, List.append_right_eq_self, hmore]

/-! A comment with parentheses after a blank is no part of the value, one without a blank is. -/

/-- `pref("security.ssl3.x" , true)` with a semicolon and `comment` after it -/
def callWith (comment : Text) (h : '\n' ∉ comment) : PrefCall where
  key := "security.ssl3.x".toList
  value := "true".toList
  beforeComma := [' ']
  afterComma := [' ']
  beforeEnd := []
  trailing := ';' :: comment
  key_ne_nil := by decide
  quote_notMem := by decide
  value_ne_nil := by decide
  isWordChar_of_mem := List.all_eq_true.1 (by decide)
  isWhite_beforeComma := white_blank
  isWhite_afterComma := white_blank
  isWhite_beforeEnd := by simp
  newline_notMem := by
    have htrailing : '\n' ∉ ';' :: comment := by simp [h]
    simp only [List.forall_mem_cons]
    exact ⟨by decide, by decide, by decide, by decide, htrailing, by simp⟩

def setOff : PrefCall := callWith " // (on)".toList (by decide)

def attached : PrefCall := callWith "//(on)".toList (by decide)

theorem read_call_eq_iff_setOff :
    "security.ssl3".toList <+: setOff.key ∧ Bytes.LineEnd [10] ∧
    (read "security.ssl3".toList (encode setOff.line ++ [10]).lines).outcome =
      .ok (.ofList [(setOff.key, setOff.value)]) ∧
    ¬ ClosesAgain setOff.trailing := by
  have hspace : "security.ssl3".toList <+: setOff.key := by decide
  have hread : (read "security.ssl3".toList (encode setOff.line ++ [10]).lines).outcome =
      .ok (.ofList [(setOff.key, setOff.value)]) := by decide +kernel
  obtain ⟨-, -, hiff, -⟩ := read_call_eq_iff setOff hspace (.inr .feed)
  have hkeeps := hiff.1 hread
  exact ⟨hspace, .feed, hread, hkeeps.resolve_left fun hend => hend rfl⟩

/-- the comment is read as part of the value, and the preference is not on -/
theorem read_call_runs_on :
    "security.ssl3".toList <+: attached.key ∧ attached.value = "true".toList ∧
    (read "security.ssl3".toList (encode attached.line).lines).outcome =
      .ok (.ofList [(attached.key, "true);//(on".toList)]) ∧
    (read "security.ssl3".toList (encode attached.line).lines).outcome ≠
      .ok (.ofList [(attached.key, attached.value)]) ∧
    (ofList [(attached.key, "true);//(on".toList)]).isEnabled attached.key = false := by
  have hread : (read "security.ssl3".toList (encode attached.line).lines).outcome =
      .ok (.ofList [(attached.key, "true);//(on".toList)]) := by decide +kernel
  refine ⟨by decide, rfl, hread, ?_, by decide +kernel⟩
  rw [hread]
  decide +kernel

end PrefDefaults

end Upkeep
