import Upkeep.Dictionary
import Upkeep.Files.Tree

/-!
# Writing files

A path can be written exactly when all its names but the last lead to a directory, and the last
one is the name of an entry in which no directory stands (`target_eq_ok_iff`).  The write puts the
content at that place and changes no other (`at?_write`); the path leads there afterwards, whether
or not there was a file before (`openAt_write`).
-/

namespace Upkeep

/-! ## the last name of a path -/

namespace Path

theorem components_go_last (held p : Text) : ∃ init last, components.go held p = init ++ [last] ∧
    (last = [] ↔ (held = [] ∧ p = []) ∨ p.getLast? = some '/') := by
  induction p generalizing held with
  | nil =>
    refine ⟨[], held.reverse, rfl, ?_⟩
    rw [List.reverse_eq_nil_iff]
    simp
  | cons c cs ih =>
    rw [components.go]
    split
    · next hc =>
      obtain ⟨init, last, he, hl⟩ := ih []
      refine ⟨held.reverse :: init, last, by rw [he, List.cons_append], ?_⟩
      rw [hl, hc]
      cases cs with
      | nil => simp
      | cons d ds => simp
    · next hc =>
      obtain ⟨init, last, he, hl⟩ := ih (c :: held)
      refine ⟨init, last, he, ?_⟩
      rw [hl]
      cases cs with
      | nil => simp [hc]
      | cons d ds => simp

/-- the last name of a path is empty only after a slash at its end -/
theorem components_last {p : Path} (hp : p ≠ []) : ∃ init last, p.components = init ++ [last] ∧
    (last = [] ↔ p.getLast? = some '/') := by
  obtain ⟨init, last, he, hl⟩ := components_go_last [] p
  refine ⟨init, last, he, ?_⟩
  rw [hl]
  simp [hp]

end Path

namespace Tree

variable {t t' : Tree} {p : Path} {place above : List Text} {name : Text}

theorem ne_nil_of_refused? (h : refused? p = none) : p ≠ [] := by
  rintro rfl
  exact absurd h (by decide)

theorem namesOf_eq {init : List Text} (h : p.components = init ++ [name]) (hn : name ≠ []) :
    namesOf p = init ++ [name] := by
  unfold namesOf
  rw [h, List.reverse_append]
  show (List.dropWhile List.isEmpty (name :: init.reverse)).reverse = _
  rw [List.dropWhile_cons_of_neg (by simpa using hn)]
  simp

/-! ## one step along a path -/

theorem at?_of_step {r : List Text} (h : step t place name = .ok r) :
    t.at? place = some .directory := by
  unfold step at h
  split at h
  · cases h
  · cases h
  · next hd => exact hd

theorem step_congr (h : t'.at? place = t.at? place) (name : Text) :
    step t' place name = step t place name := by
  unfold step
  rw [h]

theorem step_nil_eq_ok_iff {r : List Text} :
    step t place [] = .ok r ↔ t.at? place = some .directory ∧ r = place := by
  constructor
  · intro h
    have hd := at?_of_step h
    unfold step at h
    rw [hd] at h
    exact ⟨hd, (Except.ok.inj h).symm⟩
  · rintro ⟨hd, rfl⟩
    unfold step
    rw [hd]
    rfl

theorem step_eq_ok_iff {r : List Text} (hn : name ≠ []) (hd : isDots name = false) :
    step t place name = .ok r ↔ t.at? place = some .directory ∧
      (Text.encode name).length ≤ maxName ∧ r = place ++ [name] := by
  obtain ⟨h₁, h₂⟩ := Bool.or_eq_false_iff.1 hd
  have he : name.isEmpty = false := by simpa using hn
  constructor
  · intro h
    have hp := at?_of_step h
    unfold step at h
    simp only [hp, he, h₁, h₂, Bool.or_self, Bool.false_eq_true, if_false] at h
    split at h
    · cases h
    · next hl => exact ⟨hp, Nat.le_of_not_lt hl, (Except.ok.inj h).symm⟩
  · rintro ⟨hp, hl, rfl⟩
    unfold step
    simp only [hp, he, h₁, h₂, Bool.or_self, Bool.false_eq_true, if_false,
      if_neg (Nat.not_lt.2 hl)]

/-! ## where a path can be written -/

theorem bind_eq_ok_iff {α β : Type} {x : Except IoFault α} {f : α → Except IoFault β} {b : β} :
    x >>= f = .ok b ↔ ∃ a, x = .ok a ∧ f a = .ok b := by
  cases x with
  | error e =>
    show Except.error e = .ok b ↔ _
    simp
  | ok a =>
    show f a = .ok b ↔ _
    simp

theorem target_of_namesOf {init : List Text} (hr : refused? p = none)
    (hn : namesOf p = init ++ [name]) : t.target p = .ok place ↔ ∃ above,
      init.foldlM (step t) (start p) = .ok above ∧ t.at? above = some .directory ∧
      isDots name = false ∧ p.getLast? ≠ some '/' ∧ step t above name = .ok place ∧
      t.at? place ≠ some .directory := by
  unfold target
  simp only [hr, hn, List.getLast?_concat, List.dropLast_concat, bind_eq_ok_iff,
    step_nil_eq_ok_iff]
  refine exists_congr fun above => and_congr_right fun ha => ?_
  constructor
  · rintro ⟨here, ⟨hd, rfl⟩, h⟩
    split at h
    · cases h
    · next hs =>
      obtain ⟨hn', hs'⟩ := Bool.or_eq_false_iff.1 (Bool.eq_false_iff.2 hs)
      obtain ⟨q, hq, h⟩ := bind_eq_ok_iff.1 h
      split at h
      · cases h
      · next hf =>
        obtain rfl := Except.ok.inj h
        exact ⟨hd, hn', by simpa using hs', hq, hf⟩
  · rintro ⟨hd, hn', hs, hp, hf⟩
    refine ⟨above, ⟨hd, rfl⟩, ?_⟩
    have hs' : (p.getLast? == some '/') = false := by simpa using hs
    rw [hn', hs', if_neg (by simp), bind_eq_ok_iff]
    refine ⟨place, hp, ?_⟩
    split
    · next h => exact absurd h hf
    · rfl

/-- **A path can be written exactly when its last name names an entry of a directory**, and no
directory stands there. -/
theorem target_eq_ok_iff : t.target p = .ok place ↔ refused? p = none ∧
    ∃ init name above, p.components = init ++ [name] ∧ name ≠ [] ∧ isDots name = false ∧
      init.foldlM (step t) (start p) = .ok above ∧ step t above name = .ok place ∧
      t.at? place ≠ some .directory := by
  constructor
  · intro h
    have hr : refused? p = none := by
      unfold target at h
      split at h
      · cases h
      · next hr => exact hr
    refine ⟨hr, ?_⟩
    obtain hz | ⟨init, name, hz⟩ := List.eq_nil_or_concat (namesOf p)
    · unfold target at h
      rw [hr, hz] at h
      cases h
    · rw [List.concat_eq_append] at hz
      obtain ⟨above, ha, -, hd, hs, hp, hf⟩ := (target_of_namesOf hr hz).1 h
      obtain ⟨init', name', hc, hs'⟩ := Path.components_last (ne_nil_of_refused? hr)
      have hn : name' ≠ [] := fun hn => hs (hs'.1 hn)
      obtain ⟨rfl, hl⟩ := List.append_inj' ((namesOf_eq hc hn).symm.trans hz) rfl
      obtain rfl : name' = name := List.singleton_inj.1 hl
      exact ⟨init', name', above, hc, hn, hd, ha, hp, hf⟩
  · rintro ⟨hr, init, name, above, hc, hn, hd, ha, hp, hf⟩
    obtain ⟨init', name', hc', hs⟩ := Path.components_last (ne_nil_of_refused? hr)
    obtain ⟨rfl, hl⟩ := List.append_inj' (hc'.symm.trans hc) rfl
    obtain rfl : name' = name := List.singleton_inj.1 hl
    exact (target_of_namesOf hr (namesOf_eq hc hn)).2
      ⟨above, ha, at?_of_step hp, hd, fun h => hn (hs.2 h), hp, hf⟩

theorem write_eq_ok_iff {c : Bytes} : t.write p c = .ok t' ↔ ∃ place, t.target p = .ok place ∧
    t' = ⟨(place, .file c) :: t.entries.filter fun e => e.1 ≠ place⟩ := by
  unfold write
  cases t.target p with
  | error e =>
    show Except.error e = .ok t' ↔ _
    simp
  | ok place =>
    show Except.ok _ = .ok t' ↔ _
    simp [eq_comm]

theorem write_eq_error_iff {c : Bytes} {e : IoFault} :
    t.write p c = .error e ↔ t.target p = .error e := by
  unfold write
  cases t.target p with
  | error e' =>
    show Except.error e' = .error e ↔ _
    simp
  | ok place =>
    show Except.ok _ = .error e ↔ _
    simp

/-! ## what a write changes -/

theorem isAbove_of_isPrefix {q : List Text} (h : q <+: place) (hp : isAbove place = true) :
    isAbove q = true := by
  unfold isAbove at hp ⊢
  rw [List.all_eq_true] at hp ⊢
  exact fun n hn => hp n (h.subset hn)

/-- what leads to a directory below the top is the beginning of an entry -/
theorem exists_entry_of_prefix {q : List Text} (hd : t.at? place = some .directory)
    (hq : q <+: place) (ha : isAbove q = false) : ∃ e ∈ t.entries, q <+: e.1 := by
  have hp : isAbove place = false := by
    rw [← Bool.not_eq_true] at ha ⊢
    exact fun h => ha (isAbove_of_isPrefix hq h)
  unfold at? at hd
  rw [hp, if_neg Bool.false_ne_true] at hd
  split at hd
  · next o ho =>
    obtain ⟨es, es', he, -⟩ := List.lookup_eq_some_iff.1 ho
    exact ⟨(place, o), by rw [he]; simp, hq⟩
  · split at hd
    · next h =>
      obtain ⟨e, he, hpe⟩ := List.any_eq_true.1 h
      exact ⟨e, he, hq.trans (List.isPrefixOf_iff_prefix.1 hpe)⟩
    · cases hd

/-- the entries under a place are the same before and after a write elsewhere, as the file written
is under places that are directories already -/
theorem exists_entry_write_iff {c : Bytes} {q : List Text} (hd : t.at? above = some .directory)
    (hn : place = above ++ [name]) (hq : q ≠ place) (ha : isAbove q = false) :
    (∃ e ∈ (place, .file c) :: t.entries.filter fun e => e.1 ≠ place, q <+: e.1) ↔
      ∃ e ∈ t.entries, q <+: e.1 := by
  constructor
  · rintro ⟨e, he, hpe⟩
    obtain rfl | he := List.mem_cons.1 he
    · rw [hn] at hpe hq
      obtain h | h := List.prefix_concat_iff.1 hpe
      · exact absurd h hq
      · exact exists_entry_of_prefix hd h ha
    · exact ⟨e, (List.mem_filter.1 he).1, hpe⟩
  · rintro ⟨e, he, hpe⟩
    by_cases hk : e.1 = place
    · exact ⟨_, List.mem_cons_self, hk ▸ hpe⟩
    · exact ⟨e, List.mem_cons_of_mem _ (List.mem_filter.2 ⟨he, by simpa using hk⟩), hpe⟩

/-- **A write puts its content at one place, and every other place is as it was.** -/
theorem at?_write {c : Bytes} (hp : t.target p = .ok place) (hw : t.write p c = .ok t')
    (q : List Text) : t'.at? q = if q = place then some (.file c) else t.at? q := by
  obtain ⟨place', hp', rfl⟩ := write_eq_ok_iff.1 hw
  obtain rfl : place = place' := Except.ok.inj (hp.symm.trans hp')
  obtain ⟨-, init, name, above, -, hn, hd, -, hs, -⟩ := target_eq_ok_iff.1 hp
  obtain ⟨ha, -, hpl⟩ := (step_eq_ok_iff hn hd).1 hs
  by_cases hq : q = place
  · have hb : isAbove q = false := by
      rw [hq, hpl]
      unfold isAbove
      rw [List.all_append, List.all_cons, (Bool.or_eq_false_iff.1 hd).2, Bool.false_and,
        Bool.and_false]
    rw [if_pos hq, at?, hb, if_neg Bool.false_ne_true, hq, List.lookup_cons_self]
  · rw [if_neg hq]
    cases hb : isAbove q with
    | true => rw [at?, at?, hb, if_pos rfl, if_pos rfl]
    | false =>
      have hl : (q == place) = false := beq_eq_false_iff_ne.2 hq
      have he : (List.any ((place, .file c) :: t.entries.filter fun e => e.1 ≠ place)
          fun e => q.isPrefixOf e.1) = t.entries.any fun e => q.isPrefixOf e.1 := by
        rw [Bool.eq_iff_iff]
        simp only [List.any_eq_true, List.isPrefixOf_iff_prefix]
        exact exists_entry_write_iff ha hpl hq hb
      rw [at?, at?, hb, List.lookup_cons, hl, Dictionary.lookup_filter_ne _ hq, he]

theorem foldlM_step_of_directories {ns : List Text} {s r : List Text}
    (h : ∀ q, t.at? q = some .directory → t'.at? q = some .directory)
    (hr : ns.foldlM (step t) s = .ok r) : ns.foldlM (step t') s = .ok r := by
  induction ns generalizing s with
  | nil => exact hr
  | cons n ns ih =>
    rw [List.foldlM_cons] at hr ⊢
    obtain ⟨q, hq, hr⟩ := bind_eq_ok_iff.1 hr
    have hd := at?_of_step hq
    rw [bind_eq_ok_iff]
    exact ⟨q, (step_congr ((h _ hd).trans hd.symm) n).trans hq, ih hr⟩

/-- **The path of a file that was written shows its content.** -/
theorem openAt_write {c : Bytes} (hw : t.write p c = .ok t') : t'.openAt p = .ok (.file c) := by
  obtain ⟨place, ht, -⟩ := write_eq_ok_iff.1 hw
  obtain ⟨hr, init, name, above, hc, -, -, ha, hp, hf⟩ := target_eq_ok_iff.1 ht
  have hdir : ∀ q, t.at? q = some .directory → t'.at? q = some .directory := by
    intro q hq
    have hne : q ≠ place := by
      rintro rfl
      exact hf hq
    rw [at?_write ht hw, if_neg hne, hq]
  have hl : t'.locate p = .ok place := by
    unfold locate
    rw [hr, hc]
    refine foldlM_step_of_directories hdir ?_
    rw [List.foldlM_append, ha]
    show ([name].foldlM (step t) above) = _
    rw [List.foldlM_cons, hp]
    rfl
  have hat : t'.at? place = some (.file c) := by rw [at?_write ht hw, if_pos rfl]
  unfold openAt
  simp only [hl, hat]

end Tree

end Upkeep
