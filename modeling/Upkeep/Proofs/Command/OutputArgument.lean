import Upkeep.Command.Arguments

/-!
# The output argument

No step of the reader of arguments looks at the output, except to refuse a second one.  So an output
given in front of arguments without one is carried through to the end (`parse_output`).
-/

namespace Upkeep.Arguments

namespace Reading

def give (p : Path) (r : Reading) : Reading := { r with output := some p }

/-- `x` and `y` are what a step makes of `r` without and with the output: where `x` has none, there
was none before, and `y` is `x` with the output given -/
def Carries (p : Path) (r : Reading) (x y : Except Rejection Reading) : Prop :=
  ∀ s, x = .ok s → s.output = none → r.output = none ∧ y = .ok (s.give p)

variable {p : Path} {r s : Reading} {x y : Except Rejection Reading}

theorem carries_error (e : Rejection) : Carries p r (.error e) y := by
  intro s h
  cases h

theorem carries_ok (h : s.output = r.output) : Carries p r (.ok s) (.ok (s.give p)) := by
  intro s' hs ho
  obtain rfl := Except.ok.inj hs
  exact ⟨h.symm.trans ho, rfl⟩

theorem Carries.bind {f : Reading → Except Rejection Reading} (h : Carries p r x y)
    (hf : ∀ q, Carries p q (f q) (f (q.give p))) : Carries p r (x >>= f) (y >>= f) := by
  intro s hs ho
  cases hx : x with
  | error e =>
    rw [hx] at hs
    cases hs
  | ok q =>
    rw [hx] at hs
    obtain ⟨hq, hfq⟩ := hf q s hs ho
    obtain ⟨hr, hy⟩ := h q hx hq
    refine ⟨hr, ?_⟩
    rw [hy]
    exact hfq

/-! ## one lemma for each step -/

theorem carries_set (r : Reading) (s : Setting) (v : Text) :
    Carries p r (r.set s v) ((r.give p).set s v) := by
  cases s with
  | output =>
    intro q h ho
    simp only [set] at h
    split at h
    · cases h
    · split at h
      · cases h
      · obtain rfl := Except.ok.inj h
        cases ho
  | config =>
    show Carries p r (if r.config.isSome then _ else if v.isEmpty then _ else _)
      (if r.config.isSome then _ else if v.isEmpty then _ else _)
    split
    · exact carries_error _
    · split
      · exact carries_error _
      · exact carries_ok rfl

theorem carries_settle (r : Reading) : Carries p r r.settle (r.give p).settle := by
  obtain ⟨places, output, config, verbosity, pending, begun, trailing⟩ := r
  cases pending with
  | none => exact carries_ok rfl
  | some w =>
    cases w with
    | place v =>
      show Carries p _ (if v.isEmpty then _ else _) (if v.isEmpty then _ else _)
      split
      · exact carries_error _
      · exact carries_ok rfl
    | setting s v =>
      cases v with
      | none => exact carries_error _
      | some v => exact carries_set ⟨places, output, config, verbosity, none, begun, trailing⟩ s v

theorem carries_giveSetting (r : Reading) (s : Setting) (v : Option Text) :
    Carries p r (r.giveSetting s v) ((r.give p).giveSetting s v) := by
  refine (carries_settle r).bind fun q => ?_
  cases v with
  | none => exact carries_ok rfl
  | some v => exact carries_set q s v

theorem carries_raise (r : Reading) : Carries p r r.raise (r.give p).raise :=
  (carries_settle r).bind fun _ => carries_ok rfl

theorem carries_ask (r : Reading) (what : Rejection) :
    Carries p r (r.ask what) ((r.give p).ask what) :=
  (carries_settle r).bind fun _ => carries_error what

theorem carries_plain (v : Option Text) (h : Carries p r x y) :
    Carries p r (plain v x) (plain v y) := by
  cases v with
  | none => exact h
  | some v => exact carries_error _

theorem carries_long (r : Reading) (t : Text) : Carries p r (r.long t) ((r.give p).long t) := by
  unfold long
  dsimp only
  split
  · exact carries_giveSetting r _ _
  · split
    · exact carries_giveSetting r _ _
    · split
      · exact carries_plain _ (carries_raise r)
      · split
        · exact carries_plain _ (carries_ask r _)
        · split
          · exact carries_plain _ (carries_ask r _)
          · exact carries_error _

theorem carries_short (r : Reading) (t : Text) : Carries p r (r.short t) ((r.give p).short t) := by
  induction t generalizing r with
  | nil => exact carries_ok rfl
  | cons c cs ih =>
    unfold short
    split
    · exact (carries_raise r).bind ih
    · split
      · exact carries_ask r _
      · split
        · exact carries_ask r _
        · split
          · exact carries_giveSetting r _ _
          · split
            · exact carries_giveSetting r _ _
            · exact carries_error _

theorem carries_place (r : Reading) (t : Text) : Carries p r (r.place t) ((r.give p).place t) := by
  show Carries p r (if 2 ≤ r.begun then _ else _) (if 2 ≤ r.begun then _ else _)
  split
  · exact carries_error _
  · exact (carries_settle r).bind fun _ => carries_ok rfl

theorem carries_value (r : Reading) (t : Text) : Carries p r (r.value t) ((r.give p).value t) := by
  obtain ⟨places, output, config, verbosity, pending, begun, trailing⟩ := r
  match pending with
  | none => exact carries_place _ t
  | some (.place v) => exact carries_place _ t
  | some (.setting s none) => exact carries_ok rfl
  | some (.setting s (some v)) => exact carries_place _ t

theorem carries_next (r : Reading) (t : Text) : Carries p r (r.next t) ((r.give p).next t) := by
  unfold next
  show Carries p r _ (if r.trailing then _ else _)
  split
  · exact carries_place r t
  · split
    · exact carries_ok rfl
    · exact carries_long r _
    · exact carries_short r _
    · exact carries_value r _

theorem carries_foldlM (ts : List Text) (r : Reading) :
    Carries p r (ts.foldlM next r) (ts.foldlM next (r.give p)) := by
  induction ts generalizing r with
  | nil => exact carries_ok rfl
  | cons t ts ih =>
    rw [List.foldlM_cons, List.foldlM_cons]
    exact (carries_next r t).bind ih

theorem next_output (hp : p ≠ []) : start.next ("--output=".toList ++ p) = .ok (start.give p) := by
  cases p with
  | nil => exact absurd rfl hp
  | cons c cs => rfl

theorem finish_eq_ok_iff {fallback : Option Text} {a : Arguments} : r.finish fallback = .ok a ↔
    ∃ firefox openssl config, r.layoutFile fallback = .ok config ∧
      r.places = [firefox, openssl] ∧ a = ⟨firefox, openssl, r.output, config, r.verbosity⟩ := by
  unfold finish
  constructor
  · intro h
    split at h
    · cases h
    · next config firefox openssl hc hp =>
      exact ⟨firefox, openssl, config, hc, hp, (Except.ok.inj h).symm⟩
    · cases h
  · rintro ⟨firefox, openssl, config, hc, hp, rfl⟩
    rw [hc, hp]

end Reading

/-- **An output put in front of arguments without one changes the output alone.** -/
theorem parse_output {ts : List Text} {fallback : Option Text} {a : Arguments} {p : Path}
    (h : parse ts fallback = .ok a) (ha : a.output = none) (hp : p ≠ []) :
    parse (("--output=".toList ++ p) :: ts) fallback = .ok { a with output := some p } := by
  unfold parse at h ⊢
  rw [List.foldlM_cons, Reading.next_output hp]
  show (ts.foldlM Reading.next (Reading.start.give p) >>= _) = _
  cases hr : ts.foldlM Reading.next Reading.start with
  | error e =>
    rw [hr] at h
    cases h
  | ok r =>
    rw [hr] at h
    change (r.settle >>= _) = _ at h
    cases hs : r.settle with
    | error e =>
      rw [hs] at h
      cases h
    | ok s =>
      rw [hs] at h
      obtain ⟨firefox, openssl, config, hc, hp', rfl⟩ := Reading.finish_eq_ok_iff.1 h
      obtain ⟨hrn, hs'⟩ := Reading.carries_settle r s hs ha
      obtain ⟨-, hr'⟩ := Reading.carries_foldlM ts Reading.start r hr hrn
      rw [hr']
      show ((r.give p).settle >>= _) = _
      rw [hs']
      exact Reading.finish_eq_ok_iff.2 ⟨firefox, openssl, config, hc, hp', rfl⟩

end Upkeep.Arguments
