import Upkeep.Proofs.CipherList.Load
import Upkeep.Proofs.PrefTable.Malformed
import Upkeep.Proofs.Text.LineDecoding

/-!
# The first input that fails

Loading consults its inputs in one order (`Sources.inputs`): the four files of the Firefox tree, and
then the headers of the OpenSSL tree.  `Input.Fails` says of each input on its own when it fails and
how: it cannot be opened, it is a directory, its reader meets a bad line before it stops, or it is
the preference table and its entries cannot be read.

Each step of the loading fails exactly as its input does, so the whole fails exactly as the first
input that fails (`FirstFailure`).  Main statement: that, with what it means for the kinds of
failures and for the inputs after the first one that fails.
-/

namespace Upkeep

/-! ## inputs -/

/-- reading what was opened fails, where the reader stops after lines of which `stops` holds -/
inductive Opened.Unreadable (stops : List Text → Prop) : Opened → IoFault → Prop
  | directory : Unreadable stops .directory .isADirectory
  | badLine {content : Bytes} {ts : List Text} {rest : List Line} :
      content.lines = ts.map .ok ++ .error .notUtf8 :: rest → ¬ stops ts →
      Unreadable stops (.file content) .notUtf8

/-- a file that loading consults -/
structure Input where
  path : Path
  /-- it need not be there -/
  optional : Bool
  /-- its reader looks at nothing more after these lines -/
  stops : List Text → Prop
  /-- its reader refuses lines that can be read, with this failure -/
  refuses : List Line → Failure → Prop

/-- a file that is read to its end, and understood whatever it holds -/
def Input.whole (path : Path) (optional : Bool) : Input :=
  ⟨path, optional, fun _ => False, fun _ _ => False⟩

/-- an input fails, and this is the failure -/
inductive Input.Fails (disk : Disk) (x : Input) : Failure → Prop
  | unopened {e : IoFault} : disk.open? x.path = .error e →
      ¬ (x.optional = true ∧ e.kind = .notFound) → Fails disk x (.unreadable x.path e)
  | unread {o : Opened} {e : IoFault} : disk.open? x.path = .ok o → o.Unreadable x.stops e →
      Fails disk x (.unreadable x.path e)
  | refused {o : Opened} {f : Failure} : disk.open? x.path = .ok o → x.refuses o.lines f →
      Fails disk x f

/-- the first of the inputs that fails, fails with this failure -/
def FirstFailure (disk : Disk) (xs : List Input) (f : Failure) : Prop :=
  ∃ before x after, xs = before ++ x :: after ∧ (∀ y ∈ before, ∀ g, ¬ y.Fails disk g) ∧
    x.Fails disk f

namespace Sources

/-- the inputs of loading, in order -/
def inputs (l : Layout) (firefox openssl : Path) : List Input :=
  [⟨firefox.join l.tableFile, false,
      Excerpt.EndsIn l.tableStart.isPrefixOf fun t => l.tableEnd.isPrefixOf t.trim,
      PrefTable.Malformed l.tableStart l.tableEnd⟩,
    ⟨firefox.join l.suitesFile, false,
      Excerpt.EndsIn (Text.hasInfix l.suitesMarker) l.suitesEnd.isPrefixOf, fun _ _ => False⟩,
    .whole (firefox.join l.defaultsFile) false, .whole (firefox.join l.protocolHeader) false] ++
  (l.headerPaths openssl).map fun p => .whole p true

end Sources

/-! ## the first failure along a list -/

variable {disk : Disk} {f : Failure}

theorem not_firstFailure_nil : ¬ FirstFailure disk [] f := by
  rintro ⟨before, x, after, h, -⟩
  simp at h

theorem firstFailure_cons {x : Input} {xs : List Input} : FirstFailure disk (x :: xs) f ↔
    x.Fails disk f ∨ (∀ g, ¬ x.Fails disk g) ∧ FirstFailure disk xs f := by
  constructor
  · rintro ⟨before, y, after, h, hbefore, hy⟩
    cases before with
    | nil =>
      cases h
      exact .inl hy
    | cons z before =>
      cases h
      exact .inr ⟨hbefore _ List.mem_cons_self, before, y, after, rfl,
        fun u hu => hbefore u (List.mem_cons_of_mem _ hu), hy⟩
  · rintro (hx | ⟨hx, before, y, after, rfl, hbefore, hy⟩)
    · exact ⟨[], x, xs, rfl, by simp, hx⟩
    · exact ⟨x :: before, y, after, rfl, List.forall_mem_cons.2 ⟨hx, hbefore⟩, hy⟩

theorem exists_firstFailure_iff {xs : List Input} :
    (∃ f, FirstFailure disk xs f) ↔ ∃ x ∈ xs, ∃ f, x.Fails disk f := by
  constructor
  · rintro ⟨f, before, x, after, rfl, -, hx⟩
    exact ⟨x, by simp, f, hx⟩
  · rintro ⟨x, hx, f, hf⟩
    induction xs with
    | nil => cases hx
    | cons y ys ih =>
      by_cases hy : ∃ g, y.Fails disk g
      · obtain ⟨g, hg⟩ := hy
        exact ⟨g, firstFailure_cons.2 (.inl hg)⟩
      · rcases List.mem_cons.1 hx with rfl | hx
        · exact absurd ⟨f, hf⟩ hy
        · obtain ⟨g, hg⟩ := ih hx
          exact ⟨g, firstFailure_cons.2 (.inr ⟨fun k hk => hy ⟨k, hk⟩, hg⟩)⟩

/-! ## steps that fail as their input does -/

/-- a step fails exactly as the input does -/
def FailsAs {α : Type} (disk : Disk) (x : Run α) (i : Input) : Prop :=
  ∀ f, x.outcome = .error f ↔ i.Fails disk f

/-- a run fails exactly as the first of the inputs that fails -/
def FailsFirst {α : Type} (disk : Disk) (x : Run α) (xs : List Input) : Prop :=
  ∀ f, x.outcome = .error f ↔ FirstFailure disk xs f

section
variable {α β : Type} {i : Input} {xs : List Input}

theorem FailsAs.forall_not_fails {x : Run α} (h : FailsAs disk x i) :
    (∀ g, ¬ i.Fails disk g) ↔ ∃ a, x.outcome = .ok a := by
  have hx : (∀ g, ¬ i.Fails disk g) ↔ ∀ g, x.outcome ≠ .error g :=
    forall_congr' fun g => not_congr (h g).symm
  rw [hx]
  cases x.outcome with
  | error e => simp
  | ok a => simp

theorem failsFirst_pure (a : α) : FailsFirst disk (pure a : Run α) [] := by
  intro f
  rw [Run.outcome_pure]
  exact ⟨fun h => (by cases h), fun h => absurd h not_firstFailure_nil⟩

theorem FailsFirst.note {g : Unit → Run β} (h : FailsFirst disk (g ()) xs) (n : Notice) :
    FailsFirst disk (Run.note n >>= g) xs := by
  intro f
  rw [Run.outcome_bind_ok (Run.outcome_note n)]
  exact h f

theorem FailsFirst.bind {x : Run α} {g : α → Run β} (hx : FailsAs disk x i)
    (hg : ∀ a, FailsFirst disk (g a) xs) : FailsFirst disk (x >>= g) (i :: xs) := by
  intro f
  rw [Run.outcome_bind_eq_error_iff, firstFailure_cons, hx f, hx.forall_not_fails]
  refine or_congr_right ?_
  constructor
  · rintro ⟨a, ha, hf⟩
    exact ⟨⟨a, ha⟩, (hg a f).1 hf⟩
  · rintro ⟨⟨a, ha⟩, hf⟩
    exact ⟨a, ha, (hg a f).2 hf⟩

theorem FailsFirst.map {x : Run α} (hx : FailsFirst disk x xs) (g : α → β) :
    FailsFirst disk (x >>= fun a => pure (g a)) xs := by
  intro f
  rw [Run.outcome_bind_eq_error_iff, hx f]
  simp

end

/-! ## readers -/

/-- a reader fails at a bad line that it meets, and at lines that it refuses -/
structure Reads {α : Type} (reader : List Line → Run α) (stops : List Text → Prop)
    (refuses : List Line → Failure → Prop) : Prop where
  fails : ∀ ls f, (reader ls).outcome = .error f ↔
    (∃ e, ((Line.upToFault ls).2 = some e ∧ ¬ stops (Line.upToFault ls).1) ∧ f = .stream e) ∨
      refuses ls f
  begins : ¬ stops []
  told : ∀ ls f p, refuses ls f → f.withPath p = f

theorem unreadable_iff {stops : List Text → Prop} (h : ¬ stops []) {o : Opened} {e : IoFault} :
    o.Unreadable stops e ↔
      (Line.upToFault o.lines).2 = some e ∧ ¬ stops (Line.upToFault o.lines).1 := by
  cases o with
  | directory =>
    constructor
    · rintro ⟨⟩
      exact ⟨rfl, h⟩
    · rintro ⟨he, -⟩
      cases he
      exact .directory
  | file content =>
    constructor
    · intro hbad
      cases hbad with
      | @badLine _ ts rest hls hts =>
        have hu := Line.upToFault_eq_some_iff.2 ⟨rest, hls⟩
        show (Line.upToFault content.lines).2 = _ ∧ ¬ stops (Line.upToFault content.lines).1
        rw [hu]
        exact ⟨rfl, hts⟩
    · rintro ⟨he, hts⟩
      obtain ⟨rest, hls⟩ := Line.upToFault_eq_some_iff.1 (Prod.ext rfl he)
      obtain rfl : e = .notUtf8 := Bytes.eq_notUtf8_of_fault he
      exact .badLine hls hts

theorem reads_whole {α : Type} (g : List Text → Run α) (hg : ∀ ts, ∃ a, (g ts).outcome = .ok a) :
    Reads (fun ls => Run.ofStream (Line.readAll ls) >>= g) (fun _ => False) fun _ _ => False where
  fails ls f := by
    rw [Run.outcome_bind_eq_error_iff, Run.outcome_ofStream]
    unfold Line.readAll
    cases hu : Line.upToFault ls with
    | mk ts fault =>
      cases fault with
      | none =>
        obtain ⟨a, ha⟩ := hg ts
        simp [ha]
      | some e => simp [eq_comm]
  begins := id
  told _ _ _ h := h.elim

theorem reads_excerpt {α : Type} {opens closes : Text → Bool} (g : Excerpt → Run α)
    (hg : ∀ x, ∃ a, (g x).outcome = .ok a) :
    Reads (fun ls => Run.ofStream (Excerpt.read opens closes ls) >>= g)
      (Excerpt.EndsIn opens closes) fun _ _ => False where
  fails ls f := by
    simp only [Run.outcome_bind_eq_error_iff, Run.outcome_ofStream, ← Excerpt.read_eq_error_iff]
    cases Excerpt.read opens closes ls with
    | error e => simp [eq_comm]
    | ok x =>
      obtain ⟨a, ha⟩ := hg x
      simp [ha]
  begins := Excerpt.not_endsIn_nil
  told _ _ _ h := h.elim

theorem reads_table (start stop : Text) : Reads (PrefTable.read start stop)
    (Excerpt.EndsIn start.isPrefixOf fun t => stop.isPrefixOf t.trim)
    (PrefTable.Malformed start stop) where
  fails ls f := PrefTable.outcome_read_eq_error_iff
  begins := Excerpt.not_endsIn_nil
  told ls f p h := by
    obtain ⟨x, -, before, y, after, es, left, k, -, -, -, rfl⟩ := h
    rfl

theorem reads_suites (marker stop : Text) : Reads (SuiteArray.read marker stop)
    (Excerpt.EndsIn (Text.hasInfix marker) stop.isPrefixOf) fun _ _ => False :=
  reads_excerpt _ fun _ => ⟨_, rfl⟩

theorem reads_defaults (space : Text) :
    Reads (PrefDefaults.read space) (fun _ => False) fun _ _ => False :=
  reads_whole _ fun _ => ⟨_, rfl⟩

theorem reads_protocol : Reads ProtocolIds.read (fun _ => False) fun _ _ => False :=
  reads_whole _ fun _ => ⟨_, rfl⟩

namespace Sources

theorem failsAs_readFile {α : Type} {reader : List Line → Run α} {stops : List Text → Prop}
    {refuses : List Line → Failure → Prop} (h : Reads reader stops refuses) (disk : Disk)
    (root relative : Path) :
    FailsAs disk (readFile disk root relative reader)
      ⟨root.join relative, false, stops, refuses⟩ := by
  intro f
  unfold readFile openFile
  rw [Run.outcome_bind_ok (Run.outcome_note _), Run.outcome_bind_eq_error_iff,
    Run.outcome_ofExcept]
  simp only [Run.outcome_inFile, Run.mapError_eq_error_iff, Run.mapError_eq_ok_iff, h.fails,
    ← unreadable_iff h.begins]
  constructor
  · rintro (⟨e, he, rfl⟩ | ⟨o, ho, g, ⟨e, he, rfl⟩ | hg, rfl⟩)
    · exact .unopened he (by simp)
    · exact .unread ho he
    · rw [h.told _ _ _ hg]
      exact .refused ho hg
  · rintro (⟨he, -⟩ | ⟨ho, he⟩ | ⟨ho, hg⟩)
    · exact .inl ⟨_, he, rfl⟩
    · exact .inr ⟨_, ho, _, .inl ⟨_, he, rfl⟩, rfl⟩
    · exact .inr ⟨_, ho, _, .inr hg, h.told _ _ _ hg⟩

/-- of the inputs only the preference table is refused, for its entries -/
theorem malformed_of_refuses {l : Layout} {firefox openssl : Path} {x : Input} {ls : List Line}
    (h : x ∈ inputs l firefox openssl) (hf : x.refuses ls f) : ∃ n t k, f = .malformedTable n t k := by
  unfold inputs at h
  simp only [List.cons_append, List.nil_append, List.mem_cons, List.mem_map] at h
  rcases h with rfl | rfl | rfl | rfl | ⟨p, -, rfl⟩
  · obtain ⟨e, -, before, y, after, es, left, k, -, -, -, rfl⟩ := hf
    exact ⟨_, _, _, rfl⟩
  all_goals exact hf.elim

theorem fails_header_iff {p : Path} : (Input.whole p true).Fails disk f ↔
    (∃ e, disk.open? p = .error e ∧ e.kind ≠ .notFound ∧ f = .unreadable p e) ∨
    ∃ o e, disk.open? p = .ok o ∧ (Line.upToFault o.lines).2 = some e ∧ f = .unreadable p e := by
  constructor
  · rintro (⟨he, hk⟩ | ⟨ho, he⟩ | ⟨-, hg⟩)
    · exact .inl ⟨_, he, fun h => hk ⟨rfl, h⟩, rfl⟩
    · exact .inr ⟨_, _, ho, ((unreadable_iff id).1 he).1, rfl⟩
    · exact hg.elim
  · rintro (⟨e, he, hk, rfl⟩ | ⟨o, e, ho, he, rfl⟩)
    · exact .unopened he fun h => hk h.2
    · exact .unread ho ((unreadable_iff id).2 ⟨he, id⟩)

theorem failsFirst_scanHeaders (l : Layout) (disk : Disk) (ix : MacroIndex) (paths : List Path) :
    FailsFirst disk (scanHeaders l disk ix paths) (paths.map fun p => .whole p true) := by
  induction paths generalizing ix with
  | nil => exact failsFirst_pure ix
  | cons p paths ih =>
    intro f
    rw [List.map_cons, firstFailure_cons, scanHeaders]
    cases ho : disk.open? p with
    | error e =>
      simp only [fails_header_iff, ho]
      by_cases hk : e.kind = .notFound
      · rw [if_pos hk, Run.outcome_bind_ok (Run.outcome_note _), ih ix f]
        simp [hk]
      · rw [if_neg hk, Run.outcome_throw, Except.error.injEq, eq_comm]
        simp [hk]
    | ok o =>
      simp only [fails_header_iff, ho]
      rw [Run.outcome_bind_ok (Run.outcome_note _), Run.outcome_bind_ok (outcome_scan l ix o.lines)]
      cases hu : (Line.upToFault o.lines).2 with
      | none =>
        dsimp only
        rw [ih _ f]
        simp [hu]
      | some e =>
        dsimp only
        rw [Run.outcome_throw]
        simp [hu, eq_comm]

theorem failsFirst_load (l : Layout) (disk : Disk) (firefox openssl : Path) :
    FailsFirst disk (load l disk firefox openssl) (inputs l firefox openssl) := by
  refine .bind (failsAs_readFile (reads_table _ _) disk _ _) fun table => .note ?_ _
  refine .bind (failsAs_readFile (reads_suites _ _) disk _ _) fun suites => ?_
  refine .bind (failsAs_readFile (reads_defaults _) disk _ _) fun defaults => .note ?_ _
  refine .bind (failsAs_readFile reads_protocol disk _ _) fun protocol => ?_
  exact (failsFirst_scanHeaders l disk .empty (l.headerPaths openssl)).map _

/-! ## inputs after the first one that fails -/

/-- two disks show the same of each input up to the first one that fails -/
def AgreeUpto (disk disk' : Disk) : List Input → Prop
  | [] => True
  | x :: xs => disk'.open? x.path = disk.open? x.path ∧
      ((∀ g, ¬ x.Fails disk g) → AgreeUpto disk disk' xs)

theorem agreeUpto_of_fails {disk' : Disk} {before after : List Input} {x : Input}
    (hx : x.Fails disk f)
    (h : ∀ y ∈ before ++ [x], disk'.open? y.path = disk.open? y.path) :
    AgreeUpto disk disk' (before ++ x :: after) := by
  induction before with
  | nil => exact ⟨h x (by simp), fun hno => absurd hx (hno f)⟩
  | cons y before ih =>
    exact ⟨h y (by simp), fun _ => ih fun z hz => h z (List.mem_cons_of_mem _ hz)⟩

theorem readFile_congr {α : Type} {disk' : Disk} {root relative : Path}
    (h : disk'.open? (root.join relative) = disk.open? (root.join relative))
    (reader : List Line → Run α) :
    readFile disk' root relative reader = readFile disk root relative reader := by
  unfold readFile openFile
  simp only [h]

theorem step_congr {α β : Type} {x x' : Run α} {g g' : α → Run β} {i : Input}
    (hi : FailsAs disk x i) (hx : x' = x)
    (hg : (∀ k, ¬ i.Fails disk k) → ∀ a, g' a = g a) : x' >>= g' = x >>= g := by
  rw [hx]
  exact Run.bind_congr fun a ha => hg (hi.forall_not_fails.2 ⟨a, ha⟩) a

theorem scanHeaders_congr {l : Layout} {disk' : Disk} {paths : List Path}
    (h : AgreeUpto disk disk' (paths.map fun p => .whole p true)) (ix : MacroIndex) :
    scanHeaders l disk' ix paths = scanHeaders l disk ix paths := by
  induction paths generalizing ix with
  | nil => rfl
  | cons p paths ih =>
    obtain ⟨hp, hrest⟩ := h
    have hp : disk'.open? p = disk.open? p := hp
    rw [scanHeaders, scanHeaders, hp]
    simp only [fails_header_iff] at hrest
    cases ho : disk.open? p with
    | error e =>
      dsimp only
      by_cases hk : e.kind = .notFound
      · rw [if_pos hk, if_pos hk]
        refine Run.bind_congr fun _ _ => ih (hrest ?_) ix
        simp [ho, hk]
      · rw [if_neg hk, if_neg hk]
    | ok o =>
      dsimp only
      refine Run.bind_congr fun _ _ => Run.bind_congr fun r hr => ?_
      obtain rfl := Except.ok.inj ((outcome_scan l ix o.lines).symm.trans hr)
      dsimp only
      cases hu : (Line.upToFault o.lines).2 with
      | none =>
        dsimp only
        exact ih (hrest (by simp [ho, hu])) _
      | some e => rfl

/-- loading shows nothing of the inputs after the first one that fails -/
theorem load_congr {l : Layout} {disk' : Disk} {firefox openssl : Path}
    (h : AgreeUpto disk disk' (inputs l firefox openssl)) :
    load l disk' firefox openssl = load l disk firefox openssl := by
  obtain ⟨h1, hrest⟩ := h
  refine step_congr (failsAs_readFile (reads_table _ _) disk _ _) (readFile_congr h1 _)
    fun hno table => Run.bind_congr fun _ _ => ?_
  obtain ⟨h2, hrest⟩ := hrest hno
  refine step_congr (failsAs_readFile (reads_suites _ _) disk _ _) (readFile_congr h2 _)
    fun hno suites => ?_
  obtain ⟨h3, hrest⟩ := hrest hno
  refine step_congr (failsAs_readFile (reads_defaults _) disk _ _) (readFile_congr h3 _)
    fun hno defaults => Run.bind_congr fun _ _ => ?_
  obtain ⟨h4, hrest⟩ := hrest hno
  refine step_congr (failsAs_readFile reads_protocol disk _ _) (readFile_congr h4 _)
    fun hno protocol => ?_
  unfold readIndex
  rw [scanHeaders_congr (hrest hno)]

/-- **Loading fails at the first input that fails, in its way.**  So it fails exactly when some
input fails; then either a file cannot be read, and the failure names the file, or the entries of
the preference table cannot be; and what the inputs after the first one that fails hold, and whether
they are there, changes neither the failure nor what is told on the way. -/
theorem load_fails_first (l : Layout) (disk : Disk) (firefox openssl : Path) :
    (∀ f, (load l disk firefox openssl).outcome = .error f ↔
      FirstFailure disk (inputs l firefox openssl) f) ∧
    ((∃ f, (load l disk firefox openssl).outcome = .error f) ↔
      ∃ x ∈ inputs l firefox openssl, ∃ f, x.Fails disk f) ∧
    (∀ f, (load l disk firefox openssl).outcome = .error f →
      (∃ x ∈ inputs l firefox openssl, ∃ e, f = .unreadable x.path e) ∨
      ∃ n t k, f = .malformedTable n t k) ∧
    ∀ before x after f disk', inputs l firefox openssl = before ++ x :: after →
      (∀ y ∈ before, ∀ g, ¬ y.Fails disk g) → x.Fails disk f →
      (∀ y ∈ before ++ [x], disk'.open? y.path = disk.open? y.path) →
      load l disk' firefox openssl = load l disk firefox openssl := by
  have hfirst := failsFirst_load l disk firefox openssl
  refine ⟨hfirst, ?_, ?_, ?_⟩
  · rw [← exists_firstFailure_iff]
    exact exists_congr hfirst
  · intro f hf
    obtain ⟨before, x, after, hxs, -, hx⟩ := (hfirst f).1 hf
    have hmem : x ∈ inputs l firefox openssl := by
      rw [hxs]
      simp
    cases hx with
    | unopened _ _ => exact .inl ⟨x, hmem, _, rfl⟩
    | unread _ _ => exact .inl ⟨x, hmem, _, rfl⟩
    | refused _ hg => exact .inr (malformed_of_refuses hmem hg)
  · intro before x after f disk' hxs _ hx h
    refine load_congr ?_
    rw [hxs]
    exact agreeUpto_of_fails hx h

end Sources

end Upkeep
