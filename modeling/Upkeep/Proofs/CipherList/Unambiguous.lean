import Upkeep.CipherList.Document

/-!
# The generated file is unambiguous

The names in a block may hold anything but a line feed: commas, parentheses, the marks of comments,
or the text of a directive.  Still the file has one reading.  The lines of the file are determined
by its text, as no line holds a line feed (`Text.unlines_inj`).  The first line of a block says
which of the two forms the block has, and with the form its lines determine the block and where the
next one begins (`Block.lines_append_inj`).  Main statement: different lists of blocks have
different files.
-/

namespace Upkeep

namespace Block

variable {b c : Block}

/-- the names of the block keep to their lines -/
structure Unbroken (b : Block) : Prop where
  hex : '\n' ∉ b.hex
  macroName : '\n' ∉ b.macroName

/-- the lines after the note on a missing macro -/
def directives (b : Block) : List Text :=
  ["#ifdef ".toList ++ b.macroName,
    "    CIPHER(".toList ++ b.hex ++ ", ".toList ++ b.macroName ++ ")".toList,
    "#else".toList,
    "   XCIPHER(".toList ++ b.hex ++ ", ".toList ++ b.macroName ++ ")".toList,
    "#endif".toList]

theorem lines_named (h : b.unnamed = false) : b.lines = b.directives := by
  rw [lines, h]
  rfl

theorem lines_unnamed (h : b.unnamed = true) : b.lines =
    ("/* No openssl macro found for ".toList ++ b.hex ++ " */".toList) :: b.directives := by
  rw [lines, h]
  rfl

/-- the macro is told by the first directive, and then the identifier by the second -/
theorem directives_append_inj {ss ts : List Text} (h : b.directives ++ ss = c.directives ++ ts) :
    b.hex = c.hex ∧ b.macroName = c.macroName ∧ ss = ts := by
  obtain ⟨hifdef, h⟩ := List.cons.inj h
  obtain ⟨hcipher, h⟩ := List.cons.inj h
  have hname : b.macroName = c.macroName := List.append_cancel_left hifdef
  rw [hname] at hcipher
  have hhex : b.hex = c.hex :=
    List.append_cancel_left (List.append_cancel_right (List.append_cancel_right
      (List.append_cancel_right hcipher)))
  have hrest : ss = ts := (List.cons.inj (List.cons.inj (List.cons.inj h).2).2).2
  exact ⟨hhex, hname, hrest⟩

theorem firstChar_lines_append (b : Block) (ss : List Text) :
    (b.lines ++ ss).head?.bind List.head? = some (if b.unnamed then '/' else '#') := by
  cases hb : b.unnamed with
  | false =>
    rw [lines_named hb]
    simp [directives]
  | true =>
    rw [lines_unnamed hb]
    simp

/-- the lines of a block, in front of others, determine the block and where it ends -/
theorem lines_append_inj {ss ts : List Text} (h : b.lines ++ ss = c.lines ++ ts) :
    b = c ∧ ss = ts := by
  -- the form comes first: only then are the directives at the same place in both
  have hbc : b.unnamed = c.unnamed := by
    have hfirst : (b.lines ++ ss).head?.bind List.head? = (c.lines ++ ts).head?.bind List.head? := by
      rw [h]
    rw [firstChar_lines_append, firstChar_lines_append] at hfirst
    cases hb : b.unnamed <;> cases hc : c.unnamed <;> simp [hb, hc] at hfirst ⊢
  have hdirectives : b.directives ++ ss = c.directives ++ ts := by
    cases hb : b.unnamed with
    | false =>
      rwa [lines_named hb, lines_named (hbc ▸ hb)] at h
    | true =>
      rw [lines_unnamed hb, lines_unnamed (hbc ▸ hb)] at h
      exact (List.cons.inj h).2
  obtain ⟨hhex, hname, hrest⟩ := directives_append_inj hdirectives
  refine ⟨?_, hrest⟩
  cases b
  cases c
  simp only [mk.injEq]
  exact ⟨hhex, hname, hbc⟩

theorem Unbroken.newline_notMem_lines (h : b.Unbroken) : ∀ t ∈ b.lines, '\n' ∉ t := by
  have hhex := h.hex
  have hname := h.macroName
  have hdirectives : ∀ t ∈ b.directives, '\n' ∉ t := by
    intro t ht
    simp only [directives, List.mem_cons, List.not_mem_nil, or_false] at ht
    rcases ht with rfl | rfl | rfl | rfl | rfl <;> simp [hhex, hname]
  cases hb : b.unnamed with
  | false => rwa [lines_named hb]
  | true =>
    rw [lines_unnamed hb, List.forall_mem_cons]
    refine ⟨?_, hdirectives⟩
    simp [hhex]

theorem lines_ne_nil (b : Block) : b.lines ≠ [] := by
  intro h
  have hfirst := b.firstChar_lines_append []
  rw [h] at hfirst
  cases hfirst

theorem text_append_newline (b : Block) : b.text ++ ['\n'] = Text.unlines b.lines :=
  Text.intercalate_append_newline b.lines_ne_nil

end Block

namespace Document

theorem text_eq_unlines (bs : List Block) :
    text bs = header ++ ['\n'] ++ Text.unlines (bs.flatMap Block.lines) := by
  simp only [text_eq, Block.text_append_newline, Text.unlines, List.flatMap_assoc]

theorem flatMap_lines_inj {bs cs : List Block} (h : bs.flatMap Block.lines = cs.flatMap Block.lines) :
    bs = cs := by
  induction bs generalizing cs with
  | nil =>
    cases cs with
    | nil => rfl
    | cons c cs => exact absurd (List.append_eq_nil_iff.1 h.symm).1 c.lines_ne_nil
  | cons b bs ih =>
    cases cs with
    | nil => exact absurd (List.append_eq_nil_iff.1 h).1 b.lines_ne_nil
    | cons c cs =>
      rw [List.flatMap_cons, List.flatMap_cons] at h
      obtain ⟨rfl, hrest⟩ := Block.lines_append_inj h
      rw [ih hrest]

theorem newline_notMem_of_unbroken {bs : List Block} (h : ∀ b ∈ bs, b.Unbroken) :
    ∀ t ∈ bs.flatMap Block.lines, '\n' ∉ t := by
  intro t ht
  obtain ⟨b, hb, ht⟩ := List.mem_flatMap.1 ht
  exact (h b hb).newline_notMem_lines t ht

/-- **The file determines the list of its blocks**, with every identifier, every macro and every
note on a missing one, as long as no name in a block holds a line feed. -/
theorem text_eq_text_iff {bs cs : List Block} (hbs : ∀ b ∈ bs, b.Unbroken)
    (hcs : ∀ c ∈ cs, c.Unbroken) : text bs = text cs ↔ bs = cs := by
  refine ⟨fun h => ?_, fun h => congrArg text h⟩
  rw [text_eq_unlines, text_eq_unlines] at h
  have hlines : Text.unlines (bs.flatMap Block.lines) = Text.unlines (cs.flatMap Block.lines) :=
    List.append_cancel_left h
  exact flatMap_lines_inj
    (Text.unlines_inj (newline_notMem_of_unbroken hbs) (newline_notMem_of_unbroken hcs) hlines)

/-! Two lists that share the line `    CIPHER(0x1, A, */, B)`, one of them with a note. -/

def commasInHex : List Block := [⟨"0x1, A, */".toList, "B".toList, true⟩]

def commasInName : List Block := [⟨"0x1".toList, "A, */, B".toList, false⟩]

theorem text_eq_text_iff_commas :
    (∀ b ∈ commasInHex, b.Unbroken) ∧ (∀ c ∈ commasInName, c.Unbroken) ∧
    (text commasInHex = text commasInName ↔ commasInHex = commasInName) ∧
    text commasInHex ≠ text commasInName := by
  have hbs : ∀ b ∈ commasInHex, b.Unbroken := by
    intro b hb
    obtain rfl := List.mem_singleton.1 hb
    exact ⟨by decide, by decide⟩
  have hcs : ∀ c ∈ commasInName, c.Unbroken := by
    intro c hc
    obtain rfl := List.mem_singleton.1 hc
    exact ⟨by decide, by decide⟩
  have hiff := text_eq_text_iff hbs hcs
  exact ⟨hbs, hcs, hiff, fun h => absurd (hiff.1 h) (by decide)⟩

end Document

end Upkeep
