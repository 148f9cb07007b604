import Upkeep.CipherList.Document

/-!
# Writing to a sink with little room

The file is written in many pieces, and the sink may be full after any of them, or in the middle of
one.  As a sink takes pieces as if they were one (`Sink.putAll_eq_put`), what it holds in the end is
told from the whole text alone.  Main statement: a failure in the blocks leaves the sink as it was,
and otherwise the sink has the beginning of the text for which there was room, and the writing fails
exactly when that is not all of it.  The same holds from the source trees on, where a failure of the
loading comes before the first byte as well (`value_generate_eq_put`).
-/

namespace Upkeep.Sources

/-- the file is written as one piece, after the last of its blocks is there -/
theorem value_render_eq_put (s : Sources) (sink : Sink) :
    (s.render sink).value =
      match s.blocks.outcome with
      | .error e => ⟨sink, some e⟩
      | .ok bs =>
        ⟨(sink.put (Text.encode (Document.text bs))).1,
          (sink.put (Text.encode (Document.text bs))).2.map .stream⟩ := by
  simp only [value_render, Sink.putAll_eq_put, Text.flatten_map_encode]
  rfl

/-- the text of the file for two source trees, if there is one -/
def document (l : Layout) (disk : Disk) (firefox openssl : Path) : Except Failure Text :=
  (load l disk firefox openssl).outcome.bind fun s => s.blocks.outcome.map Document.text

theorem value_generate_eq_put (l : Layout) (disk : Disk) (firefox openssl : Path) (sink : Sink) :
    (generate l disk firefox openssl sink).value =
      match document l disk firefox openssl with
      | .error e => ⟨sink, some e⟩
      | .ok t =>
        ⟨(sink.put (Text.encode t)).1, (sink.put (Text.encode t)).2.map .stream⟩ := by
  rw [value_generate, document]
  cases (load l disk firefox openssl).outcome with
  | error e => rfl
  | ok s =>
    show (s.render sink).value = _
    rw [value_render_eq_put]
    dsimp only [Except.bind]
    cases s.blocks.outcome with
    | error e => rfl
    | ok bs => rfl

/-- **All of the file, or the beginning for which there is room.**  When the blocks fail nothing is
written.  Otherwise the first bytes of the text are written, as many as the sink takes; the writing
succeeds exactly when the sink takes all of them, and fails only for want of room.  However the text
is cut into pieces, the outcome is the same. -/
theorem render_writes_prefix (s : Sources) (n : Nat) (w : Bytes) :
    match s.blocks.outcome with
    | .error e => (s.render ⟨some n, w⟩).value = ⟨⟨some n, w⟩, some e⟩
    | .ok bs =>
      let text := Text.encode (Document.header ++ ['\n'] ++ bs.flatMap fun b => b.text ++ ['\n'])
      let file := (s.render ⟨some n, w⟩).value
      file.sink = ⟨some (n - text.length), w ++ text.take (min n text.length)⟩ ∧
      (file.failure? = none ↔ text.length ≤ n) ∧
      (∀ e, file.failure? = some e → ∃ cause, e = .stream cause ∧ cause.kind = .writeZero) ∧
      ∀ cuts : List Bytes, cuts.flatten = text →
        file = ⟨(Sink.putAll ⟨some n, w⟩ cuts).1,
          (Sink.putAll ⟨some n, w⟩ cuts).2.map .stream⟩ := by
  have hput := s.value_render_eq_put ⟨some n, w⟩
  cases hb : s.blocks.outcome with
  | error e =>
    rw [hb] at hput
    exact hput
  | ok bs =>
    rw [hb] at hput
    simp only [Document.text_eq] at hput
    dsimp -zeta only
    intro text file
    have hfile : file = ⟨(Sink.put ⟨some n, w⟩ text).1,
        (Sink.put ⟨some n, w⟩ text).2.map .stream⟩ := hput
    refine ⟨?_, ?_, ?_, ?_⟩
    · rw [hfile, Sink.put_limited, ← List.take_eq_take_min]
    · rw [hfile, Option.map_eq_none_iff, Sink.put_fault_eq_none_iff]
    · intro e he
      rw [hfile] at he
      obtain ⟨cause, hcause, rfl⟩ := Option.map_eq_some_iff.1 he
      exact ⟨cause, rfl, by rw [Sink.eq_noRoom_of_put hcause]; rfl⟩
    · intro cuts hcuts
      rw [hfile, Sink.putAll_eq_put, hcuts]

end Upkeep.Sources
