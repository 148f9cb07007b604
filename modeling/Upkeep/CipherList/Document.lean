import Upkeep.CipherList.Selection
import Upkeep.Files.Sink

/-!
# The generated file

A comment at the top, then the blocks, each ended by a line feed.  The blocks are computed before
the first byte is written, so a failure in them leaves the sink as it was.
-/

namespace Upkeep

namespace Document

/-- the comment at the top, without a line feed at its end -/
def header : Text := ['\n'].intercalate [
  "/* This is an include file used to define the list of ciphers clients should".toList,
  " * advertise.  Before including it, you should define the CIPHER and XCIPHER".toList,
  " * macros.".toList,
  " *".toList,
  " * This file was automatically generated by get_mozilla_ciphers.py.".toList,
  " */".toList]

def pieces (bs : List Block) : List Text :=
  (header ++ ['\n']) :: bs.map fun b => b.text ++ ['\n']

def text (bs : List Block) : Text := (pieces bs).flatten

/-- the comment at the top and the blocks, each with a line feed -/
theorem text_eq (bs : List Block) :
    text bs = header ++ ['\n'] ++ bs.flatMap fun b => b.text ++ ['\n'] := by
  rw [text, pieces, List.flatten_cons, List.flatMap_def]

end Document

/-- what became of a file: the sink it was written to, and the failure that ended the writing -/
structure Written where
  sink : Sink
  failure? : Option Failure
deriving DecidableEq, Repr

namespace Sources

def render (s : Sources) (sink : Sink) : Noted Written := do
  match ← s.blocks.run with
  | .error e => pure ⟨sink, some e⟩
  | .ok bs =>
    let (sink', fault) := sink.putAll ((Document.pieces bs).map Text.encode)
    pure ⟨sink', fault.map .stream⟩

def generate (l : Layout) (disk : Disk) (firefox openssl : Path) (sink : Sink) : Noted Written := do
  match ← (load l disk firefox openssl).run with
  | .error e => pure ⟨sink, some e⟩
  | .ok s => s.render sink

/-! ## what becomes of the file -/

theorem value_render (s : Sources) (sink : Sink) :
    (s.render sink).value =
      match s.blocks.outcome with
      | .error e => ⟨sink, some e⟩
      | .ok bs =>
        ⟨(sink.putAll ((Document.pieces bs).map Text.encode)).1,
          (sink.putAll ((Document.pieces bs).map Text.encode)).2.map .stream⟩ := by
  unfold render Run.outcome
  rw [Noted.value_bind]
  cases s.blocks.run.value with
  | error e => rfl
  | ok bs => rfl

theorem value_generate (l : Layout) (disk : Disk) (firefox openssl : Path) (sink : Sink) :
    (generate l disk firefox openssl sink).value =
      match (load l disk firefox openssl).outcome with
      | .error e => ⟨sink, some e⟩
      | .ok s => (s.render sink).value := by
  unfold generate Run.outcome
  rw [Noted.value_bind]
  cases (load l disk firefox openssl).run.value with
  | error e => rfl
  | ok s => rfl

/-- a file written without a failure has every byte of its text -/
theorem written_of_render {s : Sources} {sink : Sink}
    (h : (s.render sink).value.failure? = none) :
    ∃ bs, s.blocks.outcome = .ok bs ∧
      (s.render sink).value.sink.written = sink.written ++ Text.encode (Document.text bs) := by
  rw [value_render] at h ⊢
  cases hb : s.blocks.outcome with
  | error e =>
    rw [hb] at h
    cases h
  | ok bs =>
    rw [hb] at h
    have hp : sink.putAll ((Document.pieces bs).map Text.encode) = (_, none) :=
      Prod.ext rfl (Option.map_eq_none_iff.1 h)
    refine ⟨bs, rfl, ?_⟩
    show (sink.putAll ((Document.pieces bs).map Text.encode)).1.written = _
    rw [Sink.written_of_putAll hp, Text.flatten_map_encode]
    rfl

theorem written_of_generate {l : Layout} {disk : Disk} {firefox openssl : Path} {sink : Sink}
    (h : (generate l disk firefox openssl sink).value.failure? = none) :
    ∃ s bs, (load l disk firefox openssl).outcome = .ok s ∧ s.blocks.outcome = .ok bs ∧
      (generate l disk firefox openssl sink).value.sink.written =
        sink.written ++ Text.encode (Document.text bs) := by
  rw [value_generate] at h ⊢
  cases hl : (load l disk firefox openssl).outcome with
  | error e =>
    rw [hl] at h
    cases h
  | ok s =>
    rw [hl] at h
    obtain ⟨bs, hb, hw⟩ := written_of_render h
    exact ⟨s, bs, rfl, hb, hw⟩

end Sources

end Upkeep
