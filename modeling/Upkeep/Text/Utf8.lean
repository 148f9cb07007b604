import Upkeep.Text.Basic

/-!
# Bytes of a text

`encode` writes a text in UTF-8 and `decode` reads it back.  Main statement: `decode` accepts
exactly what `encode` writes (`decode_eq_some_iff`), so each text has one written form.
-/

namespace Upkeep

abbrev Bytes := List UInt8

namespace Text

def encode (t : Text) : Bytes := t.flatMap String.utf8EncodeChar

def decode (b : Bytes) : Option Text := b.toByteArray.utf8Decode?.map Array.toList

@[simp] theorem encode_nil : encode [] = [] := rfl

@[simp] theorem encode_cons (c : Char) (t : Text) :
    encode (c :: t) = String.utf8EncodeChar c ++ encode t := rfl

@[simp] theorem encode_append (s t : Text) : encode (s ++ t) = encode s ++ encode t := by
  simp [encode]

theorem flatten_map_encode (ts : List Text) : (ts.map encode).flatten = encode ts.flatten := by
  induction ts with
  | nil => rfl
  | cons t ts ih => rw [List.map_cons, List.flatten_cons, ih, List.flatten_cons, encode_append]

theorem toByteArray_encode (t : Text) : (encode t).toByteArray = t.utf8Encode := by
  rfl

theorem decode_encode (t : Text) : decode (encode t) = some t := by
  simp [decode, toByteArray_encode]

/-- `decode` accepts exactly what `encode` writes -/
theorem decode_eq_some_iff {b : Bytes} {t : Text} : decode b = some t ↔ b = encode t := by
  refine ⟨fun h => ?_, fun h => h ▸ decode_encode t⟩
  obtain ⟨a, ha, rfl⟩ := Option.map_eq_some_iff.1 h
  have h1 : a.toList.utf8Encode = b.toByteArray := by
    simpa [ha] using ByteArray.utf8Encode_get_utf8Decode? (b := b.toByteArray) (h := by simp [ha])
  exact (List.toByteArray_inj.1 (toByteArray_encode a.toList ▸ h1)).symm

theorem encodeChar_of_mem_lt {c : Char} {b : UInt8} (h : b ∈ String.utf8EncodeChar c)
    (hb : b.toNat < 128) : c.toNat = b.toNat ∧ String.utf8EncodeChar c = [b] := by
  unfold String.utf8EncodeChar at h ⊢
  simp only at h ⊢
  split at h
  · next hc =>
    rw [if_pos hc]
    obtain rfl := List.mem_singleton.1 h
    refine ⟨?_, rfl⟩
    rw [UInt8.toNat_ofNat']
    show c.val.toNat = _
    omega
  · -- every byte of a longer form is at least 128
    exfalso
    split at h
    · simp only [List.mem_cons, List.not_mem_nil, or_false] at h
      rcases h with rfl | rfl <;> rw [UInt8.toNat_ofNat'] at hb <;> omega
    · split at h
      · simp only [List.mem_cons, List.not_mem_nil, or_false] at h
        rcases h with rfl | rfl | rfl <;> rw [UInt8.toNat_ofNat'] at hb <;> omega
      · simp only [List.mem_cons, List.not_mem_nil, or_false] at h
        rcases h with rfl | rfl | rfl | rfl <;> rw [UInt8.toNat_ofNat'] at hb <;> omega

/-- a byte below 128 is in the written form only as its own character -/
theorem mem_of_mem_encode {b : UInt8} (hb : b.toNat < 128) {t : Text} (h : b ∈ encode t) :
    Char.ofNat b.toNat ∈ t := by
  obtain ⟨c, hc, hbc⟩ := List.mem_flatMap.1 h
  rw [← (encodeChar_of_mem_lt hbc hb).1, Char.ofNat_toNat]
  exact hc

theorem encode_inj {s t : Text} (h : encode s = encode t) : s = t := by
  have := decode_encode s
  rw [h, decode_encode] at this
  exact (Option.some.inj this).symm

end Text

end Upkeep
