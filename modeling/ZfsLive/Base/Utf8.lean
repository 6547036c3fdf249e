/-
UTF-8 texts as lists of bytes.

Lean's own encoder and decoder, on lists of bytes instead of byte arrays, for programs that collect
the bytes of a text piece by piece: when does a part of an encoded text decode, and to what?

* `Utf8.encode`, `Utf8.decode` — the two directions;
* `Utf8.decode_eq_some_iff` — what decodes is what was encoded;
* `Utf8.isPrefix_of_encode_append` — a text that is encoded at the start of an encoded text is a
  prefix of it;
* `Utf8.isSome_decode_append_iff` — whole characters in front change nothing.
-/

import Mathlib.Data.List.Basic

set_option relaxedAutoImplicit false
set_option autoImplicit false

namespace Utf8

/-- The bytes of a text. -/
def encode (t : List Char) : List UInt8 := t.flatMap String.utf8EncodeChar

/-- The text of some bytes, unless they are malformed. -/
def decode (bs : List UInt8) : Option (List Char) := bs.toByteArray.utf8Decode?.map Array.toList

@[simp] theorem encode_nil : encode [] = [] := rfl

@[simp] theorem encode_append (s t : List Char) : encode (s ++ t) = encode s ++ encode t :=
  List.flatMap_append

theorem toByteArray_encode (t : List Char) : (encode t).toByteArray = t.utf8Encode := rfl

@[simp] theorem decode_encode (t : List Char) : decode (encode t) = some t := by
  rw [decode, toByteArray_encode, List.utf8Decode?_utf8Encode]
  rfl

/-- What decodes is what was encoded. -/
theorem decode_eq_some_iff {bs : List UInt8} {t : List Char} : decode bs = some t ↔ bs = encode t := by
  refine ⟨fun h => ?_, fun h => h ▸ decode_encode t⟩
  obtain ⟨a, ha, rfl⟩ := Option.map_eq_some_iff.1 h
  have hsome : bs.toByteArray.utf8Decode?.isSome := Option.isSome_of_eq_some ha
  have hback := ByteArray.utf8Encode_get_utf8Decode? (h := hsome)
  rw [Option.get_of_eq_some hsome ha, ← toByteArray_encode] at hback
  exact (List.toByteArray_inj.1 hback).symm

theorem isSome_decode_iff {bs : List UInt8} : (decode bs).isSome ↔ ∃ t, bs = encode t := by
  simp only [Option.isSome_iff_exists, decode_eq_some_iff]

theorem encode_injective {s t : List Char} (h : encode s = encode t) : s = t := by
  have hd := decode_encode s
  rw [h, decode_encode] at hd
  exact (Option.some.inj hd).symm

/-- A text that is encoded at the start of an encoded text is a prefix of it. -/
theorem isPrefix_of_encode_append {s t : List Char} {bs : List UInt8}
    (h : encode s ++ bs = encode t) : s <+: t := by
  refine List.isPrefix_of_utf8Encode_append_eq_utf8Encode bs.toByteArray ?_
  rw [← toByteArray_encode, ← toByteArray_encode, ← List.toByteArray_append, h]

/-- Whole characters in front change nothing. -/
theorem isSome_decode_append_iff (s : List Char) (bs : List UInt8) :
    (decode (encode s ++ bs)).isSome ↔ (decode bs).isSome := by
  rw [isSome_decode_iff, isSome_decode_iff]
  constructor
  · rintro ⟨t, ht⟩
    obtain ⟨u, rfl⟩ := isPrefix_of_encode_append ht
    rw [encode_append] at ht
    exact ⟨u, List.append_cancel_left ht⟩
  · rintro ⟨u, rfl⟩
    exact ⟨s ++ u, (encode_append s u).symm⟩

end Utf8
