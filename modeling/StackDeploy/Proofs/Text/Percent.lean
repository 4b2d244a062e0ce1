import StackDeploy.Proofs.Text.Utf8
import StackDeploy.Text.Percent

/-!
# What percent-encoded text stands for

Encoding is undone by decoding when the percent sign is among the characters that are encoded. A
percent sign that was there before then comes back as itself, whatever it is followed by.

* `Percent.decode_encode` — an encoded text stands for the bytes of the text.
* `Percent.decode?_decode_encode` — and is read as the text.
* `Percent.forall_mem_encode` — the characters that encoded text is made of.
-/

namespace StackDeploy.Percent

open Text

variable {kept : Char → Bool}

theorem byte?_digits (b : UInt8) :
    byte? (upperHexDigit (b.toNat / 16)) (upperHexDigit (b.toNat % 16)) = some b := by
  have hsize : b.toNat < 256 := b.toNat_lt
  rw [byte?, hexValue?_upperHexDigit _ (by omega), hexValue?_upperHexDigit _ (by omega)]
  dsimp only
  rw [show b.toNat / 16 * 16 + b.toNat % 16 = b.toNat by omega, UInt8.ofNat_toNat]

/-! ### Decoding what was encoded -/

theorem decode_encodeByte_append (b : UInt8) (rest : List Char) :
    decode (encodeByte b ++ rest) = b :: decode rest := by
  rw [encodeByte, List.cons_append, List.cons_append, List.singleton_append, decode, byte?_digits]

theorem decode_encodeBytes_append (bytes : List UInt8) (rest : List Char) :
    decode (bytes.flatMap encodeByte ++ rest) = bytes ++ decode rest := by
  induction bytes with
  | nil => rfl
  | cons b bytes ih =>
    rw [List.flatMap_cons, List.append_assoc, decode_encodeByte_append, ih, List.cons_append]

/-- A character that is no percent sign stands for itself. -/
theorem decode_cons {c : Char} (h : c ≠ '%') (rest : List Char) :
    decode (c :: rest) = String.utf8EncodeChar c ++ decode rest := by
  rw [decode]
  rintro _ _ _ rfl
  exact absurd rfl h

theorem decode_encodeChar_append (hkept : kept '%' = false) (c : Char) (rest : List Char) :
    decode (encodeChar kept c ++ rest) = String.utf8EncodeChar c ++ decode rest := by
  rw [encodeChar]
  split
  next h =>
    refine decode_cons ?_ rest
    rintro rfl
    exact absurd h (by rw [hkept]; decide)
  next => exact decode_encodeBytes_append _ rest

/-- An encoded text **stands for** the bytes of the text. -/
theorem decode_encode (hkept : kept '%' = false) (cs : List Char) :
    decode (encode kept cs) = cs.flatMap String.utf8EncodeChar := by
  induction cs with
  | nil => rfl
  | cons c cs ih =>
    rw [encode, List.flatMap_cons, decode_encodeChar_append hkept, ← encode, ih,
      List.flatMap_cons]

/-- An encoded text is **read as** the text. -/
theorem decode?_decode_encode (hkept : kept '%' = false) (s : String) :
    Utf8.decode? (decode (encode kept s.toList)) = some s := by
  rw [decode_encode hkept, Utf8.decode?_encodeChars, String.ofList_toList]

/-! ### The characters of encoded text -/

/-- The characters that the encoding of a byte is made of. -/
def marks : List Char := "%0123456789ABCDEF".toList

theorem upperHexDigit_mem_marks : ∀ n < 16, upperHexDigit n ∈ marks := by decide

theorem mem_marks_of_mem_encodeByte {b : UInt8} {c : Char} (h : c ∈ encodeByte b) : c ∈ marks := by
  have hsize : b.toNat < 256 := b.toNat_lt
  rw [encodeByte, List.mem_cons, List.mem_cons, List.mem_singleton] at h
  rcases h with rfl | rfl | rfl
  · decide
  · exact upperHexDigit_mem_marks _ (by omega)
  · exact upperHexDigit_mem_marks _ (by omega)

/-- What holds of the characters that are kept, and of the marks of encoded bytes, holds of all
characters of an encoded text. -/
theorem forall_mem_encode {p : Char → Prop} {cs : List Char}
    (hkept : ∀ c ∈ cs, kept c = true → p c) (hmarks : ∀ c ∈ marks, p c) :
    ∀ c ∈ encode kept cs, p c := by
  intro c hc
  obtain ⟨d, hd, hmem⟩ := List.mem_flatMap.mp hc
  rw [encodeChar] at hmem
  split at hmem
  next h => exact List.mem_singleton.mp hmem ▸ hkept d hd h
  next =>
    obtain ⟨b, -, hb⟩ := List.mem_flatMap.mp hmem
    exact hmarks c (mem_marks_of_mem_encodeByte hb)

end StackDeploy.Percent
