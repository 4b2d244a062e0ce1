import Mathlib.Tactic.SplitIfs
import StackDeploy.Text.Utf8

/-!
# Reading encoded text

The bytes of a text are read as that text: every character is decoded from the bytes that encode it,
whatever comes after them.

* `Utf8.next_encodeChar` — the first character of encoded text, by the length of its encoding.
* `Utf8.decode?_encodeChars` — the bytes of a text are read as the text.
-/

namespace StackDeploy.Utf8

variable {b : UInt8} {rest rest' : List UInt8} {count low high value total : Nat}

theorem toNat_byte {n : Nat} (h : n < 256) : (UInt8.ofNat n).toNat = n :=
  UInt8.toNat_ofNat_of_lt' h

theorem next_of_leading? (hleading : leading? b = some (count, low, high, value))
    (htake : takeContinuation count low high value rest = (total, true, rest')) :
    next (b :: rest) = some (some (Char.ofNat total), rest') := by
  simp only [next, hleading, htake]

/-- A byte that **continues** a sequence adds six bits to what was read. -/
theorem takeContinuation_byte {bits : Nat} (hbits : bits < 64) (hlow : low ≤ bits + 128)
    (hhigh : bits + 128 ≤ high) (value : Nat) (rest : List UInt8) :
    takeContinuation (count + 1) low high value (UInt8.ofNat (bits + 128) :: rest) =
      takeContinuation count 0x80 0xBF (value * 64 + bits) rest := by
  have hbyte : (UInt8.ofNat (bits + 128)).toNat = bits + 128 := toNat_byte (by omega)
  rw [takeContinuation, isBetween, hbyte, decide_eq_true hlow, decide_eq_true hhigh,
    Nat.add_sub_cancel]
  rfl

/-! ### Leading bytes -/

theorem leading?_one {v : Nat} (h : v ≤ 127) :
    leading? (UInt8.ofNat v) = some (0, 0, 0, v) := by
  rw [leading?, toNat_byte (by omega), if_pos (by omega)]

theorem leading?_two {bits : Nat} (hlow : 2 ≤ bits) (hhigh : bits < 32) :
    leading? (UInt8.ofNat (bits + 192)) = some (1, 0x80, 0xBF, bits) := by
  rw [leading?, toNat_byte (by omega), if_neg (by omega), if_pos (by omega), Nat.add_sub_cancel]

/-- A leading byte of three bounds the second one: small values have shorter encodings, and
surrogates have none. -/
theorem leading?_three (bits second : Nat) (hbits : bits < 16) (hsecond : second < 64)
    (hlong : bits = 0 → 32 ≤ second) (hsurrogate : bits = 13 → second < 32) :
    ∃ low high, leading? (UInt8.ofNat (bits + 224)) = some (2, low, high, bits) ∧
      low ≤ second + 128 ∧ second + 128 ≤ high := by
  rw [leading?, toNat_byte (by omega), if_neg (by omega), if_neg (by omega)]
  by_cases hzero : bits = 0
  · subst hzero
    have hsecond := hlong rfl
    exact ⟨0xA0, 0xBF, rfl, by omega, by omega⟩
  by_cases hthirteen : bits = 13
  · subst hthirteen
    have hsecond := hsurrogate rfl
    exact ⟨0x80, 0x9F, rfl, by omega, by omega⟩
  rw [if_neg (by omega), if_neg (by omega), if_pos (by omega), Nat.add_sub_cancel]
  exact ⟨0x80, 0xBF, rfl, by omega, by omega⟩

/-- A leading byte of four bounds the second one: small values have shorter encodings, and there is
a greatest character. -/
theorem leading?_four (bits second : Nat) (hbits : bits ≤ 4) (hsecond : second < 64)
    (hlong : bits = 0 → 16 ≤ second) (hgreatest : bits = 4 → second < 16) :
    ∃ low high, leading? (UInt8.ofNat (bits + 240)) = some (3, low, high, bits) ∧
      low ≤ second + 128 ∧ second + 128 ≤ high := by
  rw [leading?, toNat_byte (by omega), if_neg (by omega), if_neg (by omega), if_neg (by omega),
    if_neg (by omega), if_neg (by omega)]
  by_cases hzero : bits = 0
  · subst hzero
    have hsecond := hlong rfl
    exact ⟨0x90, 0xBF, rfl, by omega, by omega⟩
  by_cases hfour : bits = 4
  · subst hfour
    have hsecond := hgreatest rfl
    exact ⟨0x80, 0x8F, rfl, by omega, by omega⟩
  rw [if_neg (by omega), if_pos (by omega), Nat.add_sub_cancel]
  exact ⟨0x80, 0xBF, rfl, by omega, by omega⟩

/-! ### Texts -/

/-- The **first character** is read from its encoding. -/
theorem next_encodeChar (c : Char) (rest : List UInt8) :
    next (String.utf8EncodeChar c ++ rest) = some (some c, rest) := by
  have hvalid : c.toNat < 0xD800 ∨ 0xDFFF < c.toNat ∧ c.toNat < 0x110000 := c.valid
  have hval : c.val.toNat = c.toNat := rfl
  have hread : some (some c, rest) = some (some (Char.ofNat c.toNat), rest) := by
    rw [Char.ofNat_toNat]
  rw [hread, String.utf8EncodeChar, hval]
  generalize c.toNat = v at hvalid
  have hlast : v % 64 < 64 := Nat.mod_lt _ (by decide)
  have hthird : v / 64 % 64 < 64 := Nat.mod_lt _ (by decide)
  have hsecond : v / 4096 % 64 < 64 := Nat.mod_lt _ (by decide)
  split_ifs with hone htwo hthree
  · exact next_of_leading? (leading?_one hone) rfl
  · rw [List.cons_append, List.singleton_append]
    refine next_of_leading? (leading?_two (by omega) (by omega)) ?_
    rw [takeContinuation_byte hlast (by omega) (by omega), takeContinuation]
    congr 1
    omega
  · rw [List.cons_append, List.cons_append, List.singleton_append]
    obtain ⟨low, high, hleading, hlow, hhigh⟩ := leading?_three (v / 4096 % 16)
      (v / 64 % 64) (by omega) hthird (by omega) (by omega)
    refine next_of_leading? hleading ?_
    rw [takeContinuation_byte hthird hlow hhigh, takeContinuation_byte hlast (by omega) (by omega),
      takeContinuation]
    congr 1
    omega
  · rw [List.cons_append, List.cons_append, List.cons_append, List.singleton_append]
    obtain ⟨low, high, hleading, hlow, hhigh⟩ := leading?_four (v / 262144 % 8)
      (v / 4096 % 64) (by omega) hsecond (by omega) (by omega)
    refine next_of_leading? hleading ?_
    rw [takeContinuation_byte hsecond hlow hhigh,
      takeContinuation_byte hthird (by omega) (by omega),
      takeContinuation_byte hlast (by omega) (by omega), takeContinuation]
    congr 1
    omega

theorem pieces_encodeChars {fuel : Nat} (cs : List Char)
    (hfuel : (cs.flatMap String.utf8EncodeChar).length ≤ fuel) :
    pieces fuel (cs.flatMap String.utf8EncodeChar) = cs.map some := by
  induction cs generalizing fuel with
  | nil => cases fuel <;> rfl
  | cons c cs ih =>
    have hpos : 0 < (String.utf8EncodeChar c).length := by
      rw [String.length_utf8EncodeChar]
      exact Char.utf8Size_pos c
    rw [List.flatMap_cons, List.length_append] at hfuel
    obtain ⟨fuel, rfl⟩ := Nat.exists_eq_add_one_of_ne_zero (n := fuel) (by omega)
    have hrest : pieces fuel (cs.flatMap String.utf8EncodeChar) = cs.map some := ih (by omega)
    simp only [List.flatMap_cons, pieces, next_encodeChar, hrest, List.map_cons]

/-- The bytes of a text are **read as the text**. -/
theorem decode?_encodeChars (cs : List Char) :
    decode? (cs.flatMap String.utf8EncodeChar) = some (String.ofList cs) := by
  have hall (cs : List Char) : (cs.map some).mapM id = some cs := by
    induction cs with
    | nil => rfl
    | cons c cs ih => simp [ih]
  rw [decode?, chars, pieces_encodeChars cs (Nat.le_refl _), hall, Option.map_some]

end StackDeploy.Utf8
