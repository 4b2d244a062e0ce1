/-!
# UTF-8

Decoding bytes to text, strictly or with replacement characters.

* `Utf8.decode?` — the text of a list of bytes, if they are well-formed UTF-8.
* `Utf8.decodeLossy` — the text in which every maximal ill-formed part is one replacement character.
-/

namespace StackDeploy.Utf8

/-- The byte continues a sequence and has a value between the two bounds. -/
def isBetween (low high : Nat) (b : UInt8) : Bool :=
  low ≤ b.toNat && b.toNat ≤ high

/-- The number of bytes after a leading byte, the bounds of the first of them, and the bits that the
leading byte contributes. -/
def leading? (b : UInt8) : Option (Nat × Nat × Nat × Nat) :=
  let n := b.toNat
  if n < 0x80 then some (0, 0, 0, n)
  else if 0xC2 ≤ n ∧ n ≤ 0xDF then some (1, 0x80, 0xBF, n - 0xC0)
  else if n = 0xE0 then some (2, 0xA0, 0xBF, 0)
  else if n = 0xED then some (2, 0x80, 0x9F, 0xD)
  else if 0xE1 ≤ n ∧ n ≤ 0xEF then some (2, 0x80, 0xBF, n - 0xE0)
  else if n = 0xF0 then some (3, 0x90, 0xBF, 0)
  else if 0xF1 ≤ n ∧ n ≤ 0xF3 then some (3, 0x80, 0xBF, n - 0xF0)
  else if n = 0xF4 then some (3, 0x80, 0x8F, 4)
  else none

/-- Takes up to `count` continuation bytes, the first within the given bounds; gives the value so
far, whether all were there, and the rest. -/
def takeContinuation (count low high value : Nat) (bs : List UInt8) : Nat × Bool × List UInt8 :=
  match count, bs with
  | 0, bs => (value, true, bs)
  | _ + 1, [] => (value, false, [])
  | count + 1, b :: rest =>
    if isBetween low high b then
      takeContinuation count 0x80 0xBF (value * 64 + (b.toNat - 0x80)) rest
    else (value, false, b :: rest)

/-- One step of decoding: a character, or nothing for a maximal ill-formed part, and the rest. -/
def next : List UInt8 → Option (Option Char × List UInt8)
  | [] => none
  | b :: rest =>
    match leading? b with
    | none => some (none, rest)
    | some (count, low, high, value) =>
      match takeContinuation count low high value rest with
      | (value, true, rest) => some (some (Char.ofNat value), rest)
      | (_, false, rest) => some (none, rest)

/-- The characters of a list of bytes, where nothing stands for an ill-formed part. Every step takes
at least one byte, so the number of bytes bounds the steps. -/
def pieces : Nat → List UInt8 → List (Option Char)
  | 0, _ => []
  | fuel + 1, bs =>
    match next bs with
    | none => []
    | some (c, rest) => c :: pieces fuel rest

/-- The characters of a list of bytes, where nothing stands for an ill-formed part. -/
def chars (bs : List UInt8) : List (Option Char) := pieces bs.length bs

/-- The text of well-formed bytes. -/
def decode? (bs : List UInt8) : Option String :=
  ((chars bs).mapM id).map String.ofList

/-- The text of bytes, with the replacement character for every ill-formed part. -/
def decodeLossy (bs : List UInt8) : String :=
  String.ofList ((chars bs).map (·.getD '\uFFFD'))

/-- The bytes of a text. -/
def encode (s : String) : List UInt8 := s.toUTF8.toList

end StackDeploy.Utf8
