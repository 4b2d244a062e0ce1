import StackDeploy.Text.Hex

/-!
# Percent-encoding

A character that must not stand in a text as it is can be written byte by byte, each byte of its
UTF-8 encoding as a percent sign and two hexadecimal digits.

* `Percent.encode` — encodes all characters that are not to be kept.
* `Percent.decode` — the bytes that an encoded text stands for.
-/

namespace StackDeploy.Percent

open Text

/-- A byte as a percent sign and two digits. -/
def encodeByte (b : UInt8) : List Char :=
  ['%', upperHexDigit (b.toNat / 16), upperHexDigit (b.toNat % 16)]

/-- A character as it is, if it is kept, and else the bytes of its encoding. -/
def encodeChar (kept : Char → Bool) (c : Char) : List Char :=
  if kept c then [c] else (String.utf8EncodeChar c).flatMap encodeByte

/-- The text in which all characters that are not kept are **encoded**. -/
def encode (kept : Char → Bool) (cs : List Char) : List Char :=
  cs.flatMap (encodeChar kept)

/-- The byte that two digits after a percent sign stand for. -/
def byte? (high low : Char) : Option UInt8 :=
  match hexValue? high, hexValue? low with
  | some h, some l => some (UInt8.ofNat (h * 16 + l))
  | _, _ => none

/-- The bytes that a text **stands for**. A percent sign without two digits stands for itself. -/
def decode : List Char → List UInt8
  | [] => []
  | '%' :: high :: low :: rest =>
    match byte? high low with
    | some b => b :: decode rest
    | none => String.utf8EncodeChar '%' ++ decode (high :: low :: rest)
  | c :: rest => String.utf8EncodeChar c ++ decode rest

end StackDeploy.Percent
