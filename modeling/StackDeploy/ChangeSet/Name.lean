import StackDeploy.Text.Hex

/-!
# Names of change sets

Every change set gets a name of its own, which holds a random UUID.
-/

namespace StackDeploy

/-- The two hexadecimal digits of a byte. -/
def byteDigits (b : UInt8) : List Char :=
  [Text.hexDigit (b.toNat / 16), Text.hexDigit (b.toNat % 16)]

/-- Sixteen random bytes with the marks of a random UUID: version 4 and the variant of the
standard. -/
def markRandom (bytes : List UInt8) : List UInt8 :=
  (bytes.modify 6 fun b => (b &&& 0x0F) ||| 0x40).modify 8 fun b => (b &&& 0x3F) ||| 0x80

/-- The text of a **random UUID** made of sixteen bytes. -/
def randomUuid (bytes : List UInt8) : String :=
  let digits := (markRandom bytes).flatMap byteDigits
  let group (start length : Nat) := String.ofList ((digits.drop start).take length)
  group 0 8 ++ "-" ++ group 8 4 ++ "-" ++ group 12 4 ++ "-" ++ group 16 4 ++ "-" ++ group 20 12

/-- The name of a change set, made of sixteen random bytes. -/
def changeSetName (bytes : List UInt8) : String := "stackctl-" ++ randomUuid bytes

end StackDeploy
