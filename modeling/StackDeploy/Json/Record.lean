import StackDeploy.Json.Basic

/-!
# Records in JSON

Reading records out of JSON values. A record may be given as an object, whose unknown fields are
ignored, or as an array of its fields in the order they are declared.

* `Json.slots?` — what a value gives for every field of a record.
* `Slot.required`, `Slot.orDefault`, `Slot.orNone` — how a field treats what it is given.
-/

namespace StackDeploy

namespace Json

/-- What is **given for a field** of a record. -/
inductive Slot where
  | given (value : Json)
  /-- The object does not have the field. -/
  | missing
  /-- The array ends before the field. -/
  | cut

namespace Slot

/-- A field that must be given. -/
def required {α : Type} (decode : Json → Option α) : Slot → Option α
  | given value => decode value
  | missing | cut => none

/-- A field with a default value. -/
def orDefault {α : Type} (default : α) (decode : Json → Option α) : Slot → Option α
  | given value => decode value
  | missing | cut => some default

/-- A field that an object need not have; an array must have it. -/
def orNone {α : Type} (decode : Json → Option (Option α)) : Slot → Option (Option α)
  | given value => decode value
  | missing => some none
  | cut => none

end Slot

/-- The values that an object gives for a name. -/
def valuesOf (name : String) (fields : List (Option String × Json)) : List Json :=
  fields.filterMap fun f => if f.1 = some name then some f.2 else none

/-- What an object gives for a field, if it does not give it twice. -/
def slotOf? (fields : List (Option String × Json)) (name : String) : Option Slot :=
  match valuesOf name fields with
  | [] => some .missing
  | [value] => some (.given value)
  | _ => none

/-- What an array gives for the fields in order. -/
def positional? : List String → List Json → Option (List Slot)
  | [], [] => some []
  | [], _ :: _ => none
  | _ :: names, [] => (positional? names []).map (.cut :: ·)
  | _ :: names, value :: values => (positional? names values).map (.given value :: ·)

/-- What a value gives for the fields with these names. Every name in an object must be a text, no
field of the record may be given twice, and an array may not be longer than the record. -/
def slots? (names : List String) : Json → Option (List Slot)
  | .object fields => if fields.all (·.1.isSome) then names.mapM (slotOf? fields) else none
  | .array items => positional? names items
  | _ => none

/-! ### Parts of records -/

/-- A text. -/
def asText? : Json → Option String
  | .string s => s
  | _ => none

/-- A text, or nothing for null. -/
def asOptionalText? : Json → Option (Option String)
  | .null => some none
  | .string (some s) => some (some s)
  | _ => none

/-- A truth value. -/
def asBool? : Json → Option Bool
  | .bool b => some b
  | _ => none

/-- A natural number below a bound, written with digits only. -/
def asNat? (bound : Nat) : Json → Option Nat
  | .number digits => (Text.readNat? digits.toList).filter (· < bound)
  | _ => none

/-- A list of values. -/
def asList? {α : Type} (decode : Json → Option α) : Json → Option (List α)
  | .array items => items.mapM decode
  | _ => none

/-- One of a fixed set of words: the word as a text, or an object with the word as its only field,
which is null. -/
def asWord? {α : Type} (words : List (String × α)) : Json → Option α
  | .string (some s) => words.lookup s
  | .object [(some s, .null)] => words.lookup s
  | _ => none

end Json

end StackDeploy
