import StackDeploy.Yaml.Node

/-!
# Records in YAML

Reading records out of documents. What kind of value is wanted decides how a scalar is read: where a
text is wanted, every scalar is its own text, whatever else it could mean.

* `Document.fields?` — what a mapping gives for the fields of a record.
* `Document.asText?`, `Document.asOption?`, `Document.asNumber?`, `Document.asWord?`,
  `Document.asTexts?` — the values of fields.
-/

namespace StackDeploy

/-- Inserts an entry into a table that is sorted by its keys, in place of one with the same key. -/
def Table.insert (key value : String) : Table String String → Table String String
  | [] => [(key, value)]
  | (k, v) :: rest =>
    if k = key then (key, value) :: rest
    else if key < k then (key, value) :: (k, v) :: rest
    else (k, v) :: Table.insert key value rest

namespace Yaml

/-- The words for null. -/
def isNullWord (text : String) : Bool :=
  text = "null" || text = "Null" || text = "NULL" || text = "~"

/-- The tags for null and for integers. -/
def nullTag : String := "tag:yaml.org,2002:null"

@[inherit_doc nullTag]
def intTag : String := "tag:yaml.org,2002:int"

/-! ### Numbers -/

/-- The digits that may follow the given mark of a base. -/
def basedNumber? (base : Nat) (digits : List Char) : Option Nat :=
  if digits.isEmpty then none
  else
    digits.foldlM (fun value c =>
      ((Text.hexValue? c).filter (· < base)).map (value * base + ·)) 0

/-- The greatest number that a field can hold. -/
def maxNumber : Nat := UInt64.size - 1

/-- The number that a text without a sign writes: hexadecimal, octal, binary or decimal. A decimal
number has no zeros before it. -/
def unsignedNumber? (text : List Char) : Option Nat :=
  let based := match text with
    | '0' :: 'x' :: digits => basedNumber? 16 digits
    | '0' :: 'o' :: digits => basedNumber? 8 digits
    | '0' :: 'b' :: digits => basedNumber? 2 digits
    | '0' :: _ :: _ => none
    | digits => basedNumber? 10 digits
  based.filter (· ≤ maxNumber)

/-- The number that a text writes, perhaps with a plus sign. -/
def number? (text : String) : Option Nat :=
  match text.toList with
  | '+' :: rest => unsignedNumber? rest
  | chars => unsignedNumber? chars

namespace Document

variable (d : Document)

/-! ### Values -/

/-- A text: any scalar. -/
def asText? (node : Node) : Option String := do
  match ← d.resolve? node with
  | .scalar _ _ text => some text
  | _ => none

/-- A number. -/
def asNumber? (node : Node) : Option Nat := do
  match ← d.resolve? node with
  | .scalar tag style text =>
    if style = .plain || (style = .literal && tag = some intTag) then number? text else none
  | _ => none

/-- A value that may be null. Only plain scalars can be; a scalar with a tag only if that is the tag
for null. -/
def asOption? {α : Type} (decode : Node → Option α) (node : Node) : Option (Option α) := do
  let node ← d.resolve? node
  match node with
  | .scalar tag .plain text =>
    match tag with
    | some tag =>
      if tag != nullTag then (decode node).map some
      else if isNullWord text then some none
      else none
    | none => if text = "" || isNullWord text then some none else (decode node).map some
  | _ => (decode node).map some

/-- The word after the exclamation mark of a tag of one's own. -/
def ownTag? (tag : Option String) : Option String :=
  match tag.map String.toList with
  | some ['!'] => some "!"
  | some ('!' :: rest) => some (String.ofList rest)
  | _ => none

/-- One of a fixed set of words: the word as a text, or as the tag of an empty scalar. -/
def asWord? {α : Type} (words : List (String × α)) (node : Node) : Option α := do
  match ← d.resolve? node with
  | .scalar tag style text =>
    match ownTag? tag with
    | none => words.lookup text
    | some word =>
      if style = .plain && (text = "" || isNullWord text) then words.lookup word else none
  | _ => none

/-! ### Mappings -/

/-- The entries of a mapping. A plain scalar without text is a mapping without entries. -/
def entries? (node : Node) : Option (List (Node × Node)) := do
  match ← d.resolve? node with
  | .mapping _ entries => some entries
  | .scalar _ .plain "" => some []
  | _ => none

/-- The entries of a mapping whose keys are texts. -/
def textEntries? (node : Node) : Option (List (String × Node)) := do
  (← d.entries? node).mapM fun (key, value) => do return (← d.asText? key, value)

/-- A **table of texts**, sorted by its keys. Of entries with the same key the last one counts. -/
def asTexts? (node : Node) : Option (Table String String) := do
  (← d.textEntries? node).foldlM (fun table (key, value) => do
    return table.insert key (← d.asText? value)) []

/-- What a mapping gives for the **fields** of a record. Other entries are ignored, but no field may
be given twice. -/
def fields? (names : List String) (node : Node) : Option (Table String Node) := do
  let entries ← d.textEntries? node
  let known := entries.filter (names.contains ·.1)
  if (known.map (·.1)).Nodup then some known else none

end Document

/-- The value of a field that may be missing. -/
def fieldOr {α : Type} (fields : Table String Node) (name : String) (default : α)
    (decode : Node → Option α) : Option α :=
  match fields.get? name with
  | none => some default
  | some node => decode node

end Yaml

end StackDeploy
