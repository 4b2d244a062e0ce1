import StackDeploy.Text.Blank
import StackDeploy.Text.Hex
import StackDeploy.Text.Search

/-!
# Tables of characters

The properties of characters are those of Unicode 17. They stand in tables, which are written as
words between blanks. A word names one character or the first and the last one of a range, in
hexadecimal, and after a colon the characters that they are related to: `41-5A`, `E0:61+300`.

* `Row.table` — reads a table.
* `isIn` — the character is in a table.
* `classify` — the class of a character, by a table for each class.
-/

namespace StackDeploy.Unicode

open Text

/-- A **row** of a table: a range of characters, and those that they are related to. -/
structure Row where
  first : Nat
  last : Nat
  related : List Nat
deriving DecidableEq, Repr

namespace Row

/-- The words of a text, the last one first. -/
def wordsReversed (text : List Char) : List (List Char) :=
  let (done, word) := text.foldl
    (fun (done, word) c => if isBlank c then (word.reverse :: done, []) else (done, c :: word))
    ([], [])
  (word.reverse :: done).filter (!·.isEmpty)

/-- Reads a row. -/
def ofWord? (word : List Char) : Option Row := do
  match splitOnChar ':' word with
  | [] => none
  | range :: related =>
    let ends ← (splitOnChar '-' range).mapM hexNumber?
    let related ← (related.flatMap (splitOnChar '+')).mapM hexNumber?
    return ⟨← ends.head?, ← ends.getLast?, related⟩

/-- Reads a **table**. Words that are no rows are left out. -/
def table (text : String) : List Row :=
  ((wordsReversed text.toList).filterMap ofWord?).reverse

/-- The character is in the range. -/
def contains (row : Row) (c : Char) : Bool :=
  row.first ≤ c.toNat && c.toNat ≤ row.last

end Row

/-- The character is **in** a table. -/
def isIn (table : List Row) (c : Char) : Bool := table.any (·.contains c)

/-- The **class** of a character: the first one whose table it is in. -/
def classify {α : Type} (tables : List (α × List Row)) (otherwise : α) (c : Char) : α :=
  match tables.find? fun (_, table) => isIn table c with
  | some (cls, _) => cls
  | none => otherwise

/-- The character is **ASCII**. -/
def isAscii (c : Char) : Bool := c.toNat < 128

end StackDeploy.Unicode
