import StackDeploy.Manifest.Basic
import StackDeploy.Text.Hex

/-!
# Writing manifests

A manifest is written with one entry on a line and every text in double quotes, so no text can be
taken for anything else.
-/

namespace StackDeploy.Manifest

/-- The last `width` hexadecimal digits of a number. -/
def fixedHex : Nat → Nat → List Char
  | 0, _ => []
  | width + 1, n => fixedHex width (n / 16) ++ [Text.hexDigit (n % 16)]

/-- A character as it is written between double quotes. Visible ASCII stands for itself, and all
else is written as its code point. -/
def escapeChar (c : Char) : List Char :=
  if c = '"' || c = '\\' then ['\\', c]
  else if ' ' ≤ c && c ≤ '~' then [c]
  else if c.toNat < 0x10000 then '\\' :: 'u' :: fixedHex 4 c.toNat
  else '\\' :: 'U' :: fixedHex 8 c.toNat

/-- A text in double quotes. -/
def quoted (s : String) : List Char :=
  '"' :: s.toList.flatMap escapeChar ++ ['"']

/-- An entry of a table, with its key marked as such, since only short keys can do without. -/
def entryLines (entry : String × String) : List Char :=
  "  ? ".toList ++ quoted entry.1 ++ "\n  : ".toList ++ quoted entry.2 ++ ['\n']

/-- A field that holds a table; one without entries is left blank. -/
def tableLines (name : String) (t : Table String String) : List Char :=
  name.toList ++ ":\n".toList ++ t.flatMap entryLines

/-- The characters of a manifest. -/
def printChars (m : Manifest) : List Char :=
  "name: ".toList ++ quoted m.name ++
  "\ntemplate: ".toList ++ quoted m.template ++
  "\nintent: ".toList ++ m.intent.text.toList ++ ['\n'] ++
  tableLines "parameters" m.parameters ++
  tableLines "tags" m.tags ++
  tableLines "data" m.data

/-- The YAML text of a manifest. -/
def print (m : Manifest) : String := String.ofList m.printChars

end StackDeploy.Manifest
