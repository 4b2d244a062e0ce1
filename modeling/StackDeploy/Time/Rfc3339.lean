import StackDeploy.Text.Blank
import StackDeploy.Text.Decimal
import StackDeploy.Time.Instant

/-!
# Timestamps as text

Instants are written in the RFC 3339 form `2024-01-01T00:00:00.500Z` and read from a relaxed form of
it: blanks may stand around the separators, numbers may have fewer digits, and any offset is
accepted and taken off.

* `Instant.print` — always in UTC, with 0, 3, 6 or 9 digits of fraction, the fewest that are exact.
* `Instant.parse?` — reads the relaxed form; the instant must lie between the years −262143 and
  262142.
-/

namespace StackDeploy

open Text

/-! ### Writing -/

namespace Instant

/-- The year of a timestamp: four digits, or a sign and at least four outside the years 0 to 9999.
-/
def printYear (year : Int) : List Char :=
  if 0 ≤ year ∧ year ≤ 9999 then fixedDigits 4 year.toNat
  else (if year < 0 then '-' else '+') :: paddedDigits 4 year.natAbs

/-- The fraction of a second in 0, 3, 6 or 9 digits, the fewest that are exact. -/
def printFraction (nano : Nat) : List Char :=
  if nano = 0 then []
  else if nano % 1000000 = 0 then '.' :: fixedDigits 3 (nano / 1000000)
  else if nano % 1000 = 0 then '.' :: fixedDigits 6 (nano / 1000)
  else '.' :: fixedDigits 9 nano

/-- The characters of a timestamp. A leap second is written as the second 60. -/
def printChars (t : Instant) : List Char :=
  let leap := t.nano / 1000000000
  printYear t.date.year ++ '-' :: fixedDigits 2 t.date.month ++ '-' :: fixedDigits 2 t.date.day ++
    'T' :: fixedDigits 2 (t.second / 3600) ++ ':' :: fixedDigits 2 (t.second / 60 % 60) ++
    ':' :: fixedDigits 2 (t.second % 60 + leap) ++ printFraction (t.nano % 1000000000) ++ ['Z']

/-- The **timestamp** of an instant. -/
def print (t : Instant) : String :=
  String.ofList t.printChars

/-! ### Reading -/

/-- Skips blanks and then expects the given character. -/
def expect? (c : Char) (cs : List Char) : Option (List Char) :=
  match trimStart cs with
  | d :: rest => if d = c then some rest else none
  | [] => none

/-- Skips blanks and reads a number of at most two digits. -/
def readPair? (cs : List Char) : Option (Nat × List Char) :=
  readDigits? 2 (trimStart cs)

/-- Reads a year: up to four digits, or a sign and any number of digits. -/
def readYear? (cs : List Char) : Option (Int × List Char) :=
  match trimStart cs with
  | '-' :: rest => (readDigits? rest.length rest).map fun (n, rest) => (-(n : Int), rest)
  | '+' :: rest => (readDigits? rest.length rest).map fun (n, rest) => ((n : Int), rest)
  | rest => (readDigits? 4 rest).map fun (n, rest) => ((n : Int), rest)

/-- Reads an optional fraction of a second as nanoseconds; digits after the ninth are dropped. -/
def readFraction? : List Char → Option (Nat × List Char)
  | '.' :: cs =>
    match takeDigits 9 cs with
    | ([], _) => none
    | (ds, rest) => some (digitsValue ds * Nat.pow 10 (9 - ds.length), rest.dropWhile isDigit)
  | cs => some (0, cs)

/-- Reads the hours and minutes of an offset after its sign, as seconds. -/
def readOffsetDigits? : List Char → Option (Nat × List Char)
  | h1 :: h2 :: cs =>
    if isDigit h1 && isDigit h2 then
      match cs.dropWhile (fun c => c == ':' || isBlank c) with
      | m1 :: m2 :: rest =>
        if isDigit m1 && isDigit m2 && m1 ≤ '5' then
          some (digitsValue [h1, h2] * 3600 + digitsValue [m1, m2] * 60, rest)
        else none
      | _ => none
    else none
  | _ => none

/-- Reads the offset from UTC in seconds: `Z`, `UTC` or a sign with hours and minutes. -/
def readOffset? (cs : List Char) : Option (Int × List Char) :=
  match trimStart cs with
  | u :: t :: c :: rest =>
    if u.toLower == 'u' && t.toLower == 't' && c.toLower == 'c' then some (0, rest)
    else readSigned (u :: t :: c :: rest)
  | rest => readSigned rest
where
  /-- An offset that is not spelled `UTC`. -/
  readSigned : List Char → Option (Int × List Char)
    | 'Z' :: rest => some (0, rest)
    | 'z' :: rest => some (0, rest)
    | '+' :: rest => (readOffsetDigits? rest).map fun (n, rest) => ((n : Int), rest)
    | '-' :: rest => (readOffsetDigits? rest).map fun (n, rest) => (-(n : Int), rest)
    | '\u2212' :: rest => (readOffsetDigits? rest).map fun (n, rest) => (-(n : Int), rest)
    | _ => none

/-- The years that a timestamp may lie in. -/
def yearInRange (d : Date) : Bool :=
  -262143 ≤ d.year && d.year ≤ 262142

/-- The instant that a clock ahead of UTC by `offset` seconds shows as the given date and time of
day. The second 60 is the leap second after 59, and the offset is less than a day. -/
def ofLocal? (date : Date) (hour minute second nano : Nat) (offset : Int) : Option Instant :=
  if h : hour ≤ 23 ∧ minute ≤ 59 ∧ second ≤ 60 ∧ nano < 1000000000 ∧
      -86400 < offset ∧ offset < 86400 then
    let clock := if second = 60 then 59 else second
    let leap := if second = 60 then 1000000000 else 0
    let shifted : Int := hour * 3600 + minute * 60 + clock - offset
    let utcDate :=
      if shifted < 0 then date.previous else if 86400 ≤ shifted then date.next else date
    if yearInRange date && yearInRange utcDate then
      some ⟨utcDate, (shifted % 86400).toNat, nano + leap, by omega,
        by show nano + (if second = 60 then 1000000000 else 0) < 2000000000; split <;> omega⟩
    else none
  else none

/-- Reads a timestamp from its characters. -/
def parseChars? (cs : List Char) : Option Instant := do
  let (year, cs) ← readYear? cs
  let (month, cs) ← readPair? (← expect? '-' cs)
  let (day, cs) ← readPair? (← expect? '-' cs)
  let cs ← match cs with
    | 'T' :: rest => some rest
    | 't' :: rest => some rest
    | ' ' :: rest => some rest
    | _ => none
  let (hour, cs) ← readPair? cs
  let (minute, cs) ← readPair? (← expect? ':' cs)
  let (second, cs) ← readPair? (← expect? ':' cs)
  let (nano, cs) ← readFraction? cs
  let (offset, cs) ← readOffset? cs
  if trimStart cs ≠ [] then none
  else ofLocal? (← Date.of? year month day) hour minute second nano offset

/-- Reads a timestamp. -/
def parse? (s : String) : Option Instant :=
  parseChars? s.toList

end Instant

end StackDeploy
