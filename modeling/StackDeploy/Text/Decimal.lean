/-!
# Decimal digits

Natural numbers as decimal digits: with as many digits as needed, with a fixed number of digits,
and reading them back.

* `natDigits` — no leading zeros.
* `fixedDigits` — exactly the given number of digits, leading zeros included.
* `takeDigits` — the digits at the front of a text, at most a given number of them.
* `readInt?` — a whole text as a number with a sign, within bounds.
-/

namespace StackDeploy.Text

/-- The character is an ASCII digit. -/
def isDigit (c : Char) : Bool :=
  '0' ≤ c && c ≤ '9'

/-- The character of a digit below ten. -/
def digitChar (d : Nat) : Char :=
  Char.ofNat (48 + d)

/-- The value of an ASCII digit. -/
def digitValue (c : Char) : Nat :=
  c.toNat - 48

/-- The number that a list of digits writes in base ten. -/
def digitsValue (cs : List Char) : Nat :=
  cs.foldl (fun n c => n * 10 + digitValue c) 0

/-- The decimal digits of a number, without leading zeros. -/
def natDigits (n : Nat) : List Char :=
  if n < 10 then [digitChar n] else natDigits (n / 10) ++ [digitChar (n % 10)]
termination_by n

/-- The decimal text of a number, without leading zeros. -/
def natText (n : Nat) : String :=
  String.ofList (natDigits n)

/-- The last `width` decimal digits of a number, leading zeros included. -/
def fixedDigits : Nat → Nat → List Char
  | 0, _ => []
  | width + 1, n => fixedDigits width (n / 10) ++ [digitChar (n % 10)]

/-- The digits of a number, filled up with leading zeros to at least `width` of them. -/
def paddedDigits (width n : Nat) : List Char :=
  let ds := natDigits n
  List.replicate (width - ds.length) '0' ++ ds

/-- Splits off the digits at the front of a text, at most `width` of them. -/
def takeDigits : Nat → List Char → List Char × List Char
  | 0, cs => ([], cs)
  | _ + 1, [] => ([], [])
  | width + 1, c :: cs =>
    if isDigit c then
      let (ds, rest) := takeDigits width cs
      (c :: ds, rest)
    else ([], c :: cs)

/-- Reads a number of at least one and at most `width` digits from the front of a text. -/
def readDigits? (width : Nat) (cs : List Char) : Option (Nat × List Char) :=
  match takeDigits width cs with
  | ([], _) => none
  | (ds, rest) => some (digitsValue ds, rest)

/-- Reads a whole text as a number: at least one digit and nothing else. -/
def readNat? (cs : List Char) : Option Nat :=
  if cs ≠ [] ∧ cs.all isDigit then some (digitsValue cs) else none

/-- Reads a whole text as a number, which may have a sign in front and has to fit into a word of so
many bits. -/
def readInt? (bits : Nat) (cs : List Char) : Option Int :=
  let number : Option Int :=
    match cs with
    | '+' :: digits => (readNat? digits).map Int.ofNat
    | '-' :: digits => (readNat? digits).map fun n => -Int.ofNat n
    | digits => (readNat? digits).map Int.ofNat
  let bound : Nat := 1 <<< (bits - 1)
  number.filter fun n => -(bound : Int) ≤ n ∧ n < bound

end StackDeploy.Text
