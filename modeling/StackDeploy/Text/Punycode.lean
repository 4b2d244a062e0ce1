/-!
# Punycode

A label of a host name that holds other characters than ASCII is written in ASCII: first its ASCII
characters, then, as numbers in a variable base, where the other ones have to be put in and which
they are. They are put in by ascending code point.

* `Punycode.encode` — the ASCII form of a label.
* `Punycode.decode?` — the label that has an ASCII form.
-/

namespace StackDeploy.Punycode

/-- The digit for a value below thirty-six. -/
def digit (value : Nat) : Char :=
  if value < 26 then Char.ofNat (97 + value) else Char.ofNat (22 + value)

/-- The value below which a digit ends a number, for the digit whose weight index is `k`. -/
def threshold (bias k : Nat) : Nat := min 26 (max 1 (k - bias))

theorem one_le_threshold (bias k : Nat) : 1 ≤ threshold bias k := by
  unfold threshold
  omega

/-- The value of a digit. -/
def digitValue? (c : Char) : Option Nat :=
  if 'a' ≤ c ∧ c ≤ 'z' then some (c.toNat - 97)
  else if '0' ≤ c ∧ c ≤ '9' then some (c.toNat - 22)
  else none

/-- The digits of a number, the least significant first. -/
def digits (bias k n : Nat) : List Char :=
  let t := threshold bias k
  if n < t then [digit n]
  else digit (t + (n - t) % (36 - t)) :: digits bias (k + 36) ((n - t) / (36 - t))
termination_by n
decreasing_by
  have := one_le_threshold bias k
  exact Nat.lt_of_le_of_lt (Nat.div_le_self _ _) (by omega)

/-- The bias after a number was written. -/
def adapt (delta points : Nat) (first : Bool) : Nat :=
  let delta := if first then delta / 700 else delta / 2
  shrink (delta + delta / points) 0
where
  /-- Divides until the number is small, and counts the divisions in `k`. -/
  shrink (delta k : Nat) : Nat :=
    if 455 < delta then shrink (delta / 35) (k + 36) else k + 36 * delta / (delta + 38)
  termination_by delta

/-! ### Writing -/

/-- Where encoding stands. -/
structure Progress where
  /-- The distance from the last insertion. -/
  delta : Nat
  bias : Nat
  /-- The number of characters that are written. -/
  handled : Nat
  first : Bool
  output : List Char

/-- Passes all characters of the label once and writes the insertions of the code point `point`. -/
def pass (point : Nat) : List Char → Progress → Progress
  | [], p => p
  | c :: rest, p =>
    if c.toNat < point then pass point rest { p with delta := p.delta + 1 }
    else if c.toNat = point then
      pass point rest
        { delta := 0
          bias := adapt p.delta (p.handled + 1) p.first
          handled := p.handled + 1
          first := false
          output := p.output ++ digits p.bias 36 p.delta }
    else pass point rest p

/-- Writes the insertions of all the given code points, which are ascending, after `next` − 1. -/
def passes (label : List Char) : List Nat → Nat → Progress → Progress
  | [], _, p => p
  | point :: rest, next, p =>
    let p := { p with delta := p.delta + (point - next) * (p.handled + 1) }
    let p := pass point label p
    passes label rest (point + 1) { p with delta := p.delta + 1 }

/-- The code points above ASCII in a label, ascending and each once. -/
def points (label : List Char) : List Nat :=
  (((label.filter (128 ≤ ·.toNat)).map Char.toNat).mergeSort (· ≤ ·)).eraseDups

/-- The **ASCII form** of a label, without the mark that tells it from other labels. -/
def encode (label : List Char) : List Char :=
  let basic := label.filter (·.toNat < 128)
  let start := if basic.isEmpty then [] else basic ++ ['-']
  let p : Progress := ⟨0, 72, basic.length, true, start⟩
  (passes label (points label) 128 p).output

/-! ### Reading -/

/-- Numbers and the weights of their digits are less than this. -/
def bound : Nat := UInt32.size

/-- Adds a number from the front of some digits: `weight` is what the next digit counts, and `value`
what the digits before it come to. -/
def addNumber? (bias : Nat) : Nat → Nat → Nat → List Char → Option (Nat × List Char)
  | _, _, _, [] => none
  | k, weight, value, c :: rest =>
    match digitValue? c with
    | none => none
    | some d =>
      let t := threshold bias k
      let value := value + d * weight
      if bound ≤ value then none
      else if d < t then some (value, rest)
      else if bound ≤ weight * (36 - t) then none
      else addNumber? bias (k + 36) (weight * (36 - t)) value rest

/-- Where decoding stands: the next character goes to the place `index` at the earliest. -/
structure Insertion where
  point : Nat
  index : Nat
  bias : Nat
  first : Bool
  label : List Char

/-- Reads insertions and puts the characters in, at most `fuel` of them. -/
def insertions? : Nat → Insertion → List Char → Option (List Char)
  | _, p, [] => some p.label
  | 0, _, _ :: _ => none
  | fuel + 1, p, digits =>
    match addNumber? p.bias 36 1 p.index digits with
    | none => none
    | some (total, rest) =>
      let length := p.label.length + 1
      let point := p.point + total / length
      let index := total % length
      if point.isValidChar then
        insertions? fuel
          { point
            index := index + 1
            bias := adapt (total - p.index) length p.first
            first := false
            label := p.label.take index ++ Char.ofNat point :: p.label.drop index }
          rest
      else none

/-- The **label** that has an ASCII form, which is given without its mark. The last hyphen stands
between the ASCII characters, if there are any, and the numbers. -/
def decode? (text : List Char) : Option (List Char) :=
  let digits := (text.reverse.takeWhile (· ≠ '-')).reverse
  let basic := text.take (text.length - digits.length - 1)
  let digits := if basic.isEmpty then text else digits
  insertions? digits.length ⟨128, 0, 72, true, basic⟩ digits

end StackDeploy.Punycode
