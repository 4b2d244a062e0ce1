import StackDeploy.Unicode.CombiningClass
import StackDeploy.Unicode.Composition

/-!
# The normal form of a text

Texts that look the same can be spelled in several ways: with composites or with their parts, and
with marks in several orders. In normal form there are composites wherever possible, and marks are
sorted by their classes.

* `normal` — the normal form.
-/

namespace StackDeploy.Unicode

/-! ### The order of marks -/

/-- Puts a character in front of a text, and behind marks there that have smaller classes. -/
def place (c : Char) : List Char → List Char
  | [] => [c]
  | d :: rest =>
    if 0 < combiningClass d ∧ combiningClass d < combiningClass c then d :: place c rest
    else c :: d :: rest

/-- The text with its marks **sorted** by their classes; marks of one class stay in order. -/
def sortMarks (text : List Char) : List Char := text.foldr place []

/-! ### Composition -/

/-- Composes a character with those of a text that follow it. The ones in `between` follow it
already and were not composed. A character behind one of the same or a greater class is not
composed either. -/
def composeFrom (first : Char) (between : List Char) : List Char → List Char
  | [] => first :: between
  | c :: rest =>
    let isBlocked := between.getLast?.any fun d => combiningClass c ≤ combiningClass d
    match if isBlocked then none else compose? first c with
    | some composite => composeFrom composite between rest
    | none =>
      if combiningClass c = 0 then first :: between ++ composeFrom c [] rest
      else composeFrom first (between ++ [c]) rest

/-- The text with composites wherever possible. -/
def composeAll : List Char → List Char
  | [] => []
  | c :: rest => if combiningClass c = 0 then composeFrom c [] rest else c :: composeAll rest

/-- The **normal form** of a text, which is the text itself if it is ASCII. -/
def normal (text : List Char) : List Char :=
  if text.all isAscii then text else composeAll (sortMarks (text.flatMap decompose))

end StackDeploy.Unicode
