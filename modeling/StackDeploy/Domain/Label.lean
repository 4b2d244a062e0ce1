import StackDeploy.Domain.Mapping
import StackDeploy.Text.Punycode
import StackDeploy.Unicode.Joining
import StackDeploy.Unicode.Mark
import StackDeploy.Unicode.Normal

/-!
# Labels

A domain name is made of labels. A label that is not ASCII has a form in ASCII, which begins with a
mark of its own.

* `label?` — the label that a text spells.
* `asciiForm` — the form of a label in ASCII.
-/

namespace StackDeploy.Domain

open Text Unicode

/-! ### Characters -/

/-- The visible characters that must not stand in a label. -/
def forbiddenMarks : List Char :=
  ['%', '#', '/', ':', '<', '>', '?', '@', '[', '\\', ']', '^', '|']

/-- The character must not stand in a label. -/
def isForbidden (c : Char) : Bool :=
  c ≤ ' ' || c = '\x7f' || forbiddenMarks.contains c

/-- The character may stand in a label and is spelled as itself. -/
def isSettled (c : Char) : Bool :=
  !isForbidden c && c ≠ '.' && mapChar? c = some [c]

/-! ### Joiners -/

/-- A character without a width that joins the letters beside it. -/
def joiner : Char := Char.ofNat 0x200D

/-- A character without a width that keeps the letters beside it from being joined. -/
def nonJoiner : Char := Char.ofNat 0x200C

/-- The first letter of a text can be joined in one of the given ways. -/
def isJoined (ways : List Joining) (text : List Char) : Bool :=
  ((text.dropWhile (joining · = .transparent)).head?.map joining).any (ways.contains ·)

/-- The character may stand between two texts, the first of which is reversed. Only joiners depend
on what is beside them: they follow a mark that takes a vowel away, or keep letters apart that would
be joined. -/
def mayStand (before : List Char) (c : Char) (after : List Char) : Bool :=
  if c ≠ joiner && c ≠ nonJoiner then true
  else
    match before with
    | [] => false
    | previous :: _ =>
      combiningClass previous = silencerClass ||
        (c = nonJoiner && isJoined [.left, .dual] before && isJoined [.right, .dual] after)

/-- All characters of the rest of a label may stand where they are. -/
def allMayStand (before : List Char) : List Char → Bool
  | [] => true
  | c :: rest => mayStand before c rest && allMayStand (c :: before) rest

/-! ### Labels -/

/-- The number of characters that a label has at most if it is not ASCII. -/
def maxLength : Nat := 1000

/-- The label is well formed. -/
def isWellFormed (label : List Char) : Bool :=
  if label.all isAscii then true
  else label.length ≤ maxLength && !label.head?.any isMark && allMayStand [] label

/-- The mark of a label that is written in ASCII for other characters. -/
def asciiMark : List Char := ['x', 'n', '-', '-']

/-- The number of characters that the form of a label in ASCII has at most, without its mark. -/
def maxDigits : Nat := 2000

/-- The label whose form in ASCII is given without its mark. It has to be spelled as itself. -/
def unmarked? (text : List Char) : Option (List Char) :=
  if text.getLast?.all (· = '-') || maxDigits < text.length || !text.all isAscii then none
  else do
    let label ← Punycode.decode? text
    if label.all isSettled && normal label = label then some label else none

/-- The **label** that a text spells, which is in normal form. -/
def label? (text : List Char) : Option (List Char) :=
  if text.any isForbidden then none
  else do
    let label ←
      if asciiMark.isPrefixOf text then unmarked? (text.drop asciiMark.length) else some text
    if isWellFormed label then some label else none

/-- The **form in ASCII** of a label. -/
def asciiForm (label : List Char) : List Char :=
  if label.all isAscii then label else asciiMark ++ Punycode.encode label

end StackDeploy.Domain
