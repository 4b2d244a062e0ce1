/-!
# Reading positions

A YAML text is read from left to right. A cursor holds what is left of the text and where it begins:
columns matter because indentation has a meaning, and lines and indices because a key has to fit on
one line and may only be so long.

* `Cursor.skip`, `Cursor.skipBreak` — going on within a line, and to the next line.
* `Cursor.readBreak` — the text of a line break: all the common ones read as a line feed.
-/

namespace StackDeploy.Yaml

/-! ### Characters -/

/-- The character ends a line. -/
def isBreak (c : Char) : Bool :=
  c = '\n' || c = '\r' || c = '\u0085' || c = '\u2028' || c = '\u2029'

/-- The character separates words on a line. -/
def isBlank (c : Char) : Bool :=
  c = ' ' || c = '\t'

/-- The character separates words. -/
def isWhite (c : Char) : Bool :=
  isBlank c || isBreak c

/-- The character may stand in the name of an anchor or of a directive. -/
def isNameChar (c : Char) : Bool :=
  c.isAlphanum || c = '_' || c = '-'

/-- The character may stand in a YAML text at all. -/
def isAllowed (c : Char) : Bool :=
  c = '\t' || c = '\n' || c = '\r' || c = '\u0085'
    || (0x20 ≤ c.val && c.val ≤ 0x7e)
    || (0xa0 ≤ c.val && c.val ≤ 0xfffd)
    || 0x10000 ≤ c.val

/-! ### Cursors -/

/-- A **cursor**: what is left of the text, and where it begins. -/
structure Cursor where
  rest : List Char
  index : Nat
  line : Nat
  column : Nat
deriving DecidableEq, Repr

namespace Cursor

/-- The cursor at the beginning of a text. -/
def start (text : List Char) : Cursor := ⟨text, 0, 0, 0⟩

/-- The character at the cursor. -/
def peek? (c : Cursor) : Option Char := c.rest.head?

/-- The character `n` places after the cursor. -/
def peekAt? (c : Cursor) (n : Nat) : Option Char := c.rest[n]?

/-- Nothing is left. -/
def atEnd (c : Cursor) : Bool := c.rest.isEmpty

/-- The given character is at the cursor. -/
def isAt (c : Cursor) (char : Char) : Bool := c.peek? == some char

/-- White space or the end is `n` places after the cursor. -/
def whiteOrEndAt (c : Cursor) (n : Nat) : Bool := (c.peekAt? n).all isWhite

/-- Goes on by `n` characters of the same line. -/
def skip (c : Cursor) (n : Nat) : Cursor :=
  { c with rest := c.rest.drop n, index := c.index + n, column := c.column + n }

/-- Goes on to the beginning of the next line if a line break is at the cursor. -/
def skipBreak (c : Cursor) : Cursor :=
  match c.rest with
  | '\r' :: '\n' :: rest => ⟨rest, c.index + 2, c.line + 1, 0⟩
  | char :: rest => if isBreak char then ⟨rest, c.index + 1, c.line + 1, 0⟩ else c
  | [] => c

/-- The text of the **line break** at the cursor, and the cursor after it. -/
def readBreak (c : Cursor) : List Char × Cursor :=
  match c.peek? with
  | none => ([], c)
  | some char =>
    if !isBreak char then ([], c)
    else if char = '\u2028' || char = '\u2029' then ([char], c.skipBreak)
    else (['\n'], c.skipBreak)

/-- The longest run of characters with a property, and the cursor after it. No character of the run
may be a line break. -/
def readWhile (p : Char → Bool) (c : Cursor) : List Char × Cursor :=
  let run := c.rest.takeWhile p
  (run, c.skip run.length)

/-- The cursor after the longest run of characters with a property. -/
def skipWhile (p : Char → Bool) (c : Cursor) : Cursor := (c.readWhile p).2

/-- The cursor after blanks and a comment. -/
def skipComment (c : Cursor) : Cursor :=
  let c := c.skipWhile isBlank
  if c.isAt '#' then c.skipWhile (fun char => !isBreak char) else c

/-- A line with three times the given character, and nothing or white space after it, begins at the
cursor. -/
def atMark (c : Cursor) (char : Char) : Bool :=
  c.column == 0 && c.rest.take 3 == [char, char, char] && c.whiteOrEndAt 3

/-- A line that begins or ends a document begins at the cursor. -/
def atDocumentMark (c : Cursor) : Bool := c.atMark '-' || c.atMark '.'

end Cursor

end StackDeploy.Yaml
