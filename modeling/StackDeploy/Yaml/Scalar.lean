import StackDeploy.Text.Hex
import StackDeploy.Yaml.Cursor

/-!
# Scalars

The text of a scalar can be written in five styles. In all of them lines are folded by the same
rule: a single line break between two words reads as a space, and more of them as one break less;
only literal blocks keep every break.

* `Scalar.readPlain?` — a text without quotes, up to a character with a meaning of its own.
* `Scalar.readQuoted?` — a text in single or double quotes.
* `Scalar.readBlock?` — the indented lines after a bar or an angle bracket.
-/

namespace StackDeploy.Yaml

/-- How a scalar is written. -/
inductive ScalarStyle where
  | plain
  | singleQuoted
  | doubleQuoted
  | literal
  | folded
deriving DecidableEq, Repr

namespace Scalar

/-! ### Gaps between words -/

/-- The **white space** between two words. -/
structure Gap where
  /-- The blanks, as long as there is no line break. -/
  blanks : List Char
  /-- The gap goes over the end of a line. -/
  broken : Bool
  firstBreak : List Char
  moreBreaks : List Char

namespace Gap

/-- No white space. -/
def empty : Gap := ⟨[], false, [], []⟩

/-- An end of line that is not to be read as anything. -/
def hidden : Gap := ⟨[], true, [], []⟩

/-- The gap with a blank after it. Blanks at the beginning of a line do not count. -/
def addBlank (g : Gap) (c : Char) : Gap :=
  if g.broken then g else { g with blanks := g.blanks ++ [c] }

/-- The gap with a line break after it. Blanks at the end of a line do not count. -/
def addBreak (g : Gap) (text : List Char) : Gap :=
  if g.broken then { g with moreBreaks := g.moreBreaks ++ text }
  else ⟨[], true, text, []⟩

/-- What the gap **reads as**. -/
def text (g : Gap) : List Char :=
  if !g.broken then g.blanks
  else if g.firstBreak = ['\n'] then (if g.moreBreaks.isEmpty then [' '] else g.moreBreaks)
  else g.firstBreak ++ g.moreBreaks

end Gap

/-- Reads white space. With a limit, a line may not have a tab before that column. -/
def readGap (tabLimit : Option Nat) : Nat → Gap → Cursor → Option (Gap × Cursor)
  | 0, gap, c => some (gap, c)
  | fuel + 1, gap, c =>
    match c.peek? with
    | none => some (gap, c)
    | some char =>
      if isBlank char then
        if gap.broken && char = '\t' && tabLimit.any (c.column < ·) then none
        else readGap tabLimit fuel (gap.addBlank char) (c.skip 1)
      else if isBreak char then
        let (text, c) := c.readBreak
        readGap tabLimit fuel (gap.addBreak text) c
      else some (gap, c)

/-! ### Plain scalars -/

/-- The character is punctuation of a flow collection. -/
def isFlowMark (c : Char) : Bool :=
  c = ',' || c = '[' || c = ']' || c = '{' || c = '}'

/-- The length of the word at the front of a text. In a flow collection a colon may not be followed
by punctuation. -/
def plainWordLength (inFlow : Bool) : List Char → Option Nat
  | [] => some 0
  | c :: rest =>
    if isWhite c then some 0
    else if inFlow && c = ':' && rest.head?.any (fun d => isFlowMark d || d = '?') then none
    else if c = ':' && rest.head?.all isWhite then some 0
    else if inFlow && isFlowMark c then some 0
    else (plainWordLength inFlow rest).map (· + 1)

/-- Reads the words of a plain scalar, given what is read so far and the gap after it. -/
def plainWords (inFlow : Bool) (indent : Nat) :
    Nat → List Char → Gap → Cursor → Option (List Char × Bool × Cursor)
  | 0, _, _, _ => none
  | fuel + 1, text, gap, c =>
    if c.atDocumentMark || c.isAt '#' then some (text, gap.broken, c)
    else do
      let length ← plainWordLength inFlow c.rest
      let word := c.rest.take length
      let (text, gap) := if length = 0 then (text, gap) else (text ++ gap.text ++ word, .empty)
      let c := c.skip length
      if !c.peek?.any isWhite then return (text, gap.broken, c)
      let (gap, c) ← readGap (some indent) c.rest.length gap c
      if !inFlow && c.column < indent then return (text, gap.broken, c)
      plainWords inFlow indent fuel text gap c

/-- Reads a **plain scalar**. Outside of flow collections its lines have to be indented by at least
`indent`. Gives its text, whether a line break follows it, and the cursor after both. -/
def readPlain? (inFlow : Bool) (indent : Nat) (c : Cursor) : Option (List Char × Bool × Cursor) :=
  plainWords inFlow indent (c.rest.length + 1) [] .empty c

/-! ### Quoted scalars -/

/-- What the letter after a backslash stands for: a character, or a number of hexadecimal digits
that follow. -/
def escape? : Char → Option (Char ⊕ Nat)
  | '0' => some (.inl '\x00')
  | 'a' => some (.inl '\x07')
  | 'b' => some (.inl '\x08')
  | 't' => some (.inl '\t')
  | '\t' => some (.inl '\t')
  | 'n' => some (.inl '\n')
  | 'v' => some (.inl '\x0b')
  | 'f' => some (.inl '\x0c')
  | 'r' => some (.inl '\r')
  | 'e' => some (.inl '\x1b')
  | ' ' => some (.inl ' ')
  | '"' => some (.inl '"')
  | '/' => some (.inl '/')
  | '\\' => some (.inl '\\')
  | 'N' => some (.inl '\u0085')
  | '_' => some (.inl '\u00a0')
  | 'L' => some (.inl '\u2028')
  | 'P' => some (.inl '\u2029')
  | 'x' => some (.inr 2)
  | 'u' => some (.inr 4)
  | 'U' => some (.inr 8)
  | _ => none

/-- The character with a code point, if there is one. -/
def charOf? (n : Nat) : Option Char :=
  if n.isValidChar then some (Char.ofNat n) else none

/-- Reads the escape after a backslash: its character and how many characters it takes. -/
def readEscape? : List Char → Option (Char × Nat)
  | [] => none
  | letter :: rest => do
    match ← escape? letter with
    | .inl char => return (char, 1)
    | .inr width =>
      let digits := rest.take width
      if digits.length < width then none
      else return (← charOf? (← Text.hexNumber? digits), width + 1)

/-- Reads a word of a quoted scalar: its text, whether it ends with an escaped line break, and the
cursor after it. -/
def quotedWord (single : Bool) : Nat → Cursor → Option (List Char × Bool × Cursor)
  | 0, c => some ([], false, c)
  | fuel + 1, c =>
    match c.rest with
    | [] => some ([], false, c)
    | char :: rest =>
      if isWhite char then some ([], false, c)
      else if single then
        if char = '\'' then
          if rest.head? = some '\'' then goOn fuel '\'' (c.skip 2) else some ([], false, c)
        else goOn fuel char (c.skip 1)
      else if char = '"' then some ([], false, c)
      else if char = '\\' then
        if rest.head?.any isBreak then some ([], true, (c.skip 1).skipBreak)
        else
          match readEscape? rest with
          | none => none
          | some (char, length) => goOn fuel char (c.skip (length + 1))
      else goOn fuel char (c.skip 1)
where
  /-- Goes on after a character. -/
  goOn (fuel : Nat) (char : Char) (c : Cursor) : Option (List Char × Bool × Cursor) :=
    match quotedWord single fuel c with
    | none => none
    | some (text, escaped, c) => some (char :: text, escaped, c)

/-- Reads the words of a quoted scalar and the closing quote. -/
def quotedWords (single : Bool) : Nat → List Char → Cursor → Option (List Char × Cursor)
  | 0, _, _ => none
  | fuel + 1, text, c =>
    if c.atDocumentMark || c.atEnd then none
    else do
      let (word, escaped, c) ← quotedWord single c.rest.length c
      if c.isAt (if single then '\'' else '"') then return (text ++ word, c.skip 1)
      let (gap, c) ← readGap none c.rest.length (if escaped then .hidden else .empty) c
      quotedWords single fuel (text ++ word ++ gap.text) c

/-- Reads a **quoted scalar**; the cursor is at the opening quote. -/
def readQuoted? (single : Bool) (c : Cursor) : Option (List Char × Cursor) :=
  let c := c.skip 1
  quotedWords single (c.rest.length + 1) [] c

/-! ### Block scalars -/

/-- What becomes of the line breaks at the end of a block. -/
inductive Chomping where
  /-- One is kept. -/
  | clip
  | strip
  | keep
deriving DecidableEq, Repr

/-- The chomping that a character asks for. -/
def Chomping.ofChar? : Char → Option Chomping
  | '+' => some .keep
  | '-' => some .strip
  | _ => none

/-- Reads a chomping indicator if there is one. -/
def readChomping? (c : Cursor) : Option (Chomping × Cursor) :=
  (c.peek?.bind Chomping.ofChar?).map fun chomping => (chomping, c.skip 1)

/-- Reads an indentation indicator if there is one. Zero is no indentation. -/
def readIncrement (c : Cursor) : Option (Nat × Cursor) :=
  match c.peek? with
  | none => some (0, c)
  | some char =>
    if !char.isDigit then some (0, c)
    else if char = '0' then none
    else some (char.toNat - '0'.toNat, c.skip 1)

/-- Reads the indicators of a block in either order. An increment of zero means that the indentation
is to be found out. -/
def readHeader (c : Cursor) : Option (Chomping × Nat × Cursor) :=
  match readChomping? c with
  | some (chomping, c) =>
    (readIncrement c).map fun (increment, c) => (chomping, increment, c)
  | none => do
    let (increment, c) ← readIncrement c
    if increment = 0 then return (.clip, 0, c)
    match readChomping? c with
    | some (chomping, c) => return (chomping, increment, c)
    | none => return (.clip, increment, c)

/-- Reads the indentation of lines and empty lines, given the indentation if it is known and zero
otherwise. Gives the line breaks and the deepest indentation that was seen. -/
def blockBreaks (indent : Nat) : Nat → List Char → Nat → Cursor → Option (List Char × Nat × Cursor)
  | 0, breaks, deepest, c => some (breaks, deepest, c)
  | fuel + 1, breaks, deepest, c =>
    let spaces := (c.rest.takeWhile (· = ' ')).length
    let c := c.skip (if indent = 0 then spaces else min spaces (indent - c.column))
    let deepest := max deepest c.column
    if (indent = 0 || c.column < indent) && c.isAt '\t' then none
    else if c.peek?.any isBreak then
      let (text, c) := c.readBreak
      blockBreaks indent fuel (breaks ++ text) deepest c
    else some (breaks, deepest, c)

/-- A block as it is being read: its text, the line break after it, and those of the empty lines
after that. -/
structure Block where
  text : List Char
  lastBreak : List Char
  moreBreaks : List Char
  /-- The last line begins with a blank. -/
  leadingBlank : Bool

/-- The text with the line breaks before the next line, which begins with a blank or not. Only
breaks between lines that both begin with no blank are folded. -/
def Block.continued (literal : Bool) (b : Block) (blank : Bool) : List Char :=
  if !literal && b.lastBreak = ['\n'] && !b.leadingBlank && !blank then
    b.text ++ (if b.moreBreaks.isEmpty then [' '] else b.moreBreaks)
  else b.text ++ b.lastBreak ++ b.moreBreaks

/-- Reads the lines of a block that are indented by `indent`. -/
def blockLines (literal : Bool) (indent : Nat) : Nat → Block → Cursor → Option (Block × Cursor)
  | 0, _, _ => none
  | fuel + 1, b, c =>
    if c.column = indent && !c.atEnd then do
      let blank := c.peek?.any isBlank
      let text := b.continued literal blank
      let (line, c) := c.readWhile fun char => !isBreak char
      let (lastBreak, c) := c.readBreak
      let (moreBreaks, _, c) ← blockBreaks indent c.rest.length [] 0 c
      blockLines literal indent fuel ⟨text ++ line, lastBreak, moreBreaks, blank⟩ c
    else some (b, c)

/-- The text of a block whose end is chomped. -/
def Block.chomped (b : Block) : Chomping → List Char
  | .strip => b.text
  | .clip => b.text ++ b.lastBreak
  | .keep => b.text ++ b.lastBreak ++ b.moreBreaks

/-- Reads a **block scalar** in a collection that is indented by `outer`, minus one standing for no
collection; the cursor is at the bar or the angle bracket. -/
def readBlock? (literal : Bool) (outer : Int) (c : Cursor) : Option (List Char × Cursor) := do
  let (chomping, increment, c) ← readHeader (c.skip 1)
  let c := c.skipComment
  if !c.peek?.all isBreak then none
  else
    let c := c.skipBreak
    let given := if increment = 0 then 0 else outer.toNat + increment
    let (moreBreaks, deepest, c) ← blockBreaks given c.rest.length [] 0 c
    let indent := if given = 0 then max deepest (max (outer + 1).toNat 1) else given
    let (b, c) ← blockLines literal indent (c.rest.length + 1) ⟨[], [], moreBreaks, false⟩ c
    return (b.chomped chomping, c)

end Scalar

end StackDeploy.Yaml
