import StackDeploy.Text.Decimal
import StackDeploy.Text.Utf8
import StackDeploy.Yaml.Scalar

/-!
# Tokens

A YAML text as a list of tokens. Indentation is made explicit: a block collection has a token at its
beginning and one at its end, as if it stood in brackets.

A key without a question mark is recognised only by the colon after it. A place where such a key can
begin is therefore remembered as a candidate, and when the colon comes, the tokens for the key and
for the mapping that it opens are put in at that place.

* `Lexer.step?` — recognises the next token.
* `Token.ofChars?` — all tokens of a text.
-/

namespace StackDeploy.Yaml

/-- A **token**. -/
inductive Token where
  | version (major minor : Nat)
  | handle (name stands : String)
  | documentStart
  | documentEnd
  | blockSequenceStart
  | blockMappingStart
  | blockEnd
  | flowSequenceStart
  | flowSequenceEnd
  | flowMappingStart
  | flowMappingEnd
  | blockEntry
  | flowEntry
  | key
  | value
  | alias (name : String)
  | anchor (name : String)
  /-- A tag: a suffix to what the handle stands for, or a whole tag if the handle is empty. -/
  | tag (handle suffix : String)
  | scalar (style : ScalarStyle) (text : String)
  | streamEnd
deriving DecidableEq, Repr

/-! ### Tags and directives -/

/-- The character may stand in a tag, in a tag between angle brackets if `verbatim` holds. -/
def isTagChar (verbatim : Bool) (c : Char) : Bool :=
  isNameChar c || ";/?:@&=+$.!~*'()%".toList.contains c
    || (verbatim && (c = ',' || c = '[' || c = ']'))

/-- The characters with percent signs and the two digits after each of them decoded. -/
def decodePercent : List Char → Option (List UInt8)
  | [] => some []
  | '%' :: high :: low :: rest => do
    let n ← Text.hexNumber? [high, low]
    return UInt8.ofNat n :: (← decodePercent rest)
  | '%' :: _ => none
  | c :: rest => do return Utf8.encode (String.singleton c) ++ (← decodePercent rest)

/-- Reads a tag that goes on after `head`; together they may not be empty. -/
def readTagText (verbatim : Bool) (head : List Char) (c : Cursor) : Option (String × Cursor) := do
  let (run, c) := c.readWhile (isTagChar verbatim)
  if head.isEmpty && run.isEmpty then none
  else
    let decoded ← (← decodePercent run) |> Utf8.decode?
    return (String.ofList (head.drop 1) ++ decoded, c)

/-- Reads a handle: an exclamation mark, a name and perhaps another exclamation mark. -/
def readHandle (c : Cursor) : Option (List Char × Cursor) :=
  if !c.isAt '!' then none
  else
    let (name, c) := (c.skip 1).readWhile isNameChar
    if c.isAt '!' then some ('!' :: name ++ ['!'], c.skip 1) else some ('!' :: name, c)

/-- A handle that is closed by a second exclamation mark. -/
def isClosedHandle (handle : List Char) : Bool :=
  2 ≤ handle.length && handle.getLast? = some '!'

/-- Reads a tag. -/
def readTag (inFlow : Bool) (c : Cursor) : Option (Token × Cursor) := do
  let (token, c) ←
    if c.peekAt? 1 = some '<' then do
      let (suffix, c) ← readTagText true [] (c.skip 2)
      if c.isAt '>' then some (Token.tag "" suffix, c.skip 1) else none
    else do
      let (handle, c) ← readHandle c
      if isClosedHandle handle then
        let (suffix, c) ← readTagText false [] c
        some (Token.tag (String.ofList handle) suffix, c)
      else
        let (suffix, c) ← readTagText false handle c
        some (if suffix = "" then Token.tag "" "!" else Token.tag "!" suffix, c)
  if c.whiteOrEndAt 0 || (inFlow && c.isAt ',') then return (token, c) else none

/-- Reads a part of a version number. -/
def readVersionPart (c : Cursor) : Option (Nat × Cursor) :=
  let (digits, c) := c.readWhile Char.isDigit
  if digits.isEmpty || 9 < digits.length then none else some (Text.digitsValue digits, c)

/-- Reads a directive; the cursor is at the percent sign. Other directives than those for the
version and for tag handles are not known. -/
def readDirective (c : Cursor) : Option (Token × Cursor) := do
  let (name, c) := (c.skip 1).readWhile isNameChar
  let (token, c) ←
    if name = "YAML".toList && c.whiteOrEndAt 0 then do
      let (major, c) ← readVersionPart (c.skipWhile isBlank)
      if !c.isAt '.' then none
      else
        let (minor, c) ← readVersionPart (c.skip 1)
        some (Token.version major minor, c)
    else if name = "TAG".toList && c.whiteOrEndAt 0 then do
      let (handle, c) ← readHandle (c.skipWhile isBlank)
      if !isClosedHandle handle && handle != ['!'] then none
      else if !c.peek?.any isBlank then none
      else
        let (stands, c) ← readTagText true [] (c.skipWhile isBlank)
        if c.whiteOrEndAt 0 then some (Token.handle (String.ofList handle) stands, c) else none
    else none
  let c := c.skipComment
  if c.peek?.all isBreak then return (token, c.skipBreak) else none

/-- Reads the name of an anchor or an alias; the cursor is at the character before it. -/
def readAnchorName (c : Cursor) : Option (String × Cursor) :=
  let (name, c) := (c.skip 1).readWhile isNameChar
  if !name.isEmpty && (c.whiteOrEndAt 0 || c.peek?.any ("?:,]\x7d%@`".toList.contains ·)) then
    some (String.ofList name, c)
  else none

/-! ### The lexer -/

/-- The longest key that can stand before a colon without a question mark. -/
def maxKeyLength : Nat := 1024

/-- A place where a key **may** have begun. -/
structure Candidate where
  /-- The number of tokens before the place. -/
  position : Nat
  /-- Something other than a key cannot stand there. -/
  required : Bool
  /-- The cursor at the place. -/
  mark : Cursor

/-- The state of a **lexer**. -/
structure Lexer where
  cursor : Cursor
  /-- The tokens so far, newest first. -/
  tokens : List Token
  /-- The column of the innermost block collection; minus one if there is none. -/
  indent : Int
  /-- The columns of the block collections around it, innermost first. -/
  outer : List Int
  /-- A key may begin here. -/
  keyAllowed : Bool
  /-- The candidate of the innermost flow collection, or outside of them all. -/
  candidate : Option Candidate
  /-- The candidates around the flow collections, innermost first. -/
  suspended : List (Option Candidate)

namespace Lexer

/-- The lexer at the beginning of a text. -/
def start (text : List Char) : Lexer :=
  ⟨.start text, [], -1, [], true, none, []⟩

/-- The lexer stands in a flow collection. -/
def inFlow (l : Lexer) : Bool := !l.suspended.isEmpty

/-- The lexer with one more token. -/
def emit (l : Lexer) (token : Token) : Lexer := { l with tokens := token :: l.tokens }

/-- The lexer with a token put in after the first `position` tokens. -/
def insertAt (l : Lexer) (position : Nat) (token : Token) : Lexer :=
  let newer := l.tokens.length - position
  { l with tokens := l.tokens.take newer ++ token :: l.tokens.drop newer }

/-- Emits the token for a character of its own. -/
def mark (l : Lexer) (token : Token) (length : Nat) : Lexer :=
  { l with cursor := l.cursor.skip length }.emit token

/-! #### Indentation -/

/-- Ends the block collections that are indented deeper than the column. -/
def endBlocks (column : Int) : List Int → Lexer → Lexer
  | [], l => l
  | next :: outer, l =>
    if column < l.indent then
      endBlocks column outer ({ l with indent := next, outer }.emit .blockEnd)
    else l

/-- Ends all block collections that do not reach the column; in flow collections indentation has no
meaning. -/
def unindent (l : Lexer) (column : Int) : Lexer :=
  if l.inFlow then l else endBlocks column l.outer l

/-- Begins a block collection at a column if that is deeper than the one at hand. Its token is put
in after the first `position` tokens. -/
def indentTo (l : Lexer) (column : Nat) (position : Nat) (token : Token) : Lexer :=
  if !l.inFlow && l.indent < column then
    { l with outer := l.indent :: l.outer, indent := column }.insertAt position token
  else l

/-! #### Candidates -/

/-- Drops the candidate unless it is required. -/
def dropCandidate? (l : Lexer) : Option Lexer :=
  match l.candidate with
  | none => some l
  | some candidate => if candidate.required then none else some { l with candidate := none }

/-- Remembers that a key may begin here. -/
def offerKey? (l : Lexer) : Option Lexer :=
  if l.keyAllowed then do
    let l ← l.dropCandidate?
    let required := !l.inFlow && l.indent == (l.cursor.column : Int)
    return { l with candidate := some ⟨l.tokens.length, required, l.cursor⟩ }
  else some l

/-- A candidate that can still be a key at the cursor. -/
def isFresh (cursor : Cursor) (candidate : Candidate) : Bool :=
  candidate.mark.line == cursor.line && cursor.index ≤ candidate.mark.index + maxKeyLength

/-- The candidate, unless it cannot be a key any more. -/
def refresh? (cursor : Cursor) : Option Candidate → Option (Option Candidate)
  | none => some none
  | some candidate =>
    if isFresh cursor candidate then some (some candidate)
    else if candidate.required then none
    else some none

/-- Drops all candidates that cannot be keys any more. -/
def dropStale? (l : Lexer) : Option Lexer := do
  let candidate ← refresh? l.cursor l.candidate
  let suspended ← l.suspended.mapM (refresh? l.cursor)
  return { l with candidate, suspended }

/-! #### White space -/

/-- Skips white space and comments. A byte order mark may stand at the beginning of a line. Outside
of flow collections a key may begin on a new line, and tabs cannot indent it. -/
def skipWhite : Nat → Lexer → Lexer
  | 0, l => l
  | fuel + 1, l =>
    let bom := l.cursor.column == 0 && l.cursor.isAt '\ufeff'
    let c := if bom then l.cursor.skip 1 else l.cursor
    let c := c.skipWhile fun char => char = ' ' || (char = '\t' && (l.inFlow || !l.keyAllowed))
    let c := if c.isAt '#' then c.skipWhile (fun char => !isBreak char) else c
    if c.peek?.any isBreak then
      skipWhite fuel { l with cursor := c.skipBreak, keyAllowed := l.keyAllowed || !l.inFlow }
    else { l with cursor := c }

/-! #### Recognising tokens -/

/-- Ends the text. -/
def finish? (l : Lexer) : Option Lexer := do
  let l ← (l.unindent (-1)).dropCandidate?
  return { l with keyAllowed := false }.emit .streamEnd

/-- A line that begins or ends a document. -/
def documentMark? (l : Lexer) (token : Token) : Option Lexer := do
  let l ← (l.unindent (-1)).dropCandidate?
  return { l with keyAllowed := false }.mark token 3

/-- A directive. -/
def directive? (l : Lexer) : Option Lexer := do
  let l ← (l.unindent (-1)).dropCandidate?
  let (token, cursor) ← readDirective l.cursor
  return { l with keyAllowed := false, cursor }.emit token

/-- The beginning of a flow collection. -/
def openFlow? (l : Lexer) (token : Token) : Option Lexer := do
  let l ← l.offerKey?
  return { l with
    suspended := l.candidate :: l.suspended, candidate := none, keyAllowed := true }.mark token 1

/-- The end of a flow collection. -/
def closeFlow? (l : Lexer) (token : Token) : Option Lexer := do
  let l ← l.dropCandidate?
  let l := match l.suspended with
    | [] => l
    | candidate :: suspended => { l with candidate, suspended }
  return { l with keyAllowed := false }.mark token 1

/-- A comma. -/
def flowEntry? (l : Lexer) : Option Lexer := do
  let l ← l.dropCandidate?
  return { l with keyAllowed := true }.mark .flowEntry 1

/-- A dash. -/
def blockEntry? (l : Lexer) : Option Lexer := do
  if !l.inFlow && !l.keyAllowed then none
  let l := l.indentTo l.cursor.column l.tokens.length .blockSequenceStart
  let l ← l.dropCandidate?
  return { l with keyAllowed := true }.mark .blockEntry 1

/-- A question mark. -/
def key? (l : Lexer) : Option Lexer := do
  if !l.inFlow && !l.keyAllowed then none
  let l := l.indentTo l.cursor.column l.tokens.length .blockMappingStart
  let l ← l.dropCandidate?
  return { l with keyAllowed := !l.inFlow }.mark .key 1

/-- A colon. With a candidate it makes that the key. -/
def value? (l : Lexer) : Option Lexer :=
  match l.candidate with
  | some candidate =>
    let l := (l.insertAt candidate.position .key).indentTo candidate.mark.column
      candidate.position .blockMappingStart
    some ({ l with candidate := none, keyAllowed := false }.mark .value 1)
  | none => do
    if !l.inFlow && !l.keyAllowed then none
    let l := l.indentTo l.cursor.column l.tokens.length .blockMappingStart
    return { l with keyAllowed := !l.inFlow }.mark .value 1

/-- Something that belongs to a node and can begin a key. -/
def nodePart? (l : Lexer) (read : Lexer → Option (Token × Cursor)) : Option Lexer := do
  let l ← l.offerKey?
  let (token, cursor) ← read l
  return { l with keyAllowed := false, cursor }.emit token

/-- A plain scalar. After it a key may begin if it ends its line. -/
def plain? (l : Lexer) : Option Lexer := do
  let l ← l.offerKey?
  let (text, ended, cursor) ← Scalar.readPlain? l.inFlow (l.indent + 1).toNat l.cursor
  return { l with keyAllowed := ended, cursor }.emit (.scalar .plain (String.ofList text))

/-- A block scalar. -/
def block? (l : Lexer) (literal : Bool) : Option Lexer := do
  let l ← l.dropCandidate?
  let (text, cursor) ← Scalar.readBlock? literal l.indent l.cursor
  return { l with keyAllowed := true, cursor }.emit
    (.scalar (if literal then .literal else .folded) (String.ofList text))

/-- A quoted scalar. -/
def readQuoted (single : Bool) (l : Lexer) : Option (Token × Cursor) :=
  (Scalar.readQuoted? single l.cursor).map fun (text, cursor) =>
    (.scalar (if single then .singleQuoted else .doubleQuoted) (String.ofList text), cursor)

/-- The character begins a plain scalar wherever it stands. -/
def isPlainStart (c : Char) : Bool :=
  !isWhite c && !"-?:,[]\x7b\x7d#&*!|>'\"%@`".toList.contains c

/-- The token that begins with the given character at the cursor. -/
def token? (l : Lexer) (char : Char) : Option Lexer :=
  let alone := l.cursor.whiteOrEndAt 1
  match char with
  | '[' => l.openFlow? .flowSequenceStart
  | '{' => l.openFlow? .flowMappingStart
  | ']' => l.closeFlow? .flowSequenceEnd
  | '}' => l.closeFlow? .flowMappingEnd
  | ',' => l.flowEntry?
  | '*' => l.nodePart? fun l => (readAnchorName l.cursor).map fun (name, c) => (.alias name, c)
  | '&' => l.nodePart? fun l => (readAnchorName l.cursor).map fun (name, c) => (.anchor name, c)
  | '!' => l.nodePart? fun l => readTag l.inFlow l.cursor
  | '\'' => l.nodePart? (readQuoted true)
  | '"' => l.nodePart? (readQuoted false)
  | '|' => if l.inFlow then none else l.block? true
  | '>' => if l.inFlow then none else l.block? false
  | '-' =>
    if alone then l.blockEntry? else l.plain?
  | '?' =>
    if l.inFlow || alone then l.key? else l.plain?
  | ':' =>
    if l.inFlow || alone then l.value? else l.plain?
  | char => if isPlainStart char then l.plain? else none

/-- Recognises the **next token**; at the end of the text that is the end of the stream. -/
def step? (l : Lexer) : Option Lexer := do
  let l ← (skipWhite (l.cursor.rest.length + 1) l).dropStale?
  let l := l.unindent l.cursor.column
  match l.cursor.peek? with
  | none => l.finish?
  | some char =>
    if l.cursor.column = 0 && char = '%' then l.directive?
    else if l.cursor.atMark '-' then l.documentMark? .documentStart
    else if l.cursor.atMark '.' then l.documentMark? .documentEnd
    else l.token? char

/-- All tokens up to the end of the stream. Each but the last takes up characters. -/
def run? : Nat → Lexer → Option (List Token)
  | 0, _ => none
  | fuel + 1, l => do
    let l ← l.step?
    if l.tokens.head? = some .streamEnd then return l.tokens.reverse
    run? fuel l

end Lexer

/-- The **tokens** of a text, if it consists of allowed characters and of tokens. -/
def Token.ofChars? (text : List Char) : Option (List Token) :=
  if text.all isAllowed then Lexer.run? (text.length + 1) (.start text) else none

end StackDeploy.Yaml
