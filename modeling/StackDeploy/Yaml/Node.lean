import StackDeploy.Table
import StackDeploy.Yaml.Token

/-!
# Nodes

A YAML document as a tree of nodes. Anchored nodes are also kept in a table, and an alias only names
an entry of it, so a document in which a collection holds an alias of itself is finite as well.

* `Document.ofTokens?` — the document of a list of tokens.
* `Document.ofText?` — the document of a text that holds no more than one.
* `Document.resolve?` — the node that an alias stands for.
-/

namespace StackDeploy.Yaml

/-- A **node** of a document. -/
inductive Node where
  | scalar (tag : Option String) (style : ScalarStyle) (text : String)
  | sequence (tag : Option String) (items : List Node)
  | mapping (tag : Option String) (entries : List (Node × Node))
  | alias (number : Nat)

/-- A node that is not written at all. -/
def Node.blank : Node := .scalar none .plain ""

/-- The anchors of a document. An anchor is numbered by how many names are known where it stands, so
a name that is used again may share its new number with the next new name; the later holder of a
number counts. Holders are counted in the order in which they begin. -/
structure Anchors where
  numbers : Table String Nat
  holders : Table Nat Nat
  nodes : Table Nat Node
  count : Nat

namespace Anchors

/-- No anchors. -/
def empty : Anchors := ⟨[], [], [], 0⟩

/-- Records that a node with an anchor begins; gives the place that is kept for it. -/
def declare (a : Anchors) (name : String) : Nat × Anchors :=
  let number := a.numbers.length
  (a.count,
    { a with
      numbers := a.numbers.set name number
      holders := a.holders.set number a.count
      count := a.count + 1 })

/-- Records the node for a place. -/
def define (a : Anchors) (place : Nat) (node : Node) : Anchors :=
  { a with nodes := a.nodes.set place node }

end Anchors

/-- A **document**: its root and its anchors. -/
structure Document where
  root : Node
  anchors : Anchors

/-- The node that a node stands for: itself unless it is an alias. -/
def Document.resolve? (d : Document) : Node → Option Node
  | .alias number => (d.anchors.holders.get? number).bind d.anchors.nodes.get?
  | node => some node

/-! ### Composing -/

/-- The state while a document is composed: the tokens that are left, what tag handles stand for,
and the anchors so far. -/
structure Composing where
  tokens : List Token
  handles : Table String String
  anchors : Anchors

/-- A part of composing, which may find that the tokens make no document. -/
abbrev Compose := StateT Composing Option

namespace Compose

/-- The next token. -/
def peek : Compose Token := do
  return ((← get).tokens.head?).getD .streamEnd

/-- Goes on to the token after the next one. -/
def skip : Compose Unit := modify fun s => { s with tokens := s.tokens.tail }

/-- Takes the next token if it is the given one. -/
def take (token : Token) : Compose Bool := do
  if (← peek) = token then
    skip
    return true
  return false

/-- Takes the next token, which has to be the given one. -/
def expect (token : Token) : Compose Unit := do
  if !(← take token) then failure

/-- The next token is one of the given ones. -/
def sees (tokens : List Token) : Compose Bool := do
  return tokens.contains (← peek)

/-- The tag that a handle and a suffix name. -/
def resolveTag (handle suffix : String) : Compose String := do
  if handle = "" then return suffix
  match (← get).handles.get? handle with
  | some stands => return stands ++ suffix
  | none => failure

/-- Takes an anchor if one comes next. -/
def anchor? : Compose (Option String) := do
  match ← peek with
  | .anchor name => skip; return some name
  | _ => return none

/-- Takes a tag if one comes next. -/
def tag? : Compose (Option (String × String)) := do
  match ← peek with
  | .tag handle suffix => skip; return some (handle, suffix)
  | _ => return none

/-- Takes an anchor and a tag in either order, as far as they are there. -/
def properties : Compose (Option String × Option String) := do
  match ← anchor? with
  | some name =>
    let tag ← (← tag?).mapM fun (handle, suffix) => resolveTag handle suffix
    return (some name, tag)
  | none =>
    let tag ← tag?
    let name ← if tag.isSome then anchor? else pure none
    return (name, ← tag.mapM fun (handle, suffix) => resolveTag handle suffix)

/-- The tag of a scalar. An exclamation mark alone says nothing. -/
def scalarTag (tag : Option String) : Option String :=
  if tag = some "!" then none else tag

mutual

/-- A node. Block collections are allowed if `block` holds; then a sequence may also stand without
indentation of its own if `bare` holds. -/
def node (fuel : Nat) (block bare : Bool) : Compose Node :=
  match fuel with
  | 0 => failure
  | fuel + 1 => do
    match ← peek with
    | .alias name =>
      skip
      match (← get).anchors.numbers.get? name with
      | some number => return .alias number
      | none => failure
    | _ =>
      let (name, tag) ← properties
      match name with
      | none => content fuel block bare false tag
      | some name =>
        let place ← modifyGet fun s =>
          let (place, anchors) := s.anchors.declare name
          (place, { s with anchors })
        let node ← content fuel block bare true tag
        modify fun s => { s with anchors := s.anchors.define place node }
        return node

/-- What comes after the properties of a node. It may be missing if there are properties. -/
def content (fuel : Nat) (block bare anchored : Bool) (tag : Option String) : Compose Node :=
  match fuel with
  | 0 => failure
  | fuel + 1 => do
    match ← peek with
    | .scalar style text => skip; return .scalar (scalarTag tag) style text
    | .flowSequenceStart => skip; return .sequence tag (← flowItems fuel true)
    | .flowMappingStart => skip; return .mapping tag (← flowEntries fuel true)
    | .blockEntry =>
      if bare then return .sequence tag (← bareItems fuel)
      else if anchored || tag.isSome then return .scalar tag .plain ""
      else failure
    | .blockSequenceStart =>
      if block then
        skip
        return .sequence tag (← blockItems fuel)
      else if anchored || tag.isSome then return .scalar tag .plain ""
      else failure
    | .blockMappingStart =>
      if block then
        skip
        return .mapping tag (← blockEntries fuel)
      else if anchored || tag.isSome then return .scalar tag .plain ""
      else failure
    | _ => if anchored || tag.isSome then return .scalar tag .plain "" else failure

/-- A node, or a blank one if one of the given tokens comes next. -/
def nodeUnless (fuel : Nat) (stops : List Token) (block bare : Bool) : Compose Node :=
  match fuel with
  | 0 => failure
  | fuel + 1 => do
    if ← sees stops then return .blank
    node fuel block bare

/-- The items of a block sequence and its end. -/
def blockItems (fuel : Nat) : Compose (List Node) :=
  match fuel with
  | 0 => failure
  | fuel + 1 => do
    if ← take .blockEntry then
      let item ← nodeUnless fuel [.blockEntry, .blockEnd] true false
      return item :: (← blockItems fuel)
    expect .blockEnd
    return []

/-- The items of a sequence that is indented no deeper than the mapping around it. -/
def bareItems (fuel : Nat) : Compose (List Node) :=
  match fuel with
  | 0 => failure
  | fuel + 1 => do
    if ← take .blockEntry then
      let item ← nodeUnless fuel [.blockEntry, .key, .value, .blockEnd] true false
      return item :: (← bareItems fuel)
    return []

/-- The entries of a block mapping and its end. -/
def blockEntries (fuel : Nat) : Compose (List (Node × Node)) :=
  match fuel with
  | 0 => failure
  | fuel + 1 => do
    if ← take .key then
      let key ← nodeUnless fuel [.key, .value, .blockEnd] true true
      let value ←
        if ← take .value then nodeUnless fuel [.key, .value, .blockEnd] true true
        else pure .blank
      return (key, value) :: (← blockEntries fuel)
    expect .blockEnd
    return []

/-- The items of a flow sequence and its end. An entry of a mapping may stand for a mapping with
only that entry; a token that stands in the place of its key is passed over. -/
def flowItems (fuel : Nat) (first : Bool) : Compose (List Node) :=
  match fuel with
  | 0 => failure
  | fuel + 1 => do
    if ← take .flowSequenceEnd then return []
    if !first then expect .flowEntry
    if ← take .flowSequenceEnd then return []
    if ← take .key then
      let key ←
        if ← sees [.value, .flowEntry, .flowSequenceEnd] then do
          skip
          pure .blank
        else node fuel false false
      let value ←
        if ← take .value then nodeUnless fuel [.flowEntry, .flowSequenceEnd] false false
        else pure .blank
      return .mapping none [(key, value)] :: (← flowItems fuel false)
    let item ← node fuel false false
    return item :: (← flowItems fuel false)

/-- The entries of a flow mapping and its end. -/
def flowEntries (fuel : Nat) (first : Bool) : Compose (List (Node × Node)) :=
  match fuel with
  | 0 => failure
  | fuel + 1 => do
    if ← take .flowMappingEnd then return []
    if !first then expect .flowEntry
    if ← take .flowMappingEnd then return []
    if ← take .key then
      let key ← nodeUnless fuel [.value, .flowEntry, .flowMappingEnd] false false
      let value ←
        if ← take .value then nodeUnless fuel [.flowEntry, .flowMappingEnd] false false
        else pure .blank
      return (key, value) :: (← flowEntries fuel false)
    let key ← node fuel false false
    return (key, .blank) :: (← flowEntries fuel false)

end

/-! ### Documents -/

/-- The handles that need no directive. -/
def knownHandles : Table String String := [("!", "!"), ("!!", "tag:yaml.org,2002:")]

/-- Takes the directives of a document. There may be one for the version, which has to be 1.1 or
1.2, and one for every handle. Gives whether there were any. -/
def directives (fuel : Nat) (version : Bool) (handles : Table String String) :
    Compose (Bool × Table String String) :=
  match fuel with
  | 0 => failure
  | fuel + 1 => do
    match ← peek with
    | .version major minor =>
      if version || major != 1 || (minor != 1 && minor != 2) then failure
      skip
      directives fuel true handles
    | .handle name stands =>
      if handles.contains name then failure
      skip
      directives fuel version (handles.set name stands)
    | _ => return (version || !handles.isEmpty, handles)

/-- Skips the ends of documents. -/
def skipEnds (fuel : Nat) : Compose Unit :=
  match fuel with
  | 0 => failure
  | fuel + 1 => do
    if ← take .documentEnd then skipEnds fuel

/-- The tokens after which nothing of a document can come. -/
def documentStops : List Token := [.documentStart, .documentEnd, .streamEnd]

/-- The root of the first document; a blank one if there is no document. -/
def root (fuel : Nat) : Compose Node := do
  let (directed, handles) ← directives fuel false []
  modify fun s => { s with handles := handles ++ knownHandles }
  if ← take .documentStart then
    match ← peek with
    | .version _ _ | .handle _ _ => return .blank
    | _ => nodeUnless fuel documentStops true false
  else if directed then failure
  else nodeUnless fuel [.streamEnd] true false

/-- The document that takes up all tokens. -/
def document (fuel : Nat) : Compose Document := do
  let root ← root fuel
  skipEnds fuel
  expect .streamEnd
  return ⟨root, (← get).anchors⟩

end Compose

/-- The **document** of a list of tokens. Every token costs at most three units of fuel. -/
def Document.ofTokens? (tokens : List Token) : Option Document :=
  (Compose.document (3 * tokens.length + 5)).run ⟨tokens, [], .empty⟩ |>.map (·.1)

/-- The **document of a text**, which may hold no more than one; the document of an empty text is
blank. -/
def Document.ofText? (text : String) : Option Document :=
  (Token.ofChars? text.toList).bind Document.ofTokens?

end StackDeploy.Yaml
