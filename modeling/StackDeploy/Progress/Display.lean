import StackDeploy.ChangeSet.Basic
import StackDeploy.Progress.Lines
import StackDeploy.Service.Rollout

/-!
# The progress display

The display owns the progress tree and decides what is written: the proposed changes of a change
set, and after every batch the whole tree. For a failing service it asks for the rollout, once for
each node.

* `Display.notify` — one event; says which rollout is to be looked up.
* `Display.frame` — the text of a redraw, which in live mode first erases the previous one.
-/

namespace StackDeploy

open Text

/-! ### Proposed changes -/

/-- The mark in front of a change. -/
def ChangeAction.marker : ChangeAction → String
  | add => "+"
  | modify => "~"
  | remove => "-"
  | imports => "<"
  | dynamic => "?"

/-- The line of a proposed change. -/
def Change.line (c : Change) : String :=
  "  " ++ c.action.marker ++ " " ++ c.logicalId ++ " (" ++ c.resourceType ++ ")" ++
    (if c.replacement then " [replacement]" else "")

/-- The proposed changes of a change set, as they are shown before it is executed. -/
def proposal (stack : String) (changes : List Change) : String :=
  if changes.isEmpty then "No resource changes proposed for stack " ++ stack ++ "\n"
  else
    "Proposed changes for stack " ++ stack ++ ":\n" ++
      ProgressTree.unlines (changes.map Change.line)

/-! ### The display -/

/-- How the tree is drawn. -/
structure DisplayOptions where
  /-- Erase the previous drawing before each redraw. -/
  live : Bool
  color : Bool
deriving DecidableEq, Repr

/-- The **display** of one operation. -/
structure Display where
  tree : ProgressTree
  options : DisplayOptions
  /-- Rollouts of failing services are looked up. -/
  lookups : Bool
  /-- The number of lines of the last drawing. -/
  drawn : Nat
  /-- The nodes for which a lookup was considered. -/
  enriched : List Nat

namespace Display

/-- The display of a stack about which nothing is known. -/
def start (root : String) (options : DisplayOptions) (lookups : Bool) : Display :=
  { tree := .start root, options, lookups, drawn := 0, enriched := [] }

/-- A rollout to look up, and the node that it explains. -/
structure Lookup where
  node : Nat
  ref : ServiceRef

/-- Considers a failing service shown on a node: the first time, its rollout is to be looked up, if
its physical identifier tells which service it is. -/
def consider (d : Display) (idx : Nat) (e : StackEvent) : Display × Option Lookup :=
  if !d.lookups || d.enriched.contains idx then (d, none)
  else
    ({ d with enriched := idx :: d.enriched },
      (ServiceRef.ofPhysicalId? e.physicalId).map fun ref => ⟨idx, ref⟩)

/-- Applies one event and says which rollout is to be looked up before the next one. -/
def notify (d : Display) (e : StreamEvent) : Display × Option Lookup :=
  match d.tree.apply e with
  | (none, tree) => ({ d with tree }, none)
  | (some idx, tree) =>
    if e.event.isFailure && e.event.kind = .service then
      { d with tree }.consider idx e.event
    else ({ d with tree }, none)

/-- Takes in the result of a lookup. A failed lookup only loses the line. -/
def answered {ε : Type} (d : Display) (lookup : Lookup) (result : Except ε Rollout) : Display :=
  match result with
  | .ok rollout => { d with tree := d.tree.setDetail lookup.node rollout.summary }
  | .error _ => d

/-- The lines of the tree as it is now. -/
def lines (d : Display) : List String :=
  d.tree.lines d.options.color

/-- The most lines that one control sequence erases. -/
def maxErase : Nat := 65535

/-- The text that erases the last drawing. -/
def erasure (d : Display) : String :=
  if d.options.live && 0 < d.drawn then Ansi.eraseLines (min d.drawn maxErase) else ""

/-- The text of a **redraw**. -/
def frame (d : Display) : String :=
  d.erasure ++ ProgressTree.unlines d.lines

/-- The display after its redraw was written. -/
def redrawn (d : Display) : Display :=
  { d with drawn := d.lines.length }

end Display

end StackDeploy
