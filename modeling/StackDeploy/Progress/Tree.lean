import StackDeploy.Event.Basic
import StackDeploy.Table

/-!
# The progress tree

The resources of a stack and of the stacks nested in it, as a tree. Its nodes stand in an arena in
the order they were created, and node 0 is the root stack.

* `ProgressTree.apply` — one event updates one node, which it creates if need be; an event older
  than the one shown is ignored.
* `ProgressTree.walk` — the nodes in depth-first order with their depths.
-/

namespace StackDeploy

/-- A **node** shows one resource, or the root stack. -/
structure TreeNode where
  name : String
  resourceType : String
  /-- The status of the newest event applied so far. -/
  status : String
  reason : Option String
  /-- The timestamp of the event that set the status. -/
  updatedAt : Option Instant
  /-- A further line of diagnosis. -/
  detail : Option String
  /-- The indices of the children, in the order they were first seen. -/
  children : List Nat
deriving DecidableEq

/-- A node for which no event has been applied. -/
def TreeNode.unseen (name : String) : TreeNode :=
  { name, resourceType := "", status := "", reason := none, updatedAt := none, detail := none,
    children := [] }

/-- The node as it shows an event. A resource type that is empty does not replace one that is
known. -/
def TreeNode.showing (n : TreeNode) (e : StackEvent) : TreeNode :=
  { n with
    status := e.status
    reason := e.reason
    updatedAt := some e.timestamp
    resourceType := if e.resourceType = "" then n.resourceType else e.resourceType }

/-- An event is **stale** for a node that shows a newer one. -/
def TreeNode.isStale (n : TreeNode) (e : StackEvent) : Bool :=
  n.updatedAt.any fun t => decide (e.timestamp < t)

/-- The **progress tree** of one operation. -/
structure ProgressTree where
  nodes : List TreeNode
  /-- The node of every resource, by stack key and logical identifier. -/
  resources : Table (String × String) Nat
  /-- The node under which the resources of a stack stand, by stack key. -/
  owners : Table String Nat
deriving DecidableEq

namespace ProgressTree

/-- The tree of a root stack about which nothing is known. -/
def start (root : String) : ProgressTree :=
  { nodes := [.unseen root], resources := [], owners := [(root, 0)] }

/-- The number of nodes. -/
def size (t : ProgressTree) : Nat := t.nodes.length

/-- The tree holds nothing but the root. -/
def isEmpty (t : ProgressTree) : Bool := t.size ≤ 1

/-- The node at an index. -/
def node? (t : ProgressTree) (idx : Nat) : Option TreeNode := t.nodes[idx]?

/-- The children of the node at an index, in the order they were first seen. -/
def children (t : ProgressTree) (idx : Nat) : List TreeNode :=
  ((t.node? idx).map (·.children)).getD [] |>.filterMap t.node?

/-- The index that a path of names leads to from the node at an index; of children with one name the
first counts. -/
def findFrom (t : ProgressTree) (idx : Nat) : List String → Option Nat
  | [] => some idx
  | name :: path =>
    match t.node? idx with
    | none => none
    | some node =>
      match node.children.find? fun child => (t.node? child).any fun n => n.name == name with
      | none => none
      | some child => t.findFrom child path

/-- The node that a path of names leads to from the root. -/
def find? (t : ProgressTree) (path : List String) : Option TreeNode :=
  (t.findFrom 0 path).bind t.node?

/-! ### Events -/

/-- The node under which the resources of a stack stand; the root when the stack is unknown. -/
def owner (t : ProgressTree) (stack : String) : Nat :=
  (t.owners.get? stack).getD 0

/-- An event is **about the stack itself** that delivered it when one of its identifiers is the key
of that stack. -/
def isAboutStack (e : StreamEvent) : Bool :=
  e.event.logicalId == e.stack || e.event.physicalId == e.stack

/-- Adds a node for a resource under its stack's node. -/
def addResource (t : ProgressTree) (stack logicalId : String) : ProgressTree :=
  let idx := t.nodes.length
  { t with
    nodes := t.nodes.modify (t.owner stack) (fun n => { n with children := n.children ++ [idx] }) ++
      [.unseen logicalId]
    resources := t.resources.set (stack, logicalId) idx }

/-- The node that an event belongs to, and the tree in which that node exists. -/
def route (t : ProgressTree) (e : StreamEvent) : Nat × ProgressTree :=
  if isAboutStack e then (t.owner e.stack, t)
  else
    match t.resources.get? (e.stack, e.event.logicalId) with
    | some idx => (idx, t)
    | none => (t.nodes.length, t.addResource e.stack e.event.logicalId)

/-- Makes the node at an index the owner of the nested stack that an event names, unless that stack
already has an owner. -/
def adopt (t : ProgressTree) (e : StreamEvent) (idx : Nat) : ProgressTree :=
  if !isAboutStack e && e.event.kind = .nestedStack && e.event.physicalId != "" &&
      !t.owners.contains e.event.physicalId then
    { t with owners := t.owners.set e.event.physicalId idx }
  else t

/-- Applies an event. Gives the index of the node that shows it, or nothing when it is stale. -/
def apply (t : ProgressTree) (e : StreamEvent) : Option Nat × ProgressTree :=
  let (idx, routed) := t.route e
  let adopted := routed.adopt e idx
  if (adopted.node? idx).any fun n => n.isStale e.event then (none, adopted)
  else (some idx, { adopted with nodes := adopted.nodes.modify idx fun n => n.showing e.event })

/-- Applies events one after the other. -/
def applyAll (t : ProgressTree) (events : List StreamEvent) : ProgressTree :=
  events.foldl (fun t e => (t.apply e).2) t

/-- Sets the line of diagnosis of a node. -/
def setDetail (t : ProgressTree) (idx : Nat) (detail : String) : ProgressTree :=
  { t with nodes := t.nodes.modify idx fun n => { n with detail := some detail } }

/-! ### Depth-first order -/

/-- Visits the nodes on a stack of indices and depths, each followed by its children; `fuel` bounds
the number of visits. -/
def walkFrom (t : ProgressTree) : Nat → List (Nat × Nat) → List (Nat × TreeNode)
  | 0, _ => []
  | _ + 1, [] => []
  | fuel + 1, (idx, depth) :: stack =>
    match t.node? idx with
    | none => t.walkFrom fuel stack
    | some node =>
      (depth, node) ::
        t.walkFrom fuel (node.children.map (fun child => (child, depth + 1)) ++ stack)

/-- The nodes with their depths in depth-first order from the root. Each node is visited once, so
the number of nodes bounds the visits. -/
def walk (t : ProgressTree) : List (Nat × TreeNode) :=
  t.walkFrom t.size [(0, 0)]

end ProgressTree

end StackDeploy
