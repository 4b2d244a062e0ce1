import StackDeploy.Progress.Tree
import StackDeploy.Text.Ansi
import StackDeploy.Text.Search

/-!
# Drawing the progress tree

The tree as lines of text: a node's name, status and reason, indented by its depth, and under it its
line of diagnosis.
-/

namespace StackDeploy

open Text

/-- The colour of a status: failures and rollbacks red, completions green, other progress yellow. -/
def statusStyle? (status : String) : Option Ansi.Style :=
  if occursIn status "FAILED" || occursIn status "ROLLBACK" then some .red
  else if endsIn status "COMPLETE" then some .green
  else if occursIn status "IN_PROGRESS" then some .yellow
  else none

/-- A status as it is drawn. -/
def paintStatus (color : Bool) (status : String) : String :=
  match color, statusStyle? status with
  | true, some style => Ansi.paint style status
  | _, _ => status

namespace ProgressTree

/-- The indentation of a depth. -/
def indent (depth : Nat) : String :=
  String.ofList (List.replicate (2 * depth) ' ')

/-- The line of a node. -/
def nodeLine (color : Bool) (depth : Nat) (n : TreeNode) : String :=
  indent depth ++ n.name ++
    (if n.status = "" then "" else " " ++ paintStatus color n.status) ++
    (match n.reason with
      | some reason => " [" ++ reason ++ "]"
      | none => "")

/-- The lines of a node: its own, and its line of diagnosis when it has one. -/
def nodeLines (color : Bool) (depth : Nat) (n : TreeNode) : List String :=
  nodeLine color depth n ::
    match n.detail with
    | some detail => [indent (depth + 1) ++ detail]
    | none => []

/-- The **drawing** of a tree. -/
def lines (t : ProgressTree) (color : Bool) : List String :=
  t.walk.flatMap fun (depth, n) => nodeLines color depth n

/-- Lines as text, each with a newline at its end. -/
def unlines (lines : List String) : String :=
  lines.foldr (fun line rest => line ++ "\n" ++ rest) ""

/-- The drawing as text without colours. -/
def text (t : ProgressTree) : String :=
  unlines (t.lines false)

end ProgressTree

end StackDeploy
