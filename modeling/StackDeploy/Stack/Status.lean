import StackDeploy.Text.Search

/-!
# Stack status

The lifecycle status that the stack service reports for a stack. Statuses that are not listed are
kept as they came, so reading a status and writing it again is the identity on all texts.

* `StackStatus.text_ofText` — writing a status that was read gives back its text.
* `StackStatus.isSuccess`, `StackStatus.isFailure` — the verdict on a finished operation; unlisted
  statuses are judged by their suffix.
-/

namespace StackDeploy

open Text

/-- The **status** of a stack. -/
inductive StackStatus where
  | createInProgress
  | createFailed
  | createComplete
  | rollbackInProgress
  | rollbackFailed
  | rollbackComplete
  | updateInProgress
  | updateCompleteCleanupInProgress
  | updateComplete
  | updateFailed
  | updateRollbackInProgress
  | updateRollbackFailed
  | updateRollbackCompleteCleanupInProgress
  | updateRollbackComplete
  | deleteInProgress
  | deleteFailed
  | deleteComplete
  | reviewInProgress
  /-- A status that is not listed, with its text. -/
  | other (text : String)
deriving DecidableEq, Repr

namespace StackStatus

/-- The text of a status, as the service writes it. -/
def text : StackStatus → String
  | createInProgress => "CREATE_IN_PROGRESS"
  | createFailed => "CREATE_FAILED"
  | createComplete => "CREATE_COMPLETE"
  | rollbackInProgress => "ROLLBACK_IN_PROGRESS"
  | rollbackFailed => "ROLLBACK_FAILED"
  | rollbackComplete => "ROLLBACK_COMPLETE"
  | updateInProgress => "UPDATE_IN_PROGRESS"
  | updateCompleteCleanupInProgress => "UPDATE_COMPLETE_CLEANUP_IN_PROGRESS"
  | updateComplete => "UPDATE_COMPLETE"
  | updateFailed => "UPDATE_FAILED"
  | updateRollbackInProgress => "UPDATE_ROLLBACK_IN_PROGRESS"
  | updateRollbackFailed => "UPDATE_ROLLBACK_FAILED"
  | updateRollbackCompleteCleanupInProgress => "UPDATE_ROLLBACK_COMPLETE_CLEANUP_IN_PROGRESS"
  | updateRollbackComplete => "UPDATE_ROLLBACK_COMPLETE"
  | deleteInProgress => "DELETE_IN_PROGRESS"
  | deleteFailed => "DELETE_FAILED"
  | deleteComplete => "DELETE_COMPLETE"
  | reviewInProgress => "REVIEW_IN_PROGRESS"
  | other text => text

/-- The status with the given text. -/
def ofText (s : String) : StackStatus :=
  match s with
  | "CREATE_IN_PROGRESS" => createInProgress
  | "CREATE_FAILED" => createFailed
  | "CREATE_COMPLETE" => createComplete
  | "ROLLBACK_IN_PROGRESS" => rollbackInProgress
  | "ROLLBACK_FAILED" => rollbackFailed
  | "ROLLBACK_COMPLETE" => rollbackComplete
  | "UPDATE_IN_PROGRESS" => updateInProgress
  | "UPDATE_COMPLETE_CLEANUP_IN_PROGRESS" => updateCompleteCleanupInProgress
  | "UPDATE_COMPLETE" => updateComplete
  | "UPDATE_FAILED" => updateFailed
  | "UPDATE_ROLLBACK_IN_PROGRESS" => updateRollbackInProgress
  | "UPDATE_ROLLBACK_FAILED" => updateRollbackFailed
  | "UPDATE_ROLLBACK_COMPLETE_CLEANUP_IN_PROGRESS" => updateRollbackCompleteCleanupInProgress
  | "UPDATE_ROLLBACK_COMPLETE" => updateRollbackComplete
  | "DELETE_IN_PROGRESS" => deleteInProgress
  | "DELETE_FAILED" => deleteFailed
  | "DELETE_COMPLETE" => deleteComplete
  | "REVIEW_IN_PROGRESS" => reviewInProgress
  | s => other s

/-- The last requested operation completed as asked. -/
def isSuccess : StackStatus → Bool
  | createComplete | updateComplete | deleteComplete => true
  | other s => endsIn s "_COMPLETE" && !endsIn s "ROLLBACK_COMPLETE"
  | _ => false

/-- The last requested operation failed or was rolled back. -/
def isFailure : StackStatus → Bool
  | createFailed | rollbackFailed | rollbackComplete | updateFailed | updateRollbackFailed
  | updateRollbackComplete | deleteFailed => true
  | other s => endsIn s "_FAILED" || endsIn s "ROLLBACK_COMPLETE"
  | _ => false

/-- A status is **terminal** when no further transition happens without a new request. -/
def isTerminal (s : StackStatus) : Bool :=
  s.isSuccess || s.isFailure

instance : ToString StackStatus := ⟨text⟩

/-- Writing a status that was read gives back its text. -/
@[simp] theorem text_ofText (s : String) : (ofText s).text = s := by
  unfold ofText
  split <;> rfl

end StackStatus

end StackDeploy
