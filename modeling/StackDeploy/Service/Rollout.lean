import StackDeploy.Text.Decimal
import StackDeploy.Text.Search

/-!
# Rollouts

The rollout state of a long-running service, its one-line summary, and the place of a service in its
physical identifier.
-/

namespace StackDeploy

open Text

/-- The **rollout** of a service: how many of its tasks run, and what is wrong. -/
structure Rollout where
  state : String
  runningCount : UInt32
  desiredCount : UInt32
  failedTasks : UInt32
  reason : Option String
deriving DecidableEq, Repr

/-- The summary of a rollout in one line. -/
def Rollout.summary (r : Rollout) : String :=
  "rollout " ++ r.state ++ " (" ++ natText r.runningCount.toNat ++ "/" ++
    natText r.desiredCount.toNat ++ " running" ++
    (if 0 < r.failedTasks then ", " ++ natText r.failedTasks.toNat ++ " failed tasks" else "") ++
    ")" ++
    (match r.reason with
      | some reason => ": " ++ reason
      | none => "")

/-- A **service reference** names a service within its cluster. -/
structure ServiceRef where
  cluster : String
  service : String
deriving DecidableEq, Repr

/-- The service that a physical identifier of the form `…/cluster/service` names; both parts must
not be empty. -/
def ServiceRef.ofPhysicalId? (physicalId : String) : Option ServiceRef :=
  match (splitOnChar '/' physicalId.toList).reverse with
  | service :: cluster :: _ =>
    if service = [] ∨ cluster = [] then none
    else some ⟨String.ofList cluster, String.ofList service⟩
  | _ => none

end StackDeploy
