import StackDeploy.Task

/-!
# Watching a stack

While an operation is under way the stack is described again and again, until its status is
terminal, it is gone, or the time is over.

* `Watch.step` — what the watch does next. Time is looked at only when the next look at the stack is
  not due yet, so a status that comes in time is never lost to the timeout.
-/

namespace StackDeploy

/-- How a watch ends. -/
inductive Watched where
  /-- The stack reached a terminal status. -/
  | terminal (stack : Stack)
  /-- There is no such stack any more. -/
  | gone
  /-- The stack could not be described. -/
  | failed (cause : ApiError)
  | timedOut
deriving DecidableEq

namespace Watch

/-- Where a watch stands. -/
inductive Phase where
  | waiting
  /-- The stack is to be described. -/
  | asking (deadline : Nat)
  /-- A reply came and is to be judged. -/
  | heard (deadline : Nat) (reply : Except ApiError Stack)
  | pausing (deadline wake : Nat)
  | over (result : Watched)

end Watch

/-- The **watch** over one stack, with its timing in milliseconds. -/
structure Watch where
  stack : String
  interval : Nat
  timeout : Nat
  phase : Watch.Phase

namespace Watch

/-- A watch that has not begun. -/
def start (stack : String) (interval timeout : Nat) : Watch :=
  { stack, interval, timeout, phase := .waiting }

/-- What a description of the stack says: the end of the watch, or nothing yet. -/
def verdict? : Except ApiError Stack → Option Watched
  | .ok stack => if stack.status.isTerminal then some (.terminal stack) else none
  | .error (.notFound _) => some .gone
  | .error cause => some (.failed cause)

/-- What the watch does next. -/
def step (clock : Clock) (w : Watch) : Step Watch Watched :=
  match w.phase with
  | .waiting => .goOn { w with phase := .asking (clock.timer + w.timeout) }
  | .asking deadline =>
    .call (.describeStack w.stack) fun reply => { w with phase := .heard deadline reply }
  | .heard deadline reply =>
    match verdict? reply with
    | some watched => .goOn { w with phase := .over watched }
    | none => .goOn { w with phase := .pausing deadline (clock.after w.interval) }
  | .pausing deadline wake =>
    if wake ≤ clock.timer then .goOn { w with phase := .asking deadline }
    else if deadline ≤ clock.timer then .goOn { w with phase := .over .timedOut }
    else .pause (min deadline wake) w
  | .over result => .finish result

end Watch

end StackDeploy
