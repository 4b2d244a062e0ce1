import StackDeploy.Progress.Display
import StackDeploy.Task

/-!
# The painter

The painter takes batches as they come, applies them to its display and redraws it. It ends when no
more batches can come or when a drawing cannot be written.
-/

namespace StackDeploy

namespace Painter

/-- Where a painter stands. -/
inductive Phase where
  /-- It waits for a batch. -/
  | receiving
  /-- These events of a batch are still to be applied. -/
  | applying (rest : Batch)
  /-- A rollout is to be looked up before the rest of the batch is applied. -/
  | asking (lookup : Display.Lookup) (rest : Batch)
  | drawing
  | over (result : Written)

end Painter

/-- The **painter** of one operation. -/
structure Painter where
  display : Display
  phase : Painter.Phase

namespace Painter

/-- A painter that waits for its first batch. -/
def start (display : Display) : Painter := ⟨display, .receiving⟩

/-- Begins to apply a batch. -/
def receive (p : Painter) (batch : Batch) : Painter :=
  { p with phase := .applying batch }

/-- No more batches can come. -/
def close (p : Painter) : Painter :=
  { p with phase := .over (.ok ()) }

/-- What a painter does next. -/
inductive Move where
  /-- Waits for a batch. -/
  | receive
  | call (request : Request) (resume : Reply request → Painter)
  | write (text : String) (resume : Written → Painter)
  | goOn (next : Painter)
  | over (result : Written)

/-- What the painter does next. -/
def step (p : Painter) : Move :=
  match p.phase with
  | .receiving => .receive
  | .applying [] => .goOn { p with phase := .drawing }
  | .applying (e :: rest) =>
    match p.display.notify e with
    | (display, none) => .goOn ⟨display, .applying rest⟩
    | (display, some lookup) => .goOn ⟨display, .asking lookup rest⟩
  | .asking lookup rest =>
    .call (.resolveRollout lookup.ref) fun reply =>
      ⟨p.display.answered lookup reply, .applying rest⟩
  | .drawing =>
    .write p.display.frame fun
      | .ok () => ⟨p.display.redrawn, .receiving⟩
      | .error message => { p with phase := .over (.error message) }
  | .over result => .over result

/-- How the painter ended, if it has. -/
def result? (p : Painter) : Option Written :=
  match p.phase with
  | .over result => some result
  | _ => none

/-- What a painter that has received a batch does next until it is done with it. -/
def batchStep (_ : Clock) (p : Painter) : Step Painter Painter :=
  match p.step with
  | .receive | .over _ => .finish p
  | .call request resume => .call request resume
  | .write text resume => .write text resume
  | .goOn next => .goOn next

end Painter

end StackDeploy
