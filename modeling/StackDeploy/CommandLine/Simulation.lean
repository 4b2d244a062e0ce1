import StackDeploy.CommandLine.Program
import StackDeploy.Files.Tree
import StackDeploy.Http.Scripted

/-!
# Simulated runs of the program

The program in a world in memory: a file tree, a scripted server, a console that keeps what is
written, and a clock that only moves when the program sleeps.

* `Stage.surroundings` — such a world as the surroundings of the program.
* `Stage.run` — the exit code of a run, and the world after it.
-/

namespace StackDeploy

/-- What stays the same during a simulated run. -/
structure Setting where
  environment : Environment
  files : FileTree
  /-- The working directory as a place in the file tree. -/
  working : Place
  /-- The program is interrupted while the server answers this request. -/
  interruptAfter : Option Nat
  calendar : Instant
  turns : Nat

/-- What changes during a simulated run. -/
structure Stage where
  server : ScriptedServer
  timer : Nat
  /-- The number of fresh names so far. -/
  names : Nat
  output : List String
  errors : List String

namespace Stage

/-- The stage before a run. -/
def start (routes : List Route) : Stage := ⟨.start routes, 0, 0, [], []⟩

/-- A simulated world as the **surroundings** of the program. -/
def surroundings (setting : Setting) : Surroundings (StateM Stage) where
  environment := setting.environment
  files := setting.files.toFiles setting.working
  send request := modifyGet fun stage =>
    let (response, server) := stage.server.answer request
    (.ok response, { stage with server })
  write text := modifyGet fun stage => (.ok (), { stage with output := text :: stage.output })
  warn text := modify fun stage => { stage with errors := text :: stage.errors }
  isTerminal := false
  clock := do
    let stage ← get
    return { timer := stage.timer, stopwatch := stage.timer, calendar := setting.calendar }
  sleepUntil deadline := modify fun stage => { stage with timer := max stage.timer deadline }
  interrupted := do
    let stage ← get
    return setting.interruptAfter.any (· ≤ stage.server.received.length)
  freshName := modifyGet fun stage =>
    ("stackctl-#" ++ Text.natText (stage.names + 1), { stage with names := stage.names + 1 })
  turns := setting.turns

/-- Texts that were written, the last first, as one text. -/
def joined (texts : List String) : String :=
  texts.foldl (fun rest text => text ++ rest) ""

/-- **Runs** the program on the words of a command line. -/
def run (setting : Setting) (routes : List Route) (words : List String) : UInt32 × Stage :=
  (((surroundings setting).run words).run (start routes))

end Stage

end StackDeploy
