import StackDeploy.Config
import StackDeploy.Stack.Basic
import StackDeploy.Text.Search

/-!
# Reports

The texts that the program itself writes: about a stack, about its configuration, and about what
went wrong.

* `Failure.report` — an error with everything that caused it.
-/

namespace StackDeploy

open Text

/-! ### Failures -/

/-- A **failure** of the program: a message, and the messages of what is behind it, the nearest
first. -/
structure Failure where
  message : String
  causes : List String
deriving DecidableEq, Repr

namespace Failure

/-- A cause as it is listed, after its label: the lines after the first are indented as far as the
label is wide. -/
def causeText (label : String) (cause : String) : String :=
  let indent := List.replicate label.length ' '
  label ++ String.ofList (cause.toList.flatMap fun c => if c = '\n' then '\n' :: indent else [c])

/-- Causes with their numbers, from the given one on, each after a line break. -/
def numbered : Nat → List String → String
  | _, [] => ""
  | n, cause :: rest =>
    let digits := natDigits n
    let label := List.replicate (5 - digits.length) ' ' ++ digits ++ [':', ' ']
    "\n" ++ causeText (String.ofList label) cause ++ numbered (n + 1) rest

/-- The causes as they are listed. A single one has no number. -/
def causesText : List String → String
  | [] => ""
  | [cause] => "\n\nCaused by:\n" ++ causeText "    " cause
  | causes => "\n\nCaused by:" ++ numbered 0 causes

/-- The **report** of a failure. -/
def report (f : Failure) : String :=
  "Error: " ++ f.message ++ causesText f.causes ++ "\n"

end Failure

/-! ### Stacks -/

/-- A section of a report: its title and its lines, or nothing if it has no lines. -/
def reportSection (title : String) (lines : List String) : List String :=
  if lines.isEmpty then [] else ["", title ++ ":"] ++ lines.map ("  " ++ ·)

/-- The line about an output. -/
def Output.line (o : Output) : String :=
  o.key ++ ": " ++ o.value ++
    match o.description with
    | some description => "  (" ++ description ++ ")"
    | none => ""

/-- The lines about a stack. -/
def Stack.reportLines (s : Stack) : List String :=
  ["Stack:  " ++ s.name, "ID:     " ++ s.id, "Status: " ++ s.status.text] ++
    (s.statusReason.map ("Reason: " ++ ·)).toList ++
    reportSection "Parameters" (s.parameters.map fun p => p.key ++ ": " ++ p.value) ++
    reportSection "Outputs" (s.outputs.map Output.line) ++
    reportSection "Tags" (s.tags.map fun t => t.key ++ ": " ++ t.value)

/-! ### The configuration -/

/-- The lines about the configuration. The token is not shown. -/
def Config.reportLines (c : Config) : List String :=
  let seconds (label : String) (n : Nat) := "  " ++ label ++ natText n ++ "s"
  ["stackctl configuration",
    "",
    "Config file: " ++ c.file.getD "(none - using defaults)",
    "Home:        " ++ c.home,
    "Endpoint:    " ++ c.endpoint.getD "(not set)",
    "Token:       " ++ (if c.token.isSome then "(set)" else "(not set)"),
    "",
    "Polling:",
    seconds "Event interval:       " c.polling.eventInterval,
    seconds "Status interval:      " c.polling.statusInterval,
    seconds "Change set interval:  " c.polling.changeSetInterval,
    seconds "Change set timeout:   " c.polling.changeSetTimeout,
    seconds "Deploy timeout:       " c.polling.deployTimeout]

/-! ### About the program -/

/-- The line that tells the version. -/
def versionLine : String := "stackctl 0.1.0"

/-- The lines that tell how the program is used. -/
def helpLines : List String :=
  ["stackctl - Deploy infrastructure stacks through reviewed change sets",
    "",
    "Usage: stackctl <COMMAND>",
    "",
    "Commands:",
    "  deploy <MANIFEST> [--update] [--no-color]",
    "      Deploy a stack from a manifest, with --update as an update",
    "  delete <STACK> [--no-color]",
    "      Delete a stack and follow its progress",
    "  events <STACK> [--since-minutes <N>] [--no-color]",
    "      Follow a stack's events, also those from the last N minutes",
    "  status <STACK>",
    "      Show the current state of a stack",
    "  config",
    "      Show the resolved configuration"]

end StackDeploy
