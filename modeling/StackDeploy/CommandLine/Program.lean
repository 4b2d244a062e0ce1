import StackDeploy.CommandLine.Command
import StackDeploy.CommandLine.Report
import StackDeploy.Deployment.Schedule
import StackDeploy.Manifest.Basic
import StackDeploy.Service.Remote
import StackDeploy.Template.File
import StackDeploy.Text.Ansi

/-!
# The program

What the program does for each command, given everything around it: files, environment, a connection
to the service, a console and a clock. All of these work in any monad, so that one definition serves
the real world and a simulation.

* `Surroundings.perform` — runs one command; the result is a failure or nothing.
* `Surroundings.run` — runs the program on the words of a command line.
-/

namespace StackDeploy

open Ansi

/-- What the program finds **around** it. -/
structure Surroundings (m : Type → Type) where
  environment : Environment
  files : Files m
  /-- Sends a request to its URL. The request fails with a message. -/
  send : HttpRequest → m (Except String HttpResponse)
  /-- Writes to standard output. -/
  write : String → m Written
  /-- Writes to standard error. -/
  warn : String → m Unit
  /-- Standard output is a terminal. -/
  isTerminal : Bool
  clock : m Clock
  sleepUntil : Nat → m Unit
  /-- Somebody asked the program to stop. -/
  interrupted : m Bool
  /-- A name that no change set has. -/
  freshName : m String
  /-- The most turns that a session takes. -/
  turns : Nat

/-- The failure that an operation ended in. -/
def DeployError.failure (e : DeployError) : Failure := ⟨e.message, e.causes⟩

namespace Surroundings

variable {m : Type → Type} [Monad m]

/-! ### The console -/

/-- Messages are written with styles. What the environment demands comes before what the terminal
allows. -/
def usesStyles (s : Surroundings m) : Bool :=
  if (s.environment.lookup "CLICOLOR_FORCE").any (· ≠ "0") then true
  else if (s.environment.lookup "NO_COLOR").isSome then false
  else s.isTerminal && s.environment.lookup "CLICOLOR" ≠ some "0"

/-- A piece of a message, with a style if styles are used. -/
def styled (s : Surroundings m) (style : Style) (text : String) : String :=
  if s.usesStyles then paint style text else text

/-- Writes a line to standard output. -/
def say (s : Surroundings m) (line : String) : ExceptT Failure m Unit := do
  let _ ← s.write (line ++ "\n")

/-- Writes lines to standard output. -/
def sayAll (s : Surroundings m) : List String → ExceptT Failure m Unit
  | [] => pure ()
  | line :: rest => do
    s.say line
    s.sayAll rest

/-- Tells that the shown progress is not complete, if an error ended the feed. -/
def warnIncomplete (s : Surroundings m) : Option String → ExceptT Failure m Unit
  | none => pure ()
  | some e => do
    let _ ← s.warn (s.styled .yellow "!" ++ " Progress stream incomplete: " ++ e ++ "\n")

/-- How progress is drawn. Only a terminal can be redrawn and coloured. -/
def displayOptions (s : Surroundings m) (noColor : Bool) : DisplayOptions :=
  { live := s.isTerminal, color := s.isTerminal && !noColor && s.usesStyles }

/-! ### The service -/

/-- The message if no endpoint is configured. -/
def noEndpoint : String :=
  "No stack service endpoint configured " ++
    "(set STACKCTL_ENDPOINT or `endpoint` in .stackctl/config.yaml)"

/-- The configuration. -/
def loadConfig (s : Surroundings m) : ExceptT Failure m Config := do
  match ← (Config.load s.files s.environment : m _) with
  | .ok config => return config
  | .error e => throw ⟨e.message, []⟩

/-- The service that a configuration names. -/
def remote (config : Config) : ExceptT Failure m RemoteService :=
  match config.endpoint with
  | some endpoint => pure (.atEndpoint endpoint config.token)
  | none => throw ⟨noEndpoint, []⟩

/-- The host for sessions with a service. Only who follows events can be interrupted. -/
def host (s : Surroundings m) (remote : RemoteService) (interruptible : Bool) : Host m where
  call := remote.call s.send
  write := s.write
  clock := s.clock
  sleepUntil := s.sleepUntil
  interrupted := if interruptible then s.interrupted else pure false

/-- How sessions are run and shown. -/
def sessionSettings (s : Surroundings m) (config : Config) (noColor : Bool) : SessionSettings :=
  { deploy := config.polling.deploySettings
    display := s.displayOptions noColor
    lookups := true }

/-- Runs a session to its end. -/
def runSession (s : Surroundings m) (host : Host m) (session : Session) :
    ExceptT Failure m Outcome := do
  match ← (session.run host s.turns : m _) with
  | some outcome => return outcome
  | none => throw ⟨"the operation did not come to an end", []⟩

/-! ### Commands -/

/-- Loads a manifest in which nothing is wrong. -/
def loadManifest (s : Surroundings m) (path : String) : ExceptT Failure m Manifest.Loaded := do
  match ← (Manifest.load s.files path : m _) with
  | .error e => throw ⟨e.message, e.causes⟩
  | .ok loaded =>
    match loaded.manifest.fault? with
    | some fault => throw ⟨"Invalid manifest: " ++ path, [fault.message]⟩
    | none => return loaded

/-- Deploys the stack of a manifest. -/
def deploy (s : Surroundings m) (path : String) (update noColor : Bool) :
    ExceptT Failure m Unit := do
  let loaded ← s.loadManifest path
  let request := loaded.manifest.request
  let request := if update then { request with intent := .update } else request
  s.say ("Deploying stack " ++ s.styled .bold request.stack)
  let config ← s.loadConfig
  let remote ← remote config
  let rendered ←
    (Template.renderFile s.files loaded.directory request.template request.data : m _)
  let name ← s.freshName
  let updateName ← s.freshName
  let session := Session.deploy (s.sessionSettings config noColor) request
    (rendered.mapError (·.message)) name updateName
  match ← s.runSession (s.host remote false) session with
  | .noChanges =>
    s.say (s.styled .dimmed "=" ++ " Stack " ++ request.stack ++ " is already up to date")
  | .deployed status _ streamError =>
    s.warnIncomplete streamError
    s.say (s.styled .green "✓" ++ " Stack " ++ request.stack ++ " deployed (" ++ status.text ++ ")")
  | .failed e => throw e.failure
  | .deleted _ _ | .followed _ _ => pure ()

/-- Deletes a stack. -/
def delete (s : Surroundings m) (stack : String) (noColor : Bool) : ExceptT Failure m Unit := do
  s.say ("Deleting stack " ++ s.styled .bold stack)
  let config ← s.loadConfig
  let remote ← remote config
  let session := Session.delete (s.sessionSettings config noColor) stack
  match ← s.runSession (s.host remote false) session with
  | .deleted _ streamError =>
    s.warnIncomplete streamError
    s.say (s.styled .green "✓" ++ " Stack " ++ stack ++ " deleted")
  | .failed e => throw e.failure
  | .noChanges | .deployed _ _ _ | .followed _ _ => pure ()

/-- Follows the events of a stack until an interruption. -/
def followEvents (s : Surroundings m) (stack : String) (sinceMinutes : Int) (noColor : Bool) :
    ExceptT Failure m Unit := do
  let config ← s.loadConfig
  let remote ← remote config
  let clock ← s.clock
  let some cutoff := clock.calendar.minutesBefore? sinceMinutes.toNat
    | throw ⟨"no date is that many minutes ago", []⟩
  let session := Session.follow (s.sessionSettings config noColor) stack cutoff
  match ← s.runSession (s.host remote true) session with
  | .followed _ (.error message) => throw ⟨"Failed to write progress output", [message]⟩
  | .followed (.error e) (.ok ()) => throw ⟨e.message, [e.cause.message]⟩
  | .failed e => throw e.failure
  | .followed (.ok ()) (.ok ()) | .noChanges | .deployed _ _ _ | .deleted _ _ => pure ()

/-- Shows the state of a stack. -/
def showStatus (s : Surroundings m) (stack : String) : ExceptT Failure m Unit := do
  let config ← s.loadConfig
  let remote ← remote config
  match ← remote.call s.send (.describeStack stack) with
  | .ok description => s.sayAll description.reportLines
  | .error cause => throw (DeployError.api .describeStack stack cause).failure

/-- Shows the configuration. -/
def showConfig (s : Surroundings m) : ExceptT Failure m Unit := do
  let config ← s.loadConfig
  s.sayAll config.reportLines

/-- **Performs** a command. -/
def perform (s : Surroundings m) : Command → ExceptT Failure m Unit
  | .deploy manifest update noColor => s.deploy manifest update noColor
  | .delete stack noColor => s.delete stack noColor
  | .events stack sinceMinutes noColor => s.followEvents stack sinceMinutes noColor
  | .status stack => s.showStatus stack
  | .config => s.showConfig

/-! ### The whole program -/

/-- **Runs** the program on the words of a command line. The result is the exit code: 1 for a
failure, 2 for words that make no command. -/
def run (s : Surroundings m) (words : List String) : m UInt32 := do
  match Invocation.ofWords words with
  | .error e =>
    s.warn ("error: " ++ e.message ++ "\n\nFor more information, try '--help'.\n")
    return 2
  | .ok .version =>
    let _ ← (s.say versionLine).run
    return 0
  | .ok .help =>
    let _ ← (s.sayAll helpLines).run
    return 0
  | .ok (.run command) =>
    match ← (s.perform command).run with
    | .ok () => return 0
    | .error failure =>
      s.warn failure.report
      return 1

end Surroundings

end StackDeploy
