import StackDeploy.Deployment.Outcome
import StackDeploy.Files.Basic
import StackDeploy.Text.Blank
import StackDeploy.Yaml.Record

/-!
# Configuration

The configuration says where the service is, how to prove who one is, and how often to ask. A value
in the environment comes before one in the configuration file, and that before the default.

* `Config.find` — the configuration file: the nearest one in the working directory and the
  directories around it, else the one in the program's home.
* `Config.resolve` — what the environment and the file come to.
* `Config.load` — the configuration; a file that cannot be used is an error.
-/

namespace StackDeploy

/-! ### Polling -/

/-- How often to ask and how long to wait, in **seconds**. -/
structure Polling where
  eventInterval : Nat
  statusInterval : Nat
  changeSetInterval : Nat
  changeSetTimeout : Nat
  deployTimeout : Nat
deriving DecidableEq, Repr

namespace Polling

/-- The times that hold if nothing else is said. -/
def default : Polling :=
  { eventInterval := 3, statusInterval := 5, changeSetInterval := 2, changeSetTimeout := 600,
    deployTimeout := 3600 }

/-- The timing of operations. -/
def deploySettings (p : Polling) : DeploySettings :=
  { eventInterval := p.eventInterval * 1000
    statusInterval := p.statusInterval * 1000
    review := ⟨p.changeSetInterval * 1000, p.changeSetTimeout * 1000⟩
    timeout := p.deployTimeout * 1000 }

end Polling

/-! ### Configuration files -/

/-- What a configuration **file** says. -/
structure ConfigFile where
  endpoint : Option String
  token : Option String
  /-- The times, where the file does not say otherwise the default ones. -/
  polling : Polling
deriving DecidableEq, Repr

namespace ConfigFile

/-- A file that says nothing. -/
def empty : ConfigFile := ⟨none, none, .default⟩

/-- The names of the fields of a configuration file. The version is read and not used. -/
def fieldNames : List String := ["version", "endpoint", "token", "polling"]

/-- The names of the fields about polling. -/
def pollingNames : List String :=
  ["event_interval_seconds", "status_interval_seconds", "change_set_interval_seconds",
    "change_set_timeout_seconds", "deploy_timeout_seconds"]

/-- The times in a node of a document. -/
def polling? (d : Yaml.Document) (node : Yaml.Node) : Option Polling := do
  let fields ← d.fields? pollingNames node
  let seconds (name : String) (default : Nat) : Option Nat :=
    (Yaml.fieldOr fields name none (d.asOption? d.asNumber?)).map (·.getD default)
  return {
    eventInterval := ← seconds "event_interval_seconds" Polling.default.eventInterval
    statusInterval := ← seconds "status_interval_seconds" Polling.default.statusInterval
    changeSetInterval := ← seconds "change_set_interval_seconds" Polling.default.changeSetInterval
    changeSetTimeout := ← seconds "change_set_timeout_seconds" Polling.default.changeSetTimeout
    deployTimeout := ← seconds "deploy_timeout_seconds" Polling.default.deployTimeout }

/-- The configuration file in a document. -/
def ofDocument? (d : Yaml.Document) : Option ConfigFile := do
  let fields ← d.fields? fieldNames d.root
  let text (name : String) : Option (Option String) :=
    Yaml.fieldOr fields name none (d.asOption? d.asText?)
  let _ ← text "version"
  return {
    endpoint := ← text "endpoint"
    token := ← text "token"
    polling := ← Yaml.fieldOr fields "polling" .default (polling? d) }

/-- Reads a configuration file from YAML. -/
def ofYaml? (text : String) : Option ConfigFile :=
  (Yaml.Document.ofText? text).bind ofDocument?

end ConfigFile

/-! ### Configurations -/

/-- What surrounds the program. -/
structure Environment where
  /-- The value of a variable. -/
  lookup : String → Option String
  workingDirectory : String
  /-- The home directory of the account under which the program runs, if the system knows one. -/
  accountHome : Option String := none

/-- The **home directory** of the user: the one that `HOME` names, or else that of the account. -/
def Environment.homeDirectory (env : Environment) : Option String :=
  ((env.lookup "HOME").filter (· ≠ "")).or env.accountHome

/-- The **configuration**. -/
structure Config where
  /-- The directory in which the program keeps what is its own. -/
  home : String
  endpoint : Option String
  token : Option String
  /-- The path of the configuration file, if there is one. -/
  file : Option String
  polling : Polling
deriving DecidableEq, Repr

namespace Config

/-- Why there is no configuration. -/
inductive Error where
  | noHome
  | unreadable (path : String) (cause : FileError)
  | malformed (path : String)
deriving DecidableEq, Repr

namespace Error

/-- The wording of an error, without its cause. -/
def summary : Error → String
  | noHome => "Failed to determine home directory"
  | unreadable path _ => "Failed to read config file: " ++ path
  | malformed path => "Failed to parse config file: " ++ path

/-- The wording of an error with its cause. -/
def message : Error → String
  | noHome => noHome.summary
  | unreadable path cause => (unreadable path cause).summary ++ ": " ++ cause.message
  | malformed path => (malformed path).summary ++ ": the document does not describe a configuration"

end Error

/-- The directory in which the program keeps what is its own. -/
def home? (env : Environment) : Option String :=
  match env.lookup "STACKCTL_HOME" with
  | some home => some home
  | none => env.homeDirectory.map fun home => Path.join home ".stackctl"

/-- A path and the paths of the directories **around** it, the nearest first; at most `fuel` of
them. -/
def around : Nat → String → List String
  | 0, _ => []
  | fuel + 1, path =>
    path :: match Path.parent? path with
      | some parent => around fuel parent
      | none => []

/-- The working directory and the directories around it, the nearest first. -/
def searched (env : Environment) : List String :=
  around (env.workingDirectory.length + 1) env.workingDirectory

/-- The path of a project's configuration file in a directory. -/
def projectFile (directory : String) : String :=
  Path.join (Path.join directory ".stackctl") "config.yaml"

/-- Where configuration files are looked for, in this order. -/
def candidates (env : Environment) (home : String) : List String :=
  (searched env).map projectFile ++ [Path.join home "config.yaml"]

/-- The first path at which something is found. -/
def firstExisting {m : Type → Type} [Monad m] (files : Files m) : List String → m (Option String)
  | [] => pure none
  | path :: rest => do
    if ← files.contains path then return some path
    firstExisting files rest

/-- **Finds** the configuration file. -/
def find {m : Type → Type} [Monad m] (files : Files m) (env : Environment) (home : String) :
    m (Option String) :=
  firstExisting files (candidates env home)

/-- A value that is not blank. -/
def given (value : Option String) : Option String :=
  value.filter fun text => !Text.isBlankText text

/-- What the environment and a file **come to**. Blank values count as missing. -/
def resolve (env : Environment) (home : String) (path : Option String) (file : ConfigFile) :
    Config :=
  { home
    endpoint := (given (env.lookup "STACKCTL_ENDPOINT")).or (given file.endpoint)
    token := (given (env.lookup "STACKCTL_TOKEN")).or (given file.token)
    file := path
    polling := file.polling }

/-- **Loads** the configuration. -/
def load {m : Type → Type} [Monad m] (files : Files m) (env : Environment) :
    m (Except Error Config) := do
  match home? env with
  | none => return .error .noHome
  | some home =>
    match ← find files env home with
    | none => return .ok (resolve env home none .empty)
    | some path =>
      match ← files.read path with
      | .error cause => return .error (.unreadable path cause)
      | .ok text =>
        match ConfigFile.ofYaml? text with
        | none => return .error (.malformed path)
        | some file => return .ok (resolve env home (some path) file)

end Config

end StackDeploy
