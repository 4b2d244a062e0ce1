import StackDeploy.Deployment.Outcome
import StackDeploy.Files.Basic
import StackDeploy.Service.Records
import StackDeploy.Text.Blank
import StackDeploy.Yaml.Record

/-!
# Manifests

A manifest is a small YAML document that describes one deployment: the stack, its template, and the
values for both. The template is found relative to the directory of the manifest.

* `Manifest.ofYaml?` — reads a manifest.
* `Manifest.fault?` — what is wrong with a manifest, if anything is.
* `Manifest.request` — the deployment that a manifest asks for.
-/

namespace StackDeploy

/-- A **manifest**. -/
structure Manifest where
  name : String
  template : String
  intent : ChangeSetType
  /-- The parameters of the stack, sorted by their keys. -/
  parameters : Table String String
  /-- The tags of the stack, sorted by their keys. -/
  tags : Table String String
  /-- The values of the template's variables. -/
  data : Table String String
deriving DecidableEq, Repr

namespace Manifest

/-! ### Reading -/

/-- The names of the fields of a manifest. -/
def fieldNames : List String := ["name", "template", "intent", "parameters", "tags", "data"]

/-- The manifest in a document. Only the name and the template have to be there. -/
def ofDocument? (d : Yaml.Document) : Option Manifest := do
  let fields ← d.fields? fieldNames d.root
  return {
    name := ← d.asText? (← fields.get? "name")
    template := ← d.asText? (← fields.get? "template")
    intent := ← Yaml.fieldOr fields "intent" .create (d.asWord? ChangeSetType.words)
    parameters := ← Yaml.fieldOr fields "parameters" [] d.asTexts?
    tags := ← Yaml.fieldOr fields "tags" [] d.asTexts?
    data := ← Yaml.fieldOr fields "data" [] d.asTexts? }

/-- Reads a **manifest** from YAML. -/
def ofYaml? (text : String) : Option Manifest :=
  (Yaml.Document.ofText? text).bind ofDocument?

/-! ### Checking -/

/-- What can be **wrong** with a manifest. -/
inductive Fault where
  | blankName
  | badName (name : String)
  | noTemplate (name : String)
  | emptyKey (name : String)
deriving DecidableEq, Repr

/-- The wording of a fault. -/
def Fault.message : Fault → String
  | blankName => "Stack name cannot be empty"
  | badName name => "Stack name '" ++ name ++ "' may only contain letters, digits and hyphens"
  | noTemplate name => "Stack '" ++ name ++ "' has no template"
  | emptyKey name => "Stack '" ++ name ++ "' has an empty parameter or tag key"

/-- The character may stand in the name of a stack. -/
def isNameChar (c : Char) : Bool := c.isAlphanum || c = '-'

/-- The first fault of a manifest, if it has any. -/
def fault? (m : Manifest) : Option Fault :=
  if Text.isBlankText m.name then some .blankName
  else if !m.name.toList.all isNameChar then some (.badName m.name)
  else if Text.isBlankText m.template then some (.noTemplate m.name)
  else if (m.parameters ++ m.tags).any (·.1 = "") then some (.emptyKey m.name)
  else none

/-! ### Using -/

/-- The deployment that a manifest asks for. -/
def request (m : Manifest) : DeployRequest :=
  { stack := m.name
    template := m.template
    data := m.data
    parameters := m.parameters.map fun (key, value) => ⟨key, value⟩
    tags := m.tags.map fun (key, value) => ⟨key, value⟩
    intent := m.intent }

/-- Why there is no manifest at a path. -/
inductive LoadError where
  | unreadable (path : String) (cause : FileError)
  | malformed
deriving DecidableEq, Repr

/-- The wording of an error. -/
def LoadError.message : LoadError → String
  | unreadable path _ => "Failed to read manifest file: " ++ path
  | malformed => "Failed to parse manifest YAML"

/-- The messages of what is behind an error. -/
def LoadError.causes : LoadError → List String
  | unreadable _ cause => [cause.message]
  | malformed => ["the document does not describe a manifest"]

/-- A manifest together with the directory that it was found in. -/
structure Loaded where
  manifest : Manifest
  directory : String
deriving DecidableEq, Repr

/-- The path of the template. -/
def Loaded.templatePath (l : Loaded) : String :=
  Path.join l.directory l.manifest.template

/-- Loads the manifest at a path. -/
def load {m : Type → Type} [Monad m] (files : Files m) (path : String) :
    m (Except LoadError Loaded) := do
  match ← files.read path with
  | .error cause => return .error (.unreadable path cause)
  | .ok text =>
    match ofYaml? text with
    | none => return .error .malformed
    | some manifest => return .ok ⟨manifest, (Path.parent? path).getD ""⟩

end Manifest

end StackDeploy
