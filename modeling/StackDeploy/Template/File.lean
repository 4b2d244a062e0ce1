import StackDeploy.Files.Basic
import StackDeploy.Template

/-!
# Template files

A template is kept in a file below a directory. It is read and its placeholders are replaced.
-/

namespace StackDeploy.Template

/-- Why a template file gives no body. -/
inductive FileFailure where
  | unreadable (path : String) (cause : FileError)
  | unrendered (path : String) (cause : Error)
deriving DecidableEq, Repr

/-- The message of a failure with its causes. -/
def FileFailure.message : FileFailure → String
  | unreadable path cause => s!"Failed to read template: {path}: " ++ cause.message
  | unrendered path cause => s!"Failed to render template: {path}: " ++ cause.message

/-- The body for the template `name` below a directory. -/
def renderFile {m : Type → Type} [Monad m] (files : Files m) (directory name : String)
    (data : List (String × String)) : m (Except FileFailure String) := do
  let path := Path.join directory name
  match ← files.read path with
  | .error cause => return .error (.unreadable path cause)
  | .ok content =>
    match substitute content data with
    | .error cause => return .error (.unrendered path cause)
    | .ok body => return .ok body

end StackDeploy.Template
