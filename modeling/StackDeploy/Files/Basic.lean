import StackDeploy.Files.Path

/-!
# Files

What the program needs from a file system: to know whether something exists, and to read a text.
The access works in any monad, so that one definition serves files on a disk and files in memory.
-/

namespace StackDeploy

/-- Why a file cannot be read as a text. -/
inductive FileError where
  | missing
  | isDirectory
  | notDirectory
  /-- A name in the path is longer than names can be. -/
  | nameTooLong
  /-- The path holds a character that no path can hold. -/
  | invalidPath
  /-- The content is not the encoding of a text. -/
  | notText
  /-- Any other failure, with its message. -/
  | other (message : String)
deriving DecidableEq, Repr

/-- The message of a file error. -/
def FileError.message : FileError → String
  | missing => "No such file or directory (os error 2)"
  | isDirectory => "Is a directory (os error 21)"
  | notDirectory => "Not a directory (os error 20)"
  | nameTooLong => "File name too long (os error 36)"
  | invalidPath => "file name contained an unexpected NUL byte"
  | notText => "stream did not contain valid UTF-8"
  | other message => message

/-- Access to a **file system**. -/
structure Files (m : Type → Type) where
  /-- Something is found at the path. -/
  contains : String → m Bool
  /-- The text of the file at the path. -/
  read : String → m (Except FileError String)

end StackDeploy
