import StackDeploy.Table
import StackDeploy.Text.Blank
import StackDeploy.Text.Search

/-!
# Templates

A template is a text with placeholders such as `{{ name }}`. Rendering replaces every placeholder by
the value of its variable; values are copied as they are and not looked through again.

* `Template.substitute` — renders a text, or says what is wrong with its first bad placeholder.
* `Template.excerpt` — the part of the text that an error about an unclosed placeholder shows.
-/

namespace StackDeploy

open Text

namespace Template

/-- What is wrong with a placeholder. -/
inductive Error where
  /-- A placeholder is opened and not closed. -/
  | unclosed (excerpt : String)
  /-- There is no value for the variable. -/
  | unknownVariable (name : String)
deriving DecidableEq, Repr

/-- The wording of an error. -/
def Error.message : Error → String
  | unclosed excerpt => "Unclosed placeholder near: " ++ excerpt
  | unknownVariable name => "No value for template variable '" ++ name ++ "'"

/-- What opens a placeholder. -/
def opening : List Char := ['{', '{']

/-- What closes a placeholder. -/
def closing : List Char := ['}', '}']

/-- The number of characters that an error shows of the text. -/
def excerptLength : Nat := 24

/-- The beginning of a text, as an error shows it. -/
def excerpt (cs : List Char) : String := String.ofList (cs.take excerptLength)

/-- Renders the characters of a template. -/
def substituteChars (data : Table String String) (content : List Char) :
    Except Error (List Char) :=
  match _hopen : cutAt opening content with
  | none => .ok content
  | some (before, after) =>
    match _hclose : cutAt closing after with
    | none => .error (.unclosed (excerpt (opening ++ after)))
    | some (key, rest) =>
      let name := String.ofList (trimChars key)
      match data.get? name with
      | none => .error (.unknownVariable name)
      | some value =>
        match substituteChars data rest with
        | .error e => .error e
        | .ok rendered => .ok (before ++ value.toList ++ rendered)
termination_by content.length
decreasing_by
  have hafter := length_of_cutAt _hopen
  have hrest := length_of_cutAt _hclose
  simp only [opening, closing, List.length_cons, List.length_nil] at hafter hrest
  omega

/-- **Renders** a template: every placeholder is replaced by the value of the variable that it
names, blanks around the name not counted. -/
def substitute (content : String) (data : Table String String) : Except Error String :=
  (substituteChars data content.toList).map String.ofList

end Template

end StackDeploy
