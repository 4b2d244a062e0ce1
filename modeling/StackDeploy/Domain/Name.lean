import StackDeploy.Domain.Direction
import StackDeploy.Domain.Label

/-!
# Domain names

A domain name is a list of labels with dots between them. However it is spelled, it has one form in
ASCII and lower case.

* `asciiName?` — that form of a name.
-/

namespace StackDeploy.Domain

open Text Unicode

/-- The labels of the name that a text spells. -/
def labels? (text : List Char) : Option (List (List Char)) := do
  let spelled ← mapText? text
  (splitOnChar '.' (normal spelled)).mapM label?

/-- The name that a text spells in **ASCII and lower case**. -/
def asciiName? (text : List Char) : Option (List Char) := do
  let labels ← labels? text
  if areDirected labels then some (joinWith '.' (labels.map asciiForm)) else none

end StackDeploy.Domain
