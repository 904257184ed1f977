import NodeRpc.Url.Domain.Direction
import NodeRpc.Url.Domain.Label

/-!
# Names in ASCII

A name is looked up, and each of its labels is written in ASCII.

The order matters. Full stops of other scripts become dots only when the name is looked up, so it is
taken apart after that. A label that is spelled in ASCII in the name is read before the labels are
checked, so that its own letters are what is checked. Directions come last, because they are a
matter of all the labels together.
-/

namespace NodeRpc.Url.Domain

/-- A name in ASCII, if it is a domain name. -/
def ascii? (name : List Char) : Option (List Char) := do
  let labels ← (Text.splitAll '.' (← lookup? name)).mapM readLabel?
  if labels.all isLabel && runOneWay labels then
    return ['.'].intercalate (labels.map labelText)
  else none

end NodeRpc.Url.Domain
