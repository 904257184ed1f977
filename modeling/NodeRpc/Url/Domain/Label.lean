import NodeRpc.Url.Domain.Joiner
import NodeRpc.Url.Domain.Lookup
import NodeRpc.Url.Domain.Punycode

/-!
# Labels

The labels of a name stand between its dots. One with characters beyond ASCII is written in ASCII as
`xn--` with its Punycode, and a label that starts like this must spell one in the form in which it
would be looked up.

Without that condition a capital letter could be spelled in ASCII, and the label with the small
letter would be another one. A label of ASCII characters alone may have any length; the limits are
for Punycode, which takes more steps than it has characters.
-/

namespace NodeRpc.Url.Domain

/-- The printable ASCII characters that no host can hold. -/
def forbidden : List Char :=
  [' ', '#', '/', ':', '<', '>', '?', '@', '[', '\\', ']', '^', '|']

/-- Whether a name cannot hold a character, though it may be looked up. -/
def forbids (c : Char) : Bool :=
  c.toNat < 0x20 || c.toNat = 0x7F || c = '%' || forbidden.contains c

/-- How many characters a label beyond ASCII can have. -/
def labelLimit : Nat := 1000

/-- How many characters of Punycode are read. -/
def punycodeLimit : Nat := 2000

/-- A label of a text that was looked up; it may stand there in ASCII. -/
def readLabel? (text : List Char) : Option (List Char) :=
  match text with
  | 'x' :: 'n' :: '-' :: '-' :: numbers =>
    if punycodeLimit < numbers.length then none
    else
      (Punycode.decode? numbers).filter fun label =>
        !label.all Text.isAscii && isLookedUp label
  | _ => some text

/-- Whether a label can stand in a name: no character of it is forbidden, it does not begin with a
mark, its joiners stand where they can, and it is not too long. -/
def isLabel (label : List Char) : Bool :=
  !label.any forbids && !label.head?.any isMark && joinersStand [] label &&
    (label.all Text.isAscii || label.length ≤ labelLimit)

/-- A label in ASCII. -/
def labelText (label : List Char) : List Char :=
  if label.all Text.isAscii then label else ['x', 'n', '-', '-'] ++ Punycode.encode label

end NodeRpc.Url.Domain
