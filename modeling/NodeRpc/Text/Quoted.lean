import NodeRpc.Text.Unprintable
import NodeRpc.Text.Hex

/-!
# Quoted text

How a message shows a string it complains about: in double quotes, with a backslash before a quote
or a backslash, short escapes for tab, line feed, carriage return and NUL, and a number in braces
for what cannot be shown.

A message is one line whatever the string was, since no line end is shown as itself. It is not the
way JSON writes a string, which spells other characters by number and knows no braces.
-/

namespace NodeRpc.Text

/-- One character of a quoted text. -/
def quotedChar (c : Char) : List Char :=
  if c = '"' then ['\\', '"']
  else if c = '\\' then ['\\', '\\']
  else if c = '\t' then ['\\', 't']
  else if c = '\n' then ['\\', 'n']
  else if c = '\r' then ['\\', 'r']
  else if c.toNat = 0 then ['\\', '0']
  else if isUnprintable c then '\\' :: 'u' :: '\x7b' :: hexOfNat c.toNat ++ ['\x7d']
  else [c]

/-- A text between double quotes. -/
def quoted (text : List Char) : List Char := '"' :: text.flatMap quotedChar ++ ['"']

end NodeRpc.Text
