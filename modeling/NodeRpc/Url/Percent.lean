import NodeRpc.Text.Hex
import NodeRpc.Text.Utf8

/-!
# Percent-encoding

A character that cannot stand in some part of a URL is spelled as a percent sign and two hexadecimal
digits for each of its UTF-8 bytes. Which characters those are depends on the part; control
characters and all that is not ASCII are always among them.

A percent sign itself is not among them: what is encoded already is left as it is, and encoding a
second time changes nothing. For the same reason decoding need not give back a text that has percent
signs in it.
-/

namespace NodeRpc.Url

/-- A part of a URL. -/
inductive Part where
  | userinfo
  | path
  | query
  | fragment
  deriving DecidableEq

/-- The printable ASCII characters that cannot stand in a part. -/
def Part.reserved : Part → List Char
  | .fragment => [' ', '"', '<', '>', '`']
  | .query => [' ', '"', '#', '<', '>', '\'']
  | .path => [' ', '"', '<', '>', '`', '#', '?', '\x7b', '\x7d']
  | .userinfo =>
    [' ', '"', '<', '>', '`', '#', '?', '\x7b', '\x7d', '/', ':', ';', '=', '@', '[', '\\', ']',
     '^', '|']

/-- Whether a character is encoded in a part. -/
def Part.encodes (part : Part) (c : Char) : Bool :=
  c.toNat < 0x20 || 0x7F ≤ c.toNat || part.reserved.contains c

/-- A byte as a percent sign and two upper-case digits. -/
def percentByte (b : UInt8) : List Char :=
  '%' :: (Text.hexOfBytes [b]).map Char.toUpper

/-- A text as it stands in a part. -/
def encode (part : Part) (text : List Char) : List Char :=
  text.flatMap fun c => if part.encodes c then (Text.utf8Bytes [c]).flatMap percentByte else [c]

/-- The bytes of an encoded text. A percent sign without two digits stands for itself. -/
def decode : List Char → List UInt8
  | [] => []
  | '%' :: high :: low :: rest =>
    match Text.hexValue? high, Text.hexValue? low with
    | some h, some l => UInt8.ofNat (16 * h + l) :: decode rest
    | _, _ => Text.utf8Bytes ['%'] ++ decode (high :: low :: rest)
  | c :: rest => Text.utf8Bytes [c] ++ decode rest

end NodeRpc.Url
