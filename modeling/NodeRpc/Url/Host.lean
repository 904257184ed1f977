import NodeRpc.Number.Decimal
import NodeRpc.Text.Blank
import NodeRpc.Url.Domain.Name
import NodeRpc.Url.Percent

/-!
# Hosts

A host is a domain, an IPv4 address or an IPv6 address. A name whose last label is a number must be
an IPv4 address, in any of the spellings with one to four numbers in base eight, ten or sixteen. An
IPv6 address stands in brackets and is written with the first of its longest runs of zeros left out.

One address has many spellings, and all of them are written alike. That a name that looks like an
address is never looked up as a name is a matter of safety: somebody who has checked the one must
not be led to the other.
-/

namespace NodeRpc

/-- Why a text is no URL. -/
inductive UrlFault where
  /-- It has no scheme, so it could only be a reference relative to something. -/
  | relative
  | emptyHost
  | port
  | ipv4
  | ipv6
  /-- The host is no domain name. -/
  | domain
  /-- The host of another scheme holds a character that no host can hold. -/
  | hostCharacter
  deriving DecidableEq

/-- The reason as it is shown. -/
def UrlFault.message : UrlFault → String
  | relative => "relative URL without a base"
  | emptyHost => "empty host"
  | port => "invalid port number"
  | ipv4 => "invalid IPv4 address"
  | ipv6 => "invalid IPv6 address"
  | domain => "invalid international domain name"
  | hostCharacter => "invalid domain character"

namespace Url

/-- A host, told apart by what has to be done to reach it. -/
inductive Host where
  | domain (name : List Char)
  | ipv4 (address : Nat)
  /-- Eight pieces of 16 bits. -/
  | ipv6 (pieces : List Nat)
  deriving DecidableEq

/-- A number of an IPv4 address: after `0x` in base sixteen, after `0` in base eight,
else in base ten. A prefix alone is zero. -/
def ipv4Number? : List Char → Option Nat
  | [] => none
  | '0' :: 'x' :: digits | '0' :: 'X' :: digits => Text.numberInBase? 16 digits
  | '0' :: d :: digits => Text.numberInBase? 8 (d :: digits)
  | digits => Text.numberInBase? 10 digits

/-- The labels of a name; a dot at its end is left out. -/
def labels (name : List Char) : List (List Char) :=
  let all := Text.splitAll '.' name
  if 1 < all.length ∧ all.getLast? = some [] then all.dropLast else all

/-- Whether the last label of a name is a number. -/
def endsInNumber (name : List Char) : Bool :=
  match (labels name).getLast? with
  | some label =>
    (!label.isEmpty && label.all fun c => (digit? c).isSome) || (ipv4Number? label).isSome
  | none => false

/-- The address of numbers: all but the last are bytes, and the last fills the rest. -/
def ipv4OfNumbers? (numbers : List Nat) : Option Nat :=
  match numbers.reverse with
  | [] => none
  | last :: bytes =>
    if 4 < numbers.length ∨ 1 <<< (8 * (4 - bytes.length)) ≤ last ∨ bytes.any (255 < ·) then none
    else some (bytes.reverse.foldl (fun n b => 256 * n + b) 0 <<< (8 * (4 - bytes.length)) + last)

/-- The address that the labels of a name spell. -/
def ipv4? (name : List Char) : Option Nat := ((labels name).mapM ipv4Number?).bind ipv4OfNumbers?

/-- A piece of an IPv6 address: one to four hexadecimal digits. -/
def ipv6Piece? (digits : List Char) : Option Nat :=
  if digits.isEmpty ∨ 4 < digits.length then none else Text.numberInBase? 16 digits

/-- A byte in base ten without leading zeros. -/
def decimalByte? (digits : List Char) : Option Nat :=
  if digits.isEmpty ∨ (1 < digits.length ∧ digits.head? = some '0') then none
  else (Text.numberInBase? 10 digits).bind fun n => if n < 256 then some n else none

/-- The two last pieces of an IPv6 address spelled as four bytes. -/
def dottedPieces? (text : List Char) : Option (List Nat) :=
  match (Text.splitAll '.' text).mapM decimalByte? with
  | some [a, b, c, d] => some [256 * a + b, 256 * c + d]
  | _ => none

/-- Pieces between colons; the last may be four bytes with dots. -/
def ipv6Pieces? : List (List Char) → Option (List Nat)
  | [] => some []
  | [last] =>
    match ipv6Piece? last with
    | some piece => some [piece]
    | none => dottedPieces? last
  | piece :: rest => do
    let first ← ipv6Piece? piece
    let more ← ipv6Pieces? rest
    return first :: more

/-- The text before and after the first pair of colons. -/
def splitDoubleColon : List Char → Option (List Char × List Char)
  | [] => none
  | ':' :: ':' :: rest => some ([], rest)
  | c :: rest => (splitDoubleColon rest).map fun (before, after) => (c :: before, after)

/-- Pieces on one side of a pair of colons; there may be none. -/
def sidePieces? (text : List Char) : Option (List Nat) :=
  if text.isEmpty then some [] else ipv6Pieces? (Text.splitAll ':' text)

/-- The pieces of the text between brackets. A pair of colons stands for one or more
zeros; what is before it has no dots. -/
def ipv6? (text : List Char) : Option (List Nat) :=
  match splitDoubleColon text with
  | none => do
    let pieces ← sidePieces? text
    if pieces.length = 8 then some pieces else none
  | some (before, after) => do
    if before.contains '.' then none
    else
      let left ← sidePieces? before
      let right ← sidePieces? after
      if left.length + right.length < 8 then
        some (left ++ List.replicate (8 - left.length - right.length) 0 ++ right)
      else none

/-- The host of a text between brackets. -/
def bracketedHost (text : List Char) : Except UrlFault Host :=
  match text.getLast?, ipv6? text.dropLast with
  | some ']', some pieces => .ok (.ipv6 pieces)
  | _, _ => .error .ipv6

/-- The host of a URL of the web and of the schemes like it. -/
def Host.parse (text : List Char) : Except UrlFault Host :=
  match text with
  | '[' :: rest => bracketedHost rest
  | _ =>
    match (Text.textOfUtf8? (decode text)).bind Domain.ascii? with
    | none => .error .domain
    | some name =>
      if name.isEmpty then .error .emptyHost
      -- a name that ends in a number is an address or nothing
      else if endsInNumber name then
        match ipv4? name with
        | some address => .ok (.ipv4 address)
        | none => .error .ipv4
      else .ok (.domain name)

/-- Whether a text is the host of a URL of any other scheme. -/
def checkOpaqueHost (text : List Char) : Except UrlFault Unit :=
  match text with
  | '[' :: rest => (bracketedHost rest).map fun _ => ()
  | _ =>
    if text.any fun c => c.toNat = 0 || Domain.forbidden.contains c then .error .hostCharacter
    else .ok ()

/-- How many zeros a list starts with. -/
def leadingZeros : List Nat → Nat
  | 0 :: rest => leadingZeros rest + 1
  | _ => 0

/-- The length of the longest run of zeros. -/
def longestZeroRun : List Nat → Nat
  | [] => 0
  | piece :: rest => max (leadingZeros (piece :: rest)) (longestZeroRun rest)

def joinPieces (pieces : List Nat) : List Char :=
  [':'].intercalate (pieces.map Text.hexOfNat)

/-- Pieces with the first run of `zeros` zeros left out, if there are at least two. -/
def ipv6Text (zeros : Nat) (before : List Nat) : List Nat → List Char
  | [] => joinPieces before
  | piece :: rest =>
    if 2 ≤ zeros ∧ leadingZeros (piece :: rest) = zeros then
      joinPieces before ++ [':', ':'] ++ joinPieces ((piece :: rest).drop zeros)
    else ipv6Text zeros (before ++ [piece]) rest

/-- A host in its normal form. -/
def Host.text : Host → List Char
  | .domain name => name
  | .ipv4 address =>
    ['.'].intercalate
      ([24, 16, 8, 0].map fun shift => digitChars (address >>> shift % 256))
  | .ipv6 pieces => '[' :: ipv6Text (longestZeroRun pieces) [] pieces ++ [']']

end Url
end NodeRpc
