/-!
# Hexadecimal text

Bytes as pairs of lower-case digits; upper-case digits are read too. The same digits spell numbers
in any base up to sixteen.

Blocks and transactions are sent and received in this form, and so are hashes, in reverse. A text
with an odd number of digits, or with a character that is no digit, spells no bytes at all: what
stands before the first bad character is not kept.
-/

namespace NodeRpc.Text

/-- The digit of a value below sixteen. -/
def hexDigit (n : Nat) : Char :=
  if n < 10 then Char.ofNat ('0'.toNat + n) else Char.ofNat ('a'.toNat + (n - 10))

/-- The value of a hexadecimal digit of either case. -/
def hexValue? (c : Char) : Option Nat :=
  if '0' ≤ c ∧ c ≤ '9' then some (c.toNat - '0'.toNat)
  else if 'a' ≤ c ∧ c ≤ 'f' then some (c.toNat - 'a'.toNat + 10)
  else if 'A' ≤ c ∧ c ≤ 'F' then some (c.toNat - 'A'.toNat + 10)
  else none

/-- The number that digits of a base spell, if all of them are digits of it. -/
def numberInBase? (base : Nat) (digits : List Char) : Option Nat :=
  digits.foldlM (fun n c => (hexValue? c).bind fun d =>
    if d < base then some (base * n + d) else none) 0

/-- Two digits for each byte. -/
def hexOfBytes (bytes : List UInt8) : List Char :=
  bytes.flatMap fun b => [hexDigit (b.toNat / 16), hexDigit (b.toNat % 16)]

/-- The bytes of a text of digit pairs. -/
def bytesOfHex? : List Char → Option (List UInt8)
  | [] => some []
  | [_] => none
  | high :: low :: rest => do
    let h ← hexValue? high
    let l ← hexValue? low
    let tail ← bytesOfHex? rest
    return UInt8.ofNat (16 * h + l) :: tail

/-- A number in lower-case hexadecimal without leading zeros. -/
def hexOfNat (n : Nat) : List Char := Nat.toDigits 16 n

end NodeRpc.Text
