import NodeRpc.Number.Binary64

/-!
# Decimals and their texts

A `Decimal` is a natural number of digits scaled by a power of ten. Two layouts are in use. *Plain*
never has an exponent and no fraction when the value is whole; amounts are read from it. *JSON*
keeps at least one fraction digit and turns to an exponent outside `1e-5 ≤ x < 1e16`, so that its
text is never mistaken for an integer.

Two decimals may be worth the same, with zeros at the end of the one that the other has in its
exponent. `trimZeros` picks the one without. Both layouts are about where the point goes, and
neither adds or drops a digit that counts.
-/

namespace NodeRpc

/-- The decimal digits of a natural number, most significant first. -/
def digitChars (n : Nat) : List Char := Nat.toDigits 10 n

/-- The value of a run of decimal digits. -/
def digitsValue (digits : List Nat) : Nat := digits.foldl (fun n d => 10 * n + d) 0

/-- The digit a character stands for. -/
def digit? (c : Char) : Option Nat :=
  if '0' ≤ c ∧ c ≤ '9' then some (c.toNat - '0'.toNat) else none

/-- `digits * 10 ^ exponent`. -/
structure Decimal where
  digits : Nat
  exponent : Int
  deriving DecidableEq

namespace Decimal

/-- Trailing zeros of the digits moved into the exponent; at most `fuel` of them. -/
def trimZeros : Nat → Decimal → Decimal
  | 0, d => d
  | fuel + 1, d =>
    if d.digits ≠ 0 ∧ d.digits % 10 = 0 then trimZeros fuel ⟨d.digits / 10, d.exponent + 1⟩
    else d

/-- Where the decimal point stands: the value is `0.d₁d₂…dₙ * 10 ^ point`. -/
def point (d : Decimal) : Int := (digitChars d.digits).length + d.exponent

/-- The plain layout: no exponent, and no point when the value is whole. -/
def plain (d : Decimal) : List Char :=
  let digits := digitChars d.digits
  if 0 ≤ d.exponent then
    if d.digits = 0 then ['0'] else digits ++ List.replicate d.exponent.toNat '0'
  else if 0 < d.point then
    digits.take d.point.toNat ++ '.' :: digits.drop d.point.toNat
  else
    '0' :: '.' :: List.replicate (-d.point).toNat '0' ++ digits

/-- The layout with an exponent: one digit before the point, a signed exponent. -/
def scientific (d : Decimal) : List Char :=
  let exponent := d.point - 1
  let sign := if 0 ≤ exponent then '+' else '-'
  let tail := 'e' :: sign :: digitChars exponent.natAbs
  match digitChars d.digits with
  | [] => tail
  | [first] => first :: tail
  | first :: rest => first :: '.' :: rest ++ tail

/-- The JSON layout: positional for `1e-5 ≤ x < 1e16`, with a fraction always. -/
def json (d : Decimal) : List Char :=
  if d.digits = 0 then ['0', '.', '0']
  else if -5 < d.point ∧ d.point ≤ 16 then
    if 0 ≤ d.exponent then d.plain ++ ['.', '0'] else d.plain
  else d.scientific

end Decimal
end NodeRpc
