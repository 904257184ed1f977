/-!
# Binary64 numbers, exactly

A JSON number that is not an integer of 64 bits is carried as a finite binary64
number. No hardware arithmetic is used: a number is a sign, a mantissa and a
shift, its magnitude is a natural number of *units* (`2 ^ 1074` units make one),
and every operation is an exact computation on naturals followed by one rounding.
So the laws of rounding are laws of `Nat`, and what runs is what they speak about.

Infinities and NaN have no place here: an operation whose result is too large
answers `none`.
-/

namespace NodeRpc

def tenPow (k : Nat) : Nat := Nat.pow 10 k

/-- The integer nearest to `num / den`; a half goes to the even neighbour. -/
def roundHalfEven (num den : Nat) : Nat :=
  let quotient := num / den
  let remainder := num % den
  if 2 * remainder < den then quotient
  else if den < 2 * remainder then quotient + 1
  else quotient + quotient % 2

/-- The one form of each magnitude: the mantissa has at most 53 bits, the shift is
in range, and a shifted mantissa uses all 53 bits. -/
def Canonical (mantissa shift : Nat) : Prop :=
  mantissa < 1 <<< 53 ∧ shift ≤ 2045 ∧ (shift = 0 ∨ 1 <<< 52 ≤ mantissa)

instance (mantissa shift : Nat) : Decidable (Canonical mantissa shift) :=
  inferInstanceAs (Decidable (_ ∧ _ ∧ _))

/-- A finite binary64 number, `± mantissa * 2 ^ shift` units. The form is unique, so
equality of values is equality, except that the two zeros differ. -/
structure Binary64 where
  negative : Bool
  mantissa : Nat
  shift : Nat
  canonical : Canonical mantissa shift
  deriving DecidableEq

namespace Binary64

/-- How many units make one: the unit is the least positive binary64 number. -/
def unitsPerOne : Nat := 1 <<< 1074

def units (x : Binary64) : Nat := x.mantissa <<< x.shift

/-- The zero of the given sign. -/
def zero (negative : Bool) : Binary64 := ⟨negative, 0, 0, by decide⟩

def isZero (x : Binary64) : Bool := x.mantissa == 0

def neg (x : Binary64) : Binary64 := { x with negative := !x.negative }

/-- The number of this mantissa and shift, if they are in canonical form. -/
def make? (negative : Bool) (mantissa shift : Nat) : Option Binary64 :=
  if h : Canonical mantissa shift then some ⟨negative, mantissa, shift, h⟩ else none

/-- The binary64 number nearest to `num / den` units, a half to the even mantissa;
`none` if that number would be infinite. The shift keeps 53 bits of the quotient;
rounding up to `2 ^ 53` moves to the next shift. -/
def ofUnits? (negative : Bool) (num den : Nat) : Option Binary64 :=
  let shift := (num / den).log2 + 1 - 53
  let mantissa := roundHalfEven num (den <<< shift)
  if mantissa = 1 <<< 53 then make? negative (1 <<< 52) (shift + 1)
  else make? negative mantissa shift

/-- The binary64 number nearest to `num / den`. -/
def ofRatio? (negative : Bool) (num den : Nat) : Option Binary64 :=
  ofUnits? negative (num * unitsPerOne) den

/-- The binary64 number nearest to a natural number. -/
def ofNat? (n : Nat) : Option Binary64 := ofRatio? false n 1

def ofInt? (n : Int) : Option Binary64 := ofRatio? (n < 0) n.natAbs 1

/-- The product, rounded once. -/
def mul? (x y : Binary64) : Option Binary64 :=
  ofUnits? (x.negative != y.negative) (x.units * y.units) unitsPerOne

/-- The quotient, rounded once; division by zero has no finite answer. -/
def div? (x y : Binary64) : Option Binary64 :=
  if y.isZero then none
  else ofUnits? (x.negative != y.negative) (x.units * unitsPerOne) y.units

/-- The binary64 number nearest to `10 ^ k`. -/
def tenPow? (k : Nat) : Option Binary64 := ofNat? (tenPow k)

end Binary64
end NodeRpc
