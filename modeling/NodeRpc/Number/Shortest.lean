import NodeRpc.Number.Decimal

/-!
# The shortest decimal of a binary64 number

The decimals that read back as a number `x` are those in the interval between the
midpoints to its two neighbours, ends included exactly when the mantissa of `x` is
even. For one digit, then two, and so on, the two points of the decimal grid next
to `x` are tried in exact arithmetic; the first grid with a point in the interval
wins, and of two such points the nearer. If any point of a grid lies in the
interval then so does one of those two, so no shorter decimal reads back.

A number can lie half-way between two such points, and the two layouts settle that
differently: JSON takes the even one, the plain layout the one that is larger.
-/

namespace NodeRpc.Binary64

/-- Quarter units in one: midpoints to neighbours are whole numbers of them. -/
def quartersPerOne : Nat := 4 * unitsPerOne

/-- The interval of a positive number in quarter units. The gap below the least
number of a shift is half the gap above it. -/
def interval (x : Binary64) : Nat × Nat :=
  let gap := 1 <<< x.shift
  let below := if x.mantissa = 1 <<< 52 ∧ 0 < x.shift then gap else 2 * gap
  (4 * x.units - below, 4 * x.units + 2 * gap)

/-- A value in quarter units brought to a common scale with the grid of step
`10 ^ exponent`: the value and the step as naturals. -/
def onGrid (value : Nat) (exponent : Int) : Nat × Nat :=
  if 0 ≤ exponent then (value, quartersPerOne * tenPow exponent.toNat)
  else (value * tenPow (-exponent).toNat, quartersPerOne)

/-- Which of two points a number goes to that lies half-way between them. -/
inductive Tie where
  | even
  | larger
  deriving DecidableEq

/-- Whether a number half-way between `lower` and the next point goes to the next. -/
def Tie.goesUp (tie : Tie) (lower : Nat) : Bool :=
  match tie with
  | even => lower % 2 = 1
  | larger => true

/-- The grid point of step `10 ^ exponent` that reads back as `x`, if there is one:
of the two next to `x` the nearer that lies in the interval. -/
def gridPoint? (x : Binary64) (tie : Tie) (exponent : Int) : Option Nat :=
  let (value, step) := onGrid (4 * x.units) exponent
  let (low, _) := onGrid x.interval.1 exponent
  let (high, _) := onGrid x.interval.2 exponent
  let lower := value / step
  let upper := lower + 1
  -- an end of the interval is half-way to a neighbour, and reads back as the even one of the two
  let inside := fun n =>
    if x.mantissa % 2 = 0 then low ≤ n * step ∧ n * step ≤ high
    else low < n * step ∧ n * step < high
  let below := value - lower * step
  let above := upper * step - value
  if inside lower then
    if inside upper ∧ (above < below ∨ above = below ∧ tie.goesUp lower) then some upper
    else some lower
  else if inside upper then some upper
  else none

/-- The power of ten of the leading digit: the number of decimal digits of the
whole part less one, or for a number below one the negated number of digits of its
reciprocal's whole part (a binary fraction below one is no power of ten). -/
def magnitude (x : Binary64) : Int :=
  if unitsPerOne ≤ x.units then
    Int.ofNat ((digitChars (x.units / unitsPerOne)).length - 1)
  else
    -Int.ofNat (digitChars (unitsPerOne / x.units)).length

/-- The first grid with a hit, from `digits` digits on, among `fuel` grids. -/
def shortestFrom (x : Binary64) (tie : Tie) : Nat → Nat → Decimal
  | 0, _ => ⟨x.units, 0⟩
  | fuel + 1, digits =>
    let exponent := x.magnitude - Int.ofNat digits + 1
    match x.gridPoint? tie exponent with
    | some n => Decimal.trimZeros digits ⟨n, exponent⟩
    | none => shortestFrom x tie fuel (digits + 1)

/-- The decimal with the fewest digits that reads back as the magnitude of `x`, and
of those the nearest. Seventeen digits always suffice. -/
def shortest (x : Binary64) (tie : Tie) : Decimal :=
  if x.isZero then ⟨0, 0⟩ else shortestFrom x tie 17 1

/-- A sign for a negative number, negative zero included. -/
def signed (x : Binary64) (text : List Char) : List Char :=
  if x.negative then '-' :: text else text

/-- The number in the JSON layout. -/
def json (x : Binary64) : List Char := x.signed (x.shortest .even).json

/-- The number in the plain layout. -/
def plain (x : Binary64) : List Char := x.signed (x.shortest .larger).plain

end NodeRpc.Binary64
