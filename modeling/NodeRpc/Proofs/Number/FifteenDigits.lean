import NodeRpc.Proofs.Number.Fewest

/-!
# Fifteen digits survive

Two decimals near the same number are at most a gap apart (`Near.abs_sub_le`), and the gap at a
number of 53 bits is less than the `2 ^ 52`nd part of it. Decimals of at most fifteen digits stand
further apart than that, so only one of them is near such a number (`eq_of_near`). The shortest
decimal of a number has no more digits than any other near it, so where one of at most fifteen is
near, the shortest is that one (`value_shortest_of_near`).

That fifteen decimal digits survive a binary64 number is often quoted and holds with a condition. It
fails for the smallest numbers, the subnormal ones, which have fewer than 53 bits: there two
decimals of one digit can be near the same number. So the theorem has the hypothesis that the shift
is positive, and `Near.shift_pos` gives it for anything from `1e-15` up. The numbers that are
printed without an exponent are not smaller than that, but for zero.

The two decimals need not have their digits at the same places. They are compared on the finer of
the two grids they are on, and the finer grid is the one of the decimal with the lower last place,
whose step is the one to be compared with the gap.
-/

namespace NodeRpc.Binary64

/-- The distance from a number to the next one. -/
def gap (x : Binary64) : ℚ := 2 ^ x.shift / unitsPerOne

theorem gap_mul (x : Binary64) : x.gap * unitsPerOne = 2 ^ x.shift := by
  have hU : (unitsPerOne : ℚ) ≠ 0 := by exact_mod_cast unitsPerOne_pos.ne'
  unfold gap
  field_simp

theorem ratio_mul (x : Binary64) : x.ratio * unitsPerOne = x.units := by
  have hU : (unitsPerOne : ℚ) ≠ 0 := by exact_mod_cast unitsPerOne_pos.ne'
  unfold ratio
  field_simp

/-- What is near a number is at most half a gap away from it. -/
theorem Near.abs_sub_ratio_le {x : Binary64} {q : ℚ} (h : x.Near q) :
    |q - x.ratio| ≤ x.gap / 2 := by
  have hU : (0 : ℚ) < unitsPerOne := by exact_mod_cast unitsPerOne_pos
  have hunits : x.units = x.mantissa * 2 ^ x.shift := Nat.shiftLeft_eq _ _
  have hlow : 4 * x.units ≤ x.interval.1 + 2 * 2 ^ x.shift := by
    rw [interval_eq, hunits]
    dsimp only
    split <;> omega
  have hhigh : x.interval.2 = 4 * x.units + 2 * 2 ^ x.shift := by
    rw [interval_eq, hunits]
  have hinside : (x.interval.1 : ℚ) ≤ q * quartersPerOne ∧ q * quartersPerOne ≤ x.interval.2 := by
    unfold Near at h
    split at h
    · exact h
    · exact ⟨h.1.le, h.2.le⟩
  have hlow : (4 * x.units : ℚ) ≤ x.interval.1 + 2 * 2 ^ x.shift := by exact_mod_cast hlow
  have hhigh : (x.interval.2 : ℚ) = 4 * x.units + 2 * 2 ^ x.shift := by exact_mod_cast hhigh
  have hquarters : (quartersPerOne : ℚ) = 4 * unitsPerOne := by
    unfold quartersPerOne
    push_cast
    ring
  -- all in units
  rw [← ratio_mul, ← gap_mul] at hlow hhigh
  rw [hquarters] at hinside
  rw [abs_le]
  constructor
  · refine le_of_mul_le_mul_right ?_ hU
    linarith
  · refine le_of_mul_le_mul_right ?_ hU
    linarith

theorem Near.abs_sub_le {x : Binary64} {p q : ℚ} (hp : x.Near p) (hq : x.Near q) :
    |p - q| ≤ x.gap := by
  have hp := abs_le.mp hp.abs_sub_ratio_le
  have hq := abs_le.mp hq.abs_sub_ratio_le
  rw [abs_le]
  constructor <;> linarith

/-- **The gap is small next to the number**, unless the number is one of the least. With a shift
above zero the mantissa has all of its 53 bits, and the gap is worth its last one. -/
theorem gap_le_ratio {x : Binary64} (hshift : 0 < x.shift) : 2 ^ 52 * x.gap ≤ x.ratio := by
  have hU : (0 : ℚ) < unitsPerOne := by exact_mod_cast unitsPerOne_pos
  have hmantissa : 2 ^ 52 ≤ x.mantissa := by
    have hfull := x.canonical.2.2
    rw [Nat.shiftLeft_eq, Nat.one_mul] at hfull
    omega
  have hunits : 2 ^ 52 * 2 ^ x.shift ≤ x.units := by
    have heq : x.units = x.mantissa * 2 ^ x.shift := Nat.shiftLeft_eq _ _
    rw [heq]
    exact Nat.mul_le_mul_right _ hmantissa
  have hunits : (2 ^ 52 * 2 ^ x.shift : ℚ) ≤ x.units := by exact_mod_cast hunits
  rw [← ratio_mul, ← gap_mul, ← mul_assoc] at hunits
  exact le_of_mul_le_mul_right hunits hU

/-- A number near something that is not very small is none of the least. -/
theorem Near.shift_pos {x : Binary64} {q : ℚ} (h : x.Near q) (hq : 1 ≤ 10 ^ 15 * q) :
    0 < x.shift := by
  by_contra hnot
  have hzero : x.shift = 0 := by omega
  have hunits : x.units < 2 ^ 53 := by
    have heq : x.units = x.mantissa * 2 ^ x.shift := Nat.shiftLeft_eq _ _
    have hlt := x.canonical.1
    rw [Nat.shiftLeft_eq, Nat.one_mul] at hlt
    rwa [heq, hzero, Nat.pow_zero, Nat.mul_one]
  have hlarge : 10 ^ 15 * 2 ^ 54 < unitsPerOne := by
    obtain ⟨k, hk, heq⟩ := exists_unitsPerOne_eq
    rw [heq]
    exact (by decide : 10 ^ 15 * 2 ^ 54 < 2 ^ 104).trans_le
      (Nat.pow_le_pow_right (by decide) (by omega))
  have hunits : (x.units : ℚ) < 2 ^ 53 := by exact_mod_cast hunits
  have hlarge : (10 ^ 15 * 2 ^ 54 : ℚ) < unitsPerOne := by exact_mod_cast hlarge
  have hU : (0 : ℚ) < unitsPerOne := by linarith
  have hgap : x.gap * unitsPerOne = 1 := by rw [gap_mul, hzero, pow_zero]
  have hnear := (abs_le.mp h.abs_sub_ratio_le).2
  -- both sides in units
  have hone := mul_le_mul_of_nonneg_right hq hU.le
  have hnear := mul_le_mul_of_nonneg_right hnear hU.le
  rw [sub_mul, ratio_mul, div_mul_eq_mul_div, hgap] at hnear
  linarith

/-- A decimal in steps of a power of ten that is not above its own. -/
theorem exists_steps (d : Decimal) {exponent : Int} (h : exponent ≤ d.exponent) :
    ∃ n : Nat, d.value = n * (10 : ℚ) ^ exponent := by
  obtain ⟨k, hk⟩ : ∃ k : Nat, d.exponent = exponent + k :=
    ⟨(d.exponent - exponent).toNat, by omega⟩
  refine ⟨d.digits * 10 ^ k, ?_⟩
  unfold Decimal.value
  rw [hk, zpow_add₀ (by norm_num), zpow_natCast]
  push_cast
  ring

section Unique

variable {x : Binary64} {c d : Decimal}

/-- The step of a decimal of at most fifteen digits is wider than the gap. -/
theorem gap_lt_step (hshift : 0 < x.shift) (hc : x.Near c.value) (hsize : c.size ≤ 15) :
    x.gap < (10 : ℚ) ^ c.exponent := by
  have hdigits : (c.digits : ℚ) < 10 ^ 15 := by
    exact_mod_cast (Decimal.size_le_iff (by decide)).mp hsize
  have hstep : (0 : ℚ) < 10 ^ c.exponent := by positivity
  have hvalue : c.value < 10 ^ 15 * (10 : ℚ) ^ c.exponent := mul_lt_mul_of_pos_right hdigits hstep
  have hratio := gap_le_ratio hshift
  have hnear := (abs_le.mp hc.abs_sub_ratio_le).1
  linarith

/-- **Of the decimals of at most fifteen digits only one is near a number**, unless the number is
one of the least. -/
theorem eq_of_near (hshift : 0 < x.shift) (hc : x.Near c.value) (hd : x.Near d.value)
    (hcsize : c.size ≤ 15) (hdsize : d.size ≤ 15) : c.value = d.value := by
  wlog hle : c.exponent ≤ d.exponent
  · exact (this hshift hd hc hdsize hcsize (by omega)).symm
  -- both are on the grid of the finer one, and its step is wider than their distance
  obtain ⟨n, hn⟩ := exists_steps d hle
  have hgap := gap_lt_step hshift hc hcsize
  have hnear := hc.abs_sub_le hd
  have hstep : (0 : ℚ) < 10 ^ c.exponent := by positivity
  have hdistance : |(c.digits : ℚ) - n| < 1 := by
    rw [hn, Decimal.value, ← sub_mul, abs_mul, abs_of_pos hstep] at hnear
    refine lt_of_mul_lt_mul_right ?_ hstep.le
    linarith
  have hsame : c.digits = n := by
    have hint : |(c.digits : ℤ) - n| < 1 := by exact_mod_cast hdistance
    rw [Int.abs_lt_one_iff] at hint
    omega
  rw [hn, ← hsame, Decimal.value]

end Unique

theorem value_shortest_of_near {x : Binary64} {d : Decimal} (tie : Tie) (hshift : 0 < x.shift)
    (hd : x.Near d.value) (hsize : d.size ≤ 15) : (x.shortest tie).value = d.value := by
  have hshortest := isShortest_shortest x tie
  exact eq_of_near hshift hshortest.near hd ((hshortest.fewest d hd).trans hsize) hsize

end NodeRpc.Binary64
