import NodeRpc.Proofs.Number.Digits
import NodeRpc.Proofs.Number.Nearest
import NodeRpc.Proofs.Number.Shortest

/-!
# The shortest decimal is the shortest

`shortest` is defined by a search, and this file says what it finds without one: of all decimals
that read back as the magnitude of a number, one with the fewest digits, and of those with as few
digits one that is nearest to the number (`isShortest_shortest`).

The search looks at two points of each grid only. That is enough, because what reads back is an
interval around the number: if any point of a grid is in it, so is one of the two next to the
number, and that one is nearer. And it looks at one grid only for each number of digits, the one
that has the leading digit of the number. A decimal whose leading digit stands lower is less than
the power of ten at that place, which is then in the interval and on every grid.

The statement quantifies over decimals, and not over the grids that were searched. It would be
easier to say that no grid of fewer digits has a point inside, and it would leave open whether there
is a shorter decimal between the grids. There is none, but the power of ten above the number is a
case that is near to being one: it has a single digit and belongs to a grid of a higher place.
-/

namespace NodeRpc

namespace Decimal

/-- How many digits there are. Zeros at the end are counted, so a decimal may be worth the same as
one of fewer digits. -/
def size (d : Decimal) : Nat := (digitChars d.digits).length

theorem size_pos (d : Decimal) : 0 < d.size := List.length_pos_of_ne_nil (digitChars_ne_nil _)

theorem size_le_iff {d : Decimal} {k : Nat} (hk : 0 < k) : d.size ≤ k ↔ d.digits < 10 ^ k :=
  Nat.length_toDigits_le_iff (by decide) hk

theorem digits_trimZeros_le (fuel : Nat) (d : Decimal) : (trimZeros fuel d).digits ≤ d.digits := by
  induction fuel generalizing d with
  | zero => exact Nat.le_refl _
  | succ fuel ih =>
    unfold trimZeros
    split
    · exact (ih _).trans (Nat.div_le_self _ _)
    · exact Nat.le_refl _

/-- A power of ten is trimmed to a single digit. -/
theorem digits_trimZeros_pow (k : Nat) (exponent : Int) :
    (trimZeros k ⟨10 ^ k, exponent⟩).digits = 1 := by
  induction k generalizing exponent with
  | zero => rfl
  | succ k ih =>
    have hpos : 10 ^ (k + 1) ≠ 0 := (Nat.pow_pos (by decide)).ne'
    have hdiv : 10 ^ (k + 1) / 10 = 10 ^ k := by
      rw [Nat.pow_succ, Nat.mul_div_cancel _ (by decide)]
    unfold trimZeros
    dsimp only
    rw [if_pos ⟨hpos, by rw [Nat.pow_succ, Nat.mul_mod_left]⟩, hdiv]
    exact ih _

/-- Trimmed, a number up to a power of ten has no more digits than what stands below it. -/
theorem size_trimZeros_le {k n : Nat} (hk : 0 < k) (hn : n ≤ 10 ^ k) (exponent : Int) :
    (trimZeros k ⟨n, exponent⟩).size ≤ k := by
  rw [size_le_iff hk]
  rcases Nat.eq_or_lt_of_le hn with rfl | hlt
  · rw [digits_trimZeros_pow]
    exact Nat.one_lt_pow hk.ne' (by decide)
  · exact (digits_trimZeros_le k _).trans_lt hlt

end Decimal

namespace Binary64

/-! ## Points of a grid

Where a grid has any point inside, the search finds one. This is the place at which two points
suffice. -/

/-- A grid point that is near a number passes the test for it. -/
theorem onGridInside_of_near {x : Binary64} {exponent : Int} {n : Nat}
    (h : x.Near (n * (10 : ℚ) ^ exponent)) : x.OnGridInside exponent n := by
  have hc : (0 : ℚ) < gridScale exponent := by exact_mod_cast gridScale_pos exponent
  unfold Near at h
  unfold OnGridInside
  simp only [onGrid_fst]
  rw [← Nat.cast_le (α := ℚ), ← Nat.cast_le (α := ℚ), ← Nat.cast_lt (α := ℚ),
    ← Nat.cast_lt (α := ℚ), onGrid_point_quarters, Nat.cast_mul, Nat.cast_mul]
  split
  · rename_i heven
    rw [if_pos heven] at h
    exact ⟨mul_le_mul_of_nonneg_right h.1 hc.le, mul_le_mul_of_nonneg_right h.2 hc.le⟩
  · rename_i hodd
    rw [if_neg hodd] at h
    exact ⟨mul_lt_mul_of_pos_right h.1 hc, mul_lt_mul_of_pos_right h.2 hc⟩

/-- If any point of a grid is inside then so is one of the two next to the number: the number
is inside itself, so what stands between it and a point inside is inside too. -/
theorem lowerPoint_inside {x : Binary64} {exponent : Int} {n : Nat}
    (h : x.OnGridInside exponent n) :
    x.OnGridInside exponent (x.lowerPoint exponent) ∨
      x.OnGridInside exponent (x.lowerPoint exponent + 1) := by
  obtain ⟨hlow, hhigh, -⟩ := x.interval_units
  have hvalue_low := Nat.mul_le_mul_right (gridScale exponent) hlow
  have hvalue_high := Nat.mul_lt_mul_of_pos_right hhigh (gridScale_pos exponent)
  have hpos := onGrid_snd_pos (4 * x.units) exponent
  have hbelow : x.lowerPoint exponent * (onGrid (4 * x.units) exponent).2 ≤
      4 * x.units * gridScale exponent := by
    rw [← onGrid_fst]
    exact Nat.div_mul_le_self _ _
  have habove : 4 * x.units * gridScale exponent <
      (x.lowerPoint exponent + 1) * (onGrid (4 * x.units) exponent).2 := by
    rw [← onGrid_fst]
    exact Nat.lt_mul_of_div_lt (Nat.lt_succ_self _) hpos
  unfold OnGridInside at h ⊢
  simp only [onGrid_fst] at h ⊢
  generalize (onGrid (4 * x.units) exponent).2 = step at *
  rcases Nat.lt_or_ge (x.lowerPoint exponent) n with hlt | hge
  · have hnext := Nat.mul_le_mul_right step hlt
    refine Or.inr ?_
    split at h
    · rename_i heven
      rw [if_pos heven]
      exact ⟨(hvalue_low.trans_lt habove).le, hnext.trans h.2⟩
    · rename_i hodd
      rw [if_neg hodd]
      exact ⟨hvalue_low.trans_lt habove, hnext.trans_lt h.2⟩
  · have hprev := Nat.mul_le_mul_right step hge
    refine Or.inl ?_
    split at h
    · rename_i heven
      rw [if_pos heven]
      exact ⟨h.1.trans hprev, (hbelow.trans_lt hvalue_high).le⟩
    · rename_i hodd
      rw [if_neg hodd]
      exact ⟨h.1.trans_le hprev, hbelow.trans_lt hvalue_high⟩

/-- **A grid with a point near the number is not passed over.** The point that is taken may be
another one, nearer to the number. -/
theorem gridPoint?_of_near {x : Binary64} {exponent : Int} {n : Nat} (tie : Tie)
    (h : x.Near (n * (10 : ℚ) ^ exponent)) : x.gridPoint? tie exponent ≠ none := by
  intro hnone
  obtain ⟨hlower, hupper⟩ := outside_of_gridPoint? hnone
  exact (lowerPoint_inside (onGridInside_of_near h)).elim hlower hupper

/-! ## Magnitudes near a number

The number itself is near itself, and nearness is convex. Most of what follows about an interval
uses no more than that. -/

/-- The magnitude of a number. -/
def ratio (x : Binary64) : ℚ := x.units / unitsPerOne

theorem ratio_mul_quarters (x : Binary64) : x.ratio * quartersPerOne = (4 * x.units : Nat) := by
  have hU : (unitsPerOne : ℚ) ≠ 0 := by exact_mod_cast unitsPerOne_pos.ne'
  unfold ratio quartersPerOne
  push_cast
  field_simp

theorem near_ratio (x : Binary64) : x.Near x.ratio := by
  obtain ⟨hlow, hhigh, hstrict⟩ := x.interval_units
  unfold Near
  rw [ratio_mul_quarters]
  split
  · exact ⟨by exact_mod_cast hlow, by exact_mod_cast hhigh.le⟩
  · rename_i hodd
    have hm : x.mantissa ≠ 0 := by
      rintro hzero
      rw [hzero] at hodd
      exact hodd rfl
    exact ⟨by exact_mod_cast hstrict hm, by exact_mod_cast hhigh⟩

/-- What stands between two magnitudes near a number is near it. -/
theorem Near.between {x : Binary64} {p q r : ℚ} (hp : x.Near p) (hr : x.Near r) (hpq : p ≤ q)
    (hqr : q ≤ r) : x.Near q := by
  have hQ : (0 : ℚ) ≤ quartersPerOne := Nat.cast_nonneg _
  have h1 := mul_le_mul_of_nonneg_right hpq hQ
  have h2 := mul_le_mul_of_nonneg_right hqr hQ
  unfold Near at hp hr ⊢
  split
  · rename_i heven
    rw [if_pos heven] at hp hr
    exact ⟨hp.1.trans h1, h2.trans hr.2⟩
  · rename_i hodd
    rw [if_neg hodd] at hp hr
    exact ⟨hp.1.trans_le h1, h2.trans_lt hr.2⟩

section Magnitude

variable {x : Binary64} (hx : x.mantissa ≠ 0)

include hx

theorem zpow_magnitude_le_ratio : (10 : ℚ) ^ x.magnitude ≤ x.ratio := by
  have hU : (0 : ℚ) < unitsPerOne := by exact_mod_cast unitsPerOne_pos
  unfold ratio
  rw [le_div_iff₀ hU]
  exact tenPow_magnitude_le hx

/-- A number has no digit above its leading one. -/
theorem ratio_lt_zpow_magnitude : x.ratio < (10 : ℚ) ^ (x.magnitude + 1) := by
  have hU := unitsPerOne_pos
  have hUq : (0 : ℚ) < unitsPerOne := by exact_mod_cast hU
  have hu := units_pos hx
  have huq : (0 : ℚ) < x.units := by exact_mod_cast hu
  unfold ratio
  rw [div_lt_iff₀ hUq]
  unfold magnitude
  split
  · have hlen := List.length_pos_of_ne_nil (digitChars_ne_nil (x.units / unitsPerOne))
    have hlt : x.units / unitsPerOne < 10 ^ (digitChars (x.units / unitsPerOne)).length :=
      (Nat.length_toDigits_le_iff (by decide) hlen).mp (Nat.le_refl _)
    have hmul : x.units < 10 ^ (digitChars (x.units / unitsPerOne)).length * unitsPerOne :=
      (Nat.div_lt_iff_lt_mul hU).mp hlt
    have hexp : Int.ofNat ((digitChars (x.units / unitsPerOne)).length - 1) + 1 =
        ((digitChars (x.units / unitsPerOne)).length : Int) := by
      simp only [Int.ofNat_eq_natCast]
      omega
    rw [hexp, zpow_natCast]
    exact_mod_cast hmul
  · rename_i hlt
    -- a power of ten times a binary fraction below one is not one, so the bound is strict
    obtain ⟨k, hk⟩ : ∃ k, (digitChars (unitsPerOne / x.units)).length = k + 1 :=
      ⟨_, (Nat.succ_pred_eq_of_pos (List.length_pos_of_ne_nil (digitChars_ne_nil _))).symm⟩
    have hpow : 10 ^ k ≤ unitsPerOne / x.units := by
      rcases Nat.eq_zero_or_pos k with rfl | hpos
      · exact Nat.div_pos (Nat.le_of_not_le hlt) hu
      · refine Nat.le_of_not_lt fun hsmall => ?_
        have := (Nat.length_toDigits_le_iff (by decide) hpos).mpr hsmall
        unfold digitChars at hk
        omega
    have hle : 10 ^ k * x.units ≤ unitsPerOne := (Nat.le_div_iff_mul_le hu).mp hpow
    have hne : 10 ^ k * x.units ≠ unitsPerOne := by
      intro heq
      rcases Nat.eq_zero_or_pos k with rfl | hpos
      · rw [Nat.pow_zero, Nat.one_mul] at heq
        exact hlt heq.ge
      · have hfive : 5 ∣ unitsPerOne := by
          rw [← heq]
          exact Dvd.dvd.mul_right ((by decide : 5 ∣ 10).trans (dvd_pow_self 10 hpos.ne')) _
        obtain ⟨j, -, hj⟩ := exists_unitsPerOne_eq
        rw [hj] at hfive
        exact absurd (Nat.Prime.dvd_of_dvd_pow Nat.prime_five hfive) (by decide)
    have hexp : -Int.ofNat (k + 1) + 1 = -(k : Int) := by
      simp only [Int.ofNat_eq_natCast]
      omega
    have hcast : (10 : ℚ) ^ k * x.units < unitsPerOne := by
      exact_mod_cast Nat.lt_of_le_of_ne hle hne
    rw [hk, hexp, zpow_neg, zpow_natCast, lt_inv_mul_iff₀ (by positivity)]
    exact hcast

end Magnitude

/-! ## The nearer of two points

The search decides between the two by comparing integers, twice the value against the sum of the
points. The lemmas say the same with distances. -/

section Grid

variable (x : Binary64) (exponent : Int)

/-- The factor from a magnitude to the scale that a grid is looked at on. -/
def gridFactor (exponent : Int) : ℚ := quartersPerOne * gridScale exponent

theorem gridFactor_pos : 0 < gridFactor exponent := by
  have hQ : 0 < quartersPerOne := Nat.mul_pos (by decide) unitsPerOne_pos
  unfold gridFactor
  exact mul_pos (by exact_mod_cast hQ) (by exact_mod_cast gridScale_pos exponent)

theorem onGrid_value : ((onGrid (4 * x.units) exponent).1 : ℚ) = x.ratio * gridFactor exponent := by
  rw [onGrid_fst, Nat.cast_mul, ← ratio_mul_quarters, gridFactor, mul_assoc]

theorem onGrid_point (n : Nat) : ((n * (onGrid (4 * x.units) exponent).2 : Nat) : ℚ) =
    n * (10 : ℚ) ^ exponent * gridFactor exponent := by
  rw [onGrid_point_quarters, gridFactor, mul_assoc]

theorem lowerPoint_bounds : x.lowerPoint exponent * (10 : ℚ) ^ exponent ≤ x.ratio ∧
    x.ratio < ((x.lowerPoint exponent + 1 : Nat) : ℚ) * (10 : ℚ) ^ exponent := by
  have hfactor := gridFactor_pos exponent
  have hlow := Nat.div_mul_le_self (onGrid (4 * x.units) exponent).1
    (onGrid (4 * x.units) exponent).2
  have hhigh := Nat.lt_mul_of_div_lt (Nat.lt_succ_self (x.lowerPoint exponent))
    (onGrid_snd_pos (4 * x.units) exponent)
  constructor
  · refine le_of_mul_le_mul_right ?_ hfactor
    rw [← onGrid_value, ← onGrid_point]
    exact_mod_cast hlow
  · refine lt_of_mul_lt_mul_right ?_ hfactor.le
    rw [← onGrid_value, ← onGrid_point]
    exact_mod_cast hhigh

/-- The value and the points next to it on the scale of the grid. -/
theorem onGrid_midpoint : 2 * x.ratio * gridFactor exponent =
      ((2 * (onGrid (4 * x.units) exponent).1 : Nat) : ℚ) ∧
    (x.lowerPoint exponent * (10 : ℚ) ^ exponent +
        ((x.lowerPoint exponent + 1 : Nat) : ℚ) * (10 : ℚ) ^ exponent) * gridFactor exponent =
      ((x.lowerPoint exponent * (onGrid (4 * x.units) exponent).2 +
        (x.lowerPoint exponent + 1) * (onGrid (4 * x.units) exponent).2 : Nat) : ℚ) := by
  constructor
  · rw [Nat.cast_mul, onGrid_value, Nat.cast_ofNat, mul_assoc]
  · rw [add_mul, ← onGrid_point, ← onGrid_point, Nat.cast_add (_ * _) (_ * _)]

variable {x exponent}

/-- Of the two points next to a number the nearer one is taken, unless that is not near the
number at all. -/
theorem gridPoint?_cases {tie : Tie} {n : Nat} (h : x.gridPoint? tie exponent = some n) :
    n = x.lowerPoint exponent ∧
        (x.Near (((x.lowerPoint exponent + 1 : Nat) : ℚ) * (10 : ℚ) ^ exponent) →
          2 * x.ratio ≤ x.lowerPoint exponent * (10 : ℚ) ^ exponent +
            ((x.lowerPoint exponent + 1 : Nat) : ℚ) * (10 : ℚ) ^ exponent) ∨
      n = x.lowerPoint exponent + 1 ∧
        (x.Near (x.lowerPoint exponent * (10 : ℚ) ^ exponent) →
          x.lowerPoint exponent * (10 : ℚ) ^ exponent +
              ((x.lowerPoint exponent + 1 : Nat) : ℚ) * (10 : ℚ) ^ exponent ≤ 2 * x.ratio) := by
  have hfactor := gridFactor_pos exponent
  obtain ⟨hvalue, hpoints⟩ := onGrid_midpoint x exponent
  have hlow : x.lowerPoint exponent * (onGrid (4 * x.units) exponent).2 ≤
      (onGrid (4 * x.units) exponent).1 := Nat.div_mul_le_self _ _
  have hhigh : (onGrid (4 * x.units) exponent).1 <
      (x.lowerPoint exponent + 1) * (onGrid (4 * x.units) exponent).2 :=
    Nat.lt_mul_of_div_lt (Nat.lt_succ_self _) (onGrid_snd_pos _ _)
  unfold gridPoint? at h
  -- the distances are compared as whole multiples of a step, and a common factor leads back to
  -- worth
  rcases pick_cases h with ⟨hn, -, hnext⟩ | ⟨hn, -, hprevious⟩
  · refine Or.inl ⟨hn, fun hnear => ?_⟩
    have hle : (onGrid (4 * x.units) exponent).1 -
        x.lowerPoint exponent * (onGrid (4 * x.units) exponent).2 ≤
          (x.lowerPoint exponent + 1) * (onGrid (4 * x.units) exponent).2 -
            (onGrid (4 * x.units) exponent).1 :=
      Nat.le_of_not_lt fun hlt => hnext (onGridInside_of_near hnear) (Or.inl hlt)
    refine le_of_mul_le_mul_right ?_ hfactor
    rw [hvalue, hpoints, Nat.cast_le]
    omega
  · refine Or.inr ⟨hn, fun hnear => ?_⟩
    have hle : (x.lowerPoint exponent + 1) * (onGrid (4 * x.units) exponent).2 -
        (onGrid (4 * x.units) exponent).1 ≤
          (onGrid (4 * x.units) exponent).1 -
            x.lowerPoint exponent * (onGrid (4 * x.units) exponent).2 := by
      rcases hprevious (onGridInside_of_near hnear) with hlt | ⟨heq, -⟩
      · exact hlt.le
      · exact heq.le
    refine le_of_mul_le_mul_right ?_ hfactor
    rw [hvalue, hpoints, Nat.cast_le]
    omega

/-- **What is taken on a grid is the nearest of the points that are near the number.** Two points
can be equally near, and which of them is taken is then up to the tie. -/
theorem nearest_of_gridPoint? {tie : Tie} {m n : Nat} (h : x.gridPoint? tie exponent = some n)
    (hm : x.Near (m * (10 : ℚ) ^ exponent)) :
    |n * (10 : ℚ) ^ exponent - x.ratio| ≤ |m * (10 : ℚ) ^ exponent - x.ratio| := by
  have hstep : (0 : ℚ) < (10 : ℚ) ^ exponent := by positivity
  obtain ⟨hlow, hhigh⟩ := x.lowerPoint_bounds exponent
  have hside : (m : ℚ) * (10 : ℚ) ^ exponent ≤ x.lowerPoint exponent * (10 : ℚ) ^ exponent ∨
      ((x.lowerPoint exponent + 1 : Nat) : ℚ) * (10 : ℚ) ^ exponent ≤
        m * (10 : ℚ) ^ exponent := by
    rcases Nat.lt_or_ge (x.lowerPoint exponent) m with hlt | hge
    · exact Or.inr (mul_le_mul_of_nonneg_right (by exact_mod_cast hlt) hstep.le)
    · exact Or.inl (mul_le_mul_of_nonneg_right (by exact_mod_cast hge) hstep.le)
  rcases hside with hbelow | habove
  · have hlower := hm.between x.near_ratio hbelow hlow
    rw [abs_of_nonpos (sub_nonpos.mpr (hbelow.trans hlow))]
    rcases gridPoint?_cases h with ⟨rfl, -⟩ | ⟨rfl, hnearer⟩
    · rw [abs_of_nonpos (sub_nonpos.mpr hlow)]
      linarith
    · have := hnearer hlower
      rw [abs_of_nonneg (sub_nonneg.mpr hhigh.le)]
      linarith
  · have hupper := x.near_ratio.between hm hhigh.le habove
    rw [abs_of_nonneg (sub_nonneg.mpr (hhigh.le.trans habove))]
    rcases gridPoint?_cases h with ⟨rfl, hnearer⟩ | ⟨rfl, -⟩
    · have := hnearer hupper
      rw [abs_of_nonpos (sub_nonpos.mpr hlow)]
      linarith
    · rw [abs_of_nonneg (sub_nonneg.mpr hhigh.le)]
      linarith

end Grid

/-! ## The first grid

The number of digits of a decimal and the place of its leading digit are two things, and a grid
fixes both. `exists_gridPoint` moves a decimal over to the grid that has the place right, without
moving it away from the number. -/

section Nonzero

variable {x : Binary64} (hx : x.mantissa ≠ 0)

include hx

/-- A decimal near a number is on the grid that has as many digits, or a point of that grid is
nearer: where the decimal has its leading digit below that of the number, the power of ten in
between. -/
theorem exists_gridPoint {d : Decimal} (h : x.Near d.value) :
    ∃ m : Nat, x.Near (m * (10 : ℚ) ^ (x.magnitude - d.size + 1)) ∧
      |m * (10 : ℚ) ^ (x.magnitude - d.size + 1) - x.ratio| ≤ |d.value - x.ratio| := by
  have hsize := d.size_pos
  have hdigits : d.digits < 10 ^ d.size := (Decimal.size_le_iff hsize).mp (Nat.le_refl _)
  have hleading := zpow_magnitude_le_ratio hx
  -- below the leading power of ten, that power lies between the decimal and the number
  rcases le_or_gt ((10 : ℚ) ^ x.magnitude) d.value with hge | hlt
  · have hbound : (10 : ℚ) ^ x.magnitude < (10 : ℚ) ^ ((d.size : Int) + d.exponent) := by
      refine hge.trans_lt ?_
      unfold Decimal.value
      rw [zpow_add₀ (by norm_num), zpow_natCast]
      exact mul_lt_mul_of_pos_right (by exact_mod_cast hdigits) (by positivity)
    have hexp := (zpow_lt_zpow_iff_right₀ (by norm_num)).mp hbound
    obtain ⟨k, hk⟩ : ∃ k : Nat, d.exponent = k + (x.magnitude - d.size + 1) :=
      ⟨(d.exponent - (x.magnitude - d.size + 1)).toNat, by omega⟩
    have hvalue : ((d.digits * 10 ^ k : Nat) : ℚ) * (10 : ℚ) ^ (x.magnitude - d.size + 1) =
        d.value := by
      unfold Decimal.value
      rw [hk, zpow_add₀ (by norm_num) (k : Int), zpow_natCast]
      push_cast
      ring
    exact ⟨d.digits * 10 ^ k, hvalue ▸ h, hvalue ▸ le_refl _⟩
  · have hvalue : ((10 ^ (d.size - 1) : Nat) : ℚ) * (10 : ℚ) ^ (x.magnitude - d.size + 1) =
        (10 : ℚ) ^ x.magnitude := by
      push_cast
      rw [← zpow_natCast, ← zpow_add₀ (by norm_num)]
      congr 1
      omega
    refine ⟨10 ^ (d.size - 1), ?_, ?_⟩
    · rw [hvalue]
      exact h.between x.near_ratio hlt.le hleading
    · rw [hvalue, abs_of_nonpos (sub_nonpos.mpr hleading),
        abs_of_nonpos (sub_nonpos.mpr (hlt.le.trans hleading))]
      linarith

/-- No point that is taken has more digits than the grid, but for the power of ten above. -/
theorem le_of_gridPoint? {tie : Tie} {k n : Nat}
    (h : x.gridPoint? tie (x.magnitude - k + 1) = some n) : n ≤ 10 ^ k := by
  obtain ⟨hlow, -⟩ := x.lowerPoint_bounds (x.magnitude - k + 1)
  have hbound : (x.lowerPoint (x.magnitude - k + 1) : ℚ) * (10 : ℚ) ^ (x.magnitude - k + 1) <
      (10 : ℚ) ^ k * (10 : ℚ) ^ (x.magnitude - k + 1) := by
    refine (hlow.trans_lt (ratio_lt_zpow_magnitude hx)).trans_eq ?_
    rw [← zpow_natCast, ← zpow_add₀ (by norm_num)]
    congr 1
    omega
  have hlt : x.lowerPoint (x.magnitude - k + 1) < 10 ^ k := by
    exact_mod_cast lt_of_mul_lt_mul_right hbound (by positivity)
  rcases gridPoint?_cases h with ⟨rfl, -⟩ | ⟨rfl, -⟩
  · exact hlt.le
  · exact hlt

end Nonzero

/-! ## The shortest decimal -/

/-- A decimal is as short as a decimal can be that reads back as the magnitude of a number, and
of those that are as short it is the nearest. -/
structure IsShortest (x : Binary64) (d : Decimal) : Prop where
  near : x.Near d.value
  fewest : ∀ other : Decimal, x.Near other.value → d.size ≤ other.size
  nearest : ∀ other : Decimal, x.Near other.value → other.size = d.size →
    |d.value - x.ratio| ≤ |other.value - x.ratio|

/-- **The shortest decimal is the shortest.** Of all decimals that read back, that is, and not only
of those that the search looks at; and it is the nearest of those that are as short. -/
theorem isShortest_shortest (x : Binary64) (tie : Tie) : x.IsShortest (x.shortest tie) := by
  have hnear := near_shortest x tie
  unfold shortest at hnear ⊢
  split
  · rename_i hzero
    have hm : x.mantissa = 0 := by simpa [isZero] using hzero
    have hratio : x.ratio = 0 := by
      simp [ratio, units, hm]
    refine ⟨by simpa [hzero] using hnear, fun other _ => other.size_pos, fun other _ _ => ?_⟩
    have hvalue : (Decimal.mk 0 0).value = 0 := by simp [Decimal.value]
    rw [hvalue, hratio, sub_self, abs_zero]
    exact abs_nonneg _
  · rename_i hzero
    have hm : x.mantissa ≠ 0 := by simpa [isZero] using hzero
    rw [if_neg hzero] at hnear
    obtain ⟨k, n, hk, hn, hbefore, hfound⟩ := shortestFrom_cases hm tie 17 1 rfl (by decide)
    -- nothing near the number has fewer digits than the grid that was taken
    have hfewest : ∀ other : Decimal, x.Near other.value → k ≤ other.size := by
      intro other hother
      by_contra hless
      obtain ⟨m, hm, -⟩ := exists_gridPoint hm hother
      exact gridPoint?_of_near tie hm (hbefore _ other.size_pos (Nat.lt_of_not_le hless))
    have hsize : (shortestFrom x tie 17 1).size ≤ k := by
      rw [hfound]
      exact Decimal.size_trimZeros_le hk (le_of_gridPoint? hm hn) _
    refine ⟨hnear, fun other hother => hsize.trans (hfewest other hother), ?_⟩
    intro other hother hequal
    obtain rfl : other.size = k :=
      Nat.le_antisymm (hequal ▸ hsize) (hfewest other hother)
    obtain ⟨m, hm, hle⟩ := exists_gridPoint hm hother
    rw [hfound, Decimal.value_trimZeros]
    exact (nearest_of_gridPoint? hn hm).trans hle

/-- What is shortest ends in no zero. -/
theorem IsShortest.digits_mod_ten {x : Binary64} {d : Decimal} (h : x.IsShortest d)
    (hd : d.digits ≠ 0) : d.digits % 10 ≠ 0 := by
  intro hmod
  have hten : d.digits / 10 * 10 = d.digits := by omega
  have hvalue : (Decimal.mk (d.digits / 10) (d.exponent + 1)).value = d.value := by
    unfold Decimal.value
    rw [zpow_add₀ (by norm_num), ← hten]
    push_cast
    rw [Nat.mul_div_cancel _ (by decide)]
    ring
  have hle := h.fewest ⟨d.digits / 10, d.exponent + 1⟩ (hvalue ▸ h.near)
  have hlt : d.digits < 10 ^ d.size := (Decimal.size_le_iff d.size_pos).mp (Nat.le_refl _)
  obtain ⟨k, hk⟩ : ∃ k, d.size = k + 1 := ⟨d.size - 1, by have := d.size_pos; omega⟩
  rw [hk, Nat.pow_succ] at hlt
  rw [hk] at hle
  rcases Nat.eq_zero_or_pos k with rfl | hpos
  · omega
  · have hshort : (Decimal.mk (d.digits / 10) (d.exponent + 1)).digits < 10 ^ k := by
      dsimp only
      omega
    have := (Decimal.size_le_iff hpos).mpr hshort
    omega

end Binary64
end NodeRpc
