import NodeRpc.Proofs.Number.Rounding

/-!
# The shortest decimal reads back

`shortest x` tries the decimal grids from one digit up to seventeen and answers with the first grid
point in the interval of `x`. Two facts make that more than a search:

* whatever grid point it takes lies in the interval (`near_of_gridPoint?`), so the answer is worth a
  magnitude that rounds to `x`;
* the grid of seventeen digits always has one (`gridPoint?_seventeen`), because its step is less
  than the distance of `x` to its upper neighbour. The value returned when all grids fail is never
  returned.

Together they give `near_shortest`, for either way of settling ties, and with `near_unique` the
decimal and the sign determine the number.

How the same decimal can be found quickly is a subject of its own, and none of it is needed: any way
of doing so has to answer with the shortest decimal, and with the nearest of these. What remains is
a tie between two that are equally near. There the two layouts differ, and so the way of settling it
is a parameter, and everything is proved for both.
-/

namespace NodeRpc

namespace Decimal

/-- What a decimal is worth. -/
def value (d : Decimal) : ℚ := d.digits * (10 : ℚ) ^ d.exponent

theorem value_nonneg (d : Decimal) : 0 ≤ d.value := by
  unfold value
  positivity

/-- Moving zeros into the exponent does not change the worth. -/
theorem value_trimZeros (fuel : Nat) (d : Decimal) : (trimZeros fuel d).value = d.value := by
  induction fuel generalizing d with
  | zero => rfl
  | succ fuel ih =>
    unfold trimZeros
    split
    · rename_i h
      rw [ih]
      obtain ⟨k, hk⟩ : ∃ k, d.digits = 10 * k := ⟨d.digits / 10, by omega⟩
      have hdiv : d.digits / 10 = k := by omega
      simp only [value, hdiv]
      rw [zpow_add₀ (by norm_num), zpow_one, hk]
      push_cast
      ring
    · rfl

end Decimal

namespace Binary64

/-! ## Grid points in the interval

The test is one of integers, on a scale on which both the number and the step of the grid are whole.
Here it is turned into `Near`, once in each direction, and the scale is not mentioned again. -/

theorem cast_tenPow (k : Nat) : ((tenPow k : Nat) : ℚ) = (10 : ℚ) ^ k := by
  simp [tenPow]

/-- The common scale to which `onGrid` brings a value and the step. -/
def gridScale (exponent : Int) : Nat := if 0 ≤ exponent then 1 else tenPow (-exponent).toNat

theorem gridScale_pos (exponent : Int) : 0 < gridScale exponent := by
  unfold gridScale
  split
  · exact Nat.one_pos
  · exact Nat.pow_pos (by decide)

theorem onGrid_fst (value : Nat) (exponent : Int) :
    (onGrid value exponent).1 = value * gridScale exponent := by
  unfold onGrid gridScale
  split <;> simp

/-- The step of the grid is the power of ten, brought to the same scale. -/
theorem onGrid_snd (value : Nat) (exponent : Int) :
    ((onGrid value exponent).2 : ℚ) =
      (10 : ℚ) ^ exponent * quartersPerOne * gridScale exponent := by
  unfold onGrid gridScale
  split
  · rename_i h
    obtain ⟨k, rfl⟩ := Int.eq_ofNat_of_zero_le h
    simp only [Int.toNat_natCast, Nat.cast_mul, cast_tenPow, zpow_natCast]
    ring
  · rename_i h
    obtain ⟨k, hk⟩ : ∃ k : Nat, exponent = -(k : Int) := ⟨(-exponent).toNat, by omega⟩
    subst hk
    simp only [neg_neg, Int.toNat_natCast, cast_tenPow, zpow_neg, zpow_natCast]
    field_simp

/-- A grid point lies in the interval, as it is tested. Everything is brought to one scale first and
compared as natural numbers. -/
def OnGridInside (x : Binary64) (exponent : Int) (n : Nat) : Prop :=
  let step := (onGrid (4 * x.units) exponent).2
  if x.mantissa % 2 = 0 then
    (onGrid x.interval.1 exponent).1 ≤ n * step ∧ n * step ≤ (onGrid x.interval.2 exponent).1
  else
    (onGrid x.interval.1 exponent).1 < n * step ∧ n * step < (onGrid x.interval.2 exponent).1

/-- A grid point, counted in quarters of a unit on the scale of the grid. -/
theorem onGrid_point_quarters (x : Binary64) (exponent : Int) (n : Nat) :
    ((n * (onGrid (4 * x.units) exponent).2 : Nat) : ℚ) =
      n * (10 : ℚ) ^ exponent * quartersPerOne * gridScale exponent := by
  push_cast
  rw [onGrid_snd]
  ring

theorem near_of_onGridInside {x : Binary64} {exponent : Int} {n : Nat}
    (h : x.OnGridInside exponent n) : x.Near (n * (10 : ℚ) ^ exponent) := by
  have hc : (0 : ℚ) < gridScale exponent := by exact_mod_cast gridScale_pos exponent
  unfold OnGridInside at h
  simp only [onGrid_fst] at h
  unfold Near
  split
  · rename_i heven
    rw [if_pos heven] at h
    have h1 : ((x.interval.1 * gridScale exponent : Nat) : ℚ) ≤ _ := Nat.cast_le.mpr h.1
    have h2 : _ ≤ ((x.interval.2 * gridScale exponent : Nat) : ℚ) := Nat.cast_le.mpr h.2
    rw [onGrid_point_quarters, Nat.cast_mul] at h1 h2
    exact ⟨le_of_mul_le_mul_right h1 hc, le_of_mul_le_mul_right h2 hc⟩
  · rename_i hodd
    rw [if_neg hodd] at h
    have h1 : ((x.interval.1 * gridScale exponent : Nat) : ℚ) < _ := Nat.cast_lt.mpr h.1
    have h2 : _ < ((x.interval.2 * gridScale exponent : Nat) : ℚ) := Nat.cast_lt.mpr h.2
    rw [onGrid_point_quarters, Nat.cast_mul] at h1 h2
    exact ⟨lt_of_mul_lt_mul_right h1 hc.le, lt_of_mul_lt_mul_right h2 hc.le⟩

/-- The choice between two candidates, read backwards: what is taken passed its test, and if the
other passed its own, the tie was settled so. -/
theorem pick_cases {p q r : Prop} [Decidable p] [Decidable q] [Decidable r] {a b n : Nat}
    (h : (if p then if q ∧ r then some b else some a else if q then some b else none) = some n) :
    n = a ∧ p ∧ (q → ¬r) ∨ n = b ∧ q ∧ (p → r) := by
  by_cases hp : p
  · rw [if_pos hp] at h
    split at h
    · rename_i hqr
      exact Or.inr ⟨(Option.some.inj h).symm, hqr.1, fun _ => hqr.2⟩
    · rename_i hqr
      exact Or.inl ⟨(Option.some.inj h).symm, hp, fun hq hr => hqr ⟨hq, hr⟩⟩
  · rw [if_neg hp] at h
    split at h
    · rename_i hq
      exact Or.inr ⟨(Option.some.inj h).symm, hq, fun hp2 => absurd hp2 hp⟩
    · cases h

/-- Nothing is taken only when both candidates failed. -/
theorem pick_eq_none {p q r : Prop} [Decidable p] [Decidable q] [Decidable r] {a b : Nat}
    (h : (if p then if q ∧ r then some b else some a else if q then some b else none) = none) :
    ¬p ∧ ¬q := by
  by_cases hp : p
  · rw [if_pos hp] at h
    split at h <;> cases h
  · rw [if_neg hp] at h
    split at h
    · cases h
    · rename_i hq
      exact ⟨hp, hq⟩

/-- The grid point that is taken lies in the interval. -/
theorem inside_of_gridPoint? {x : Binary64} {tie : Tie} {exponent : Int} {n : Nat}
    (h : x.gridPoint? tie exponent = some n) : x.OnGridInside exponent n := by
  unfold gridPoint? at h
  rcases pick_cases h with ⟨rfl, hin, -⟩ | ⟨rfl, hin, -⟩
  · exact hin
  · exact hin

/-- The grid point below or at a number. -/
def lowerPoint (x : Binary64) (exponent : Int) : Nat :=
  (onGrid (4 * x.units) exponent).1 / (onGrid (4 * x.units) exponent).2

/-- No grid point is taken only when neither of the two next to the number is inside. -/
theorem outside_of_gridPoint? {x : Binary64} {tie : Tie} {exponent : Int}
    (h : x.gridPoint? tie exponent = none) :
    ¬x.OnGridInside exponent (x.lowerPoint exponent) ∧
      ¬x.OnGridInside exponent (x.lowerPoint exponent + 1) := by
  unfold gridPoint? at h
  have hout := pick_eq_none h
  exact hout

/-! ## The grid of seventeen digits

Two lengths are compared: the step of the grid, which is the power of ten of the seventeenth digit,
and the interval, which is at least `2 ^ -53` of the number. A number has its leading digit at the
place of its magnitude, so the first is below the second by a little. -/

/-- An open interval around a value that is longer than the step of a grid holds one of the
two grid points next to the value. -/
theorem point_inside (value low high : Nat) {step : Nat} (hstep : 0 < step) (hlow : low < value)
    (hhigh : value < high) (hwide : low + step < high) :
    (low < value / step * step ∧ value / step * step < high) ∨
      (low < (value / step + 1) * step ∧ (value / step + 1) * step < high) := by
  have hdiv : value / step * step + value % step = value := Nat.div_add_mod' value step
  have hmod : value % step < step := Nat.mod_lt value hstep
  rw [Nat.add_mul, Nat.one_mul]
  omega

theorem units_pos {x : Binary64} (hx : x.mantissa ≠ 0) : 0 < x.units := by
  unfold units
  rw [Nat.shiftLeft_eq]
  exact Nat.mul_pos (Nat.pos_of_ne_zero hx) (Nat.two_pow_pos _)

/-- The power of ten of the leading digit does not exceed the number. -/
theorem tenPow_magnitude_le {x : Binary64} (hx : x.mantissa ≠ 0) :
    (10 : ℚ) ^ x.magnitude * unitsPerOne ≤ x.units := by
  have hU := unitsPerOne_pos
  have hu := units_pos hx
  unfold magnitude
  split
  · rename_i hge
    -- the whole part has one digit more than the exponent
    have hq : 0 < x.units / unitsPerOne := Nat.div_pos hge hU
    obtain ⟨k, hk⟩ : ∃ k, (digitChars (x.units / unitsPerOne)).length = k + 1 :=
      ⟨_, (Nat.succ_pred_eq_of_pos Nat.length_toDigits_pos).symm⟩
    have hpow : 10 ^ k ≤ x.units / unitsPerOne := by
      rcases Nat.eq_zero_or_pos k with rfl | hpos
      · exact hq
      · have hlen : ¬(Nat.toDigits 10 (x.units / unitsPerOne)).length ≤ k ↔
            ¬x.units / unitsPerOne < 10 ^ k :=
          (Nat.length_toDigits_le_iff (by decide) hpos).not
        have hlen2 : ¬(Nat.toDigits 10 (x.units / unitsPerOne)).length ≤ k := by
          have : (Nat.toDigits 10 (x.units / unitsPerOne)).length = k + 1 := hk
          omega
        exact Nat.le_of_not_lt (hlen.mp hlen2)
    have hmul : 10 ^ k * unitsPerOne ≤ x.units := (Nat.le_div_iff_mul_le hU).mp hpow
    rw [hk, Nat.add_sub_cancel]
    simp only [Int.ofNat_eq_natCast, zpow_natCast]
    exact_mod_cast hmul
  · -- the reciprocal has at most as many digits before its point as the exponent says
    have hpow : unitsPerOne / x.units < 10 ^ (digitChars (unitsPerOne / x.units)).length :=
      (Nat.length_toDigits_le_iff (by decide) Nat.length_toDigits_pos).mp (Nat.le_refl _)
    generalize (digitChars (unitsPerOne / x.units)).length = k at hpow ⊢
    have hmul : unitsPerOne < 10 ^ k * x.units := (Nat.div_lt_iff_lt_mul hu).mp hpow
    have hcast : (unitsPerOne : ℚ) < 10 ^ k * x.units := by exact_mod_cast hmul
    simp only [Int.ofNat_eq_natCast, zpow_neg, zpow_natCast]
    rw [inv_mul_le_iff₀ (by positivity)]
    exact hcast.le

/-- Seventeen digits make the step shorter than the interval. -/
theorem step_seventeen {x : Binary64} (hx : x.mantissa ≠ 0) :
    (onGrid (4 * x.units) (x.magnitude - 16)).2 * 10 ^ 16 ≤
      4 * x.units * gridScale (x.magnitude - 16) := by
  have h : ((onGrid (4 * x.units) (x.magnitude - 16)).2 : ℚ) * 10 ^ 16 ≤
      4 * x.units * gridScale (x.magnitude - 16) := by
    have hpow : (10 : ℚ) ^ (x.magnitude - 16) * 10 ^ 16 = (10 : ℚ) ^ x.magnitude := by
      rw [← zpow_natCast, ← zpow_add₀ (by norm_num)]
      norm_num
    have hle := tenPow_magnitude_le hx
    rw [onGrid_snd]
    unfold quartersPerOne
    push_cast
    calc (10 : ℚ) ^ (x.magnitude - 16) * (4 * unitsPerOne) * gridScale (x.magnitude - 16) * 10 ^ 16
        = 4 * ((10 : ℚ) ^ x.magnitude * unitsPerOne) * gridScale (x.magnitude - 16) := by
          rw [← hpow]
          ring
      _ ≤ 4 * x.units * gridScale (x.magnitude - 16) := by gcongr
  exact_mod_cast h

theorem onGrid_snd_pos (value : Nat) (exponent : Int) : 0 < (onGrid value exponent).2 := by
  have hQ : 0 < quartersPerOne := Nat.mul_pos (by decide) unitsPerOne_pos
  unfold onGrid
  split
  · exact Nat.mul_pos hQ (Nat.pow_pos (by decide))
  · exact hQ

/-- **The grid of seventeen digits has a point in the interval.** Sixteen would not do for every
number, so this is where the search may have to go. -/
theorem gridPoint?_seventeen {x : Binary64} (hx : x.mantissa ≠ 0) (tie : Tie) :
    x.gridPoint? tie (x.magnitude - 16) ≠ none := by
  intro hnone
  obtain ⟨hlower, hupper⟩ := outside_of_gridPoint? hnone
  have hstep := step_seventeen hx
  have hpos := onGrid_snd_pos (4 * x.units) (x.magnitude - 16)
  have hc := gridScale_pos (x.magnitude - 16)
  generalize x.magnitude - 16 = e at *
  have hunits : x.units = x.mantissa * 2 ^ x.shift := by
    unfold units
    rw [Nat.shiftLeft_eq]
  have hg : 0 < 2 ^ x.shift * gridScale e := Nat.mul_pos (Nat.two_pow_pos _) hc
  have hm1 := Nat.mul_le_mul_right (2 ^ x.shift * gridScale e) (Nat.pos_of_ne_zero hx)
  have hm2 := Nat.mul_le_mul_right (2 ^ x.shift * gridScale e) x.canonical.1
  simp only [Nat.shiftLeft_eq] at hm2
  rw [Nat.succ_mul] at hm2
  -- the interval is at least two parts in `2 ^ 53` of the value wide, the step one in `10 ^ 16`
  have hinside := point_inside (onGrid (4 * x.units) e).1 (onGrid x.interval.1 e).1
    (onGrid x.interval.2 e).1 hpos ?_ ?_ ?_
  · unfold OnGridInside lowerPoint at hlower hupper
    dsimp only at hlower hupper
    rcases hinside with h | h
    · split at hlower
      · exact hlower ⟨h.1.le, h.2.le⟩
      · exact hlower h
    · split at hupper
      · exact hupper ⟨h.1.le, h.2.le⟩
      · exact hupper h
  all_goals
    generalize (onGrid (4 * x.units) e).2 = step at hstep hpos ⊢
    simp only [onGrid_fst, interval_eq, hunits, Nat.sub_mul, Nat.add_mul, Nat.mul_assoc]
      at hstep ⊢
  · split
    · omega
    · rw [Nat.mul_assoc]
      omega
  · omega
  · -- a mantissa of `2 ^ 52` has the shorter interval, and the smaller value
    split
    · rename_i h
      rw [h.1] at hstep ⊢
      omega
    · rw [Nat.mul_assoc]
      omega

/-! ## The shortest decimal

An induction on the digits left to try. It gives a grid and a point of it, and what is trimmed from
the point afterwards changes nothing about its worth. -/

/-- The search takes the first grid with a point near the number. -/
theorem shortestFrom_cases {x : Binary64} (hx : x.mantissa ≠ 0) (tie : Tie) (fuel : Nat) :
    ∀ digits : Nat, fuel + digits = 18 → 1 ≤ fuel → ∃ k n, digits ≤ k ∧
      x.gridPoint? tie (x.magnitude - k + 1) = some n ∧
      (∀ j, digits ≤ j → j < k → x.gridPoint? tie (x.magnitude - j + 1) = none) ∧
      shortestFrom x tie fuel digits = Decimal.trimZeros k ⟨n, x.magnitude - k + 1⟩ := by
  induction fuel with
  | zero =>
    intro _ _ h
    omega
  | succ fuel ih =>
    intro digits hsum _
    unfold shortestFrom
    simp only [Int.ofNat_eq_natCast]
    split
    · rename_i n hn
      exact ⟨digits, n, Nat.le_refl _, hn, fun j h1 h2 => by omega, rfl⟩
    · rename_i hnone
      have hmore : 1 ≤ fuel := by
        rcases Nat.eq_zero_or_pos fuel with rfl | hpos
        · -- there is a point within seventeen digits
          have hexp : x.magnitude - digits + 1 = x.magnitude - 16 := by omega
          rw [hexp] at hnone
          exact absurd hnone (gridPoint?_seventeen hx tie)
        · exact hpos
      obtain ⟨k, n, hk, hn, hbefore, hfound⟩ := ih (digits + 1) (by omega) hmore
      refine ⟨k, n, by omega, hn, ?_, hfound⟩
      intro j hj hjk
      rcases Nat.eq_or_lt_of_le hj with rfl | hlt
      · exact hnone
      · exact hbefore j hlt hjk

/-- **The shortest decimal of a number reads back as the number.** Being near is what reading back
comes to (`ofRatio?_of_near`). Of zero it is said as well, whose decimal is zero. -/
theorem near_shortest (x : Binary64) (tie : Tie) : x.Near (x.shortest tie).value := by
  unfold shortest
  split
  · rename_i hzero
    have hm : x.mantissa = 0 := by simpa [isZero] using hzero
    unfold Near
    rw [if_pos (by rw [hm]), interval_eq, hm]
    simp [Decimal.value]
  · rename_i hzero
    have hm : x.mantissa ≠ 0 := by simpa [isZero] using hzero
    obtain ⟨k, n, -, hn, -, hfound⟩ := shortestFrom_cases hm tie 17 1 rfl (by decide)
    rw [hfound, Decimal.value_trimZeros]
    exact near_of_onGridInside (inside_of_gridPoint? hn)

/-- The sign and the worth of the shortest decimal determine a number. -/
theorem eq_of_shortest {x y : Binary64} {tie : Tie} (hsign : x.negative = y.negative)
    (hvalue : (x.shortest tie).value = (y.shortest tie).value) : x = y :=
  near_unique (Decimal.value_nonneg _) hsign (near_shortest x tie)
    (hvalue ▸ near_shortest y tie)

/-- Only zero is near zero. -/
theorem Near.eq_zero {x : Binary64} (h : x.Near 0) : x = zero x.negative := by
  have hvalue : ((zero x.negative).shortest .larger).value = 0 := by
    simp [shortest, zero, isZero, Decimal.value]
  have hnear : (zero x.negative).Near 0 := hvalue ▸ near_shortest (zero x.negative) .larger
  exact near_unique (le_refl 0) rfl h hnear

end Binary64
end NodeRpc
