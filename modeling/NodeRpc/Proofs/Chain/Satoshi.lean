import NodeRpc.Proofs.Number.Fewest

/-!
# Binary64 holds every amount of the supply

There are never more than 21 million coins, and up to there the midpoints around a binary64 number
are less than a satoshi apart (`gap_lt_satoshi`). So of all the whole numbers of satoshi at most one
is near a given number (`satoshi_unique`).

That is what makes the shortest decimal of such a number the amount itself (`shortest_of_satoshi`).
The search goes through ever finer grids and takes the first point near the number. A point of a
grid that is no finer than a satoshi is a whole number of satoshi, so it can only be the amount; and
the grid of single satoshi, which the search reaches within seventeen digits, always has the amount
on it, so no finer grid is tried.

The supply is a real bound here and not a convenience. An `Amount` holds any number of satoshi that
fits 64 bits, which is close to nine thousand times the supply, and up there two amounts next to
each other share a binary64 number. A statement about all amounts would be false, and one about
those below some round number would leave the question open that a reader has.
-/

namespace NodeRpc

/-- All the satoshi there will ever be: 21 million coins. It is a number of 51 bits, so a binary64
number could hold any of them as an integer; they are sent as coins. -/
def Amount.supply : Nat := 21000000 * 10 ^ 8

/-- Moving zeros into the exponent only raises it. -/
theorem Decimal.exponent_le_trimZeros (fuel : Nat) (d : Decimal) :
    d.exponent ≤ (trimZeros fuel d).exponent := by
  induction fuel generalizing d with
  | zero => exact Int.le_refl _
  | succ fuel ih =>
    unfold trimZeros
    split
    · exact (Int.le_add_one (Int.le_refl _)).trans (ih _)
    · exact Int.le_refl _

namespace Binary64

/-! ## Numbers of satoshi

A number and an amount it is near, both fixed. What is computed for one amount only is the distance
of one satoshi to its number (`satoshi_rounded_up`): that number lies a little above, so the leading
digit of any amount that is not zero stands at the eighth place behind the point or before it. -/

/-- What is near a number is at most half a gap away from it. -/
theorem Near.units_bounds {x : Binary64} {num den : Nat} (hden : 0 < den)
    (h : x.Near ((num : ℚ) / den)) :
    4 * (x.units * den) ≤ 4 * (num * unitsPerOne) + 2 * (2 ^ x.shift * den) ∧
      4 * (num * unitsPerOne) ≤ 4 * (x.units * den) + 2 * (2 ^ x.shift * den) := by
  obtain ⟨hlow, hhigh, -⟩ := h.bounds hden
  have hunits : x.units = x.mantissa * 2 ^ x.shift := Nat.shiftLeft_eq _ _
  rw [interval_eq, ← hunits] at hlow hhigh
  simp only [Nat.sub_mul, Nat.add_mul, Nat.mul_assoc] at hlow hhigh
  refine ⟨?_, hhigh⟩
  split at hlow
  · omega
  · rw [Nat.mul_assoc] at hlow
    omega

theorem satoshi_lt_unitsPerOne : 10 ^ 8 < unitsPerOne := by
  obtain ⟨k, hk, hunits⟩ := exists_unitsPerOne_eq
  rw [hunits]
  exact (by decide : 10 ^ 8 < 2 ^ 27).trans_le (Nat.pow_le_pow_right (by decide) (by omega))

section Satoshi

variable {x : Binary64} {n : Nat} (hn : n ≤ Amount.supply) (h : x.Near ((n : ℚ) / (10 ^ 8 : Nat)))

include hn h

/-- **Up to the supply the gap between two numbers is less than a satoshi.** At 21 million coins the
gap is a little more than a third of one, and it doubles at about 33 and at 67 million, so the bound
does not go much further. -/
theorem gap_lt_satoshi : 2 ^ x.shift * 10 ^ 8 < unitsPerOne := by
  rcases Nat.eq_zero_or_pos x.shift with hzero | hpos
  · rw [hzero, Nat.pow_zero, Nat.one_mul]
    exact satoshi_lt_unitsPerOne
  · -- a number of positive shift has 53 bits, and the supply only fills so many
    obtain ⟨hbound, -⟩ := h.units_bounds (by decide)
    have hmantissa : 2 ^ 52 ≤ x.mantissa := by
      have := x.canonical.2.2
      rw [Nat.shiftLeft_eq, Nat.one_mul] at this
      omega
    have hunits : x.units = x.mantissa * 2 ^ x.shift := Nat.shiftLeft_eq _ _
    have hfull := Nat.mul_le_mul_right (2 ^ x.shift * 10 ^ 8) hmantissa
    have hsupply := Nat.mul_le_mul_right unitsPerOne hn
    rw [hunits, Nat.mul_assoc] at hbound
    unfold Amount.supply at hsupply
    have hU := unitsPerOne_pos
    generalize unitsPerOne = U at *
    generalize 2 ^ x.shift = gap at *
    omega

/-- Only one number of satoshi is near a given number. -/
theorem satoshi_unique {m : Nat} (hm : x.Near ((m : ℚ) / (10 ^ 8 : Nat))) : m = n := by
  have hgap := gap_lt_satoshi hn h
  obtain ⟨hn1, hn2⟩ := h.units_bounds (by decide)
  obtain ⟨hm1, hm2⟩ := hm.units_bounds (by decide)
  -- the two are at most a gap apart
  rcases Nat.lt_trichotomy m n with hlt | heq | hgt
  · have := Nat.mul_le_mul_right unitsPerOne hlt
    rw [Nat.succ_mul] at this
    omega
  · exact heq
  · have := Nat.mul_le_mul_right unitsPerOne hgt
    rw [Nat.succ_mul] at this
    omega

/-- A number near no satoshi is zero. -/
theorem mantissa_eq_zero_iff_satoshi : x.mantissa = 0 ↔ n = 0 := by
  have hunits : x.units = x.mantissa * 2 ^ x.shift := Nat.shiftLeft_eq _ _
  have hgap := gap_lt_satoshi hn h
  obtain ⟨hn1, hn2⟩ := h.units_bounds (by decide)
  have hpos := Nat.two_pow_pos x.shift
  constructor
  · intro hzero
    rw [hunits, hzero, Nat.zero_mul, Nat.zero_mul] at hn2
    rcases Nat.eq_zero_or_pos n with heq | hpos
    · exact heq
    · have := Nat.mul_le_mul_right unitsPerOne hpos
      omega
  · intro hzero
    by_contra hne
    have := Nat.mul_le_mul_right (2 ^ x.shift) (Nat.pos_of_ne_zero hne)
    rw [hunits, hzero] at hn1
    omega

/-- A grid point no finer than a satoshi that is near the number is the amount. -/
theorem value_eq_satoshi {exponent : Int} (hexp : -8 ≤ exponent) {m : Nat}
    (hm : x.Near (m * (10 : ℚ) ^ exponent)) :
    (m : ℚ) * (10 : ℚ) ^ exponent = n / (10 ^ 8 : Nat) := by
  obtain ⟨k, hk⟩ : ∃ k : Nat, exponent = k - 8 := ⟨(exponent + 8).toNat, by omega⟩
  have hvalue : (m : ℚ) * (10 : ℚ) ^ exponent = ((m * 10 ^ k : Nat) : ℚ) / (10 ^ 8 : Nat) := by
    rw [hk, zpow_sub₀ (by norm_num)]
    push_cast
    rw [zpow_natCast]
    ring
  rw [hvalue] at hm ⊢
  rw [satoshi_unique hn h hm]

end Satoshi

/-- The number of coins in one satoshi is rounded up. -/
theorem satoshi_rounded_up (negative : Bool) :
    (ofRatio? negative 1 (10 ^ 8)).all (fun x => unitsPerOne < x.units * 10 ^ 8) = true := by
  cases negative
  · decide +kernel
  · decide +kernel

section Positive

variable {x : Binary64} {n : Nat} (hn : n ≤ Amount.supply) (h : x.Near ((n : ℚ) / (10 ^ 8 : Nat)))
  (hpos : 0 < n)

include hn h hpos

/-- What is near some satoshi is more than one. -/
theorem satoshi_lt_units : unitsPerOne < x.units * 10 ^ 8 := by
  rcases Nat.eq_or_lt_of_le hpos with hone | htwo
  · -- half a gap below a satoshi would still be near one, so the rounding has to be looked at
    obtain rfl : n = 1 := hone.symm
    have hround := ofRatio?_of_near (by decide) h
    have hup := satoshi_rounded_up x.negative
    rw [hround, Option.all_some] at hup
    exact of_decide_eq_true hup
  · have hgap := gap_lt_satoshi hn h
    obtain ⟨-, hn2⟩ := h.units_bounds (by decide)
    have := Nat.mul_le_mul_right unitsPerOne htwo
    omega

/-- The leading digit is not below the place of the satoshi. -/
theorem le_magnitude : -8 ≤ x.magnitude := by
  have hlt := satoshi_lt_units hn h hpos
  unfold magnitude
  split
  · simp only [Int.ofNat_eq_natCast]
    omega
  · have hunits : 0 < x.units := by
      by_contra hzero
      rw [Nat.eq_zero_of_not_pos hzero, Nat.zero_mul] at hlt
      exact Nat.not_lt_zero _ hlt
    have hquotient : unitsPerOne / x.units < 10 ^ 8 :=
      (Nat.div_lt_iff_lt_mul hunits).mpr (Nat.mul_comm x.units _ ▸ hlt)
    have hlength : (digitChars (unitsPerOne / x.units)).length ≤ 8 :=
      (Nat.length_toDigits_le_iff (by decide) (by decide)).mpr hquotient
    simp only [Int.ofNat_eq_natCast]
    omega

theorem mantissa_ne_zero : x.mantissa ≠ 0 :=
  fun hzero => hpos.ne' ((mantissa_eq_zero_iff_satoshi hn h).mp hzero)

/-- The leading digit is below the place of 100 million coins. -/
theorem magnitude_lt : x.magnitude < 8 := by
  have hle := tenPow_magnitude_le (mantissa_ne_zero hn h hpos)
  have hgap := gap_lt_satoshi hn h
  obtain ⟨hn1, -⟩ := h.units_bounds (by decide)
  have hsupply := Nat.mul_le_mul_right unitsPerOne hn
  unfold Amount.supply at hsupply
  have hsize : x.units < 10 ^ 8 * unitsPerOne := by
    generalize unitsPerOne = U at *
    generalize 2 ^ x.shift = gap at *
    omega
  have hU : (0 : ℚ) < unitsPerOne := by exact_mod_cast unitsPerOne_pos
  have hlt : (10 : ℚ) ^ x.magnitude * unitsPerOne < (10 : ℚ) ^ (8 : Int) * unitsPerOne := by
    refine hle.trans_lt ?_
    exact_mod_cast hsize
  exact (zpow_lt_zpow_iff_right₀ (by norm_num)).mp (lt_of_mul_lt_mul_right hlt hU.le)

/-- The search does not go past the grid of single satoshi, and what it takes is the amount. -/
theorem shortestFrom_of_satoshi (tie : Tie) (fuel : Nat) : ∀ digits : Nat,
    fuel + digits = 18 → -8 ≤ x.magnitude - digits + 1 →
      (shortestFrom x tie fuel digits).value = n / (10 ^ 8 : Nat) ∧
        -8 ≤ (shortestFrom x tie fuel digits).exponent := by
  induction fuel with
  | zero =>
    -- seventeen digits go past the satoshi
    intro digits hsum hexp
    have := magnitude_lt hn h hpos
    omega
  | succ fuel ih =>
    intro digits hsum hexp
    unfold shortestFrom
    simp only [Int.ofNat_eq_natCast]
    split
    · rename_i m hm
      have hnear := near_of_onGridInside (inside_of_gridPoint? hm)
      refine ⟨?_, hexp.trans (Decimal.exponent_le_trimZeros _ _)⟩
      rw [Decimal.value_trimZeros]
      exact value_eq_satoshi hn h hexp hnear
    · -- single satoshi would have been taken, so the grid is still coarser
      rename_i hnone
      have hpassed : x.magnitude - digits + 1 ≠ -8 := by
        intro hlast
        rw [hlast] at hnone
        refine gridPoint?_of_near (n := n) tie ?_ hnone
        have hq : (n : ℚ) * (10 : ℚ) ^ (-8 : Int) = n / (10 ^ 8 : Nat) := by
          norm_num
          ring
        rwa [hq]
      exact ih (digits + 1) (by omega) (by push_cast; omega)

end Positive

/-- **The shortest decimal of a number near an amount of the supply is the amount**, and it has
no more places than an amount. -/
theorem shortest_of_satoshi {x : Binary64} {n : Nat} (hn : n ≤ Amount.supply)
    (h : x.Near ((n : ℚ) / (10 ^ 8 : Nat))) (tie : Tie) :
    (x.shortest tie).value = n / (10 ^ 8 : Nat) ∧ -8 ≤ (x.shortest tie).exponent := by
  unfold shortest
  rcases Nat.eq_zero_or_pos n with rfl | hpos
  · have hzero : x.isZero = true := by
      simpa [isZero] using (mantissa_eq_zero_iff_satoshi hn h).mpr rfl
    rw [if_pos hzero]
    simp [Decimal.value]
  · have hzero : ¬x.isZero = true := by
      simpa [isZero] using mantissa_ne_zero hn h hpos
    rw [if_neg hzero]
    have := le_magnitude hn h hpos
    exact shortestFrom_of_satoshi hn h hpos tie 17 1 rfl (by push_cast; omega)

end Binary64
end NodeRpc
