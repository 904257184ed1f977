import NodeRpc.Proofs.Json.Numeral
import NodeRpc.Proofs.Number.DigitStrings
import NodeRpc.Proofs.Number.Fewest

/-!
# The layout without an exponent

A decimal is printed with a point and without an exponent if it is zero or from `1e-5` up to below
`1e16` (`numeralOf_exponent_eq_none_iff`). If it has no zeros to spare, its fraction then ends in no
zero, or is a zero alone (`Numeral.Trimmed`). There is only one such numeral for each worth
(`Numeral.Plain.eq_of_worth`).

The last is what a number that comes back is compared by. If what was written and what is printed
are both trimmed and are worth the same, they are the same text, and nothing need be said of how the
printer finds its digits. A zero alone is allowed for, as a binary64 number is never printed without
a fraction or an exponent: `5` comes out as `5.0`.
-/

namespace NodeRpc

/-! ## Where the point stands

The position of the point in the digits, and the worth of a decimal between two powers of ten. The
printer decides by the position whether there is an exponent, and the statements decide by the
worth. -/

namespace Decimal

variable {d : Decimal}

theorem value_lt_zpow_point : d.value < (10 : ℚ) ^ d.point := by
  have hdigits : (d.digits : ℚ) < 10 ^ d.size := by
    exact_mod_cast (size_le_iff d.size_pos).mp (Nat.le_refl _)
  have hpoint : d.point = (d.size : ℤ) + d.exponent := rfl
  unfold value
  rw [hpoint, zpow_add₀ (by norm_num), zpow_natCast]
  exact mul_lt_mul_of_pos_right hdigits (by positivity)

theorem zpow_point_le_value (h : d.digits ≠ 0) : (10 : ℚ) ^ (d.point - 1) ≤ d.value := by
  obtain ⟨k, hk⟩ : ∃ k, d.size = k + 1 := ⟨d.size - 1, by have := d.size_pos; omega⟩
  have hdigits : 10 ^ k ≤ d.digits := by
    rcases Nat.eq_zero_or_pos k with rfl | hpos
    · omega
    · by_contra hlt
      have := (size_le_iff hpos).mpr (Nat.lt_of_not_le hlt)
      omega
  have hdigits : (10 ^ k : ℚ) ≤ d.digits := by exact_mod_cast hdigits
  have hpoint : d.point - 1 = (k : ℤ) + d.exponent := by
    have : d.point = (d.size : ℤ) + d.exponent := rfl
    omega
  unfold value
  rw [hpoint, zpow_add₀ (by norm_num), zpow_natCast]
  exact mul_le_mul_of_nonneg_right hdigits (by positivity)

/-- What a decimal is worth tells where its point stands. -/
theorem lt_point_iff (h : d.digits ≠ 0) (k : ℤ) : k < d.point ↔ (10 : ℚ) ^ k ≤ d.value := by
  constructor
  · intro hk
    exact (zpow_le_zpow_right₀ (by norm_num) (by omega)).trans (zpow_point_le_value h)
  · intro hk
    have hlt := hk.trans_lt d.value_lt_zpow_point
    exact (zpow_lt_zpow_iff_right₀ (by norm_num)).mp hlt

end Decimal

namespace Json

/-- Digits behind the point that end in no zero, or a zero alone. The second is how a whole number
is printed that is not an integer. -/
def Numeral.Trimmed (m : Numeral) : Prop := m.fraction = ['0'] ∨ m.fraction.getLast? ≠ some '0'

/-- All digits of a numeral as one number, as if there were no point. -/
def Numeral.digits (m : Numeral) : Nat := Nat.ofDigitChars 10 (m.whole ++ m.fraction) 0

theorem Numeral.Spelled.isDigit_of_mem {m : Numeral} (h : m.Spelled) :
    ∀ c ∈ m.whole ++ m.fraction, c.isDigit = true := by
  intro c hc
  rcases List.mem_append.mp hc with hc | hc
  · exact h.whole_digits c hc
  · exact h.fraction_digits c hc

/-- The whole part of a numeral is how its worth is written. -/
theorem Numeral.Spelled.digitChars_whole {m : Numeral} (h : m.Spelled) :
    digitChars (Nat.ofDigitChars 10 m.whole 0) = m.whole := by
  obtain ⟨c, cs, hwhole⟩ := List.exists_cons_of_ne_nil h.whole_ne_nil
  rw [hwhole]
  refine digitChars_ofDigitChars (hwhole ▸ h.whole_digits) ?_
  cases cs with
  | nil => exact .inl rfl
  | cons d cs => exact .inr (h.no_leading_zero c d cs hwhole)

/-! ## One numeral for each worth

Two numerals that are worth the same differ by zeros at the end, and trimmed ones have none. -/

/-- A numeral with a point and without an exponent. -/
structure Numeral.Plain (m : Numeral) : Prop where
  spelled : m.Spelled
  exponent_eq : m.exponent = none
  fraction_ne_nil : m.fraction ≠ []

namespace Numeral.Plain

variable {m n : Numeral}

theorem worth_eq (h : m.Plain) (negative : Bool) :
    (m.literal negative).worth = m.digits / (10 : ℚ) ^ m.fraction.length := by
  rw [worth_literal, h.exponent_eq]
  simp [Literal.writtenExponent, Numeral.digits, div_eq_mul_inv]

/-- That a fraction ends in a zero shows in the digits. -/
theorem getLast?_fraction (h : m.Plain) :
    m.fraction.getLast? = some '0' ↔ m.digits % 10 = 0 := by
  unfold Numeral.digits
  rw [← getLast?_eq_zero_iff h.spelled.isDigit_of_mem (by simp [h.fraction_ne_nil]),
    List.getLast?_append_of_ne_nil _ h.fraction_ne_nil]

/-- A numeral with places to spare ends in a zero. -/
theorem length_fraction_le (hm : m.Plain) (hn : n.Plain) (htrimmed : n.Trimmed)
    (hworth : m.digits * 10 ^ n.fraction.length = n.digits * 10 ^ m.fraction.length) :
    n.fraction.length ≤ m.fraction.length := by
  by_contra hlt
  obtain ⟨k, hk⟩ : ∃ k, n.fraction.length = m.fraction.length + (k + 1) :=
    ⟨n.fraction.length - m.fraction.length - 1, by omega⟩
  have hdigits : n.digits = m.digits * 10 ^ k * 10 := by
    have hpos : 0 < 10 ^ m.fraction.length := Nat.pow_pos (by decide)
    refine Nat.eq_of_mul_eq_mul_right hpos ?_
    rw [← hworth, hk, Nat.pow_add, Nat.pow_succ]
    ring
  have hlast : n.fraction.getLast? = some '0' := hn.getLast?_fraction.mpr (by omega)
  rcases htrimmed with hzero | hnot
  · -- a zero alone has no places to spare
    have hpos := List.length_pos_of_ne_nil hm.fraction_ne_nil
    rw [hzero, List.length_singleton] at hk
    omega
  · exact hnot hlast

/-- **There is one trimmed numeral for each worth.** The two sides of the equation bring the
fractions to one length, so that it is one of natural numbers. -/
theorem eq_of_worth (hm : m.Plain) (hn : n.Plain) (hmtrimmed : m.Trimmed) (hntrimmed : n.Trimmed)
    (hworth : m.digits * 10 ^ n.fraction.length = n.digits * 10 ^ m.fraction.length) : m = n := by
  have hlength : m.fraction.length = n.fraction.length :=
    Nat.le_antisymm (length_fraction_le hn hm hmtrimmed hworth.symm)
      (length_fraction_le hm hn hntrimmed hworth)
  have hdigits : m.digits = n.digits := by
    rw [hlength] at hworth
    exact Nat.eq_of_mul_eq_mul_right (Nat.pow_pos (by decide)) hworth
  unfold Numeral.digits at hdigits
  rw [ofDigitChars_append, ofDigitChars_append, hlength] at hdigits
  have hmlt := ofDigitChars_lt hm.spelled.fraction_digits
  have hnlt := ofDigitChars_lt hn.spelled.fraction_digits
  rw [hlength] at hmlt
  -- the fractions are worth less than one, so the whole parts are worth the same
  have hquotient (a : Nat) {b : Nat} (hb : b < 10 ^ n.fraction.length) :
      (a * 10 ^ n.fraction.length + b) / 10 ^ n.fraction.length = a := by
    rw [Nat.mul_comm, Nat.mul_add_div (Nat.pow_pos (by decide)), Nat.div_eq_of_lt hb, Nat.add_zero]
  have hwhole : Nat.ofDigitChars 10 m.whole 0 = Nat.ofDigitChars 10 n.whole 0 := by
    rw [← hquotient (Nat.ofDigitChars 10 m.whole 0) hmlt, hdigits, hquotient _ hnlt]
  have hfraction := ofDigitChars_inj hm.spelled.fraction_digits hn.spelled.fraction_digits hlength
    (by rw [hwhole] at hdigits; omega)
  have hwhole : m.whole = n.whole := by
    rw [← hm.spelled.digitChars_whole, hwhole, hn.spelled.digitChars_whole]
  obtain ⟨_, _, _⟩ := m
  obtain ⟨_, _, _⟩ := n
  obtain rfl := hwhole
  obtain rfl := hfraction
  obtain rfl := hm.exponent_eq
  obtain rfl := hn.exponent_eq
  rfl

end Numeral.Plain

/-! ## The layout of a decimal -/

section Layout

variable {d : Decimal}

/-- A decimal is printed without an exponent unless it is very small or very large. -/
theorem numeralOf_exponent_eq_none_iff : (numeralOf d).exponent = none ↔
    d.digits = 0 ∨ 1 ≤ 10 ^ 5 * d.value ∧ d.value < 10 ^ 16 := by
  have hlow : d.digits ≠ 0 → (-5 < d.point ↔ 1 ≤ 10 ^ 5 * d.value) := by
    intro hzero
    rw [Decimal.lt_point_iff hzero, zpow_neg, inv_le_iff_one_le_mul₀' (by norm_num)]
    rfl
  have hhigh : d.digits ≠ 0 → (d.point ≤ 16 ↔ d.value < 10 ^ 16) := by
    intro hzero
    rw [← Int.not_lt, Decimal.lt_point_iff hzero, not_le]
    rfl
  unfold numeralOf
  dsimp only
  by_cases hzero : d.digits = 0
  · simp [hzero]
  · rw [if_neg hzero, ← hlow hzero, ← hhigh hzero]
    split
    · rename_i hplain
      refine iff_of_true ?_ (.inr hplain)
      split
      · rfl
      · split
        · rfl
        · rfl
    · rename_i hplain
      exact iff_of_false (fun h => nomatch h) fun h => h.elim hzero hplain

/-- The digits of the layout are those of the decimal, unless a zero was put behind the point. -/
theorem digits_numeralOf (hplain : (numeralOf d).exponent = none)
    (hfraction : (numeralOf d).fraction ≠ ['0']) : (numeralOf d).digits = d.digits := by
  have hdigits : Nat.ofDigitChars 10 (digitChars d.digits) 0 = d.digits :=
    Nat.ofDigitChars_ten_toDigits
  unfold Numeral.digits
  unfold numeralOf at hplain hfraction ⊢
  dsimp only at hplain hfraction ⊢
  split at hplain
  · rename_i hzero
    rw [if_pos hzero] at hfraction
    exact absurd rfl hfraction
  · rename_i hzero
    rw [if_neg hzero] at hfraction ⊢
    split at hplain
    · rename_i hrange
      rw [if_pos hrange] at hfraction ⊢
      split
      · rename_i hexponent
        rw [if_pos hexponent] at hfraction
        exact absurd rfl hfraction
      · split
        · rw [List.take_append_drop, hdigits]
        · rw [ofDigitChars_leading_zeros, hdigits]
    · cases hplain

/-- **Without an exponent the layout of a decimal without zeros to spare is trimmed.** The digits
end in no zero, and where the layout adds some they stand in front of the point or right behind
it. -/
theorem trimmed_numeralOf (htrimmed : d.digits ≠ 0 → d.digits % 10 ≠ 0)
    (hplain : (numeralOf d).exponent = none) : (numeralOf d).Plain ∧ (numeralOf d).Trimmed := by
  have hfraction : (numeralOf d).fraction ≠ [] :=
    (numeralOf_not_whole d).resolve_right fun hne => hne hplain
  have hshape : (numeralOf d).Plain := ⟨spelled_numeralOf d, hplain, hfraction⟩
  refine ⟨hshape, ?_⟩
  by_cases hzero : (numeralOf d).fraction = ['0']
  · exact .inl hzero
  · right
    intro hlast
    rw [hshape.getLast?_fraction, digits_numeralOf hplain hzero] at hlast
    by_cases hdigits : d.digits = 0
    · -- zero is printed with a zero behind the point
      apply hzero
      unfold numeralOf
      simp [hdigits]
    · exact htrimmed hdigits hlast

/-- With an exponent there is one digit in front of the point, and the exponent is one that is
printed. -/
theorem exponent_numeralOf {minus : Bool} {ds : List Char}
    (h : (numeralOf d).exponent = some (minus, ds)) : (numeralOf d).whole.length = 1 ∧
      ∃ e, ds = digitChars e ∧ if minus then 6 ≤ e else 16 ≤ e := by
  unfold numeralOf at h ⊢
  dsimp only at h ⊢
  split at h
  · cases h
  · rename_i hzero
    rw [if_neg hzero]
    split at h
    · split at h
      · cases h
      · split at h
        · cases h
        · cases h
    · rename_i hrange
      rw [if_neg hrange]
      obtain ⟨hminus, hds⟩ := Prod.mk.inj (Option.some.inj h)
      refine ⟨?_, (d.point - 1).natAbs, hds.symm, ?_⟩
      · have hpos := List.length_pos_of_ne_nil (digitChars_ne_nil d.digits)
        rw [List.length_take]
        omega
      · cases minus with
        | true =>
          have hneg := of_decide_eq_true hminus
          show 6 ≤ (d.point - 1).natAbs
          omega
        | false =>
          have hpos := of_decide_eq_false hminus
          show 16 ≤ (d.point - 1).natAbs
          omega

end Layout
end Json
end NodeRpc
