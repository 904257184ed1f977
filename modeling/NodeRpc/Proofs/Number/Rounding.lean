import Mathlib
import NodeRpc.Number.Shortest

/-!
# What rounds to a number

Every binary64 number `x` has an interval of magnitudes around it: those between the midpoints to
its two neighbours, the ends included exactly when the mantissa of `x` is even. `Near x q` says that
`q` lies in it.

The one theorem here, `ofRatio?_of_near`, ties this interval to the rounding that the library
computes with: a ratio in the interval of `x` is rounded to `x`. So the interval determines the
number (`near_unique`), and to show that a text reads back as `x` it is enough to place what the
text is worth in the interval of `x`.

An interval is the right thing to put between the two because the printer tests for one. It works
with integers, a quarter of a unit being the finest distance that matters, and never rounds
anything; the rounding works with a quotient and a remainder, and never looks at a neighbour. That
both mean the same is a statement about rationals, and neither of the two would be a good definition
of the other.

The case that takes work is a mantissa of `2 ^ 52`. The interval then reaches below the least number
of its shift, where the rounding works with the next smaller shift and comes back by a carry.
-/

namespace NodeRpc

/-! ## Rounding to an integer

The mantissa is rounded as an integer is. Half to even is the one choice that the ends of the
interval depend on. -/

/-- A ratio at most a half away from an integer is rounded to it, an odd integer only when
the ratio is less than a half away. -/
theorem roundHalfEven_eq {num den n : Nat} (hden : 0 < den)
    (hlow : 2 * (n * den) ≤ 2 * num + den) (hhigh : 2 * num ≤ 2 * (n * den) + den)
    (hodd : n % 2 = 1 → 2 * (n * den) < 2 * num + den ∧ 2 * num < 2 * (n * den) + den) :
    roundHalfEven num den = n := by
  have hdiv : num / den * den + num % den = num := Nat.div_add_mod' num den
  have hmod : num % den < den := Nat.mod_lt num hden
  -- the floor is `n` or the integer below it
  have hq : num / den = n ∨ num / den + 1 = n := by
    rcases Nat.lt_trichotomy (num / den) n with h | h | h
    · rcases Nat.lt_or_ge (num / den + 1) n with h2 | h2
      · have hmul : (num / den + 2) * den ≤ n * den := Nat.mul_le_mul_right den h2
        rw [Nat.add_mul] at hmul
        omega
      · exact Or.inr (by omega)
    · exact Or.inl h
    · have hmul : (n + 1) * den ≤ num / den * den := Nat.mul_le_mul_right den h
      rw [Nat.add_mul] at hmul
      omega
  unfold roundHalfEven
  dsimp only
  rcases hq with h | h
  · rw [h] at hdiv ⊢
    split
    · rfl
    · split
      · omega
      · by_cases hn : n % 2 = 1
        · have := hodd hn
          omega
        · omega
  · have hn : n * den = num / den * den + den := by rw [← h, Nat.add_mul, Nat.one_mul]
    split
    · omega
    · split
      · exact h
      · by_cases hn2 : n % 2 = 1
        · have := hodd hn2
          omega
        · omega

namespace Binary64

/-! ## The interval of a number -/

/-- A magnitude lies where it is rounded to `x`. Both ends belong to it if the mantissa is even, as
a tie is rounded to the even one, and neither does if it is odd. The sign of `x` does not matter. -/
def Near (x : Binary64) (q : ℚ) : Prop :=
  if x.mantissa % 2 = 0 then
    (x.interval.1 : ℚ) ≤ q * quartersPerOne ∧ q * quartersPerOne ≤ x.interval.2
  else
    (x.interval.1 : ℚ) < q * quartersPerOne ∧ q * quartersPerOne < x.interval.2

theorem unitsPerOne_pos : 0 < unitsPerOne := by
  unfold unitsPerOne
  rw [Nat.shiftLeft_eq]
  positivity

/-- The same as inequalities of naturals: the interval is in quarter units, the ratio in
units. -/
theorem Near.bounds {x : Binary64} {num den : Nat} (hden : 0 < den)
    (h : x.Near ((num : ℚ) / den)) :
    x.interval.1 * den ≤ 4 * (num * unitsPerOne) ∧
      4 * (num * unitsPerOne) ≤ x.interval.2 * den ∧
      (x.mantissa % 2 = 1 →
        x.interval.1 * den < 4 * (num * unitsPerOne) ∧
          4 * (num * unitsPerOne) < x.interval.2 * den) := by
  have hd : (0 : ℚ) < den := by exact_mod_cast hden
  have hq : (num : ℚ) / den * quartersPerOne = ((4 * (num * unitsPerOne) : Nat) : ℚ) / den := by
    unfold quartersPerOne
    push_cast
    ring
  unfold Near at h
  rw [hq] at h
  split at h
  · rename_i heven
    rw [le_div_iff₀ hd, div_le_iff₀ hd] at h
    refine ⟨by exact_mod_cast h.1, by exact_mod_cast h.2, ?_⟩
    intro hodd
    omega
  · rw [lt_div_iff₀ hd, div_lt_iff₀ hd] at h
    have h1 : x.interval.1 * den < 4 * (num * unitsPerOne) := by exact_mod_cast h.1
    have h2 : 4 * (num * unitsPerOne) < x.interval.2 * den := by exact_mod_cast h.2
    exact ⟨Nat.le_of_lt h1, Nat.le_of_lt h2, fun _ => ⟨h1, h2⟩⟩

/-! ## Rounding to a binary64 number

Three cases: no shift, a shift with a mantissa that is at or above the least of that shift, and the
carry. In each of them the shift is found first, from the bits of the whole quotient, and then the
mantissa is that of `roundHalfEven_eq`. -/

theorem make?_self (x : Binary64) : make? x.negative x.mantissa x.shift = some x := by
  unfold make?
  rw [dif_pos x.canonical]

/-- The shift of a magnitude below `2 ^ 53` units is zero. -/
theorem shift_of_lt {n : Nat} (h : n < 2 ^ 53) : n.log2 + 1 - 53 = 0 := by
  rcases Nat.eq_zero_or_pos n with rfl | hpos
  · rfl
  · have := (Nat.log2_lt (Nat.ne_of_gt hpos)).mpr h
    omega

/-- The shift of a magnitude whose leading bit is bit 53 of a shifted mantissa. -/
theorem shift_of_between {n s : Nat} (hlow : 2 ^ 52 * 2 ^ s ≤ n) (hhigh : n < 2 ^ 53 * 2 ^ s) :
    n.log2 + 1 - 53 = s := by
  rw [← Nat.pow_add] at hlow hhigh
  have hn : n ≠ 0 := by
    have := Nat.two_pow_pos (52 + s)
    omega
  have h1 := (Nat.le_log2 hn).mpr hlow
  have h2 := (Nat.log2_lt hn).mpr hhigh
  omega

/-- The interval in naturals, with the shift as a power. -/
theorem interval_eq (x : Binary64) :
    x.interval = (4 * (x.mantissa * 2 ^ x.shift) -
        (if x.mantissa = 2 ^ 52 ∧ 0 < x.shift then 2 ^ x.shift else 2 * 2 ^ x.shift),
      4 * (x.mantissa * 2 ^ x.shift) + 2 * 2 ^ x.shift) := by
  unfold interval units
  simp only [Nat.shiftLeft_eq, Nat.one_mul]

/-- Near a number of shift zero. -/
theorem ofUnits?_of_shift_zero {x : Binary64} {num den : Nat} (hden : 0 < den)
    (hs : x.shift = 0) (hm : x.mantissa < 2 ^ 53)
    (hlow : x.interval.1 * den ≤ 4 * num) (hhigh : 4 * num ≤ x.interval.2 * den)
    (hodd : x.mantissa % 2 = 1 → x.interval.1 * den < 4 * num ∧ 4 * num < x.interval.2 * den) :
    ofUnits? x.negative num den = some x := by
  rw [interval_eq, hs] at hlow hhigh hodd
  simp only [Nat.lt_irrefl, and_false, if_false, Nat.pow_zero, Nat.mul_one,
    Nat.sub_mul, Nat.add_mul, Nat.mul_assoc] at hlow hhigh hodd
  have hshift : (num / den).log2 + 1 - 53 = 0 := by
    refine shift_of_lt ((Nat.div_lt_iff_lt_mul hden).mpr ?_)
    have := Nat.mul_le_mul_right den hm
    rw [Nat.succ_mul] at this
    omega
  have hround : roundHalfEven num den = x.mantissa :=
    roundHalfEven_eq hden (by omega) (by omega) fun h => by have := hodd h; omega
  unfold ofUnits?
  simp only [hshift, Nat.shiftLeft_eq, Nat.pow_zero, Nat.mul_one, Nat.one_mul, hround]
  rw [if_neg (by omega), ← hs]
  exact make?_self x

/-- Near a number of positive shift, at or above the least magnitude of that shift. -/
theorem ofUnits?_of_shift_pos {x : Binary64} {num den : Nat} (hden : 0 < den)
    (hm : x.mantissa < 2 ^ 53) (hm2 : 2 ^ 52 ≤ x.mantissa)
    (hfloor : 2 ^ 52 * (2 ^ x.shift * den) ≤ num)
    (hlow : x.interval.1 * den ≤ 4 * num) (hhigh : 4 * num ≤ x.interval.2 * den)
    (hodd : x.mantissa % 2 = 1 → x.interval.1 * den < 4 * num ∧ 4 * num < x.interval.2 * den) :
    ofUnits? x.negative num den = some x := by
  have hg : 0 < 2 ^ x.shift * den := Nat.mul_pos (Nat.two_pow_pos _) hden
  have hceil := Nat.mul_le_mul_right (2 ^ x.shift * den) hm
  rw [Nat.succ_mul] at hceil
  rw [interval_eq] at hlow hhigh hodd
  simp only [Nat.sub_mul, Nat.add_mul, Nat.mul_assoc] at hlow hhigh hodd
  have hshift : (num / den).log2 + 1 - 53 = x.shift := by
    refine shift_of_between ((Nat.le_div_iff_mul_le hden).mpr ?_)
      ((Nat.div_lt_iff_lt_mul hden).mpr ?_)
    · rw [Nat.mul_assoc]
      exact hfloor
    · rw [Nat.mul_assoc]
      omega
  have hround : roundHalfEven num (2 ^ x.shift * den) = x.mantissa := by
    refine roundHalfEven_eq hg ?_ (by omega) ?_
    · -- below the least mantissa of the shift only `hfloor` bounds the ratio
      split at hlow
      · rename_i h
        rw [h.1]
        omega
      · rw [Nat.mul_assoc] at hlow
        omega
    · intro h
      have h3 := hodd h
      rw [if_neg (by omega), Nat.mul_assoc] at h3
      omega
  unfold ofUnits?
  simp only [hshift, Nat.shiftLeft_eq, Nat.one_mul, Nat.mul_comm den, hround]
  rw [if_neg (by omega)]
  exact make?_self x

/-- Near a mantissa of `2 ^ 52`, below the least magnitude of its shift: the mantissa found
with the next smaller shift is carried up. -/
theorem ofUnits?_of_carry {x : Binary64} {num den : Nat} (hden : 0 < den)
    (hs : 0 < x.shift) (hm : x.mantissa = 2 ^ 52)
    (hbelow : num < 2 ^ 52 * (2 ^ x.shift * den)) (hlow : x.interval.1 * den ≤ 4 * num) :
    ofUnits? x.negative num den = some x := by
  -- the ratio has the shift below, where `x` would have the mantissa `2 ^ 53`
  obtain ⟨s, hs⟩ : ∃ s, x.shift = s + 1 := ⟨x.shift - 1, by omega⟩
  have hpow : 2 ^ x.shift * den = 2 * (2 ^ s * den) := by
    rw [hs, Nat.pow_succ, Nat.mul_comm (2 ^ s), Nat.mul_assoc]
  have hg : 0 < 2 ^ s * den := Nat.mul_pos (Nat.two_pow_pos _) hden
  rw [interval_eq, hm, if_pos ⟨rfl, by omega⟩] at hlow
  simp only [Nat.sub_mul, Nat.mul_assoc, hpow] at hlow hbelow
  have hshift : (num / den).log2 + 1 - 53 = s := by
    refine shift_of_between ((Nat.le_div_iff_mul_le hden).mpr ?_)
      ((Nat.div_lt_iff_lt_mul hden).mpr ?_)
    · rw [Nat.mul_assoc]
      omega
    · rw [Nat.mul_assoc]
      omega
  have hround : roundHalfEven num (2 ^ s * den) = 2 ^ 53 :=
    roundHalfEven_eq hg (by omega) (by omega) fun h => absurd h (by decide)
  unfold ofUnits?
  simp only [hshift, Nat.shiftLeft_eq, Nat.one_mul, Nat.mul_comm den, hround, if_true]
  rw [← hs, ← hm]
  exact make?_self x

/-- A ratio of units in the interval of a number is rounded to that number. -/
theorem ofUnits?_of_bounds {x : Binary64} {num den : Nat} (hden : 0 < den)
    (hlow : x.interval.1 * den ≤ 4 * num) (hhigh : 4 * num ≤ x.interval.2 * den)
    (hodd : x.mantissa % 2 = 1 → x.interval.1 * den < 4 * num ∧ 4 * num < x.interval.2 * den) :
    ofUnits? x.negative num den = some x := by
  obtain ⟨hm, -, hnormal⟩ := x.canonical
  simp only [Nat.shiftLeft_eq, Nat.one_mul] at hm hnormal
  rcases Nat.eq_zero_or_pos x.shift with hs | hs
  · exact ofUnits?_of_shift_zero hden hs hm hlow hhigh hodd
  · have hm2 : 2 ^ 52 ≤ x.mantissa := by omega
    rcases Nat.lt_or_ge num (2 ^ 52 * (2 ^ x.shift * den)) with hbelow | hfloor
    · -- only the least mantissa has an interval that reaches down here
      have hm52 : x.mantissa = 2 ^ 52 := by
        refine Nat.le_antisymm (Nat.le_of_not_lt ?_) hm2
        intro h
        have hnext := Nat.mul_le_mul_right (2 ^ x.shift * den) h
        rw [interval_eq, if_neg (by omega)] at hlow
        simp only [Nat.sub_mul, Nat.mul_assoc] at hlow
        rw [Nat.succ_mul] at hnext
        omega
      exact ofUnits?_of_carry hden hs hm52 hbelow hlow
    · exact ofUnits?_of_shift_pos hden hm hm2 hfloor hlow hhigh hodd

/-- **A ratio in the interval of a number is rounded to that number.** The ends belong to the
interval for an even mantissa only, and there a tie is rounded to the even one; both sides of the
theorem depend on this, and they agree. -/
theorem ofRatio?_of_near {x : Binary64} {num den : Nat} (hden : 0 < den)
    (h : x.Near ((num : ℚ) / den)) : ofRatio? x.negative num den = some x := by
  obtain ⟨hlow, hhigh, hodd⟩ := h.bounds hden
  exact ofUnits?_of_bounds hden hlow hhigh hodd

/-- A magnitude lies in the interval of one number at most, of each sign. -/
theorem near_unique {x y : Binary64} {q : ℚ} (hq : 0 ≤ q) (hsign : x.negative = y.negative)
    (hx : x.Near q) (hy : y.Near q) : x = y := by
  obtain ⟨num, hnum⟩ : ∃ n : Nat, q.num = n := ⟨q.num.toNat, by
    have := Rat.num_nonneg.mpr hq
    omega⟩
  have hratio : q = (num : ℚ) / (q.den : ℚ) := by
    rw [← Int.cast_natCast, ← hnum]
    exact (Rat.num_div_den q).symm
  rw [hratio] at hx hy
  have h1 := ofRatio?_of_near q.den_pos hx
  have h2 := ofRatio?_of_near q.den_pos hy
  rw [hsign] at h1
  exact Option.some.inj (h1.symm.trans h2)

end Binary64
end NodeRpc
