import NodeRpc.Proofs.Number.Rounding

/-!
# Rounding always finds a number

A ratio that is not too large is rounded to a number whose interval it lies in
(`exists_near_ofRatio?`). That is the other half of what ties rounding to intervals: that a ratio in
the interval of a number is rounded to that number is known from `ofRatio?_of_near`. Together they
say that the intervals of the numbers of one sign cover the magnitudes and do not overlap.

The bound is far from sharp. A ratio that rounds to infinity has no binary64 number, and anything
below `2 ^ 64` is far away from there; amounts and the integers of the reader are below it, and a
sharp bound would only make the proofs longer.

A natural number of at most 53 bits is itself a binary64 number (`exists_ofNat?`), and so is a power
of ten that small. So a quotient of two such is rounded once and no more (`exists_near_div?`). The
reader of a literal with a fraction computes such a quotient, and this is where it can be said that
it computes it well.
-/

namespace NodeRpc

/-- Rounding to an integer goes at most a half away, and less than that to an odd integer. -/
theorem roundHalfEven_bounds {num den : Nat} (hden : 0 < den) :
    2 * (roundHalfEven num den * den) ≤ 2 * num + den ∧
      2 * num ≤ 2 * (roundHalfEven num den * den) + den ∧
      (roundHalfEven num den % 2 = 1 →
        2 * (roundHalfEven num den * den) < 2 * num + den ∧
          2 * num < 2 * (roundHalfEven num den * den) + den) := by
  have hdiv : num / den * den + num % den = num := Nat.div_add_mod' num den
  have hmod : num % den < den := Nat.mod_lt num hden
  unfold roundHalfEven
  dsimp only
  split
  · omega
  · split
    · rw [Nat.add_mul, Nat.one_mul]
      omega
    · -- a half: the even neighbour is the floor or the integer above it
      rcases Nat.mod_two_eq_zero_or_one (num / den) with heven | hodd
      · rw [heven, Nat.add_zero]
        omega
      · rw [hodd, Nat.add_mul, Nat.one_mul]
        omega

namespace Binary64

/-- The same as `Near.bounds`, backwards, for a ratio of units. -/
theorem near_of_bounds {x : Binary64} {num den : Nat} (hden : 0 < den)
    (hlow : x.interval.1 * den ≤ 4 * num) (hhigh : 4 * num ≤ x.interval.2 * den)
    (hodd : x.mantissa % 2 = 1 → x.interval.1 * den < 4 * num ∧ 4 * num < x.interval.2 * den) :
    x.Near ((num : ℚ) / den / unitsPerOne) := by
  have hd : (0 : ℚ) < den := by exact_mod_cast hden
  have hU : (unitsPerOne : ℚ) ≠ 0 := by exact_mod_cast unitsPerOne_pos.ne'
  have hq : (num : ℚ) / den / unitsPerOne * quartersPerOne = ((4 * num : Nat) : ℚ) / den := by
    unfold quartersPerOne
    push_cast
    field_simp
  unfold Near
  rw [hq]
  split
  · rw [le_div_iff₀ hd, div_le_iff₀ hd]
    exact ⟨by exact_mod_cast hlow, by exact_mod_cast hhigh⟩
  · obtain ⟨hlow, hhigh⟩ := hodd (by omega)
    rw [lt_div_iff₀ hd, div_lt_iff₀ hd]
    exact ⟨by exact_mod_cast hlow, by exact_mod_cast hhigh⟩

/-- The unit is a power of two; which one is told apart, so that it is not computed. -/
theorem exists_unitsPerOne_eq : ∃ k, k = 1074 ∧ unitsPerOne = 2 ^ k := by
  obtain ⟨k, hk⟩ : ∃ k, k = 1074 := ⟨_, rfl⟩
  refine ⟨k, hk, ?_⟩
  rw [unitsPerOne, ← hk, Nat.shiftLeft_eq, Nat.one_mul]

theorem make?_of_canonical (negative : Bool) {mantissa shift : Nat}
    (h : Canonical mantissa shift) :
    make? negative mantissa shift = some ⟨negative, mantissa, shift, h⟩ := dif_pos h

/-- A quotient of units is below `2 ^ 53` steps of the shift it is rounded with, and at least
`2 ^ 52` of them if the shift is not zero. -/
theorem shift_bounds {num den : Nat} (hden : 0 < den) {s : Nat}
    (hs : (num / den).log2 + 1 - 53 = s) :
    num < 2 ^ 53 * (den * 2 ^ s) ∧ (0 < s → 2 ^ 52 * (den * 2 ^ s) ≤ num) := by
  constructor
  · have hlt : num / den < 2 ^ (53 + s) :=
      Nat.lt_log2_self.trans_le (Nat.pow_le_pow_right (by decide) (by omega))
    have hnum := (Nat.div_lt_iff_lt_mul hden).mp hlt
    rwa [Nat.pow_add, Nat.mul_assoc, Nat.mul_comm (2 ^ s)] at hnum
  · intro hpos
    have hne : num / den ≠ 0 := by
      intro hzero
      rw [hzero, Nat.log2_zero] at hs
      omega
    have hle : 2 ^ (52 + s) ≤ num / den := (Nat.le_log2 hne).mp (by omega)
    have hnum := (Nat.le_div_iff_mul_le hden).mp hle
    rwa [Nat.pow_add, Nat.mul_assoc, Nat.mul_comm (2 ^ s)] at hnum

section Rounded

variable {num den n s : Nat} (negative : Bool) (hden : 0 < den)

include hden

/-- A ratio is near the number whose mantissa it was rounded to. -/
theorem near_rounded (hcanonical : Canonical n s) (hfloor : 0 < s → 2 ^ 52 * (den * 2 ^ s) ≤ num)
    (hbelow : 2 * (n * (den * 2 ^ s)) ≤ 2 * num + den * 2 ^ s)
    (habove : 2 * num ≤ 2 * (n * (den * 2 ^ s)) + den * 2 ^ s)
    (hodd : n % 2 = 1 → 2 * (n * (den * 2 ^ s)) < 2 * num + den * 2 ^ s ∧
      2 * num < 2 * (n * (den * 2 ^ s)) + den * 2 ^ s) :
    (Binary64.mk negative n s hcanonical).Near ((num : ℚ) / den / unitsPerOne) := by
  refine near_of_bounds hden ?_ ?_ ?_
  all_goals
    rw [interval_eq]
    simp only [Nat.sub_mul, Nat.add_mul, Nat.mul_assoc, Nat.mul_comm (2 ^ s)]
  · split
    · -- below a mantissa of `2 ^ 52` the interval is shorter, and the ratio is not there
      rename_i hleast
      have hle := hfloor hleast.2
      rw [hleast.1, Nat.mul_comm (2 ^ s)]
      omega
    · rw [Nat.mul_assoc, Nat.mul_comm (2 ^ s)]
      omega
  · omega
  · intro h
    have hstrict := hodd h
    have hone := Nat.mul_le_mul_right (den * 2 ^ s) (show 1 ≤ n by omega)
    rw [if_neg (by omega), Nat.mul_assoc, Nat.mul_comm (2 ^ s)]
    omega

/-- A ratio that was rounded up to a mantissa of `2 ^ 53` is near the least number of the next
shift. -/
theorem near_carried (hcanonical : Canonical (2 ^ 52) (s + 1)) (hnum : num < 2 ^ 53 * (den * 2 ^ s))
    (hbelow : 2 * (2 ^ 53 * (den * 2 ^ s)) ≤ 2 * num + den * 2 ^ s) :
    (Binary64.mk negative (2 ^ 52) (s + 1) hcanonical).Near ((num : ℚ) / den / unitsPerOne) := by
  have hpow : den * 2 ^ (s + 1) = 2 * (den * 2 ^ s) := by
    rw [Nat.pow_succ]
    ring
  have hinterval := interval_eq ⟨negative, 2 ^ 52, s + 1, hcanonical⟩
  dsimp only at hinterval
  rw [if_pos (And.intro (Eq.refl (2 ^ 52)) (Nat.succ_pos s))] at hinterval
  refine near_of_bounds hden ?_ ?_ fun h => ?_
  · rw [hinterval]
    simp only [Nat.sub_mul, Nat.mul_assoc, Nat.mul_comm (2 ^ (s + 1)), hpow]
    omega
  · rw [hinterval]
    simp only [Nat.add_mul, Nat.mul_assoc, Nat.mul_comm (2 ^ (s + 1)), hpow]
    omega
  · -- the mantissa is even
    have heven : 2 ^ 52 % 2 = 1 := h
    exact absurd heven (by decide)

/-- **A ratio of units that is not too large is rounded to a number near it.** The mantissa may come
out as `2 ^ 53`, which is carried to the next shift (`near_carried`). -/
theorem exists_near_ofUnits? (hsize : num / den < 2 ^ 64 * unitsPerOne) :
    ∃ x, ofUnits? negative num den = some x ∧ x.negative = negative ∧
      x.Near ((num : ℚ) / den / unitsPerOne) := by
  obtain ⟨s, hs⟩ : ∃ s, (num / den).log2 + 1 - 53 = s := ⟨_, rfl⟩
  have hshift : s ≤ 1085 := by
    rcases Nat.eq_zero_or_pos (num / den) with hzero | hpos
    · rw [hzero, Nat.log2_zero] at hs
      omega
    · obtain ⟨k, hk, hunits⟩ := exists_unitsPerOne_eq
      have hlog : (num / den).log2 < 64 + k := by
        rwa [Nat.log2_lt hpos.ne', Nat.pow_add, ← hunits]
      omega
  clear hsize
  obtain ⟨hnum, hfloor⟩ := shift_bounds hden hs
  obtain ⟨hbelow, habove, hodd⟩ :=
    @roundHalfEven_bounds num _ (Nat.mul_pos hden (Nat.two_pow_pos s))
  generalize hn : roundHalfEven num (den * 2 ^ s) = n at hbelow habove hodd
  -- rounding may fill the digits, but no more than that
  have hle : n ≤ 2 ^ 53 := by
    by_contra hgt
    have hmul := Nat.mul_le_mul_right (den * 2 ^ s) (Nat.lt_of_not_le hgt)
    rw [Nat.succ_mul] at hmul
    omega
  have hge : 0 < s → 2 ^ 52 ≤ n := by
    intro hpos
    by_contra hlt
    have hmul := Nat.mul_le_mul_right (den * 2 ^ s) (Nat.lt_of_not_le hlt)
    have hfloor := hfloor hpos
    rw [Nat.succ_mul] at hmul
    omega
  unfold ofUnits?
  simp only [hs, Nat.shiftLeft_eq, Nat.one_mul, hn]
  rcases Nat.lt_or_eq_of_le hle with hlt | rfl
  · have hcanonical : Canonical n s := by
      unfold Canonical
      simp only [Nat.shiftLeft_eq, Nat.one_mul]
      omega
    rw [if_neg hlt.ne, make?_of_canonical negative hcanonical]
    exact ⟨_, rfl, rfl, near_rounded negative hden hcanonical hfloor hbelow habove hodd⟩
  · have hcanonical : Canonical (2 ^ 52) (s + 1) := by
      unfold Canonical
      simp only [Nat.shiftLeft_eq, Nat.one_mul]
      omega
    rw [if_pos rfl, make?_of_canonical negative hcanonical]
    exact ⟨_, rfl, rfl, near_carried negative hden hcanonical hnum hbelow⟩

/-- **A ratio that is not too large is rounded to a number near it.** The denominator may be
anything above zero, so a ratio may be as small as one likes; it is then near zero, which is a
number too. -/
theorem exists_near_ofRatio? (hsize : num < 2 ^ 64) :
    ∃ x, ofRatio? negative num den = some x ∧ x.negative = negative ∧
      x.Near ((num : ℚ) / den) := by
  have hlt : num * unitsPerOne / den < 2 ^ 64 * unitsPerOne :=
    (Nat.div_le_self _ _).trans_lt (Nat.mul_lt_mul_of_pos_right hsize unitsPerOne_pos)
  obtain ⟨x, hx, hsign, hnear⟩ := exists_near_ofUnits? negative hden hlt
  have hU : (unitsPerOne : ℚ) ≠ 0 := by exact_mod_cast unitsPerOne_pos.ne'
  have hq : ((num * unitsPerOne : Nat) : ℚ) / den / unitsPerOne = num / den := by
    push_cast
    field_simp
  exact ⟨x, hx, hsign, hq ▸ hnear⟩

end Rounded

/-! ## Numbers that need no rounding

An integer is in its own interval, and as what is in the interval is rounded to the number, it is
enough to find a mantissa and a shift for it. -/

/-- The magnitude of a number lies in its interval, strictly unless it is zero. -/
theorem interval_units (x : Binary64) : x.interval.1 ≤ 4 * x.units ∧ 4 * x.units < x.interval.2 ∧
    (x.mantissa ≠ 0 → x.interval.1 < 4 * x.units) := by
  have hg : 0 < 2 ^ x.shift := Nat.two_pow_pos _
  have hunits : x.units = x.mantissa * 2 ^ x.shift := Nat.shiftLeft_eq _ _
  rw [interval_eq, hunits]
  refine ⟨Nat.sub_le _ _, by dsimp only; omega, ?_⟩
  intro hm
  have := Nat.mul_le_mul_right (2 ^ x.shift) (Nat.pos_of_ne_zero hm)
  dsimp only
  split
  · omega
  · omega

/-- **A natural number of at most 53 bits is a binary64 number.** It is rounded to itself and not
merely to a number near it. -/
theorem exists_ofNat? {n : Nat} (hn : n < 2 ^ 53) :
    ∃ x, ofNat? n = some x ∧ x.negative = false ∧ x.units = n * unitsPerOne := by
  have hexact : ∃ x : Binary64, x.negative = false ∧ x.units = n * unitsPerOne := by
    rcases Nat.eq_zero_or_pos n with rfl | hpos
    · exact ⟨zero false, rfl, by simp [zero, units, Nat.shiftLeft_eq]⟩
    · -- shifted up until it has 53 bits
      have hbits : n.log2 < 53 := (Nat.log2_lt hpos.ne').mpr hn
      have hlow : 2 ^ n.log2 ≤ n := Nat.log2_self_le hpos.ne'
      have hhigh : n < 2 ^ (n.log2 + 1) := Nat.lt_log2_self
      have hcanonical : Canonical (n * 2 ^ (52 - n.log2)) (1022 + n.log2) := by
        unfold Canonical
        simp only [Nat.shiftLeft_eq, Nat.one_mul]
        refine ⟨?_, by omega, Or.inr ?_⟩
        · calc n * 2 ^ (52 - n.log2) < 2 ^ (n.log2 + 1) * 2 ^ (52 - n.log2) :=
                Nat.mul_lt_mul_of_pos_right hhigh (Nat.two_pow_pos _)
            _ = 2 ^ 53 := by rw [← Nat.pow_add]; congr 1; omega
        · calc 2 ^ 52 = 2 ^ n.log2 * 2 ^ (52 - n.log2) := by rw [← Nat.pow_add]; congr 1; omega
            _ ≤ n * 2 ^ (52 - n.log2) := Nat.mul_le_mul_right _ hlow
      obtain ⟨k, hk, hunits⟩ := exists_unitsPerOne_eq
      refine ⟨⟨false, _, _, hcanonical⟩, rfl, ?_⟩
      have hsum : 52 - n.log2 + (1022 + n.log2) = k := by omega
      unfold units
      dsimp only
      rw [Nat.shiftLeft_eq, Nat.mul_assoc, ← Nat.pow_add, hsum, hunits]
  obtain ⟨x, hsign, hunits⟩ := hexact
  refine ⟨x, ?_, hsign, hunits⟩
  obtain ⟨hlow, hhigh, hpos⟩ := x.interval_units
  unfold ofNat? ofRatio?
  rw [← hsign, ← hunits]
  refine ofUnits?_of_bounds Nat.one_pos (by omega) (by omega) fun hodd => ?_
  have := hpos (by omega)
  omega

/-- **A quotient of two such numbers is rounded once.** Both are exact, so what is divided is what
was meant to be. -/
theorem exists_near_div? {m n : Nat} (hm : m < 2 ^ 53) (hn : n < 2 ^ 53) (hpos : 0 < n) :
    ∃ x y z, ofNat? m = some x ∧ ofNat? n = some y ∧ x.div? y = some z ∧ z.negative = false ∧
      z.Near ((m : ℚ) / n) := by
  obtain ⟨x, hx, hxsign, hxunits⟩ := exists_ofNat? hm
  obtain ⟨y, hy, hysign, hyunits⟩ := exists_ofNat? hn
  have hU := unitsPerOne_pos
  have hden : 0 < y.units := hyunits ▸ Nat.mul_pos hpos hU
  have hnonzero : y.isZero = false := by
    have hne : y.mantissa ≠ 0 := by
      intro hzero
      unfold units at hden
      rw [hzero, Nat.zero_shiftLeft] at hden
      exact Nat.lt_irrefl 0 hden
    simpa [isZero] using hne
  have hsize : x.units * unitsPerOne / y.units < 2 ^ 64 * unitsPerOne := by
    rw [hxunits, hyunits, Nat.mul_div_mul_right _ _ hU]
    have hlt : m < 2 ^ 64 := by omega
    exact (Nat.div_le_self _ _).trans_lt (Nat.mul_lt_mul_of_pos_right hlt hU)
  obtain ⟨z, hz, hzsign, hnear⟩ := exists_near_ofUnits? false hden hsize
  refine ⟨x, y, z, hx, hy, ?_, hzsign, ?_⟩
  · unfold div?
    rwa [hnonzero, if_neg Bool.false_ne_true, hxsign, hysign, bne_self_eq_false]
  · have hUq : (unitsPerOne : ℚ) ≠ 0 := by exact_mod_cast hU.ne'
    have hnq : (n : ℚ) ≠ 0 := by exact_mod_cast hpos.ne'
    have hq : ((x.units * unitsPerOne : Nat) : ℚ) / y.units / unitsPerOne = m / n := by
      rw [hxunits, hyunits]
      push_cast
      field_simp
    exact hq ▸ hnear

end Binary64
end NodeRpc
