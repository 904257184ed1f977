import Mathlib.Data.List.Induction
import Mathlib.Tactic.Ring
import NodeRpc.Proofs.Number.Digits

/-!
# Runs of digits and what they are worth

A run of digits stands for a natural number, and different runs may stand for the same one. They
differ then by zeros in front and by nothing else. Of one length each run is worth something else
(`ofDigitChars_inj`), and a run without a leading zero is how its worth is written
(`digitChars_ofDigitChars`). Whether a run ends in a zero shows in its worth
(`getLast?_eq_zero_iff`).

Two texts of numbers are compared part by part with these. The digits before the point have no
leading zero, so they are determined by what they are worth. The digits behind it have as many zeros
in front as they like, so it takes their length as well.
-/

namespace NodeRpc

theorem ofDigitChars_concat (cs : List Char) (c : Char) :
    Nat.ofDigitChars 10 (cs ++ [c]) 0 =
      10 * Nat.ofDigitChars 10 cs 0 + (c.toNat - '0'.toNat) := by
  rw [Nat.ofDigitChars_append]
  rfl

theorem isDigit_bounds {c : Char} (h : c.isDigit = true) : 48 ≤ c.toNat ∧ c.toNat ≤ 57 := by
  have hc : '0' ≤ c ∧ c ≤ '9' := by simpa [Char.isDigit, Char.le_def] using h
  exact ⟨hc.1, hc.2⟩

theorem ofDigitChars_lt {cs : List Char} (h : ∀ c ∈ cs, c.isDigit = true) :
    Nat.ofDigitChars 10 cs 0 < 10 ^ cs.length := by
  induction cs using List.reverseRecOn with
  | nil => decide
  | append_singleton cs c ih =>
    have hc := isDigit_bounds (h c (by simp))
    have hlt := ih fun d hd => h d (by simp [hd])
    rw [ofDigitChars_concat, List.length_append, List.length_singleton, Nat.pow_succ]
    have hzero : '0'.toNat = 48 := rfl
    omega

theorem ofDigitChars_append (cs ds : List Char) :
    Nat.ofDigitChars 10 (cs ++ ds) 0 =
      Nat.ofDigitChars 10 cs 0 * 10 ^ ds.length + Nat.ofDigitChars 10 ds 0 := by
  induction ds using List.reverseRecOn with
  | nil => simp [Nat.ofDigitChars]
  | append_singleton ds d ih =>
    rw [← List.append_assoc, ofDigitChars_concat, ofDigitChars_concat, ih, List.length_append,
      List.length_singleton, Nat.pow_succ]
    ring

/-- **Of one length each run of digits is worth something else.** Without the length it would be
wrong, by zeros in front. -/
theorem ofDigitChars_inj {cs ds : List Char} (hcs : ∀ c ∈ cs, c.isDigit = true)
    (hds : ∀ c ∈ ds, c.isDigit = true) (hlength : cs.length = ds.length)
    (h : Nat.ofDigitChars 10 cs 0 = Nat.ofDigitChars 10 ds 0) : cs = ds := by
  induction cs using List.reverseRecOn generalizing ds with
  | nil => exact (List.length_eq_zero_iff.mp hlength.symm).symm
  | append_singleton cs c ih =>
    rcases List.eq_nil_or_concat ds with rfl | ⟨ds, d, rfl⟩
    · simp at hlength
    · have hzero : '0'.toNat = 48 := rfl
      have hc := isDigit_bounds (hcs c (by simp))
      have hd := isDigit_bounds (hds d (by simp))
      rw [List.concat_eq_append, ofDigitChars_concat, ofDigitChars_concat] at h
      have hlast : c = d := Char.toNat_inj.mp (by omega)
      have hinit : cs = ds :=
        ih (fun e he => hcs e (by simp [he])) (fun e he => hds e (by simp [he]))
          (by simpa using hlength) (by omega)
      rw [hinit, hlast, List.concat_eq_append]

theorem digitChar_of_isDigit {c : Char} (h : c.isDigit = true) :
    Nat.digitChar (c.toNat - '0'.toNat) = c := by
  have hzero : '0'.toNat = 48 := rfl
  have hc := isDigit_bounds h
  have hvalue := Nat.toNat_digitChar_of_lt_ten (show c.toNat - '0'.toNat < 10 by omega)
  exact Char.toNat_inj.mp (by omega)

/-- **A run without a leading zero is how its worth is written.** The zero alone is such a run. -/
theorem digitChars_ofDigitChars {c : Char} {cs : List Char} (h : ∀ d ∈ c :: cs, d.isDigit = true)
    (hc : cs = [] ∨ c ≠ '0') : digitChars (Nat.ofDigitChars 10 (c :: cs) 0) = c :: cs := by
  have hzero : '0'.toNat = 48 := rfl
  induction cs using List.reverseRecOn with
  | nil =>
    have hbounds := isDigit_bounds (h c (by simp))
    have hworth : Nat.ofDigitChars 10 [c] 0 = c.toNat - '0'.toNat := by
      simp [Nat.ofDigitChars]
    rw [hworth, digitChars, Nat.toDigits_of_lt_base (by omega),
      digitChar_of_isDigit (h c (by simp))]
  | append_singleton cs d ih =>
    have hne : c ≠ '0' := by simpa using hc
    have hd := isDigit_bounds (h d (by simp))
    have hinit := ih (fun e he => h e (by simp at he ⊢; tauto)) (.inr hne)
    -- what stands in front of the last digit is worth something
    have hpos : 0 < Nat.ofDigitChars 10 (c :: cs) 0 := by
      by_contra hnot
      have hworth : Nat.ofDigitChars 10 (c :: cs) 0 = 0 := by omega
      rw [hworth, digitChars_zero] at hinit
      exact hne (List.cons.inj hinit).1.symm
    have hlast : Nat.toDigits 10 (d.toNat - '0'.toNat) = [d] := by
      rw [Nat.toDigits_of_lt_base (by omega), digitChar_of_isDigit (h d (by simp))]
    rw [← List.cons_append, ofDigitChars_concat]
    unfold digitChars at hinit ⊢
    rw [← Nat.toDigits_append_toDigits (by decide) hpos (by omega), hinit, hlast]

/-- A run ends in a zero exactly if ten divides its worth. -/
theorem getLast?_eq_zero_iff {cs : List Char} (h : ∀ c ∈ cs, c.isDigit = true) (hne : cs ≠ []) :
    cs.getLast? = some '0' ↔ Nat.ofDigitChars 10 cs 0 % 10 = 0 := by
  rcases List.eq_nil_or_concat cs with rfl | ⟨cs, c, rfl⟩
  · exact absurd rfl hne
  · rw [List.concat_eq_append] at h ⊢
    have hzero : '0'.toNat = 48 := rfl
    have hc := isDigit_bounds (h c (by simp))
    rw [List.getLast?_concat, ofDigitChars_concat, Option.some.injEq, ← Char.toNat_inj]
    omega

end NodeRpc
