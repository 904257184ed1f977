import NodeRpc.Json.Literal

/-!
# Digits, written and read

Printing spells a natural number with `digitChars`; reading takes the digits at the front of the
input with `digitRun` and folds them with `digitsValue`. Neither knows of the other. This file is
where they meet: a run of digit characters in front of anything that is no digit is read in full,
and what it is worth is the number that was printed.

What follows the run matters only by its first character, and `NoDigit` says what is asked of it:
the end of the text, a bracket, a comma, a point and the letter of an exponent all satisfy it. It is
the one condition that the lemmas about numbers carry with them.

A fraction and an exponent are runs of digits too, and these may have zeros in front. So the lemmas
on reading are about runs, and only the last section asks that the run be how a number is printed.
-/

namespace NodeRpc

/-- The digits that characters stand for, taking for granted that they are digits. -/
def digitValues (cs : List Char) : List Nat := cs.map fun c => c.toNat - '0'.toNat

/-- The input does not go on with a digit. At its end it does not go on with anything. -/
def NoDigit (s : List Char) : Prop := ∀ c rest, s = c :: rest → c.isDigit = false

theorem noDigit_cons {c : Char} {s : List Char} (h : c.isDigit = false) : NoDigit (c :: s) := by
  intro d rest hd
  cases hd
  exact h

theorem digit?_of_isDigit {c : Char} (h : c.isDigit = true) :
    digit? c = some (c.toNat - '0'.toNat) := by
  have hc : '0' ≤ c ∧ c ≤ '9' := by
    simpa [Char.isDigit, Char.le_def] using h
  unfold digit?
  rw [if_pos hc]

theorem digit?_eq_none {c : Char} (h : c.isDigit = false) : digit? c = none := by
  have hc : ¬('0' ≤ c ∧ c ≤ '9') := by
    intro hc
    have hd : c.isDigit = true := by simpa [Char.isDigit, Char.le_def] using hc
    exact absurd hd (by simp [h])
  unfold digit?
  rw [if_neg hc]

/-- A run of digits is read in full when no digit follows it. -/
theorem digitRun_append {cs rest : List Char} (hcs : ∀ c ∈ cs, c.isDigit = true)
    (hrest : NoDigit rest) : Json.digitRun (cs ++ rest) = (digitValues cs, rest) := by
  induction cs with
  | nil =>
    cases rest with
    | nil => rfl
    | cons c rest =>
      have hd := digit?_eq_none (hrest c rest rfl)
      simp [Json.digitRun, hd, digitValues]
  | cons c cs ih =>
    have hd := digit?_of_isDigit (hcs c (by simp))
    have htail := ih fun d hm => hcs d (by simp [hm])
    simp [Json.digitRun, hd, htail, digitValues]

theorem digitValues_append (cs ds : List Char) :
    digitValues (cs ++ ds) = digitValues cs ++ digitValues ds := by
  simp [digitValues]

@[simp] theorem length_digitValues (cs : List Char) :
    (digitValues cs).length = cs.length := by
  simp [digitValues]

/-- What a run of digit characters is worth. -/
theorem digitsValue_digitValues (cs : List Char) :
    digitsValue (digitValues cs) = Nat.ofDigitChars 10 cs 0 := by
  simp [digitsValue, digitValues, Nat.ofDigitChars, List.foldl_map]

/-- Zeros in front are worth nothing. -/
theorem ofDigitChars_leading_zeros (k : Nat) (cs : List Char) :
    Nat.ofDigitChars 10 (['0'] ++ (List.replicate k '0' ++ cs)) 0 = Nat.ofDigitChars 10 cs 0 := by
  rw [Nat.ofDigitChars_append, Nat.ofDigitChars_append, Nat.ofDigitChars_replicate_zero]
  simp [Nat.ofDigitChars]

/-! ## The digits of a number

What the printer adds to a run of digits: it is never empty and it has no leading zero. The reader
refuses a number with a leading zero, so the second is what makes a printed number readable. -/

theorem isDigit_of_mem_digitChars {n : Nat} {c : Char} (h : c ∈ digitChars n) :
    c.isDigit = true :=
  Nat.isDigit_of_mem_toDigits (by decide) (by decide) h

theorem digitChars_ne_nil (n : Nat) : digitChars n ≠ [] := Nat.toDigits_ne_nil

/-- The digits of a number are worth the number. -/
theorem digitsValue_digitChars (n : Nat) : digitsValue (digitValues (digitChars n)) = n := by
  rw [digitsValue_digitValues]
  exact Nat.ofDigitChars_ten_toDigits

theorem digitChars_zero : digitChars 0 = ['0'] := rfl

/-- A number that is not zero does not begin with the digit zero. -/
theorem head_digitChars {n : Nat} (hn : n ≠ 0) {c : Char} {cs : List Char}
    (h : digitChars n = c :: cs) : c ≠ '0' := by
  induction n using Nat.strongRecOn generalizing c cs with
  | ind n ih =>
    rw [digitChars, Nat.toDigits_eq_if (by decide)] at h
    split at h
    · rename_i hlt
      cases h
      intro hzero
      have hval := Nat.toNat_digitChar_of_lt_ten hlt
      rw [hzero] at hval
      simp at hval
      omega
    · -- the leading digit of `n` is the leading digit of `n / 10`
      cases hq : Nat.toDigits 10 (n / 10) with
      | nil => exact absurd hq Nat.toDigits_ne_nil
      | cons d ds =>
        rw [hq] at h
        cases h
        exact ih (n / 10) (by omega) (by omega) hq

end NodeRpc
