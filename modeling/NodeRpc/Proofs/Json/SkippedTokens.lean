import NodeRpc.Json.Skip

/-!
# Tokens that are passed over

A number or a string that is read is passed over as well, and the same is left behind it. The other
way round this does not hold: what is passed over may be a number that is too large, or a string
with half of a surrogate pair.

Whatever is passed over, something is left behind it that is shorter. That is what the fuel of the
values that contain it is counted by.

For numbers the two walk side by side. For strings they do not: an escape for a character beyond
sixteen bits is read in one go, from both halves, and passed over as two escapes of which the second
is found by the loop. So the comparison is by what is left in the end, and the fuel of the two may
differ.
-/

namespace NodeRpc.Json

theorem bind_eq_ok {ε α β : Type} {x : Except ε α} {f : α → Except ε β} {b : β} :
    x >>= f = .ok b ↔ ∃ a, x = .ok a ∧ f a = .ok b := by
  cases x with
  | error e => simp [bind, Except.bind]
  | ok a => simp [bind, Except.bind]

/-! ## Numbers -/

theorem length_digitRun_le (s : List Char) : (digitRun s).2.length ≤ s.length := by
  induction s with
  | nil => exact Nat.le_refl _
  | cons c s ih =>
    unfold digitRun
    split
    · exact Nat.le_succ_of_le ih
    · exact Nat.le_refl _

theorem length_digitRun_lt {s rest : List Char} {ds : List Nat} (hds : ds ≠ [])
    (h : digitRun s = (ds, rest)) : rest.length < s.length := by
  cases s with
  | nil =>
    cases h
    exact absurd rfl hds
  | cons c s =>
    unfold digitRun at h
    split at h
    · have hle := length_digitRun_le s
      obtain ⟨-, rfl⟩ := Prod.mk.inj h
      exact Nat.lt_succ_of_le hle
    · cases h
      exact absurd rfl hds

theorem skipExponent_of_readExponent {s rest : List Char} {e : Bool × List Nat}
    (h : Literal.readExponent s = .ok (e, rest)) : skipExponent s = .ok rest := by
  revert h
  fun_cases Literal.readExponent s with
  | case1 =>
    intro h
    cases h
  | case2 =>
    intro h
    cases h
  | case3 minus t hsign digits r _ _ hrun =>
    intro h
    cases h
    split at hsign
    · obtain ⟨-, rfl⟩ := Prod.mk.inj hsign
      simp [skipExponent, hrun]
    · obtain ⟨-, rfl⟩ := Prod.mk.inj hsign
      simp [skipExponent, hrun]
    · obtain ⟨-, rfl⟩ := Prod.mk.inj hsign
      simp [skipExponent, hrun]

/-- What is read behind the fraction of a literal. -/
def Literal.readPower (negative : Bool) (whole fraction : List Nat) (s : List Char) :
    Except Fault (Literal × List Char) :=
  match s with
  | c :: rest =>
    if c = 'e' ∨ c = 'E' then do
      let (exponent, rest) ← readExponent rest
      return (⟨negative, whole, fraction, some exponent⟩, rest)
    else return (⟨negative, whole, fraction, none⟩, s)
  | [] => return (⟨negative, whole, fraction, none⟩, [])

theorem skipAfterFraction_of_readPower {negative : Bool} {whole fraction : List Nat}
    {s rest : List Char} {literal : Literal}
    (h : Literal.readPower negative whole fraction s = .ok (literal, rest)) :
    skipAfterFraction s = .ok rest := by
  unfold Literal.readPower at h
  split at h
  · rename_i c t
    split at h
    · rename_i hc
      obtain ⟨⟨e, r⟩, hread, hok⟩ := bind_eq_ok.mp h
      cases hok
      have hskip := skipExponent_of_readExponent hread
      rcases hc with rfl | rfl
      · exact hskip
      · exact hskip
    · rename_i hc
      cases h
      simp [skipAfterFraction, not_or.mp hc]
  · cases h
    rfl

theorem skipAfterWhole_of_readTail {negative : Bool} {whole : List Nat} {s rest : List Char}
    {literal : Literal} (h : Literal.readTail negative whole s = .ok (literal, rest)) :
    skipAfterWhole s = .ok rest := by
  unfold Literal.readTail at h
  dsimp only at h
  split at h
  · split at h
    · cases h
    · cases h
    · rename_i ds t _ _ hrun
      have hskip : skipAfterFraction t = .ok rest := skipAfterFraction_of_readPower h
      simp [skipAfterWhole, hrun, hskip]
  · have hskip : skipAfterFraction s = .ok rest := skipAfterFraction_of_readPower h
    simp [skipAfterWhole, hskip]

theorem skipUnsigned_of_readUnsigned {negative : Bool} {s rest : List Char} {literal : Literal}
    (h : Literal.readUnsigned negative s = .ok (literal, rest)) : skipUnsigned s = .ok rest := by
  revert h
  fun_cases Literal.readUnsigned negative s with
  | case1 =>
    intro h
    cases h
  | case2 =>
    intro h
    cases h
  | case3 =>
    intro h
    cases h
  | case4 digits t _ _ _ hrun =>
    intro h
    have hskip := skipAfterWhole_of_readTail h
    simp [skipUnsigned, hrun, hskip]

/-- The input after a minus sign. -/
def skipMinus : List Char → List Char
  | '-' :: rest => rest
  | s => s

theorem skipUnsigned_of_readNumber {s rest : List Char} {n : Number}
    (h : readNumber s = .ok (n, rest)) : skipUnsigned (skipMinus s) = .ok rest := by
  obtain ⟨⟨literal, r⟩, hread, hvalue⟩ := bind_eq_ok.mp h
  dsimp only at hvalue
  split at hvalue
  · cases hvalue
    unfold Literal.read at hread
    split at hread
    · exact skipUnsigned_of_readUnsigned hread
    · simpa [skipMinus] using skipUnsigned_of_readUnsigned hread
  · cases hvalue

theorem length_skipExponent {s rest : List Char} (h : skipExponent s = .ok rest) :
    rest.length < s.length := by
  revert h
  fun_cases skipExponent s with
  | case1 =>
    intro h
    cases h
  | case2 t ds r hds hrun =>
    intro h
    cases h
    refine Nat.lt_of_lt_of_le (length_digitRun_lt hds hrun) ?_
    dsimp only [t]
    split
    · exact Nat.le_succ _
    · exact Nat.le_succ _
    · exact Nat.le_refl _

theorem length_skipAfterFraction {s rest : List Char} (h : skipAfterFraction s = .ok rest) :
    rest.length ≤ s.length := by
  unfold skipAfterFraction at h
  split at h
  · exact Nat.le_succ_of_le (Nat.le_of_lt (length_skipExponent h))
  · exact Nat.le_succ_of_le (Nat.le_of_lt (length_skipExponent h))
  · cases h
    exact Nat.le_refl _

theorem length_skipUnsigned {s rest : List Char} (h : skipUnsigned s = .ok rest) :
    rest.length < s.length := by
  unfold skipUnsigned at h
  split at h
  · cases h
  · cases h
  · rename_i ds r hds _ hrun
    refine Nat.lt_of_le_of_lt ?_ (length_digitRun_lt hds hrun)
    unfold skipAfterWhole at h
    split at h
    · rename_i t
      split at h
      · cases h
      · rename_i ds' r' hds' hrun'
        have hlt := length_digitRun_lt hds' hrun'
        exact Nat.le_succ_of_le (Nat.le_trans (length_skipAfterFraction h) (Nat.le_of_lt hlt))
    · exact length_skipAfterFraction h

/-! ## Strings

An escape that is read takes one step of the loop, or two if it is a pair of surrogates;
`skipEscape_of_readEscape` says which. -/

theorem length_readHexEscape {s rest : List Char} {n : Nat}
    (h : readHexEscape s = .ok (n, rest)) : rest.length < s.length := by
  unfold readHexEscape at h
  split at h
  · cases h
  · split at h
    · split at h
      · cases h
        simp only [List.length_cons]
        omega
      · cases h
    · cases h

theorem length_skipEscape {s rest : List Char} (h : skipEscape s = .ok rest) :
    rest.length < s.length := by
  unfold skipEscape at h
  split at h
  · cases h
  · rename_i t
    cases hread : readHexEscape t with
    | error e =>
      rw [hread] at h
      cases h
    | ok read =>
      rw [hread] at h
      cases h
      exact Nat.lt_succ_of_lt (length_readHexEscape hread)
  · split at h
    · cases h
      exact Nat.lt_succ_self _
    · cases h

theorem length_skipString {fuel : Nat} {s rest : List Char} (h : skipString fuel s = .ok rest) :
    rest.length < s.length := by
  induction fuel generalizing s with
  | zero => cases h
  | succ fuel ih =>
    cases s with
    | nil => cases h
    | cons c s =>
      unfold skipString at h
      split at h
      · cases h
        exact Nat.lt_succ_self _
      · split at h
        · obtain ⟨r, hescape, h⟩ := bind_eq_ok.mp h
          exact Nat.lt_succ_of_lt (Nat.lt_trans (ih h) (length_skipEscape hescape))
        · split at h
          · cases h
          · exact Nat.lt_succ_of_lt (ih h)

/-- An escape is passed over as it is read, but the two halves of a surrogate pair one after
the other. -/
theorem skipEscape_of_readEscape {s rest : List Char} {c : Char}
    (h : readEscape s = .ok (c, rest)) :
    skipEscape s = .ok rest ∨
      ∃ t, skipEscape s = .ok ('\\' :: t) ∧ skipEscape t = .ok rest := by
  unfold readEscape at h
  split at h
  · cases h
  · rename_i r
    obtain ⟨⟨high, t⟩, hhigh, hlow⟩ := bind_eq_ok.mp h
    have hskip : skipEscape ('u' :: r) = .ok t := by simp [skipEscape, hhigh, Except.map]
    dsimp only at hlow
    split at hlow
    · cases hlow
    · split at hlow
      · obtain ⟨-, rfl⟩ := Prod.mk.inj (Except.ok.inj hlow)
        exact Or.inl hskip
      · split at hlow
        · cases hlow
        · rename_i t
          obtain ⟨⟨low, r'⟩, hread, hlow⟩ := bind_eq_ok.mp hlow
          dsimp only at hlow
          split at hlow
          · cases hlow
          · obtain ⟨-, rfl⟩ := Prod.mk.inj (Except.ok.inj hlow)
            -- reading takes both halves at once, and passing over stops between them
            exact Or.inr ⟨'u' :: t, hskip, by simp [skipEscape, hread, Except.map]⟩
        · cases hlow
        · cases hlow
        · cases hlow
  · split at h
    · rename_i hshort
      cases h
      exact Or.inl (by simp [skipEscape, hshort])
    · cases h

theorem skipString_of_readString {fuel fuel' : Nat} {s cs rest : List Char}
    (h : readString fuel s = .ok (cs, rest)) (hfuel : s.length < fuel') :
    skipString fuel' s = .ok rest := by
  induction fuel generalizing s cs fuel' with
  | zero => cases h
  | succ fuel ih =>
    obtain ⟨fuel', rfl⟩ : ∃ k, fuel' = k + 1 := ⟨fuel' - 1, by omega⟩
    cases s with
    | nil => cases h
    | cons c s =>
      simp only [List.length_cons] at hfuel
      unfold readString at h
      unfold skipString
      split at h
      · rename_i hquote
        cases h
        exact if_pos hquote
      · rename_i hquote
        rw [if_neg hquote]
        split at h
        · rename_i hback
          rw [if_pos hback]
          obtain ⟨⟨d, r⟩, hescape, h⟩ := bind_eq_ok.mp h
          obtain ⟨⟨ds, r'⟩, hrest, h⟩ := bind_eq_ok.mp h
          cases h
          rcases skipEscape_of_readEscape hescape with hskip | ⟨t, hhigh, hlow⟩
          · have hlt := length_skipEscape hskip
            exact bind_eq_ok.mpr ⟨r, hskip, ih hrest (by omega)⟩
          · -- the second half takes a step of its own
            have hlt := length_skipEscape hhigh
            have hlt' := length_skipEscape hlow
            simp only [List.length_cons] at hlt
            obtain ⟨fuel', rfl⟩ : ∃ k, fuel' = k + 1 := ⟨fuel' - 1, by omega⟩
            refine bind_eq_ok.mpr ⟨_, hhigh, ?_⟩
            unfold skipString
            rw [if_neg (by decide), if_pos rfl]
            exact bind_eq_ok.mpr ⟨r, hlow, ih hrest (by omega)⟩
        · rename_i hback
          rw [if_neg hback]
          split at h
          · cases h
          · rename_i hcontrol
            rw [if_neg hcontrol]
            obtain ⟨⟨ds, r'⟩, hrest, h⟩ := bind_eq_ok.mp h
            cases h
            exact ih hrest (Nat.lt_of_succ_lt_succ hfuel)

end NodeRpc.Json
