import NodeRpc.Text.Blank

/-!
# Words in a text

`occursIn` looks for words in a text. Where the text was put together from parts, the words cannot
stand across a character that they do not have, so they stand in one of the parts
(`infix_append_cons_iff`); and words whose first character stands at one place only can only begin
there (`cons_infix_append_cons_iff`).

Words are a list of characters here, and the search has no notion of where a word begins or ends.
What it finds may be part of a longer word.
-/

namespace NodeRpc.Text

theorem occursIn_iff (pattern text : List Char) :
    occursIn pattern text = true ↔ pattern <:+: text := by
  induction text with
  | nil => simp [occursIn]
  | cons c rest ih =>
    rw [occursIn, Bool.or_eq_true, List.isPrefixOf_iff_prefix, ih, List.infix_cons_iff]

section Parts

variable {c : Char} {words before after : List Char}

theorem prefix_append_cons_iff (h : c ∉ words) :
    words <+: before ++ c :: after ↔ words <+: before := by
  constructor
  · intro hwords
    rcases List.prefix_or_prefix_of_prefix hwords (List.prefix_append before (c :: after)) with
      hshort | ⟨more, rfl⟩
    · exact hshort
    · -- what goes on behind the first part would begin with the character
      rw [List.prefix_append_right_inj] at hwords
      cases more with
      | nil => simp
      | cons d more =>
        obtain ⟨rfl, -⟩ := List.cons_prefix_cons.mp hwords
        exact absurd (by simp) h
  · intro hwords
    exact hwords.trans (List.prefix_append before (c :: after))

/-- **Words do not stand across a character that they do not have.** With two such texts joined by
that character, searching the whole is searching each of them. -/
theorem infix_append_cons_iff (h : c ∉ words) :
    words <:+: before ++ c :: after ↔ words <:+: before ∨ words <:+: after := by
  induction before with
  | nil =>
    have hfront : words <+: [] ++ c :: after ↔ words <+: [] := prefix_append_cons_iff h
    rw [List.nil_append] at hfront
    rw [List.nil_append, List.infix_cons_iff, hfront, List.prefix_nil, List.infix_nil]
  | cons b before ih =>
    have hfront : words <+: (b :: before) ++ c :: after ↔ words <+: b :: before :=
      prefix_append_cons_iff h
    rw [List.cons_append] at hfront
    rw [List.cons_append, List.infix_cons_iff, hfront, ih, ← or_assoc, ← List.infix_cons_iff]

/-- Words begin where their first character is. -/
theorem cons_infix_append_cons_iff (hbefore : c ∉ before) (hafter : c ∉ after) :
    c :: words <:+: before ++ c :: after ↔ words <+: after := by
  have hnot : ¬c :: words <:+: after := fun h => hafter (h.subset List.mem_cons_self)
  induction before with
  | nil => simp [List.infix_cons_iff, hnot]
  | cons b before ih =>
    obtain ⟨hb, hbefore⟩ : c ≠ b ∧ c ∉ before := by simpa using hbefore
    rw [List.cons_append, List.infix_cons_iff, List.cons_prefix_cons]
    simp [hb, ih hbefore]

end Parts
end NodeRpc.Text
