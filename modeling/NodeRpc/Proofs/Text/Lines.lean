import Mathlib.Data.List.TakeWhile
import NodeRpc.Text.Blank

/-!
# Where a text is cut

The first line of a text, a text without the white space at its ends and the two sides of a mark,
each said by how the text is put together from its parts. The functions that cut are the only ones
to give such parts, so their callers need not know how they go about it.

Each is an iff between a function and a predicate. The predicates determine the parts: there is one
first line, one core, and for a mark that occurs one pair of sides. Where a text has no mark there
is no pair, and the iff says so as it holds of no pair then.
-/

namespace NodeRpc.Text

variable {text : List Char}

/-! ## The first line -/

/-- The front of a text up to a line feed or the end. A carriage return is a character like others
here. -/
def FirstLine (text line : List Char) : Prop :=
  ∃ rest, text = line ++ rest ∧ '\n' ∉ line ∧ (rest = [] ∨ ∃ more, rest = '\n' :: more)

theorem firstLine_eq_iff {line : List Char} : firstLine text = line ↔ FirstLine text line := by
  constructor
  · rintro rfl
    refine ⟨text.dropWhile (· != '\n'), List.takeWhile_append_dropWhile.symm, fun hmem => ?_, ?_⟩
    · simpa using List.mem_takeWhile_imp hmem
    · cases hrest : text.dropWhile (· != '\n') with
      | nil => exact .inl rfl
      | cons c more =>
        have hc := List.head?_dropWhile_not (· != '\n') text
        rw [hrest] at hc
        obtain rfl : c = '\n' := by simpa using hc
        exact .inr ⟨more, rfl⟩
  · rintro ⟨rest, rfl, outside, ends⟩
    have hline : ∀ c ∈ line, (c != '\n') = true := fun c hc =>
      bne_iff_ne.2 fun h => outside (h ▸ hc)
    rw [firstLine, List.takeWhile_append_of_pos hline]
    rcases ends with rfl | ⟨more, rfl⟩ <;> simp

/-! ## Without white space at the ends

White space is that of Unicode. The end is treated as the front of the reversed text, as the
function does it. -/

/-- What is left of a text between the white space at its ends. It may be empty, and then the text
is white space alone. -/
def Stripped (text core : List Char) : Prop :=
  ∃ before after, text = before ++ (core ++ after) ∧
    (∀ c ∈ before, isBlank c) ∧ (∀ c ∈ after, isBlank c) ∧
    (∀ c ∈ core.head?, ¬ isBlank c) ∧ ∀ c ∈ core.getLast?, ¬ isBlank c

/-- White space in front is dropped up to the first character that is none. -/
theorem dropWhile_isBlank_eq_iff {rest : List Char} :
    text.dropWhile isBlank = rest ↔ ∃ before, text = before ++ rest ∧
      (∀ c ∈ before, isBlank c) ∧ ∀ c ∈ rest.head?, ¬ isBlank c := by
  constructor
  · rintro rfl
    refine ⟨text.takeWhile isBlank, List.takeWhile_append_dropWhile.symm,
      fun c hc => List.mem_takeWhile_imp hc, fun c hc => ?_⟩
    have hstop := List.head?_dropWhile_not isBlank text
    rw [hc] at hstop
    exact Bool.eq_false_iff.1 hstop
  · rintro ⟨before, rfl, blank, stop⟩
    rw [List.dropWhile_append_of_pos blank]
    cases rest with
    | nil => rfl
    | cons c rest => rw [List.dropWhile_cons_of_neg (stop c rfl)]

theorem trim_eq_iff {core : List Char} : trim text = core ↔ Stripped text core := by
  rw [trim, List.reverse_eq_iff, dropWhile_isBlank_eq_iff]
  constructor
  · rintro ⟨after, kept, blank, last⟩
    rw [List.reverse_eq_iff, List.reverse_append, List.reverse_reverse,
      dropWhile_isBlank_eq_iff] at kept
    obtain ⟨before, rfl, blank', first⟩ := kept
    refine ⟨before, after.reverse, rfl, blank', fun c hc => blank c (List.mem_reverse.1 hc),
      fun c hc => first c ?_, fun c hc => last c ?_⟩
    · rw [List.head?_append, Option.mem_def.1 hc]
      rfl
    · rwa [List.head?_reverse]
  · rintro ⟨before, after, rfl, blank, blank', first, last⟩
    rw [← List.head?_reverse] at last
    cases core with
    | nil =>
      have hnone : (before ++ ([] ++ after)).dropWhile isBlank = [] :=
        dropWhile_isBlank_eq_iff.2 ⟨before ++ after, by simp, fun c hc =>
          (List.mem_append.1 hc).elim (blank c) (blank' c), by simp⟩
      rw [hnone]
      exact ⟨[], by simp⟩
    | cons c core =>
      have hkept : (before ++ (c :: core ++ after)).dropWhile isBlank = c :: core ++ after :=
        dropWhile_isBlank_eq_iff.2 ⟨before, rfl, blank, first⟩
      rw [hkept, List.reverse_append]
      exact ⟨after.reverse, rfl, fun c hc => blank' c (List.mem_reverse.1 hc), last⟩

/-! ## The sides of a mark -/

theorem splitOnce_eq_some_iff {mark : Char} {front back : List Char} :
    splitOnce mark text = some (front, back) ↔ text = front ++ mark :: back ∧ mark ∉ front := by
  induction text generalizing front with
  | nil => simp [splitOnce]
  | cons c text ih =>
    rw [splitOnce]
    split
    · rename_i hmark
      subst hmark
      cases front with
      | nil => simp
      | cons d front => simp +contextual
    · rename_i hmark
      cases front with
      | nil => simp [hmark]
      | cons d front =>
        rw [Option.map_eq_some_iff]
        constructor
        · rintro ⟨⟨front, back⟩, rest, same⟩
          cases same
          obtain ⟨rfl, outside⟩ := ih.1 rest
          exact ⟨rfl, by simp [outside, Ne.symm hmark]⟩
        · rintro ⟨same, outside⟩
          cases same
          exact ⟨(front, back), ih.2 ⟨rfl, fun h => outside (List.mem_cons_of_mem _ h)⟩, rfl⟩

end NodeRpc.Text
