import NodeRpc.Proofs.Json.Numeral
import NodeRpc.Proofs.Json.Strings

/-!
# The compact text is uniquely readable

Two values with the same text are the same value, and more: where one text is followed by what may
follow a value, the text says where the value ends (`chars_append_inj`). The stronger form is the
one that an induction over nested values needs, because an item is followed by the rest of its
array.

Arrays, objects and strings close themselves, so anything may follow them. A number does not, `1`
followed by `2` is another number, and that is the only use of `ValueEnds`. Which kind of value it
is shows in the first character (`kindOfChar`).

This is said without a reader. The reader of the program is not used, and could not be: it rounds,
it goes down only so far, and it takes texts that nothing is printed as. That a text is uniquely
readable is a fact about the printer, and the two inductions over it, here and in
`NodeRpc.Proofs.Json.ReadBack`, meet in nothing but the lemmas about single tokens.

Binary64 numbers are among the values. Their texts are the shortest that are nearest to them, and
two numbers do not share such a text; that is the only place at which this rests on anything
difficult (`number_chars_inj`).
-/

namespace NodeRpc.Json

/-- The input goes on as it may behind a value: with a comma, a closing bracket or not at
all. -/
def ValueEnds (s : List Char) : Prop :=
  ∀ c rest, s = c :: rest → c = ',' ∨ c = ']' ∨ c = '\x7d'

theorem valueEnds_nil : ValueEnds [] := by
  intro c rest h
  cases h

theorem valueEnds_cons {c : Char} {s : List Char} (h : c = ',' ∨ c = ']' ∨ c = '\x7d') :
    ValueEnds (c :: s) := by
  intro d rest hd
  cases hd
  exact h

theorem ValueEnds.numeralEnds {s : List Char} (h : ValueEnds s) : NumeralEnds s := by
  intro c rest hs
  rcases h c rest hs with rfl | rfl | rfl
  · decide
  · decide
  · decide

/-! ## The kind of a value shows first

Seven kinds of values, with `true` and `false` apart as their texts are, and one character in front
that belongs to one of them. -/

/-- The kinds of values as their texts tell them apart. -/
inductive Kind where
  | null
  | yes
  | no
  | number
  | string
  | array
  | object
  deriving DecidableEq

def kind : Json → Kind
  | .null => .null
  | .bool true => .yes
  | .bool false => .no
  | .number _ => .number
  | .string _ => .string
  | .array _ => .array
  | .object _ => .object

/-- The kind of the values whose texts begin with a character. -/
def kindOfChar (c : Char) : Option Kind :=
  if c.isDigit = true ∨ c = '-' then some .number
  else if c = 'n' then some .null
  else if c = 't' then some .yes
  else if c = 'f' then some .no
  else if c = '"' then some .string
  else if c = '[' then some .array
  else if c = '\x7b' then some .object
  else none

theorem exists_number_chars (n : Number) :
    ∃ c cs, n.chars = c :: cs ∧ kindOfChar c = some .number := by
  rw [chars_numeralOfNumber]
  cases isSigned n with
  | true => exact ⟨'-', _, rfl, by decide⟩
  | false =>
    have hspelled := spelled_numeralOfNumber n
    obtain ⟨c, cs, hw⟩ := List.exists_cons_of_ne_nil hspelled.whole_ne_nil
    refine ⟨c, _, by simp only [signChars, Numeral.chars, hw]; rfl, ?_⟩
    have hdigit := hspelled.whole_digits c (by simp [hw])
    unfold kindOfChar
    rw [if_pos (Or.inl hdigit)]

/-- **The first character of a value's text tells its kind.** So values of different kinds never
need to be compared: their texts differ at once. -/
theorem exists_chars (v : Json) : ∃ c cs, v.chars = c :: cs ∧ kindOfChar c = some v.kind := by
  cases v with
  | null => exact ⟨'n', _, by rw [chars], by decide⟩
  | bool b =>
    cases b with
    | true => exact ⟨'t', _, by rw [chars], by decide⟩
    | false => exact ⟨'f', _, by rw [chars], by decide⟩
  | number n =>
    obtain ⟨c, cs, hc, hkind⟩ := exists_number_chars n
    exact ⟨c, cs, by rw [chars, hc], hkind⟩
  | string s => exact ⟨'"', _, by rw [chars, stringChars]; rfl, rfl⟩
  | array items => exact ⟨'[', _, by rw [chars], rfl⟩
  | object members => exact ⟨'\x7b', _, by rw [chars], rfl⟩

theorem kind_eq_of_chars {v w : Json} {r s : List Char} (h : v.chars ++ r = w.chars ++ s) :
    v.kind = w.kind := by
  obtain ⟨c, cs, hv, hkv⟩ := exists_chars v
  obtain ⟨d, ds, hw, hkw⟩ := exists_chars w
  rw [hv, hw] at h
  rw [(List.cons.inj h).1, hkw] at hkv
  exact (Option.some.inj hkv).symm

/-- No value begins with a bracket that closes. -/
theorem chars_append_ne {v : Json} {r s : List Char} {c : Char} (hc : kindOfChar c = none) :
    v.chars ++ r ≠ c :: s := by
  obtain ⟨d, ds, hv, hkind⟩ := exists_chars v
  rw [hv]
  intro h
  rw [(List.cons.inj h).1, hc] at hkind
  cases hkind

/-! ## Items and members, one at a time

What is printed between two items is put with what follows, so that an item is always followed by
one thing: the rest, in which the closing bracket is included. -/

/-- What follows an item: the rest of the items with their closing bracket. -/
def itemTail : List Json → List Char
  | [] => [']']
  | rest => ',' :: itemChars rest

/-- What follows a member: the rest of the members with their closing brace. -/
def memberTail : List (String × Json) → List Char
  | [] => ['\x7d']
  | rest => ',' :: memberChars rest

theorem itemChars_cons (v : Json) (vs : List Json) :
    itemChars (v :: vs) = v.chars ++ itemTail vs := by
  cases vs with
  | nil => rw [itemChars, itemTail]
  | cons w ws =>
    rw [itemChars, itemTail]
    · simp
    · simp

theorem memberChars_cons (name : String) (v : Json) (ms : List (String × Json)) :
    memberChars ((name, v) :: ms) =
      stringChars name ++ ':' :: (v.chars ++ memberTail ms) := by
  cases ms with
  | nil => simp [memberChars, memberTail]
  | cons m ms =>
    rw [memberChars, memberTail]
    · simp
    · simp
    · simp

theorem valueEnds_itemTail (vs : List Json) (r : List Char) : ValueEnds (itemTail vs ++ r) := by
  cases vs with
  | nil => exact valueEnds_cons (Or.inr (Or.inl rfl))
  | cons v vs => exact valueEnds_cons (Or.inl rfl)

theorem valueEnds_memberTail (ms : List (String × Json)) (r : List Char) :
    ValueEnds (memberTail ms ++ r) := by
  cases ms with
  | nil => exact valueEnds_cons (Or.inr (Or.inr rfl))
  | cons m ms => exact valueEnds_cons (Or.inl rfl)

/-! ## Unique readability -/

mutual

/-- **The text of a value determines the value and where it ends.** All values are meant, with
objects as they are: two objects with the same members in another order are two values with two
texts. -/
theorem chars_append_inj (v w : Json) {r s : List Char} (hr : ValueEnds r) (hs : ValueEnds s)
    (h : v.chars ++ r = w.chars ++ s) : v = w ∧ r = s := by
  have hkind := kind_eq_of_chars h
  match v, w with
  | .null, .null => exact ⟨rfl, by simpa [chars] using h⟩
  | .bool true, .bool true => exact ⟨rfl, by simpa [chars] using h⟩
  | .bool false, .bool false => exact ⟨rfl, by simpa [chars] using h⟩
  | .number m, .number n =>
    rw [chars, chars] at h
    obtain ⟨rfl, hrest⟩ := number_chars_inj hr.numeralEnds hs.numeralEnds h
    exact ⟨rfl, hrest⟩
  | .string a, .string b =>
    rw [chars, chars] at h
    obtain ⟨rfl, hrest⟩ := stringChars_append_inj h
    exact ⟨rfl, hrest⟩
  | .array xs, .array ys =>
    rw [chars, chars] at h
    obtain ⟨rfl, hrest⟩ := itemChars_append_inj xs ys (List.cons.inj h).2
    exact ⟨rfl, hrest⟩
  | .object ms, .object ns =>
    rw [chars, chars] at h
    obtain ⟨rfl, hrest⟩ := memberChars_append_inj ms ns (List.cons.inj h).2
    exact ⟨rfl, hrest⟩

theorem itemChars_append_inj (xs ys : List Json) {r s : List Char}
    (h : itemChars xs ++ r = itemChars ys ++ s) : xs = ys ∧ r = s := by
  match xs, ys with
  | [], [] => exact ⟨rfl, by simpa [itemChars] using h⟩
  | [], y :: ys =>
    rw [itemChars_cons, List.append_assoc, itemChars] at h
    exact absurd h.symm (chars_append_ne (by decide))
  | x :: xs, [] =>
    rw [itemChars_cons, List.append_assoc, itemChars] at h
    exact absurd h (chars_append_ne (by decide))
  | x :: xs, y :: ys =>
    rw [itemChars_cons, itemChars_cons, List.append_assoc, List.append_assoc] at h
    obtain ⟨rfl, htail⟩ :=
      chars_append_inj x y (valueEnds_itemTail xs r) (valueEnds_itemTail ys s) h
    match xs, ys with
    | [], [] => exact ⟨rfl, by simpa [itemTail] using htail⟩
    | [], _ :: _ => exact absurd (List.cons.inj htail).1 (by decide)
    | _ :: _, [] => exact absurd (List.cons.inj htail).1 (by decide)
    | x2 :: xs, y2 :: ys =>
      obtain ⟨hrest, hends⟩ := itemChars_append_inj (x2 :: xs) (y2 :: ys) (List.cons.inj htail).2
      exact ⟨by rw [hrest], hends⟩

/-- The text of members determines the members, their order included, and where they end. -/
theorem memberChars_append_inj (ms ns : List (String × Json)) {r s : List Char}
    (h : memberChars ms ++ r = memberChars ns ++ s) : ms = ns ∧ r = s := by
  match ms, ns with
  | [], [] => exact ⟨rfl, by simpa [memberChars] using h⟩
  | [], (b, w) :: ns =>
    rw [memberChars_cons, memberChars, stringChars] at h
    exact absurd (List.cons.inj h).1 (by decide)
  | (a, v) :: ms, [] =>
    rw [memberChars_cons, memberChars, stringChars] at h
    exact absurd (List.cons.inj h).1 (by decide)
  | (a, v) :: ms, (b, w) :: ns =>
    rw [memberChars_cons, memberChars_cons, List.append_assoc, List.append_assoc] at h
    obtain ⟨rfl, hcolon⟩ := stringChars_append_inj h
    rw [List.cons_append, List.cons_append, List.append_assoc, List.append_assoc] at hcolon
    obtain ⟨rfl, htail⟩ :=
      chars_append_inj v w (valueEnds_memberTail ms r) (valueEnds_memberTail ns s)
        (List.cons.inj hcolon).2
    match ms, ns with
    | [], [] => exact ⟨rfl, by simpa [memberTail] using htail⟩
    | [], _ :: _ => exact absurd (List.cons.inj htail).1 (by decide)
    | _ :: _, [] => exact absurd (List.cons.inj htail).1 (by decide)
    | m2 :: ms, n2 :: ns =>
      obtain ⟨hrest, hends⟩ :=
        memberChars_append_inj (m2 :: ms) (n2 :: ns) (List.cons.inj htail).2
      exact ⟨by rw [hrest], hends⟩

end

/-- **Values with the same compact text are the same value.** Nothing follows a whole text, and
nothing is what may follow any value. -/
theorem compact_injective {v w : Json} (h : v.compact = w.compact) : v = w := by
  have hchars : v.chars = w.chars := String.ofList_injective h
  have happend : v.chars ++ [] = w.chars ++ [] := by rw [hchars]
  exact (chars_append_inj v w valueEnds_nil valueEnds_nil happend).1

end NodeRpc.Json
