import NodeRpc.Proofs.Json.SkippedTokens

/-!
# Values that are passed over

Whatever is read as a value is passed over as a value, and the same is left behind it
(`passesOver_of_readValue`). Passing over is less strict, so a text may be passed over that is not
read.

An answer of the node may have members that nobody asked for, and the decoder passes over these
without reading them. The two walk a text in different ways and fail on different texts: what is
passed over may nest as deep as it likes, may hold numbers that are too large for anything, and half
of a surrogate pair. For what an answer means it is enough that the two agree where both succeed,
and that is one implication and an equality of what is left.

The fuel is counted by the length of the input: a value needs two steps for each of its characters,
and the items or members of one that begin with it a step more. `PassesOver` holds of what is passed
over with any fuel from there on; more fuel than is needed changes nothing (`steady`). So the fuel
is out of every statement but these two.
-/

namespace NodeRpc.Json

/-! ## Blanks -/

theorem length_skipSpace_le (s : List Char) : (skipSpace s).length ≤ s.length := by
  induction s with
  | nil => exact Nat.le_refl _
  | cons c s ih =>
    unfold skipSpace
    split
    · exact Nat.le_succ_of_le ih
    · exact Nat.le_refl _

theorem skipSpace_of_not {c : Char} (hc : isSpace c = false) (s : List Char) :
    skipSpace (c :: s) = c :: s := by
  simp [skipSpace, hc]

theorem isSpace_of_skipSpace {s rest : List Char} {c : Char} (h : skipSpace s = c :: rest) :
    isSpace c = false ∧ rest.length < s.length := by
  induction s with
  | nil => cases h
  | cons d s ih =>
    unfold skipSpace at h
    split at h
    · obtain ⟨hc, hlt⟩ := ih h
      exact ⟨hc, Nat.lt_succ_of_lt hlt⟩
    · rename_i hd
      cases h
      exact ⟨by simpa using hd, Nat.lt_succ_self _⟩

theorem skipSpace_skipSpace (s : List Char) : skipSpace (skipSpace s) = skipSpace s := by
  cases h : skipSpace s with
  | nil => rfl
  | cons c rest => exact skipSpace_of_not (isSpace_of_skipSpace h).1 rest

theorem skipValue_skipSpace (fuel : Nat) (s : List Char) :
    skipValue fuel (skipSpace s) = skipValue fuel s ∨ fuel = 0 := by
  cases fuel with
  | zero => exact Or.inr rfl
  | succ fuel =>
    left
    unfold skipValue
    rw [skipSpace_skipSpace]

/-! ## Values, items and members

What passing over makes of a text, as properties of the text and of what is left. Each has a
constructor-like lemma for each way in which the text may go on, and the proofs below put them
together without looking at the loop. -/

/-- A value is passed over, up to `rest`. It is so with any fuel from a bound on, so that two parts
that are passed over one after the other need not share what there is. -/
structure PassesOver (s rest : List Char) : Prop where
  shorter : rest.length < s.length
  skipValue_eq : ∀ fuel, 2 * s.length + 2 ≤ fuel → skipValue fuel s = .ok rest

theorem PassesOver.of_skipSpace {s rest : List Char} (h : PassesOver (skipSpace s) rest) :
    PassesOver s rest := by
  have hle := length_skipSpace_le s
  refine ⟨Nat.lt_of_lt_of_le h.shorter hle, ?_⟩
  intro fuel hfuel
  have hskip := h.skipValue_eq fuel (by omega)
  rcases skipValue_skipSpace fuel s with heq | hzero
  · rw [← heq, hskip]
  · omega

theorem PassesOver.unique {s r t : List Char} (h : PassesOver s r) (h' : PassesOver s t) : r = t :=
  Except.ok.inj ((h.skipValue_eq _ (Nat.le_refl _)).symm.trans (h'.skipValue_eq _ (Nat.le_refl _)))

/-- The items of an array go on behind one of them, and end before `rest`. -/
structure EndsItems (s rest : List Char) : Prop where
  shorter : rest.length < s.length
  ends : skipSpace s = ']' :: rest ∨ ∃ t, skipSpace s = ',' :: t ∧
    ∀ fuel, 2 * t.length + 3 ≤ fuel → skipItems fuel t = .ok rest

theorem skipItems_of_passesOver {s r rest : List Char} (hvalue : PassesOver s r)
    (hends : EndsItems r rest) {fuel : Nat} (hfuel : 2 * s.length + 3 ≤ fuel) :
    skipItems fuel s = .ok rest := by
  obtain ⟨fuel, rfl⟩ : ∃ k, fuel = k + 1 := ⟨fuel - 1, by omega⟩
  have hskip := hvalue.skipValue_eq fuel (by omega)
  have hlt := hvalue.shorter
  unfold skipItems
  refine bind_eq_ok.mpr ⟨r, hskip, ?_⟩
  rcases hends.ends with hlast | ⟨t, hcomma, hmore⟩
  · rw [hlast]
    rfl
  · have ht := (isSpace_of_skipSpace hcomma).2
    rw [hcomma]
    exact hmore fuel (by omega)

theorem passesOver_emptyArray {s rest : List Char} (h : skipSpace s = ']' :: rest) :
    PassesOver ('[' :: s) rest := by
  have hlt := (isSpace_of_skipSpace h).2
  refine ⟨Nat.lt_succ_of_lt hlt, ?_⟩
  intro fuel hfuel
  obtain ⟨fuel, rfl⟩ : ∃ k, fuel = k + 1 := ⟨fuel - 1, by omega⟩
  simp [skipValue, skipSpace_of_not (show isSpace '[' = false by decide), h]

theorem passesOver_array {s t r rest : List Char} {c : Char} (hfirst : skipSpace s = c :: t)
    (hc : c ≠ ']') (hvalue : PassesOver (c :: t) r) (hends : EndsItems r rest) :
    PassesOver ('[' :: s) rest := by
  have hle := length_skipSpace_le s
  rw [hfirst] at hle
  have hlt := hvalue.shorter
  have hlt' := hends.shorter
  refine ⟨by simp only [List.length_cons]; omega, ?_⟩
  intro fuel hfuel
  obtain ⟨fuel, rfl⟩ : ∃ k, fuel = k + 1 := ⟨fuel - 1, by omega⟩
  simp only [List.length_cons] at hfuel
  have hleft : 2 * (c :: t).length + 3 ≤ fuel := by simp only [List.length_cons] at hle ⊢; omega
  have hitems := skipItems_of_passesOver hvalue hends hleft
  simp [skipValue, skipSpace_of_not (show isSpace '[' = false by decide), hfirst, hc, hitems]

theorem EndsItems.last {s rest : List Char} (h : skipSpace s = ']' :: rest) : EndsItems s rest :=
  ⟨(isSpace_of_skipSpace h).2, Or.inl h⟩

theorem EndsItems.more {s t r rest : List Char} (h : skipSpace s = ',' :: t)
    (hvalue : PassesOver t r) (hends : EndsItems r rest) : EndsItems s rest := by
  have hlt := (isSpace_of_skipSpace h).2
  have hlt' := hvalue.shorter
  have hlt'' := hends.shorter
  refine ⟨by omega, Or.inr ⟨t, h, ?_⟩⟩
  intro fuel hfuel
  exact skipItems_of_passesOver hvalue hends hfuel

/-- The members of an object go on behind one of them, and end before `rest`. -/
structure EndsMembers (s rest : List Char) : Prop where
  shorter : rest.length < s.length
  ends : skipSpace s = '\x7d' :: rest ∨ ∃ t, skipSpace s = ',' :: t ∧
    ∀ fuel, 2 * t.length + 3 ≤ fuel → skipMembers fuel t = .ok rest

/-- A member begins behind `s` with a name that ends before `r`, and its value is passed over up
to `rest`. -/
structure PassesMember (s r : List Char) : Prop where
  shorter : r.length < s.length
  skips : ∃ u n v, skipSpace s = '"' :: u ∧ skipString (u.length + 1) u = .ok n ∧
    readColon n = .ok v ∧ v.length < s.length ∧ PassesOver v r

theorem length_readColon {s rest : List Char} (h : readColon s = .ok rest) :
    rest.length < s.length := by
  unfold readColon at h
  split at h
  · cases h
  · rename_i hcolon
    cases h
    exact (isSpace_of_skipSpace hcolon).2
  · cases h

theorem passesMember_of {s u cs n v r : List Char} (hquote : skipSpace s = '"' :: u)
    (hname : readString (u.length + 1) u = .ok (cs, n)) (hcolon : readColon n = .ok v)
    (hvalue : PassesOver v r) : PassesMember s r := by
  have hskip := skipString_of_readString hname (Nat.lt_succ_self _)
  have hlt := length_skipString hskip
  have hu := (isSpace_of_skipSpace hquote).2
  have hv := length_readColon hcolon
  have hr := hvalue.shorter
  exact ⟨by omega, u, n, v, hquote, hskip, hcolon, by omega, hvalue⟩

theorem skipMembers_of_passesMember {s r rest : List Char} (hmember : PassesMember s r)
    (hends : EndsMembers r rest) {fuel : Nat} (hfuel : 2 * s.length + 3 ≤ fuel) :
    skipMembers fuel s = .ok rest := by
  obtain ⟨fuel, rfl⟩ : ∃ k, fuel = k + 1 := ⟨fuel - 1, by omega⟩
  obtain ⟨hr, u, n, v, hquote, hname, hcolon, hv, hvalue⟩ := hmember
  have hskip := hvalue.skipValue_eq fuel (by omega)
  unfold skipMembers
  rw [hquote]
  refine bind_eq_ok.mpr ⟨n, hname, bind_eq_ok.mpr ⟨v, hcolon, bind_eq_ok.mpr ⟨r, hskip, ?_⟩⟩⟩
  rcases hends.ends with hlast | ⟨t, hcomma, hmore⟩
  · rw [hlast]
    rfl
  · have ht := (isSpace_of_skipSpace hcomma).2
    rw [hcomma]
    exact hmore fuel (by omega)

theorem EndsMembers.last {s rest : List Char} (h : skipSpace s = '\x7d' :: rest) :
    EndsMembers s rest :=
  ⟨(isSpace_of_skipSpace h).2, Or.inl h⟩

theorem EndsMembers.more {s t r rest : List Char} (h : skipSpace s = ',' :: t)
    (hmember : PassesMember t r) (hends : EndsMembers r rest) : EndsMembers s rest := by
  have hlt := (isSpace_of_skipSpace h).2
  have hlt' := hmember.shorter
  have hlt'' := hends.shorter
  refine ⟨by omega, Or.inr ⟨t, h, ?_⟩⟩
  intro fuel hfuel
  exact skipMembers_of_passesMember hmember hends hfuel

theorem passesOver_emptyObject {s rest : List Char} (h : skipSpace s = '\x7d' :: rest) :
    PassesOver ('\x7b' :: s) rest := by
  have hlt := (isSpace_of_skipSpace h).2
  refine ⟨Nat.lt_succ_of_lt hlt, ?_⟩
  intro fuel hfuel
  obtain ⟨fuel, rfl⟩ : ∃ k, fuel = k + 1 := ⟨fuel - 1, by omega⟩
  simp [skipValue, skipSpace_of_not (show isSpace '\x7b' = false by decide), h]

theorem passesOver_object {s r rest : List Char} (hmember : PassesMember (skipSpace s) r)
    (hends : EndsMembers r rest) : PassesOver ('\x7b' :: s) rest := by
  have hle := length_skipSpace_le s
  have hlt := hmember.shorter
  have hlt' := hends.shorter
  refine ⟨by simp only [List.length_cons]; omega, ?_⟩
  intro fuel hfuel
  obtain ⟨fuel, rfl⟩ : ∃ k, fuel = k + 1 := ⟨fuel - 1, by omega⟩
  simp only [List.length_cons] at hfuel
  have hleft : 2 * (skipSpace s).length + 3 ≤ fuel := by omega
  have hmembers := skipMembers_of_passesMember hmember hends hleft
  obtain ⟨-, u, n, v, hquote, -⟩ := hmember
  rw [skipSpace_skipSpace] at hquote
  rw [hquote] at hmembers
  simp [skipValue, skipSpace_of_not (show isSpace '\x7b' = false by decide), hquote, hmembers]

/-! ## Reading one item or member -/

/-- Where the next item of an array begins. -/
def ItemAt (first : Bool) (s p : List Char) : Prop :=
  (if first then p = skipSpace s else ∃ u, skipSpace s = ',' :: u ∧ p = skipSpace u) ∧
    ∃ c t, p = c :: t ∧ c ≠ ']'

theorem readItems_cases {α : Type} {read : Reader α} {fuel : Nat} {first : Bool}
    {s rest : List Char} {values : List α}
    (h : readItems read (fuel + 1) first s = .ok (values, rest)) :
    values = [] ∧ skipSpace s = ']' :: rest ∨
      ∃ p value r more, ItemAt first s p ∧ read p = .ok (value, r) ∧
        readItems read fuel false r = .ok (more, rest) ∧ values = value :: more := by
  unfold readItems at h
  split at h
  · cases h
  · rename_i hlast
    cases h
    exact Or.inl ⟨rfl, hlast⟩
  · rename_i c t hne hc
    right
    dsimp only at h
    -- the comma is asked for in front of every item but the first
    cases first with
    | true =>
      rw [if_pos rfl] at h
      obtain ⟨u, hu, h⟩ := bind_eq_ok.mp h
      cases hu
      obtain ⟨⟨value, r⟩, hvalue, h⟩ := bind_eq_ok.mp h
      obtain ⟨⟨more, r'⟩, hmore, h⟩ := bind_eq_ok.mp h
      cases h
      exact ⟨_, value, r, more, ⟨by simp [hc], c, t, rfl, hne⟩, hvalue, hmore, rfl⟩
    | false =>
      rw [if_neg Bool.false_ne_true] at h
      split at h
      · rename_i hcomma
        subst hcomma
        split at h
        · cases h
        · cases h
        · rename_i hnil hclose
          obtain ⟨u, hu, h⟩ := bind_eq_ok.mp h
          cases hu
          obtain ⟨⟨value, r⟩, hvalue, h⟩ := bind_eq_ok.mp h
          obtain ⟨⟨more, r'⟩, hmore, h⟩ := bind_eq_ok.mp h
          cases h
          obtain ⟨d, v, hd⟩ := List.exists_cons_of_ne_nil hnil
          refine ⟨_, value, r, more, ⟨by simp [hc], d, v, hd, ?_⟩, hvalue, hmore, rfl⟩
          rintro rfl
          exact hclose v hd
      · cases h

/-- The name of a member begins behind the blanks, or behind a comma if it is not the first. -/
theorem readNextName_cases {first : Bool} {s rest : List Char} {name? : Option (List Char)}
    (h : readNextName first s = .ok (name?, rest)) :
    name? = none ∧ skipSpace s = '\x7d' :: rest ∨
      ∃ t u name, name? = some name ∧
        (if first then t = skipSpace s else skipSpace s = ',' :: t) ∧
        skipSpace t = '"' :: u ∧ readString (u.length + 1) u = .ok (name, rest) := by
  unfold readNextName at h
  split at h
  · cases h
  · rename_i hlast
    cases h
    exact Or.inl ⟨rfl, hlast⟩
  · rename_i c t _ hc
    right
    dsimp only at h
    -- the comma is asked for in front of every member but the first
    cases first with
    | true =>
      rw [if_pos rfl] at h
      split at h
      · rename_i hquote
        subst hquote
        obtain ⟨u, hu, h⟩ := bind_eq_ok.mp h
        cases hu
        obtain ⟨⟨name, r⟩, hname, h⟩ := bind_eq_ok.mp h
        cases h
        refine ⟨skipSpace s, t, name, rfl, by simp, ?_, hname⟩
        rw [skipSpace_skipSpace, hc]
      · cases h
    | false =>
      rw [if_neg Bool.false_ne_true] at h
      split at h
      · rename_i hcomma
        subst hcomma
        split at h
        · cases h
        · rename_i u hquote
          obtain ⟨u, hu, h⟩ := bind_eq_ok.mp h
          cases hu
          obtain ⟨⟨name, r⟩, hname, h⟩ := bind_eq_ok.mp h
          cases h
          exact ⟨t, _, name, rfl, hc, hquote, hname⟩
        · cases h
        · cases h
      · cases h

theorem readMembers_cases {α : Type} {read : Reader α} {fuel : Nat} {first : Bool}
    {s rest : List Char} {members : List (String × α)}
    (h : readMembers read (fuel + 1) first s = .ok (members, rest)) :
    members = [] ∧ readNextName first s = .ok (none, rest) ∨
      ∃ name n v value r more, readNextName first s = .ok (some name, n) ∧
        readColon n = .ok v ∧ read v = .ok (value, r) ∧
        readMembers read fuel false r = .ok (more, rest) ∧
        members = (String.ofList name, value) :: more := by
  unfold readMembers at h
  obtain ⟨⟨name?, n⟩, hname, h⟩ := bind_eq_ok.mp h
  cases name? with
  | none =>
    cases h
    exact Or.inl ⟨rfl, hname⟩
  | some name =>
    obtain ⟨v, hcolon, h⟩ := bind_eq_ok.mp h
    obtain ⟨⟨value, r⟩, hvalue, h⟩ := bind_eq_ok.mp h
    obtain ⟨⟨more, r'⟩, hmore, h⟩ := bind_eq_ok.mp h
    cases h
    exact Or.inr ⟨name, n, v, value, r, more, hname, hcolon, hvalue, hmore, rfl⟩

/-! ## What is read is passed over

The induction follows the reader: its depth, and then the items or members of one array or object.
-/

theorem skipSpace_of_readNextName {first : Bool} {s rest : List Char}
    (h : readNextName first s = .ok (none, rest)) : skipSpace s = '\x7d' :: rest := by
  rcases readNextName_cases h with ⟨-, hlast⟩ | ⟨_, _, _, hsome, -⟩
  · exact hlast
  · cases hsome

/-- A member that is read where one is due goes on the members before it. -/
theorem EndsMembers.of_readNextName {s n v r rest cs : List Char}
    (hname : readNextName false s = .ok (some cs, n)) (hcolon : readColon n = .ok v)
    (hvalue : PassesOver v r) (hends : EndsMembers r rest) : EndsMembers s rest := by
  rcases readNextName_cases hname with ⟨hnone, -⟩ | ⟨t, u, _, heq, hcomma, hquote, hstring⟩
  · cases hnone
  · cases heq
    exact .more hcomma (passesMember_of hquote hstring hcolon hvalue) hends

theorem passesOver_of_readNextName {s n v r rest cs : List Char}
    (hname : readNextName true s = .ok (some cs, n)) (hcolon : readColon n = .ok v)
    (hvalue : PassesOver v r) (hends : EndsMembers r rest) :
    PassesOver ('\x7b' :: s) rest := by
  rcases readNextName_cases hname with ⟨hnone, -⟩ | ⟨t, u, _, heq, hfirst, hquote, hstring⟩
  · cases hnone
  · cases heq
    obtain rfl : t = skipSpace s := by simpa using hfirst
    exact passesOver_object (passesMember_of hquote hstring hcolon hvalue) hends

section Read

variable {α : Type} {read : Reader α}
  (hread : ∀ {s value rest}, read s = .ok (value, rest) → PassesOver s rest)

include hread

theorem endsItems_of_readItems {fuel : Nat} {s rest : List Char} {values : List α}
    (h : readItems read fuel false s = .ok (values, rest)) : EndsItems s rest := by
  induction fuel generalizing s values with
  | zero => cases h
  | succ fuel ih =>
    rcases readItems_cases h with ⟨-, hlast⟩ | ⟨p, value, r, more, hat, hvalue, hmore, -⟩
    · exact .last hlast
    · obtain ⟨⟨u, hcomma, rfl⟩, -⟩ := hat
      exact .more hcomma (hread hvalue).of_skipSpace (ih hmore)

theorem passesOver_of_readItems {fuel : Nat} {s rest : List Char} {values : List α}
    (h : readItems read fuel true s = .ok (values, rest)) : PassesOver ('[' :: s) rest := by
  cases fuel with
  | zero => cases h
  | succ fuel =>
    rcases readItems_cases h with ⟨-, hlast⟩ | ⟨p, value, r, more, hat, hvalue, hmore, -⟩
    · exact passesOver_emptyArray hlast
    · obtain ⟨hfirst, c, t, rfl, hc⟩ := hat
      exact passesOver_array hfirst.symm hc (hread hvalue) (endsItems_of_readItems hread hmore)

theorem endsMembers_of_readMembers {fuel : Nat} {s rest : List Char}
    {members : List (String × α)}
    (h : readMembers read fuel false s = .ok (members, rest)) : EndsMembers s rest := by
  induction fuel generalizing s members with
  | zero => cases h
  | succ fuel ih =>
    rcases readMembers_cases h with ⟨-, hlast⟩ |
      ⟨name, n, v, value, r, more, hname, hcolon, hvalue, hmore, -⟩
    · exact .last (skipSpace_of_readNextName hlast)
    · exact .of_readNextName hname hcolon (hread hvalue) (ih hmore)

theorem passesOver_of_readMembers {fuel : Nat} {s rest : List Char}
    {members : List (String × α)}
    (h : readMembers read fuel true s = .ok (members, rest)) :
    PassesOver ('\x7b' :: s) rest := by
  cases fuel with
  | zero => cases h
  | succ fuel =>
    rcases readMembers_cases h with ⟨-, hlast⟩ |
      ⟨name, n, v, value, r, more, hname, hcolon, hvalue, hmore, -⟩
    · exact passesOver_emptyObject (skipSpace_of_readNextName hlast)
    · exact passesOver_of_readNextName hname hcolon (hread hvalue)
        (endsMembers_of_readMembers hread hmore)

end Read

theorem length_readIdent {cs s rest : List Char} (h : readIdent cs s = .ok rest) :
    rest.length ≤ s.length := by
  induction cs generalizing s with
  | nil =>
    cases h
    exact Nat.le_refl _
  | cons c cs ih =>
    cases s with
    | nil => cases h
    | cons d s =>
      unfold readIdent at h
      split at h
      · exact Nat.le_succ_of_le (ih h)
      · cases h

/-- What a value is passed over by depends on its first character. -/
theorem passesOver_cons {s t rest : List Char} {c : Char} (hfirst : skipSpace s = c :: t)
    (hle : rest.length ≤ t.length)
    (hskip : ∀ fuel, 2 * t.length + 3 ≤ fuel → skipValue (fuel + 1) (c :: t) = .ok rest) :
    PassesOver s rest := by
  apply PassesOver.of_skipSpace
  rw [hfirst]
  refine ⟨Nat.lt_succ_of_le hle, ?_⟩
  intro fuel hfuel
  obtain ⟨fuel, rfl⟩ : ∃ k, fuel = k + 1 := ⟨fuel - 1, by omega⟩
  simp only [List.length_cons] at hfuel
  exact hskip fuel (by omega)

theorem passesOver_ident {s t rest cs : List Char} {c : Char} (hfirst : skipSpace s = c :: t)
    (hc : ∀ fuel, skipValue (fuel + 1) (c :: t) = readIdent cs t)
    (h : readIdent cs t = .ok rest) : PassesOver s rest :=
  passesOver_cons hfirst (length_readIdent h) fun fuel _ => (hc fuel).trans h

theorem passesOver_step {depth : Nat}
    (hdepth : ∀ d, depth = d + 1 → ∀ {s value rest}, readValue d s = .ok (value, rest) →
      PassesOver s rest) {s rest : List Char} {value : Json}
    (h : readValue depth s = .ok (value, rest)) : PassesOver s rest := by
  unfold readValue at h
  -- one case for each kind of first character; arrays and objects use what holds one level down
  split at h
  · cases h
  · rename_i t hfirst
    obtain ⟨⟨cs, r⟩, hstring, h⟩ := bind_eq_ok.mp h
    cases h
    have hskip := skipString_of_readString hstring (Nat.lt_succ_self _)
    refine passesOver_cons hfirst (Nat.le_of_lt (length_skipString hskip)) fun fuel _ => ?_
    simp [skipValue, skipSpace_of_not (show isSpace '"' = false by decide), hskip]
  · rename_i t hfirst
    split at h
    · cases h
    · rename_i d
      obtain ⟨⟨items, r⟩, hitems, h⟩ := bind_eq_ok.mp h
      cases h
      apply PassesOver.of_skipSpace
      rw [hfirst]
      exact passesOver_of_readItems (hdepth d rfl) hitems
  · rename_i t hfirst
    split at h
    · cases h
    · rename_i d
      obtain ⟨⟨members, r⟩, hmembers, h⟩ := bind_eq_ok.mp h
      cases h
      apply PassesOver.of_skipSpace
      rw [hfirst]
      exact passesOver_of_readMembers (hdepth d rfl) hmembers
  · rename_i t hfirst
    obtain ⟨r, hident, h⟩ := bind_eq_ok.mp h
    cases h
    exact passesOver_ident hfirst (fun _ => rfl) hident
  · rename_i t hfirst
    obtain ⟨r, hident, h⟩ := bind_eq_ok.mp h
    cases h
    exact passesOver_ident hfirst (fun _ => rfl) hident
  · rename_i t hfirst
    obtain ⟨r, hident, h⟩ := bind_eq_ok.mp h
    cases h
    exact passesOver_ident hfirst (fun _ => rfl) hident
  · rename_i c t hquote hbracket hbrace hn ht hf hfirst
    split at h
    · rename_i hc
      obtain ⟨⟨n, r⟩, hnumber, h⟩ := bind_eq_ok.mp h
      cases h
      have hskip := skipUnsigned_of_readNumber hnumber
      have hlt := length_skipUnsigned hskip
      have hspace := (isSpace_of_skipSpace hfirst).1
      by_cases hminus : c = '-'
      · subst hminus
        refine passesOver_cons hfirst (Nat.le_of_lt hlt) fun fuel _ => ?_
        simpa [skipValue, skipSpace_of_not hspace, skipMinus] using hskip
      · have hsame : skipMinus (c :: t) = c :: t := by simp [skipMinus, hminus]
        rw [hsame] at hskip hlt
        refine passesOver_cons hfirst (Nat.le_of_lt_succ hlt) fun fuel _ => ?_
        have hdigit : (digit? c).isSome := hc.resolve_left hminus
        simpa [skipValue, skipSpace_of_not hspace, hminus, hquote, hbracket, hbrace, hn, ht, hf,
          hdigit] using hskip
    · cases h

theorem passesOver_of_readValue {depth : Nat} {s rest : List Char} {value : Json}
    (h : readValue depth s = .ok (value, rest)) : PassesOver s rest := by
  induction depth generalizing s rest value with
  | zero => exact passesOver_step (fun d hd => by cases hd) h
  | succ depth ih =>
    refine passesOver_step (fun d hd => ?_) h
    obtain rfl := Nat.succ.inj hd
    exact ih

/-! ## More fuel passes over the same

Passing over with too little fuel fails, and it never fails with enough. What is succeeded in with
some fuel is succeeded in with more, by an induction over all three loops at once. -/

theorem shorter_of_skipSpace {s t rest : List Char} {c : Char} (h : skipSpace s = c :: t)
    (hle : rest.length ≤ t.length) : rest.length < s.length :=
  Nat.lt_of_le_of_lt hle (isSpace_of_skipSpace h).2

/-- With this fuel, what is passed over leaves a shorter rest, and one more step of fuel changes
nothing. -/
def Steady (skip : Nat → List Char → Except Fault (List Char)) (fuel : Nat) : Prop :=
  ∀ s rest, skip fuel s = .ok rest → rest.length < s.length ∧ skip (fuel + 1) s = .ok rest

section Steady

variable {fuel : Nat}

theorem Steady.value (hitems : Steady skipItems fuel) (hmembers : Steady skipMembers fuel) :
    Steady skipValue (fuel + 1) := by
  intro s rest h
  unfold skipValue at h ⊢
  split at h
  · cases h
  · exact ⟨shorter_of_skipSpace ‹_› (Nat.le_of_lt (length_skipString h)), h⟩
  · rename_i t hfirst
    have hle := length_skipSpace_le t
    split at h
    · cases h
    · rename_i u hlast
      cases h
      exact ⟨shorter_of_skipSpace hfirst (Nat.le_of_lt (isSpace_of_skipSpace hlast).2), rfl⟩
    · obtain ⟨hlt, hsucc⟩ := hitems _ rest h
      exact ⟨shorter_of_skipSpace hfirst (by omega), hsucc⟩
  · rename_i t hfirst
    have hle := length_skipSpace_le t
    split at h
    · cases h
    · rename_i u hlast
      cases h
      exact ⟨shorter_of_skipSpace hfirst (Nat.le_of_lt (isSpace_of_skipSpace hlast).2), rfl⟩
    · obtain ⟨hlt, hsucc⟩ := hmembers _ rest h
      exact ⟨shorter_of_skipSpace hfirst (by omega), hsucc⟩
  · exact ⟨shorter_of_skipSpace ‹_› (length_readIdent h), h⟩
  · exact ⟨shorter_of_skipSpace ‹_› (length_readIdent h), h⟩
  · exact ⟨shorter_of_skipSpace ‹_› (length_readIdent h), h⟩
  · exact ⟨shorter_of_skipSpace ‹_› (Nat.le_of_lt (length_skipUnsigned h)), h⟩
  · split at h
    · rename_i hdigit
      rw [if_pos hdigit]
      exact ⟨shorter_of_skipSpace ‹_› (Nat.le_of_lt_succ (length_skipUnsigned h)), h⟩
    · cases h

theorem Steady.items (hvalue : Steady skipValue fuel) (hitems : Steady skipItems fuel) :
    Steady skipItems (fuel + 1) := by
  intro s rest h
  unfold skipItems at h ⊢
  obtain ⟨r, hskip, h⟩ := bind_eq_ok.mp h
  obtain ⟨hlt, hsucc⟩ := hvalue s r hskip
  split at h
  · cases h
  · rename_i t hcomma
    obtain ⟨hlt', hmore⟩ := hitems t rest h
    have ht := (isSpace_of_skipSpace hcomma).2
    refine ⟨by omega, bind_eq_ok.mpr ⟨r, hsucc, ?_⟩⟩
    rw [hcomma]
    exact hmore
  · rename_i t hlast
    cases h
    have ht := (isSpace_of_skipSpace hlast).2
    refine ⟨by omega, bind_eq_ok.mpr ⟨r, hsucc, ?_⟩⟩
    rw [hlast]
    rfl
  · cases h

theorem Steady.members (hvalue : Steady skipValue fuel) (hmembers : Steady skipMembers fuel) :
    Steady skipMembers (fuel + 1) := by
  intro s rest h
  unfold skipMembers at h ⊢
  split at h
  · cases h
  · rename_i u hquote
    obtain ⟨n, hname, h⟩ := bind_eq_ok.mp h
    obtain ⟨v, hcolon, h⟩ := bind_eq_ok.mp h
    obtain ⟨r, hskip, h⟩ := bind_eq_ok.mp h
    obtain ⟨hlt, hsucc⟩ := hvalue v r hskip
    have hu := (isSpace_of_skipSpace hquote).2
    have hn := length_skipString hname
    have hv := length_readColon hcolon
    split at h
    · cases h
    · rename_i t hcomma
      obtain ⟨hlt', hmore⟩ := hmembers t rest h
      have ht := (isSpace_of_skipSpace hcomma).2
      refine ⟨by omega, bind_eq_ok.mpr ⟨n, hname, bind_eq_ok.mpr ⟨v, hcolon,
        bind_eq_ok.mpr ⟨r, hsucc, ?_⟩⟩⟩⟩
      rw [hcomma]
      exact hmore
    · rename_i t hlast
      cases h
      have ht := (isSpace_of_skipSpace hlast).2
      refine ⟨by omega, bind_eq_ok.mpr ⟨n, hname, bind_eq_ok.mpr ⟨v, hcolon,
        bind_eq_ok.mpr ⟨r, hsucc, ?_⟩⟩⟩⟩
      rw [hlast]
      rfl
    · cases h
  · cases h

end Steady

theorem steady (fuel : Nat) :
    Steady skipValue fuel ∧ Steady skipItems fuel ∧ Steady skipMembers fuel := by
  induction fuel with
  | zero =>
    refine ⟨?_, ?_, ?_⟩
    · intro s rest h
      cases h
    · intro s rest h
      cases h
    · intro s rest h
      cases h
  | succ fuel ih =>
    obtain ⟨hvalue, hitems, hmembers⟩ := ih
    exact ⟨.value hitems hmembers, .items hvalue hitems, .members hvalue hmembers⟩

theorem skipValue_of_le {fuel fuel' : Nat} {s rest : List Char}
    (h : skipValue fuel s = .ok rest) (hle : fuel ≤ fuel') : skipValue fuel' s = .ok rest := by
  induction hle with
  | refl => exact h
  | step _ ih => exact ((steady _).1 s rest ih).2

/-- **A value that is passed over at all is passed over with the fuel that is given.** Two steps for
each character that is left, and two more, are what the program gives. -/
theorem passesOver_of_skipValue {s rest : List Char}
    (h : skipValue (2 * s.length + 2) s = .ok rest) : PassesOver s rest :=
  ⟨((steady _).1 s rest h).1, fun _ hfuel => skipValue_of_le h hfuel⟩

end NodeRpc.Json
