import NodeRpc.Proofs.Endpoint.Envelopes
import NodeRpc.Proofs.Json.Numeral

/-!
# How the identifier of an answer is written

An answer is kept as values, and of a number its text is not kept. So that the text can be spoken
of, `WritesId` says of the text of an answer with which characters its identifier is written in it:
as the value of the member of that name, wherever it stands among the others, or as the first item.
The identifier that is read is the value that these characters have (`id_of_writesId`).

It is a relation on texts because nothing else is left. Once an answer is read, `1e2` and `100.0`
are one value, and a statement about values could not tell a node that repeats an identifier from
one that changes it.

The relation follows the reader through names and colons, but not through values. What a member
holds that is not the identifier is passed over here and read or passed over there, and that both
stop at the same place is known.
-/

namespace NodeRpc.Envelope

open Json

/-- A value is written with these characters, behind any space in front of it. -/
structure Stands (text s rest : List Char) : Prop where
  chars : skipSpace s = text ++ rest
  passes : PassesOver s rest

/-- The members from here on have one of this name, and its value is written with these
characters. -/
inductive HasMember (name : String) (text : List Char) : Bool → List Char → Prop
  | here {first : Bool} {s cs n v rest : List Char} : readNextName first s = .ok (some cs, n) →
      String.ofList cs = name → readColon n = .ok v → Stands text v rest →
      HasMember name text first s
  | later {first : Bool} {s cs n v rest : List Char} : readNextName first s = .ok (some cs, n) →
      readColon n = .ok v → PassesOver v rest → HasMember name text false rest →
      HasMember name text first s

/-- The identifier of an answer is written with these characters. -/
inductive WritesId (text body : List Char) : Prop
  | member {s : List Char} : skipSpace body = '\x7b' :: s → HasMember "id" text true s →
      WritesId text body
  | item {s rest : List Char} : skipSpace body = '[' :: s → Stands text s rest →
      WritesId text body

/-! ## What stands behind a value

A number ends where it does because of what follows it. In an answer that is a comma or a bracket,
and the lemmas find out which from the fact that the rest was read. -/

theorem numeralEnds_of_skipSpace {s t : List Char} {c : Char} (h : skipSpace s = c :: t)
    (hc : c = ',' ∨ c = ']' ∨ c = '\x7d') : NumeralEnds s := by
  intro d rest hs
  subst hs
  cases hspace : isSpace d with
  | true =>
    -- a blank
    unfold isSpace at hspace
    simp only [Bool.or_eq_true, beq_iff_eq] at hspace
    rcases hspace with ((rfl | rfl) | rfl) | rfl
    all_goals decide
  | false =>
    rw [skipSpace_of_not hspace] at h
    obtain ⟨rfl, -⟩ := List.cons.inj h
    rcases hc with rfl | rfl | rfl
    all_goals decide

theorem numeralEnds_of_readMembers {fuel : Nat} {seen : List String} {s rest : List Char}
    {envelope envelope' : Envelope}
    (h : readMembers fuel false seen envelope s = .ok (envelope', rest)) : NumeralEnds s := by
  rcases (endsMembers_of_readMembers h).ends with hlast | ⟨t, hcomma, -⟩
  · exact numeralEnds_of_skipSpace hlast (.inr (.inr rfl))
  · exact numeralEnds_of_skipSpace hcomma (.inl rfl)

theorem numeralEnds_of_readItem {s rest : List Char} {value? : Option Json}
    (h : readItem false s = .ok (value?, rest)) : NumeralEnds s := by
  rcases readItem_cases h with ⟨t, hlast, -⟩ | ⟨p, ⟨⟨u, hcomma, -⟩, -⟩, -⟩
  · exact numeralEnds_of_skipSpace hlast (.inr (.inl rfl))
  · exact numeralEnds_of_skipSpace hcomma (.inl rfl)

/-! ## Reading the identifier

Once it is read it is kept, since a second member of the name would have been refused. -/

section Members

variable {fuel : Nat} {first : Bool} {seen : List String} {s cs n v r rest text : List Char}
  {envelope envelope' : Envelope}

/-- What reading a member has done: the identifier is read where it stands, and kept. -/
theorem readMembers_member (hname : readNextName first s = .ok (some cs, n))
    (hcolon : readColon n = .ok v) (hpasses : PassesOver v r)
    (h : readMembers (fuel + 1) first seen envelope s = .ok (envelope', rest)) :
    String.ofList cs ∉ seen ∧ ∃ seen' before,
      readMembers fuel false seen' before r = .ok (envelope', rest) ∧ seen ⊆ seen' ∧
      (String.ofList cs = "id" → "id" ∈ seen' ∧ ∃ value,
        readValue (nestingLimit - 1) v = .ok (value, r) ∧ before.id = unlessNull value) ∧
      (String.ofList cs ≠ "id" → before.id = envelope.id) := by
  rw [readMembers] at h
  obtain ⟨⟨name?, n'⟩, hname', h⟩ := bind_eq_ok.mp h
  obtain ⟨rfl, rfl⟩ := Prod.mk.inj (Except.ok.inj (hname.symm.trans hname'))
  dsimp only at h
  split at h
  · cases h
  · rename_i hnew
    have hnew : String.ofList cs ∉ seen := by simpa using hnew
    obtain ⟨v', hcolon', h⟩ := bind_eq_ok.mp h
    obtain rfl := Except.ok.inj (hcolon.symm.trans hcolon')
    refine ⟨hnew, ?_⟩
    split at h
    · rename_i hid
      obtain ⟨⟨id, r'⟩, hmember, h⟩ := bind_eq_ok.mp h
      -- where a value ends does not depend on why it is read
      obtain rfl := hpasses.unique (passesOver_of_readMember hmember)
      obtain ⟨value, hvalue, rfl⟩ := readMember_eq_ok.mp hmember
      exact ⟨_, _, h, List.subset_cons_self _ _, fun _ => ⟨by simp [hid], value, hvalue, rfl⟩,
        fun hne => absurd hid hne⟩
    · rename_i hresult
      obtain ⟨⟨result, r'⟩, hmember, h⟩ := bind_eq_ok.mp h
      obtain rfl := hpasses.unique (passesOver_of_readMember hmember)
      exact ⟨_, _, h, List.subset_cons_self _ _,
        fun hid => absurd (hid.symm.trans hresult) (by decide), fun _ => rfl⟩
    · rename_i herror
      obtain ⟨⟨error, r'⟩, hmember, h⟩ := bind_eq_ok.mp h
      obtain rfl := hpasses.unique (passesOver_of_readMember hmember)
      exact ⟨_, _, h, List.subset_cons_self _ _,
        fun hid => absurd (hid.symm.trans herror) (by decide), fun _ => rfl⟩
    · rename_i hid hresult herror
      obtain ⟨r', hskip, h⟩ := bind_eq_ok.mp h
      obtain rfl := hpasses.unique (passesOver_of_skipValue hskip)
      exact ⟨_, _, h, List.Subset.refl _, fun heq => absurd heq hid, fun _ => rfl⟩

/-- An identifier that was read before is kept. -/
theorem id_of_readMembers (hseen : "id" ∈ seen)
    (h : readMembers fuel first seen envelope s = .ok (envelope', rest)) :
    envelope'.id = envelope.id := by
  induction fuel generalizing first seen envelope s with
  | zero => cases h
  | succ fuel ih =>
    rcases readMembers_cases h with hlast | ⟨cs, n, v, r, _, _, hname, hcolon, hpasses, -⟩
    · rw [readMembers, hlast] at h
      cases h
      rfl
    · obtain ⟨hnew, seen', before, hmore, hsub, -, hkept⟩ :=
        readMembers_member hname hcolon hpasses h
      have hid : String.ofList cs ≠ "id" := fun heq => hnew (heq ▸ hseen)
      rw [ih (hsub hseen) hmore, hkept hid]

/-- **The identifier that is read is the one that is written.** It is read from where it stands, and
what stands behind it cannot be taken for a part of it. By induction on where the member stands. -/
theorem id_of_hasMember (hid : HasMember "id" text first s)
    (h : readMembers fuel first seen envelope s = .ok (envelope', rest)) :
    ∃ v r value, skipSpace v = text ++ r ∧ NumeralEnds r ∧
      readValue (nestingLimit - 1) v = .ok (value, r) ∧ envelope'.id = unlessNull value := by
  induction hid generalizing fuel seen envelope with
  | here hname hcs hcolon hstands =>
    cases fuel with
    | zero => cases h
    | succ fuel =>
      obtain ⟨-, seen', before, hmore, -, hread, -⟩ :=
        readMembers_member hname hcolon hstands.passes h
      obtain ⟨hseen, value, hvalue, hbefore⟩ := hread hcs
      refine ⟨_, _, value, hstands.chars, numeralEnds_of_readMembers hmore, hvalue, ?_⟩
      rw [← hbefore]
      exact id_of_readMembers hseen hmore
  | later hname hcolon hpasses _ ih =>
    cases fuel with
    | zero => cases h
    | succ fuel =>
      obtain ⟨-, seen', before, hmore, -⟩ := readMembers_member hname hcolon hpasses h
      exact ih hmore

end Members

/-- An identifier that is written is read. What stands behind it cannot belong to a number. -/
theorem id_of_writesId {text body : List Char} {envelope : Envelope} (hid : WritesId text body)
    (h : parse body = .ok envelope) : ∃ s rest value, skipSpace s = text ++ rest ∧
      NumeralEnds rest ∧ readValue (nestingLimit - 1) s = .ok (value, rest) ∧
      envelope.id = unlessNull value := by
  obtain ⟨⟨envelope', rest⟩, hanswer, h⟩ := bind_eq_ok.mp h
  obtain ⟨_, -, h⟩ := bind_eq_ok.mp h
  cases h
  cases hid with
  | @member s hfirst hmember =>
    have hread : readMembers (s.length + 1) true [] {} s = .ok (envelope, rest) := by
      simpa [readAnswer, hfirst] using hanswer
    exact id_of_hasMember hmember hread
  | @item s rest' hfirst hstands =>
    have hread : readItems s = .ok (envelope, rest) := by
      simpa [readAnswer, hfirst] using hanswer
    obtain ⟨⟨id, s₁⟩, hitem, hread⟩ := bind_eq_ok.mp hread
    obtain ⟨⟨result, s₂⟩, hnext, hread⟩ := bind_eq_ok.mp hread
    obtain ⟨⟨error, s₃⟩, -, hread⟩ := bind_eq_ok.mp hread
    obtain ⟨r, -, hread⟩ := bind_eq_ok.mp hread
    cases hread
    rcases readItem_cases hitem with ⟨t, hlast, -⟩ | ⟨p, ⟨hp, -⟩, hmember⟩
    · -- a closing bracket is no value
      have hskip := hstands.passes.skipValue_eq (2 * s.length + 2) (Nat.le_refl _)
      have hnone : digit? ']' = none := digit?_eq_none (by decide)
      simp [skipValue, hlast, hnone, refuseAt] at hskip
    · obtain rfl : p = skipSpace s := by simpa using hp
      obtain rfl := hstands.passes.unique (passesOver_of_readMember hmember).of_skipSpace
      obtain ⟨value, hvalue, rfl⟩ := readMember_eq_ok.mp hmember
      rw [readValue_skipSpace] at hvalue
      exact ⟨s, rest', value, hstands.chars, numeralEnds_of_readItem hnext, hvalue, rfl⟩

end NodeRpc.Envelope
