import NodeRpc.Endpoint.Envelope
import NodeRpc.Proofs.Json.Written

/-!
# Which texts are answers

An answer is not read as JSON first: its members are looked for while the text is read. What counts
as one is said here in terms of the JSON that a text holds (`Json.Written.envelope?`): an array of
at most three items, or an object that repeats none of the three members. That it has any of them is
not asked.

This is wider than an answer of JSON-RPC is, in two ways. Records are decoded from arrays as well as
from objects, and a record whose members may all be missing is decoded from any object. Neither was
decided for answers; both come with the way in which records are decoded, and what they lead to is
in `NodeRpc.Proofs.Endpoint.Failures`.

A text that is no JSON can be an answer too, if what is wrong with it stands in a member that is
passed over. A foreign member may nest deeper than values are read, or hold a number that is too
large. Even so an answer is always in form (`inForm_of_parse`), so a page of HTML never is one.
-/

namespace NodeRpc

namespace Envelope

open Json

/-- The envelope of these items. -/
def ofItems (items : List Json) : Envelope :=
  ⟨items[0]?.bind unlessNull, items[1]?.bind unlessNull, items[2]?.bind unlessNull⟩

/-- Puts a member in its place; what has another name is passed over. -/
def put (envelope : Envelope) (member : String × Json) : Envelope :=
  if member.1 = "id" then { envelope with id := unlessNull member.2 }
  else if member.1 = "result" then { envelope with result := unlessNull member.2 }
  else if member.1 = "error" then { envelope with error := unlessNull member.2 }
  else envelope

def names : List String := ["id", "result", "error"]

/-- The names of the members that count, in order. -/
def counted (members : List (String × Json)) : List String :=
  (members.map Prod.fst).filter (· ∈ names)

end Envelope

/-- The answer that a text with this in it is, if it is one. -/
def Json.Written.envelope? : Written → Option Envelope
  | .scalar _ => none
  | .list items => if items.length ≤ 3 then some (.ofItems items) else none
  | .record members =>
    if (Envelope.counted members).Nodup then some (members.foldl Envelope.put {}) else none

namespace Envelope

open Json

theorem readMember_eq_ok {s rest : List Char} {value? : Option Json} :
    readMember s = .ok (value?, rest) ↔
      ∃ value, readValue (nestingLimit - 1) s = .ok (value, rest) ∧ value? = unlessNull value := by
  unfold readMember
  constructor
  · intro h
    obtain ⟨⟨value, r⟩, hvalue, h⟩ := bind_eq_ok.mp h
    cases h
    exact ⟨value, hvalue, rfl⟩
  · rintro ⟨value, hvalue, rfl⟩
    exact bind_eq_ok.mpr ⟨_, hvalue, rfl⟩

/-! ## Arrays

The items are taken by place: the identifier, the result and the error. Fewer are enough, and an
item too many is an error. -/

theorem readItem_of_itemAt {first : Bool} {s p : List Char} (h : ItemAt first s p) :
    readItem first s = readMember p := by
  obtain ⟨hp, c, t, rfl, hc⟩ := h
  cases first with
  | true =>
    have hfirst : skipSpace s = c :: t := by simpa using hp.symm
    simp [readItem, hfirst]
  | false =>
    obtain ⟨u, hcomma, hu⟩ := hp
    simp [readItem, hcomma, ← hu, hc]

theorem readItem_of_last {s rest : List Char} (h : skipSpace s = ']' :: rest) (first : Bool) :
    readItem first s = .ok (none, ']' :: rest) := by
  simp [readItem, h]

theorem readItem_cases {first : Bool} {s r : List Char} {value? : Option Json}
    (h : readItem first s = .ok (value?, r)) :
    (∃ t, skipSpace s = ']' :: t ∧ r = ']' :: t) ∨
      ∃ p, ItemAt first s p ∧ readMember p = .ok (value?, r) := by
  unfold readItem at h
  split at h
  · cases h
  · rename_i hlast
    cases h
    exact Or.inl ⟨_, hlast, rfl⟩
  · rename_i c t hne hc
    right
    split at h
    · rename_i hfirst
      subst hfirst
      exact ⟨_, ⟨by simp [hc], c, t, rfl, hne⟩, h⟩
    · rename_i hfirst
      have hnot : first = false := by simpa using hfirst
      subst hnot
      split at h
      · rename_i hcomma
        subst hcomma
        split at h
        · cases h
        · cases h
        · rename_i hnil hclose
          obtain ⟨d, v, hd⟩ := List.exists_cons_of_ne_nil hnil
          refine ⟨_, ⟨by simp [hc], d, v, hd, ?_⟩, h⟩
          rintro rfl
          exact hclose v hd
      · cases h

/-- An item is read as the first of the items that are left. -/
theorem readItem_of_readItems {fuel : Nat} {first : Bool} {s rest : List Char} {items : List Json}
    (h : Json.readItems (readValue (nestingLimit - 1)) (fuel + 1) first s = .ok (items, rest)) :
    ∃ r fuel', readItem first s = .ok (items.head?.bind unlessNull, r) ∧
      Json.readItems (readValue (nestingLimit - 1)) (fuel' + 1) false r =
        .ok (items.tail, rest) := by
  rcases readItems_cases h with ⟨rfl, hlast⟩ | ⟨p, value, r, more, hat, hvalue, hmore, rfl⟩
  · -- the bracket is left where it is, for the items after this one
    have hspace := (isSpace_of_skipSpace hlast).1
    refine ⟨']' :: rest, 0, readItem_of_last hlast first, ?_⟩
    simp [Json.readItems, skipSpace_of_not hspace]
  · cases fuel with
    | zero => cases hmore
    | succ fuel =>
      refine ⟨r, fuel, ?_, hmore⟩
      rw [readItem_of_itemAt hat]
      exact readMember_eq_ok.mpr ⟨value, hvalue, rfl⟩

/-- The bracket closes what has no more items. -/
theorem readClosing_of_readItems {fuel : Nat} {s rest : List Char} {items : List Json}
    (h : Json.readItems (readValue (nestingLimit - 1)) (fuel + 1) false s = .ok (items, rest)) :
    (readClosing s).toOption = if items = [] then some rest else none := by
  rcases readItems_cases h with ⟨rfl, hlast⟩ | ⟨p, value, r, more, hat, -, -, rfl⟩
  · simp [readClosing, hlast, Except.toOption]
  · obtain ⟨⟨u, hcomma, hp⟩, c, t, rfl, hc⟩ := hat
    have hclose : readClosing s = refuseAt .trailingCharacters (c :: t) := by
      simp [readClosing, hcomma, ← hp, hc]
    rw [hclose, if_neg (List.cons_ne_nil value more)]
    rfl

/-- **An array is an answer unless it has more than three items.** It may have fewer, down to none,
and an empty array is an answer with a result of null. -/
theorem readItems_of_readItems {fuel : Nat} {s rest : List Char} {items : List Json}
    (h : Json.readItems (readValue (nestingLimit - 1)) (fuel + 1) true s = .ok (items, rest)) :
    (readItems s).toOption = if items.length ≤ 3 then some (ofItems items, rest) else none := by
  obtain ⟨s₁, fuel₁, hid, h₁⟩ := readItem_of_readItems h
  obtain ⟨s₂, fuel₂, hresult, h₂⟩ := readItem_of_readItems h₁
  obtain ⟨s₃, fuel₃, herror, h₃⟩ := readItem_of_readItems h₂
  have hread : readItems s = (readClosing s₃).map fun r => (ofItems items, r) := by
    simp only [readItems, hid, hresult, herror, bind, Except.bind, ofItems]
    cases readClosing s₃ with
    | error fault => rfl
    | ok r => simp [Except.map, pure, Except.pure, List.head?_eq_getElem?]
  -- what is left behind the third item must be nothing
  have hclosing := readClosing_of_readItems h₃
  have hlength : items.tail.tail.tail = [] ↔ items.length ≤ 3 := by
    rw [← List.length_eq_zero_iff]
    simp only [List.length_tail]
    omega
  simp only [hlength] at hclosing
  rw [hread, toOption_map, hclosing]
  split
  · rfl
  · rfl

/-! ## Objects

Two loops over the same members. One keeps them all and never refuses a name; the other keeps three
and refuses these a second time. What the second has seen is the invariant of the induction, and it
is a list without repeats. -/

theorem put_foreign {name : String} (hname : name ∉ names) (envelope : Envelope) (value : Json) :
    envelope.put (name, value) = envelope := by
  simp only [names, List.mem_cons, List.not_mem_nil, or_false, not_or] at hname
  obtain ⟨hid, hresult, herror⟩ := hname
  simp [put, hid, hresult, herror]

/-- What reading one member does. -/
theorem readMembers_step {fuel : Nat} {first : Bool} {s n v r cs : List Char} {value : Json}
    (hname : readNextName first s = .ok (some cs, n)) (hcolon : readColon n = .ok v)
    (hvalue : readValue (nestingLimit - 1) v = .ok (value, r)) (seen : List String)
    (envelope : Envelope) :
    readMembers (fuel + 1) first seen envelope s =
      if String.ofList cs ∈ seen then refuseRepeated (String.ofList cs) n
      else readMembers fuel false
        (if String.ofList cs ∈ names then String.ofList cs :: seen else seen)
        (envelope.put (String.ofList cs, value)) r := by
  have hmember : readMember v = .ok (unlessNull value, r) := readMember_eq_ok.mpr ⟨_, hvalue, rfl⟩
  have hskip := (passesOver_of_readValue hvalue).skipValue_eq (2 * v.length + 2) (Nat.le_refl _)
  rw [readMembers]
  simp only [hname, hcolon, hmember, hskip, bind, Except.bind, List.contains_iff_mem]
  generalize String.ofList cs = name
  by_cases hseen : name ∈ seen
  · rw [if_pos hseen, if_pos hseen]
  · rw [if_neg hseen, if_neg hseen]
    split
    · rfl
    · rfl
    · rfl
    · rename_i hid hresult herror
      have hforeign : name ∉ names := by
        simpa [names] using And.intro hid (And.intro hresult herror)
      rw [if_neg hforeign, put_foreign hforeign]

/-- **An object is an answer unless it repeats one of the three members.** `seen` holds those
that were read before. -/
theorem readMembers_of_readMembers {fuel : Nat} {first : Bool} {s rest : List Char}
    {members : List (String × Json)}
    (h : Json.readMembers (readValue (nestingLimit - 1)) fuel first s = .ok (members, rest))
    {seen : List String} (hseen : seen.Nodup) (hnames : seen ⊆ names) (envelope : Envelope) :
    (readMembers fuel first seen envelope s).toOption =
      if (counted members ++ seen).Nodup then some (members.foldl put envelope, rest)
      else none := by
  induction fuel generalizing first s members seen envelope with
  | zero => cases h
  | succ fuel ih =>
    rcases readMembers_cases h with ⟨rfl, hlast⟩ |
      ⟨cs, n, v, value, r, more, hname, hcolon, hvalue, hmore, rfl⟩
    · rw [if_pos (by simpa [counted] using hseen), readMembers, hlast]
      rfl
    · rw [readMembers_step hname hcolon hvalue]
      generalize String.ofList cs = name
      by_cases hcount : name ∈ names
      · have hcounted : counted ((name, value) :: more) = name :: counted more := by
          simp [counted, hcount]
        rw [hcounted, if_pos hcount]
        split
        · rename_i hold
          have hrepeats : ¬(name :: counted more ++ seen).Nodup := fun hnodup =>
            (List.nodup_cons.mp hnodup).1 (List.mem_append_right _ hold)
          rw [if_neg hrepeats]
          rfl
        · rename_i hnew
          -- the name goes over from the members to those that were seen
          have hmoved : (counted more ++ name :: seen).Nodup ↔
              (name :: counted more ++ seen).Nodup := List.perm_middle.nodup_iff
          rw [ih hmore (List.nodup_cons.mpr ⟨hnew, hseen⟩)
            (List.cons_subset.mpr ⟨hcount, hnames⟩)]
          simp only [hmoved, List.foldl_cons]
      · have hcounted : counted ((name, value) :: more) = counted more := by
          simp [counted, hcount]
        -- other names are not kept, so they may be repeated
        have hnew : name ∉ seen := fun hold => hcount (hnames hold)
        rw [hcounted, if_neg hnew, if_neg hcount, ih hmore hseen hnames]
        rfl

/-! ## Answers

The two kinds put together, with what may stand in front of an answer and behind it. -/

theorem parse_of_readAnswer {text rest : List Char} {envelope? : Option Envelope}
    (hanswer : (readAnswer text).toOption = envelope?.map (·, rest))
    (hend : readEnd rest = .ok ()) : (parse text).toOption = envelope? := by
  unfold parse
  cases hread : readAnswer text with
  | error fault =>
    rw [hread] at hanswer
    cases envelope? with
    | none => rfl
    | some envelope => cases hanswer
  | ok p =>
    rw [hread] at hanswer
    cases envelope? with
    | none => cases hanswer
    | some envelope =>
      obtain rfl := Option.some.inj hanswer
      simp only [bind, Except.bind, hend]
      rfl

/-- **Whether JSON is an answer is told by what is written, and so is which.** It is an equation of
options, so of a text that is no answer it says that as well. Why it is none, and in which column,
is not said. -/
theorem parse_of_written {text : List Char} {content : Written} (h : written text = .ok content) :
    (parse text).toOption = content.envelope? := by
  unfold written at h
  split at h
  · rename_i s hfirst
    obtain ⟨⟨items, rest⟩, hitems, h⟩ := bind_eq_ok.mp h
    obtain ⟨_, hend, h⟩ := bind_eq_ok.mp h
    cases h
    refine parse_of_readAnswer ?_ hend
    simp only [readAnswer, hfirst, readItems_of_readItems hitems, Written.envelope?]
    split
    · rfl
    · rfl
  · rename_i s hfirst
    obtain ⟨⟨members, rest⟩, hmembers, h⟩ := bind_eq_ok.mp h
    obtain ⟨_, hend, h⟩ := bind_eq_ok.mp h
    cases h
    have hanswer := readMembers_of_readMembers hmembers List.nodup_nil (List.nil_subset names) {}
    rw [List.append_nil] at hanswer
    refine parse_of_readAnswer ?_ hend
    simp only [readAnswer, hfirst, hanswer, Written.envelope?]
    split
    · rfl
    · rfl
  · rename_i hlist hrecord
    obtain ⟨⟨value, rest⟩, -, h⟩ := bind_eq_ok.mp h
    obtain ⟨_, hend, h⟩ := bind_eq_ok.mp h
    cases h
    refine parse_of_readAnswer ?_ hend
    -- neither an array nor an object was written, so what is read is refused either way
    unfold readAnswer
    split
    · rename_i s hfirst
      exact absurd hfirst (hlist s)
    · rename_i s hfirst
      exact absurd hfirst (hrecord s)
    · cases readValue 0 (skipSpace text) with
      | error fault => rfl
      | ok p => rfl

/-! ## Answers are in form

Only in one direction: whatever was read as a member was passed over, or read and so can be passed
over. -/

theorem passesOver_of_readMember {s rest : List Char} {value? : Option Json}
    (h : readMember s = .ok (value?, rest)) : PassesOver s rest := by
  obtain ⟨value, hvalue, -⟩ := readMember_eq_ok.mp h
  exact passesOver_of_readValue hvalue

theorem endsItems_of_readClosing {s rest : List Char} (h : readClosing s = .ok rest) :
    EndsItems s rest := by
  unfold readClosing at h
  split at h
  · cases h
  · rename_i hlast
    cases h
    exact .last hlast
  · split at h
    · cases h
    · cases h
  · cases h

/-- Where no item is left, the bracket is still to come. -/
theorem EndsItems.rest_eq {t rest : List Char} (h : EndsItems (']' :: t) rest) : rest = t := by
  have hspace : skipSpace (']' :: t) = ']' :: t := skipSpace_of_not (by decide) t
  rcases h.ends with hlast | ⟨u, hcomma, -⟩
  · rw [hspace] at hlast
    exact (List.cons.inj hlast).2.symm
  · rw [hspace] at hcomma
    exact absurd (List.cons.inj hcomma).1 (by decide)

theorem endsItems_of_readItem {s r rest : List Char} {value? : Option Json}
    (h : readItem false s = .ok (value?, r)) (hends : EndsItems r rest) : EndsItems s rest := by
  rcases readItem_cases h with ⟨t, hlast, rfl⟩ | ⟨p, ⟨⟨u, hcomma, rfl⟩, -⟩, hmember⟩
  · obtain rfl := EndsItems.rest_eq hends
    exact .last hlast
  · exact .more hcomma (passesOver_of_readMember hmember).of_skipSpace hends

theorem passesOver_of_readItems {s rest : List Char} {envelope : Envelope}
    (h : readItems s = .ok (envelope, rest)) : PassesOver ('[' :: s) rest := by
  obtain ⟨⟨id, s₁⟩, hid, h⟩ := bind_eq_ok.mp h
  obtain ⟨⟨result, s₂⟩, hresult, h⟩ := bind_eq_ok.mp h
  obtain ⟨⟨error, s₃⟩, herror, h⟩ := bind_eq_ok.mp h
  obtain ⟨r, hclosing, h⟩ := bind_eq_ok.mp h
  cases h
  have hends : EndsItems s₁ rest := endsItems_of_readItem hresult
    (endsItems_of_readItem herror (endsItems_of_readClosing hclosing))
  rcases readItem_cases hid with ⟨t, hlast, rfl⟩ | ⟨p, ⟨hfirst, c, t, rfl, hc⟩, hmember⟩
  · obtain rfl := EndsItems.rest_eq hends
    exact passesOver_emptyArray hlast
  · exact passesOver_array hfirst.symm hc (passesOver_of_readMember hmember) hends

theorem readMembers_cases {fuel : Nat} {first : Bool} {seen : List String} {s rest : List Char}
    {envelope envelope' : Envelope}
    (h : readMembers (fuel + 1) first seen envelope s = .ok (envelope', rest)) :
    readNextName first s = .ok (none, rest) ∨
      ∃ cs n v r seen' before, readNextName first s = .ok (some cs, n) ∧ readColon n = .ok v ∧
        PassesOver v r ∧ readMembers fuel false seen' before r = .ok (envelope', rest) := by
  rw [readMembers] at h
  obtain ⟨⟨name?, n⟩, hname, h⟩ := bind_eq_ok.mp h
  cases name? with
  | none =>
    cases h
    exact Or.inl hname
  | some cs =>
    right
    dsimp only at h
    split at h
    · cases h
    · obtain ⟨v, hcolon, h⟩ := bind_eq_ok.mp h
      split at h
      · obtain ⟨⟨value?, r⟩, hmember, h⟩ := bind_eq_ok.mp h
        exact ⟨cs, n, v, r, _, _, hname, hcolon, passesOver_of_readMember hmember, h⟩
      · obtain ⟨⟨value?, r⟩, hmember, h⟩ := bind_eq_ok.mp h
        exact ⟨cs, n, v, r, _, _, hname, hcolon, passesOver_of_readMember hmember, h⟩
      · obtain ⟨⟨value?, r⟩, hmember, h⟩ := bind_eq_ok.mp h
        exact ⟨cs, n, v, r, _, _, hname, hcolon, passesOver_of_readMember hmember, h⟩
      · obtain ⟨r, hskip, h⟩ := bind_eq_ok.mp h
        exact ⟨cs, n, v, r, _, _, hname, hcolon, passesOver_of_skipValue hskip, h⟩

theorem endsMembers_of_readMembers {fuel : Nat} {seen : List String} {s rest : List Char}
    {envelope envelope' : Envelope}
    (h : readMembers fuel false seen envelope s = .ok (envelope', rest)) : EndsMembers s rest := by
  induction fuel generalizing s seen envelope with
  | zero => cases h
  | succ fuel ih =>
    rcases readMembers_cases h with hlast | ⟨cs, n, v, r, _, _, hname, hcolon, hvalue, hmore⟩
    · exact .last (skipSpace_of_readNextName hlast)
    · exact .of_readNextName hname hcolon hvalue (ih hmore)

theorem passesOver_of_readMembers {fuel : Nat} {seen : List String} {s rest : List Char}
    {envelope envelope' : Envelope}
    (h : readMembers fuel true seen envelope s = .ok (envelope', rest)) :
    PassesOver ('\x7b' :: s) rest := by
  cases fuel with
  | zero => cases h
  | succ fuel =>
    rcases readMembers_cases h with hlast | ⟨cs, n, v, r, _, _, hname, hcolon, hvalue, hmore⟩
    · exact passesOver_emptyObject (skipSpace_of_readNextName hlast)
    · exact passesOver_of_readNextName hname hcolon hvalue (endsMembers_of_readMembers hmore)

theorem inForm_of_parse {text : List Char} {envelope : Envelope}
    (h : parse text = .ok envelope) : InForm text := by
  obtain ⟨⟨envelope', rest⟩, hanswer, h⟩ := bind_eq_ok.mp h
  obtain ⟨_, hend, -⟩ := bind_eq_ok.mp h
  refine inForm_of_passesOver (PassesOver.of_skipSpace ?_) hend
  unfold readAnswer at hanswer
  split at hanswer
  · rename_i s hfirst
    rw [hfirst]
    exact passesOver_of_readItems hanswer
  · rename_i s hfirst
    rw [hfirst]
    exact passesOver_of_readMembers hanswer
  · obtain ⟨⟨value, r⟩, -, hanswer⟩ := bind_eq_ok.mp hanswer
    cases hanswer

end Envelope
end NodeRpc
