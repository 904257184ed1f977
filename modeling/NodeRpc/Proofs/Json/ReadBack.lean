import NodeRpc.Proofs.Json.PlainNumber
import NodeRpc.Proofs.Json.Sameness
import NodeRpc.Proofs.Json.Written

/-!
# What is written is read back

The text of a value is read as that value if it holds no binary64 number, if its objects are kept as
objects that are read are, and if it does not nest deeper than the reader goes
(`readBack_of_integral`).

Each of the three conditions is needed. Binary64 numbers are left out because the reader does not
round to the nearest, so the number that comes back may be a neighbour. An object whose members are
out of order comes back in order, and one that has a name twice comes back with one of them. And the
reader stops at a depth, which is counted in `Integral` along with the absence of binary64 numbers,
as both go down the value in the same way.

The induction is on how the value is built, and it is the statement with an arbitrary rest behind
the text that goes through: an item of an array is followed by the items behind it. Of the reader
only single steps are looked at, one for each way an array or an object can go on.
-/

namespace NodeRpc.Json

/-- A value of at most so many levels of arrays and objects, in which every number is an
integer. -/
inductive Integral : Nat → Json → Prop
  | null {depth : Nat} : Integral depth .null
  | bool {depth : Nat} (b : Bool) : Integral depth (.bool b)
  | natural {depth n : Nat} (fits : n < UInt64.size) :
      Integral depth (.number (.natural n fits))
  | negative {depth n : Nat} (fits : 0 < n ∧ 2 * n ≤ UInt64.size) :
      Integral depth (.number (.negative n fits))
  | string {depth : Nat} (s : String) : Integral depth (.string s)
  | array {depth : Nat} {items : List Json} (each : ∀ item ∈ items, Integral depth item) :
      Integral (depth + 1) (.array items)
  | object {depth : Nat} {members : List (String × Json)}
      (each : ∀ member ∈ members, Integral depth member.2) :
      Integral (depth + 1) (.object members)

/-- A value whose objects, at every level, have their members in order and each name once, as
objects that are read are kept. -/
inductive Kept : Json → Prop
  | null : Kept .null
  | bool (b : Bool) : Kept (.bool b)
  | number (n : Number) : Kept (.number n)
  | string (s : String) : Kept (.string s)
  | array {items : List Json} (each : ∀ item ∈ items, Kept item) : Kept (.array items)
  | object {members : List (String × Json)} (ordered : Ordered members)
      (each : ∀ member ∈ members, Kept member.2) : Kept (.object members)

/-! ## Sorting

What is sorted is kept. So a key, whose parameters are sorted before they are written, is read back
without any condition on how they were given. -/

theorem exists_mem_of_mem_sortedMembers {ms : List (String × Json)} {m : String × Json}
    (h : m ∈ sortedMembers ms) : ∃ kept ∈ ms, m = (kept.1, kept.2.sorted) := by
  have hnames := (ordered_sortedMembers ms).names_nodup
  have hlookup : (sortedMembers ms).lookup m.1 = some m.2 := (lookup_eq_some_iff hnames).mpr h
  rw [lookup_sortedMembers] at hlookup
  obtain ⟨v, hv, hsorted⟩ := Option.map_eq_some_iff.mp hlookup
  obtain ⟨before, after, hsplit, -⟩ := List.lookup_eq_some_iff.mp hv
  refine ⟨(m.1, v), ?_, ?_⟩
  · simp [hsplit]
  · rw [← Prod.mk.eta (p := m), ← hsorted]

/-- Sorting keeps a value as it would be kept if it were read, and adds no level and no
number. -/
theorem Integral.sorted {depth : Nat} {v : Json} (h : Integral depth v) :
    Integral depth v.sorted ∧ Kept v.sorted := by
  induction h with
  | null => exact ⟨.null, .null⟩
  | bool b => exact ⟨.bool b, .bool b⟩
  | natural fits => exact ⟨.natural fits, .number _⟩
  | negative fits => exact ⟨.negative fits, .number _⟩
  | string s => exact ⟨.string s, .string s⟩
  | array each ih =>
    rw [Json.sorted, sortedItems_eq_map]
    constructor
    · apply Integral.array
      intro item hitem
      obtain ⟨kept, hkept, rfl⟩ := List.mem_map.mp hitem
      exact (ih kept hkept).1
    · apply Kept.array
      intro item hitem
      obtain ⟨kept, hkept, rfl⟩ := List.mem_map.mp hitem
      exact (ih kept hkept).2
  | object each ih =>
    rw [Json.sorted]
    constructor
    · apply Integral.object
      intro member hmember
      obtain ⟨kept, hkept, rfl⟩ := exists_mem_of_mem_sortedMembers hmember
      exact (ih kept hkept).1
    · apply Kept.object (ordered_sortedMembers _)
      intro member hmember
      obtain ⟨kept, hkept, rfl⟩ := exists_mem_of_mem_sortedMembers hmember
      exact (ih kept hkept).2

/-- **What is kept in order is not changed by sorting.** The objects that are read are of this kind,
and so are those that have been sorted. -/
theorem Kept.sorted_eq {v : Json} (h : Kept v) : v.sorted = v := by
  induction h with
  | null => rfl
  | bool b => rfl
  | number n => rfl
  | string s => rfl
  | array each ih =>
    rw [Json.sorted, sortedItems_eq_map, List.map_congr_left ih, List.map_id']
  | @object members ordered each ih =>
    rw [Json.sorted, Json.object.injEq]
    apply eq_of_lookup_eq (ordered_sortedMembers members) ordered
    intro name
    rw [lookup_sortedMembers]
    cases hlookup : members.lookup name with
    | none => rfl
    | some v =>
      have hmem := (lookup_eq_some_iff ordered.names_nodup).mp hlookup
      exact congrArg some (ih _ hmem)

/-! ## Numbers -/

/-- **The text of an integer is read as that integer.** Both kinds of integers are one case here,
with the sign taken off in front. -/
theorem readNumber_integer {n : Number} {whole : Nat} (hwhole : whole < UInt64.size)
    (hnumeral : numeralOfNumber n = ⟨digitChars whole, [], none⟩)
    (hvalue : Literal.integer? (isSigned n) whole = some n) {rest : List Char}
    (hrest : NumeralEnds rest) : readNumber (n.chars ++ rest) = .ok (n, rest) := by
  have hdigits := digitsValue_digitChars whole
  have hliteral : ((numeralOfNumber n).literal (isSigned n)).value? = some n := by
    rw [hnumeral]
    refine value?_of_integer? rfl rfl ?_ ?_
    · exact hdigits.trans_lt hwhole
    · exact hdigits.symm ▸ hvalue
  unfold readNumber
  rw [read_chars n hrest]
  dsimp only [bind, Except.bind]
  rw [hliteral]
  rfl

/-- The text of a number is read as the value of its number. -/
theorem readValue_numberChars {n : Number} {rest : List Char}
    (h : readNumber (n.chars ++ rest) = .ok (n, rest)) (depth : Nat) :
    readValue depth ((Json.number n).chars ++ rest) = .ok (.number n, rest) := by
  obtain ⟨c, cs, hchars, hc⟩ := exists_numeral_chars (spelled_numeralOfNumber n) (isSigned n)
  rw [← chars_numeralOfNumber] at hchars
  rw [hchars] at h
  rw [Json.chars, hchars]
  exact readValue_number hc h depth

theorem readValue_natural {n : Nat} (fits : n < UInt64.size) {rest : List Char}
    (hrest : ValueEnds rest) (depth : Nat) :
    readValue depth ((Json.number (.natural n fits)).chars ++ rest) =
      .ok (.number (.natural n fits), rest) := by
  apply readValue_numberChars
  refine readNumber_integer fits rfl ?_ hrest.numeralEnds
  unfold Literal.integer? isSigned
  rw [if_neg Bool.false_ne_true, dif_pos fits]

theorem readValue_negative {n : Nat} (fits : 0 < n ∧ 2 * n ≤ UInt64.size) {rest : List Char}
    (hrest : ValueEnds rest) (depth : Nat) :
    readValue depth ((Json.number (.negative n fits)).chars ++ rest) =
      .ok (.number (.negative n fits), rest) := by
  have hsize : n < UInt64.size := by omega
  apply readValue_numberChars
  refine readNumber_integer hsize rfl ?_ hrest.numeralEnds
  unfold Literal.integer? isSigned
  rw [if_pos rfl, dif_pos fits]

/-! ## Steps of the reader

The reader as rewriting rules, each for one thing that can stand in front. What is printed has no
blanks, so the rules say nothing of them but that no value begins with one. -/

/-- No value begins with a blank. -/
theorem isSpace_of_kindOfChar {c : Char} {k : Kind} (h : kindOfChar c = some k) :
    isSpace c = false := by
  cases hspace : isSpace c with
  | false => rfl
  | true =>
    simp only [isSpace, Bool.or_eq_true, beq_iff_eq] at hspace
    obtain ((rfl | rfl) | rfl) | rfl := hspace
    · cases h
    · cases h
    · cases h
    · cases h

section Items

variable {α : Type} {item : Reader α} {fuel : Nat} {c : Char} {s r : List Char} {v : α}

theorem readItems_close (first : Bool) (rest : List Char) :
    readItems item (fuel + 1) first (']' :: rest) = .ok ([], rest) := rfl

/-- The first item follows the bracket. -/
theorem readItems_first (hspace : isSpace c = false) (hclose : c ≠ ']')
    (hitem : item (c :: s) = .ok (v, r)) :
    readItems item (fuel + 1) true (c :: s) =
      (readItems item fuel false r).map fun p => (v :: p.1, p.2) := by
  rw [readItems, skipSpace_of_not hspace]
  split
  · rename_i heq
    cases heq
  · rename_i heq
    cases heq
    exact absurd rfl hclose
  · rename_i heq
    cases heq
    rw [if_pos rfl]
    dsimp only [bind, Except.bind, pure, Except.pure]
    rw [hitem]
    dsimp only
    cases readItems item fuel false r with
    | error fault => rfl
    | ok p => rfl

/-- Every other item follows a comma. -/
theorem readItems_next (hspace : isSpace c = false) (hclose : c ≠ ']')
    (hitem : item (c :: s) = .ok (v, r)) :
    readItems item (fuel + 1) false (',' :: c :: s) =
      (readItems item fuel false r).map fun p => (v :: p.1, p.2) := by
  have hcomma : skipSpace (',' :: c :: s) = ',' :: c :: s := skipSpace_of_not rfl _
  rw [readItems, hcomma]
  split
  · rename_i heq
    cases heq
  · rename_i heq
    cases heq
  rename_i heq
  cases heq
  rw [if_neg Bool.false_ne_true, if_pos rfl, skipSpace_of_not hspace]
  split
  · rename_i heq
    cases heq
  · rename_i heq
    cases heq
    exact absurd rfl hclose
  · dsimp only [bind, Except.bind, pure, Except.pure]
    rw [hitem]
    dsimp only
    cases readItems item fuel false r with
    | error fault => rfl
    | ok p => rfl

end Items

theorem length_le_length_escape (cs : List Char) : cs.length ≤ (cs.flatMap escape).length := by
  induction cs with
  | nil => exact Nat.le_refl 0
  | cons c cs ih =>
    have hone : 1 ≤ (escape c).length := by
      unfold escape
      split_ifs <;> simp
    rw [List.flatMap_cons, List.length_append, List.length_cons]
    omega

/-- The rest of the input holds as many characters as the string, and so it is read in full. -/
theorem readString_next (name : String) (rest : List Char) :
    readString ((name.toList.flatMap escape ++ '"' :: rest).length + 1)
      (name.toList.flatMap escape ++ '"' :: rest) = .ok (name.toList, rest) := by
  apply readString_chars
  have hle := length_le_length_escape name.toList
  rw [List.length_append]
  omega

theorem stringChars_append (name : String) (rest : List Char) :
    stringChars name ++ rest = '"' :: (name.toList.flatMap escape ++ '"' :: rest) := by
  simp [stringChars]

theorem readNextName_first (name : String) (rest : List Char) :
    readNextName true (stringChars name ++ rest) = .ok (some name.toList, rest) := by
  have hquote : ∀ s, skipSpace ('"' :: s) = '"' :: s := skipSpace_of_not rfl
  rw [stringChars_append, readNextName, hquote]
  split
  · rename_i heq
    cases heq
  · rename_i heq
    cases heq
  rename_i heq
  cases heq
  rw [if_pos rfl, if_pos rfl]
  dsimp only [bind, Except.bind, pure, Except.pure]
  rw [readString_next]

theorem readNextName_next (name : String) (rest : List Char) :
    readNextName false (',' :: (stringChars name ++ rest)) = .ok (some name.toList, rest) := by
  have hquote : ∀ s, skipSpace ('"' :: s) = '"' :: s := skipSpace_of_not rfl
  have hcomma : ∀ s, skipSpace (',' :: s) = ',' :: s := skipSpace_of_not rfl
  rw [stringChars_append, readNextName, hcomma]
  split
  · rename_i heq
    cases heq
  · rename_i heq
    cases heq
  rename_i heq
  cases heq
  rw [if_neg Bool.false_ne_true, if_pos rfl, hquote]
  show (readString _ _ >>= fun p => .ok (some p.1, p.2)) = _
  rw [readString_next]
  rfl

section Members

variable {α : Type} {value : Reader α} {fuel : Nat} {first : Bool} {name : String}
  {s r rest : List Char} {v : α}

theorem readMembers_close (first : Bool) (rest : List Char) :
    readMembers value (fuel + 1) first ('\x7d' :: rest) = .ok ([], rest) := rfl

/-- A member is read if its name is, with what stands before it, and its value is behind a
colon. -/
theorem readMembers_more (hname : readNextName first s = .ok (some name.toList, ':' :: r))
    (hvalue : value r = .ok (v, rest)) :
    readMembers value (fuel + 1) first s =
      (readMembers value fuel false rest).map fun p => ((name, v) :: p.1, p.2) := by
  have hcolon : readColon (':' :: r) = .ok r := by
    unfold readColon
    rw [skipSpace_of_not rfl]
    rfl
  rw [readMembers, hname]
  dsimp only [bind, Except.bind, pure, Except.pure]
  rw [hcolon]
  dsimp only
  rw [hvalue]
  dsimp only
  rw [String.ofList_toList]
  cases readMembers value fuel false rest with
  | error fault => rfl
  | ok p => rfl

end Members

/-! ## Items and members

The two inductions along lists. Fuel is counted by the items that are left, and is always enough,
since the text of an item is not empty. -/

/-- The text of a value is read as that value, whatever follows it, as long as it cannot be part of
the value. -/
def ReadBack (depth : Nat) (v : Json) : Prop :=
  ∀ rest, ValueEnds rest → readValue depth (v.chars ++ rest) = .ok (v, rest)

theorem length_lt_length_itemChars (items : List Json) :
    items.length < (itemChars items).length := by
  induction items with
  | nil => simp [itemChars]
  | cons v vs ih =>
    obtain ⟨c, cs, hchars, -⟩ := exists_chars v
    rw [itemChars_cons, hchars]
    cases vs with
    | nil => simp [itemTail]
    | cons w ws =>
      simp only [itemTail, List.length_append, List.length_cons] at ih ⊢
      omega

theorem length_lt_length_memberChars (members : List (String × Json)) :
    members.length < (memberChars members).length := by
  induction members with
  | nil => simp [memberChars]
  | cons m ms ih =>
    rw [← Prod.mk.eta (p := m), memberChars_cons]
    cases ms with
    | nil =>
      simp only [memberTail, List.length_append, List.length_cons, List.length_nil]
      omega
    | cons w ws =>
      simp only [memberTail, List.length_append, List.length_cons] at ih ⊢
      omega

theorem exists_item_chars (v : Json) (rest : List Char) :
    ∃ c s, v.chars ++ rest = c :: s ∧ isSpace c = false ∧ c ≠ ']' := by
  obtain ⟨c, cs, hchars, hkind⟩ := exists_chars v
  refine ⟨c, cs ++ rest, by rw [hchars, List.cons_append], isSpace_of_kindOfChar hkind, ?_⟩
  rintro rfl
  cases hkind

section Lists

variable {depth fuel : Nat} {items : List Json} {members : List (String × Json)}

/-- What follows an item is read as the items that follow it. -/
theorem readItems_itemTail (each : ∀ item ∈ items, ReadBack depth item)
    (hfuel : items.length ≤ fuel) (rest : List Char) :
    readItems (readValue depth) (fuel + 1) false (itemTail items ++ rest) =
      .ok (items, rest) := by
  induction items generalizing fuel with
  | nil => exact readItems_close false rest
  | cons v vs ih =>
    cases fuel with
    | zero => exact absurd hfuel (Nat.not_succ_le_zero _)
    | succ fuel =>
      obtain ⟨c, s, hcs, hspace, hclose⟩ := exists_item_chars v (itemTail vs ++ rest)
      have hitem := each v List.mem_cons_self _ (valueEnds_itemTail vs rest)
      have htail : itemTail (v :: vs) ++ rest = ',' :: (v.chars ++ (itemTail vs ++ rest)) := by
        rw [itemTail, itemChars_cons, List.cons_append, List.append_assoc]
        exact List.cons_ne_nil v vs
      rw [hcs] at hitem
      rw [htail, hcs, readItems_next hspace hclose hitem,
        ih (fun item h => each item (List.mem_cons_of_mem v h)) (Nat.le_of_succ_le_succ hfuel)]
      rfl

theorem readItems_itemChars (each : ∀ item ∈ items, ReadBack depth item)
    (hfuel : items.length ≤ fuel) (rest : List Char) :
    readItems (readValue depth) (fuel + 1) true (itemChars items ++ rest) =
      .ok (items, rest) := by
  cases items with
  | nil => exact readItems_close true rest
  | cons v vs =>
    cases fuel with
    | zero => exact absurd hfuel (Nat.not_succ_le_zero _)
    | succ fuel =>
      obtain ⟨c, s, hcs, hspace, hclose⟩ := exists_item_chars v (itemTail vs ++ rest)
      have hitem := each v List.mem_cons_self _ (valueEnds_itemTail vs rest)
      rw [hcs] at hitem
      rw [itemChars_cons, List.append_assoc, hcs, readItems_first hspace hclose hitem,
        readItems_itemTail (fun item h => each item (List.mem_cons_of_mem v h))
          (Nat.le_of_succ_le_succ hfuel)]
      rfl

/-- What follows a member is read as the members that follow it. -/
theorem readMembers_memberTail (each : ∀ member ∈ members, ReadBack depth member.2)
    (hfuel : members.length ≤ fuel) (rest : List Char) :
    readMembers (readValue depth) (fuel + 1) false (memberTail members ++ rest) =
      .ok (members, rest) := by
  induction members generalizing fuel with
  | nil => exact readMembers_close false rest
  | cons m ms ih =>
    obtain ⟨name, v⟩ := m
    cases fuel with
    | zero => exact absurd hfuel (Nat.not_succ_le_zero _)
    | succ fuel =>
      have hvalue := each (name, v) List.mem_cons_self _ (valueEnds_memberTail ms rest)
      have htail : memberTail ((name, v) :: ms) ++ rest =
          ',' :: (stringChars name ++ ':' :: (v.chars ++ (memberTail ms ++ rest))) := by
        rw [memberTail, memberChars_cons]
        · simp
        · exact List.cons_ne_nil (name, v) ms
      rw [htail, readMembers_more (readNextName_next name _) hvalue,
        ih (fun member h => each member (List.mem_cons_of_mem _ h))
          (Nat.le_of_succ_le_succ hfuel)]
      rfl

theorem readMembers_memberChars (each : ∀ member ∈ members, ReadBack depth member.2)
    (hfuel : members.length ≤ fuel) (rest : List Char) :
    readMembers (readValue depth) (fuel + 1) true (memberChars members ++ rest) =
      .ok (members, rest) := by
  cases members with
  | nil => exact readMembers_close true rest
  | cons m ms =>
    obtain ⟨name, v⟩ := m
    cases fuel with
    | zero => exact absurd hfuel (Nat.not_succ_le_zero _)
    | succ fuel =>
      have hvalue := each (name, v) List.mem_cons_self _ (valueEnds_memberTail ms rest)
      have hsplit : memberChars ((name, v) :: ms) ++ rest =
          stringChars name ++ ':' :: (v.chars ++ (memberTail ms ++ rest)) := by
        rw [memberChars_cons]
        simp
      rw [hsplit, readMembers_more (readNextName_first name _) hvalue,
        readMembers_memberTail (fun member h => each member (List.mem_cons_of_mem _ h))
          (Nat.le_of_succ_le_succ hfuel)]
      rfl

/-- An array is read back if its items are. -/
theorem readBack_array (each : ∀ item ∈ items, ReadBack depth item) :
    ReadBack (depth + 1) (.array items) := by
  intro rest _
  have hopen : skipSpace ('[' :: (itemChars items ++ rest)) = '[' :: (itemChars items ++ rest) :=
    skipSpace_of_not rfl _
  have hfuel : items.length ≤ (itemChars items ++ rest).length := by
    have := length_lt_length_itemChars items
    rw [List.length_append]
    omega
  rw [chars, List.cons_append, readValue_array hopen, readItems_itemChars each hfuel]
  rfl

/-- An object is read back if the values of its members are, and if sorting has nothing to do. -/
theorem readBack_object (ordered : Ordered members)
    (each : ∀ member ∈ members, ReadBack depth member.2) :
    ReadBack (depth + 1) (.object members) := by
  intro rest _
  have hopen : skipSpace ('\x7b' :: (memberChars members ++ rest)) =
      '\x7b' :: (memberChars members ++ rest) := skipSpace_of_not rfl _
  have hfuel : members.length ≤ (memberChars members ++ rest).length := by
    have := length_lt_length_memberChars members
    rw [List.length_append]
    omega
  rw [chars, List.cons_append, readValue_object hopen, readMembers_memberChars each hfuel]
  show Except.ok (ofMembers members, rest) = _
  rw [ofMembers, ordered.sortMembers_eq]

end Lists

/-! ## Values -/

theorem readBack_bool (depth : Nat) (b : Bool) : ReadBack depth (.bool b) := by
  intro rest _
  cases b with
  | true =>
    rw [chars]
    unfold readValue
    rfl
  | false =>
    rw [chars]
    unfold readValue
    rfl

theorem readBack_null (depth : Nat) : ReadBack depth .null := by
  intro rest _
  rw [chars]
  unfold readValue
  rfl

theorem readBack_string (depth : Nat) (s : String) : ReadBack depth (.string s) := by
  intro rest _
  have hquote : ∀ s, skipSpace ('"' :: s) = '"' :: s := skipSpace_of_not rfl
  rw [chars, stringChars_append]
  unfold readValue
  rw [hquote]
  show (readString _ _ >>= fun p => .ok (Json.string (String.ofList p.1), p.2)) = _
  rw [readString_next]
  show Except.ok (Json.string (String.ofList s.toList), rest) = _
  rw [String.ofList_toList]

/-- **What is written is read back.** The value may stand anywhere in a text, at any depth that the
reader goes to, and what follows it is left as it is. -/
theorem readBack_of_integral {depth : Nat} {v : Json} (h : Integral depth v) (hkept : Kept v) :
    ReadBack depth v := by
  induction h with
  | null => exact readBack_null _
  | bool b => exact readBack_bool _ b
  | natural fits => exact fun _ hrest => readValue_natural fits hrest _
  | negative fits => exact fun _ hrest => readValue_negative fits hrest _
  | string s => exact readBack_string _ s
  | array each ih =>
    cases hkept with
    | array hkept => exact readBack_array fun item hitem => ih item hitem (hkept item hitem)
  | object each ih =>
    cases hkept with
    | object ordered hkept =>
      exact readBack_object ordered fun member hmember => ih member hmember (hkept member hmember)

/-- **A whole text is read as the value it was written from.** This is the form in which a key is
taken apart again. -/
theorem parse?_compact {v : Json} (h : Integral nestingLimit v) (hkept : Kept v) :
    parse? v.compact = some v := by
  have hread := readBack_of_integral h hkept [] valueEnds_nil
  rw [List.append_nil] at hread
  unfold parse? parse compact
  rw [String.toList_ofList, hread]
  rfl

end NodeRpc.Json
