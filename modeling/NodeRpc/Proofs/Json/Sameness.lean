import NodeRpc.Call.RequestKey
import Mathlib.Data.List.Induction
import Mathlib.Data.String.Basic
import Mathlib.Data.List.Perm.Lattice

/-!
# Values that are the same but for the order of members

`Same` says it without sorting anything: the same scalar, arrays item by item, and objects that hold
the same under every name. `Json.sorted` picks one value out of each class, and this file shows that
it picks the same one exactly for values that are the same (`sorted_eq_iff`).

The relation comes first and the sorting second, although the program only ever sorts. That two
values are equal after sorting is what the code can check, and it is not what anybody means by their
being the same: it would be true of any two values if sorting dropped a member. So `Same` is an
inductive relation that says for each kind of value what it asks, with a lookup for objects, and the
theorem is the bridge.

Nothing is asked of the objects. Where a name occurs twice the first member counts, for `lookup`
and, as sorting inserts from the back, for `sortedMembers` too, so the members of a sorted object
are in strictly increasing order of names whatever it was sorted from (`ordered_sortedMembers`), and
such members are determined by what they hold under each name (`eq_of_lookup_eq`). In the program a
name never occurs twice; values that are read are kept with each name once. But values are also
made, and a lemma that had to be told so would have to be told at every depth.
-/

namespace NodeRpc.Json

/-- The same value but for the order in which objects store their members. -/
inductive Same : Json → Json → Prop
  | null : Same .null .null
  | bool (b : Bool) : Same (.bool b) (.bool b)
  /-- Numbers by kind and value. -/
  | number (n : Number) : Same (.number n) (.number n)
  | string (s : String) : Same (.string s) (.string s)
  | array {xs ys : List Json} (items : List.Forall₂ Same xs ys) : Same (.array xs) (.array ys)
  /-- Members by name. -/
  | object {ms ns : List (String × Json)}
      (members : ∀ name, Option.Rel Same (ms.lookup name) (ns.lookup name)) :
      Same (.object ms) (.object ns)

/-! ## Members in order

Members that are in order are a map written down: there is one list for each map. This is where the
order in which an object stores its members is given up. -/

/-- Members in strictly increasing order of their names. -/
def Ordered (ms : List (String × Json)) : Prop := ms.Pairwise fun a b => a.1 < b.1

theorem lookup_cons_of_eq {name : String} {v : Json} {ms : List (String × Json)} :
    ((name, v) :: ms).lookup name = some v := by
  rw [List.lookup_cons, beq_self_eq_true]

theorem lookup_cons_of_ne {name other : String} {v : Json} {ms : List (String × Json)}
    (h : name ≠ other) : ((other, v) :: ms).lookup name = ms.lookup name := by
  rw [List.lookup_cons, beq_false_of_ne h]

/-- Insertion makes a name stand for the value and touches no other name. -/
theorem lookup_insert (name other : String) (v : Json) (ms : List (String × Json)) :
    (insert name v ms).lookup other = if other = name then some v else ms.lookup other := by
  induction ms with
  | nil =>
    by_cases h : other = name
    · rw [if_pos h, h, insert, lookup_cons_of_eq]
    · rw [if_neg h, insert, lookup_cons_of_ne h]
  | cons m ms ih =>
    obtain ⟨kept, w⟩ := m
    unfold insert
    by_cases hname : name = kept
    · subst hname
      rw [if_pos rfl]
      by_cases h : other = name
      · rw [if_pos h, h, lookup_cons_of_eq]
      · rw [if_neg h, lookup_cons_of_ne h, lookup_cons_of_ne h]
    · rw [if_neg hname]
      split
      · by_cases h : other = name
        · rw [if_pos h, h, lookup_cons_of_eq]
        · rw [if_neg h, lookup_cons_of_ne h]
      · by_cases h : other = kept
        · subst h
          rw [if_neg (Ne.symm hname), lookup_cons_of_eq, lookup_cons_of_eq]
        · rw [lookup_cons_of_ne h, ih, lookup_cons_of_ne h]

theorem mem_insert_fst {name : String} {v : Json} {ms : List (String × Json)}
    {m : String × Json} (h : m ∈ insert name v ms) : m.1 = name ∨ m ∈ ms := by
  induction ms with
  | nil =>
    rw [insert, List.mem_singleton] at h
    exact Or.inl (by rw [h])
  | cons n ms ih =>
    obtain ⟨kept, w⟩ := n
    unfold insert at h
    split at h
    · rcases List.mem_cons.mp h with rfl | h
      · exact Or.inl rfl
      · exact Or.inr (List.mem_cons_of_mem _ h)
    · split at h
      · rcases List.mem_cons.mp h with rfl | h
        · exact Or.inl rfl
        · exact Or.inr h
      · rcases List.mem_cons.mp h with rfl | h
        · exact Or.inr List.mem_cons_self
        · rcases ih h with h | h
          · exact Or.inl h
          · exact Or.inr (List.mem_cons_of_mem _ h)

theorem ordered_insert {ms : List (String × Json)} (h : Ordered ms) (name : String) (v : Json) :
    Ordered (insert name v ms) := by
  induction ms with
  | nil => exact List.pairwise_singleton _ _
  | cons m ms ih =>
    obtain ⟨kept, w⟩ := m
    obtain ⟨hlt, hms⟩ := List.pairwise_cons.mp h
    unfold insert
    by_cases hname : name = kept
    · subst hname
      rw [if_pos rfl]
      exact List.pairwise_cons.mpr ⟨hlt, hms⟩
    · rw [if_neg hname]
      by_cases hbefore : name < kept
      · rw [if_pos hbefore]
        refine List.pairwise_cons.mpr ⟨?_, h⟩
        intro n hn
        rcases List.mem_cons.mp hn with rfl | hn
        · exact hbefore
        · exact lt_trans hbefore (hlt n hn)
      · rw [if_neg hbefore]
        have hafter : kept < name := lt_of_le_of_ne (not_lt.mp hbefore) (Ne.symm hname)
        refine List.pairwise_cons.mpr ⟨?_, ih hms⟩
        intro n hn
        rcases mem_insert_fst hn with hn | hn
        · exact hn ▸ hafter
        · exact hlt n hn

/-- A name that comes before all members is not among them. -/
theorem lookup_eq_none_of_lt {name : String} {ms : List (String × Json)}
    (h : ∀ m ∈ ms, name < m.1) : ms.lookup name = none := by
  rw [List.lookup_eq_none_iff]
  intro m hm
  exact bne_iff_ne.mpr (ne_of_lt (h m hm))

/-- **Members in order are determined by what they hold under each name.** Only here is equality of
lists concluded from lookups; without an order they would agree up to a permutation. -/
theorem eq_of_lookup_eq {ms ns : List (String × Json)} (hms : Ordered ms) (hns : Ordered ns)
    (h : ∀ name, ms.lookup name = ns.lookup name) : ms = ns := by
  induction ms generalizing ns with
  | nil =>
    cases ns with
    | nil => rfl
    | cons n ns =>
      have := h n.1
      rw [lookup_cons_of_eq] at this
      cases this
  | cons m ms ih =>
    cases ns with
    | nil =>
      have := h m.1
      rw [lookup_cons_of_eq] at this
      cases this
    | cons n ns =>
      obtain ⟨a, v⟩ := m
      obtain ⟨b, w⟩ := n
      obtain ⟨ha, hmtail⟩ := List.pairwise_cons.mp hms
      obtain ⟨hb, hntail⟩ := List.pairwise_cons.mp hns
      -- the smaller of the two first names would be missing on the other side
      have hab : a = b := by
        rcases lt_trichotomy a b with hlt | heq | hlt
        · have hmiss := h a
          rw [lookup_cons_of_eq, lookup_cons_of_ne (ne_of_lt hlt),
            lookup_eq_none_of_lt fun n hn => lt_trans hlt (hb n hn)] at hmiss
          cases hmiss
        · exact heq
        · have hmiss := h b
          rw [lookup_cons_of_eq, lookup_cons_of_ne (ne_of_lt hlt),
            lookup_eq_none_of_lt fun m hm => lt_trans hlt (ha m hm)] at hmiss
          cases hmiss
      subst hab
      have hvalue := h a
      rw [lookup_cons_of_eq, lookup_cons_of_eq] at hvalue
      have hrest : ∀ name, ms.lookup name = ns.lookup name := by
        intro name
        by_cases hname : name = a
        · rw [hname, lookup_eq_none_of_lt ha, lookup_eq_none_of_lt hb]
        · have := h name
          rwa [lookup_cons_of_ne hname, lookup_cons_of_ne hname] at this
      rw [ih hmtail hntail hrest, Option.some.inj hvalue]

theorem Ordered.names_nodup {ms : List (String × Json)} (h : Ordered ms) :
    (ms.map Prod.fst).Nodup :=
  (List.pairwise_map.mpr h).imp ne_of_lt

theorem ordered_sortMembers (ms : List (String × Json)) : Ordered (sortMembers ms) := by
  induction ms using List.reverseRecOn with
  | nil => exact List.Pairwise.nil
  | append_singleton ms m ih =>
    have hstep : sortMembers (ms ++ [m]) = insert m.1 m.2 (sortMembers ms) :=
      List.foldl_append
    rw [hstep]
    exact ordered_insert ih m.1 m.2

/-! ## Sorting picks one of each class

The recursion of the comparison is that of a value. An array is compared along its items, and the
case of an object is not along its members but by name, so the induction needs a lemma that finds
the member of a name and compares what it holds (`sorted_eq_iff_of_lookup`). Scalars have nothing
inside, and all four kinds of them are one case. -/

theorem ordered_sortedMembers (ms : List (String × Json)) : Ordered (sortedMembers ms) := by
  induction ms with
  | nil => exact List.Pairwise.nil
  | cons m ms ih => exact ordered_insert ih m.1 (sorted m.2)

/-- A sorted object holds under each name what the object held, sorted. -/
theorem lookup_sortedMembers (ms : List (String × Json)) (name : String) :
    (sortedMembers ms).lookup name = (ms.lookup name).map sorted := by
  induction ms with
  | nil => rfl
  | cons m ms ih =>
    obtain ⟨other, v⟩ := m
    rw [sortedMembers, lookup_insert]
    by_cases h : name = other
    · rw [if_pos h, h, lookup_cons_of_eq]
      rfl
    · rw [if_neg h, lookup_cons_of_ne h, ih]

theorem sortedMembers_eq_iff {ms ns : List (String × Json)} :
    sortedMembers ms = sortedMembers ns ↔
      ∀ name, (ms.lookup name).map sorted = (ns.lookup name).map sorted := by
  constructor
  · intro h name
    rw [← lookup_sortedMembers, h, lookup_sortedMembers]
  · intro h
    apply eq_of_lookup_eq (ordered_sortedMembers ms) (ordered_sortedMembers ns)
    intro name
    rw [lookup_sortedMembers, lookup_sortedMembers, h]

theorem sortedItems_eq_map (xs : List Json) : sortedItems xs = xs.map sorted := by
  induction xs with
  | nil => rfl
  | cons x xs ih => rw [sortedItems, ih, List.map_cons]

/-- Neither an array nor an object, so without anything inside that could be sorted. -/
def IsScalar : Json → Prop
  | .array _ => False
  | .object _ => False
  | _ => True

theorem IsScalar.same_iff {v w : Json} (hv : v.IsScalar) : Same v w ↔ v = w := by
  constructor
  · intro h
    cases h with
    | array => exact hv.elim
    | object => exact hv.elim
    | _ => rfl
  · rintro rfl
    cases v with
    | null => exact .null
    | bool b => exact .bool b
    | number n => exact .number n
    | string s => exact .string s
    | array => exact hv.elim
    | object => exact hv.elim

/-- A value with nothing inside is sorted already, so equal after sorting, equal and the same are
one thing. -/
theorem sorted_eq_iff_of_isScalar {v w : Json} (hv : v.IsScalar) :
    v.sorted = w.sorted ↔ Same v w := by
  rw [hv.same_iff]
  cases v with
  | array => exact hv.elim
  | object => exact hv.elim
  | _ => cases w <;> simp [sorted]

/-- Two lookups agree after sorting exactly if they are related, where the values found do. -/
theorem map_sorted_eq_iff_rel {a b : Option Json}
    (h : ∀ v w, a = some v → (v.sorted = w.sorted ↔ Same v w)) :
    a.map sorted = b.map sorted ↔ Option.Rel Same a b := by
  cases a with
  | none => cases b <;> simp
  | some v =>
    cases b with
    | none => simp
    | some w => simp [h v w rfl]

mutual

/-- **Two values are the same exactly if they are equal after sorting.** An array is compared item
by item and an object name by name. Everything else is sorted already. -/
theorem sorted_eq_iff (v w : Json) : v.sorted = w.sorted ↔ Same v w := by
  match v with
  | .null => exact sorted_eq_iff_of_isScalar trivial
  | .bool _ => exact sorted_eq_iff_of_isScalar trivial
  | .number _ => exact sorted_eq_iff_of_isScalar trivial
  | .string _ => exact sorted_eq_iff_of_isScalar trivial
  | .array xs =>
    cases w with
    | array ys =>
      rw [sorted, sorted, Json.array.injEq, sortedItems_eq_iff xs ys]
      exact ⟨fun h => .array h, fun h => by cases h; assumption⟩
    | _ => exact ⟨fun h => by simp [sorted] at h, fun h => by cases h⟩
  | .object ms =>
    cases w with
    | object ns =>
      have hnames : sortedMembers ms = sortedMembers ns ↔
          ∀ name, Option.Rel Same (ms.lookup name) (ns.lookup name) :=
        sortedMembers_eq_iff.trans <| forall_congr' fun name =>
          map_sorted_eq_iff_rel fun _ _ hv => sorted_eq_iff_of_lookup ms hv
      rw [sorted, sorted, Json.object.injEq, hnames]
      exact ⟨fun h => .object h, fun h => by cases h; assumption⟩
    | _ => exact ⟨fun h => by simp [sorted] at h, fun h => by cases h⟩

theorem sortedItems_eq_iff (xs ys : List Json) :
    sortedItems xs = sortedItems ys ↔ List.Forall₂ Same xs ys := by
  match xs, ys with
  | [], [] => exact ⟨fun _ => .nil, fun _ => rfl⟩
  | [], _ :: _ => exact ⟨fun h => by simp [sortedItems] at h, fun h => by cases h⟩
  | _ :: _, [] => exact ⟨fun h => by simp [sortedItems] at h, fun h => by cases h⟩
  | x :: xs, y :: ys =>
    rw [sortedItems, sortedItems, List.cons.injEq, sorted_eq_iff x y, sortedItems_eq_iff xs ys,
      List.forall₂_cons]

theorem sorted_eq_iff_of_lookup (ms : List (String × Json)) {name : String} {v w : Json}
    (h : ms.lookup name = some v) : v.sorted = w.sorted ↔ Same v w := by
  match ms with
  | [] => cases h
  | (other, u) :: ms =>
    by_cases hname : name = other
    · rw [hname, lookup_cons_of_eq] at h
      rw [← Option.some.inj h]
      exact sorted_eq_iff u w
    · rw [lookup_cons_of_ne hname] at h
      exact sorted_eq_iff_of_lookup ms h

end

theorem map_sorted_eq_iff {xs ys : List Json} :
    xs.map sorted = ys.map sorted ↔ List.Forall₂ Same xs ys := by
  rw [← sortedItems_eq_map, ← sortedItems_eq_map, sortedItems_eq_iff]

/-! ## Being the same -/

/-- Being the same is an equivalence, as it has to be if one key is to stand for many calls. All
three laws come from equality, by way of sorting. -/
theorem Same.refl (v : Json) : Same v v := (sorted_eq_iff v v).mp rfl

theorem Same.symm {v w : Json} (h : Same v w) : Same w v :=
  (sorted_eq_iff w v).mp ((sorted_eq_iff v w).mpr h).symm

theorem Same.trans {u v w : Json} (h : Same u v) (h2 : Same v w) : Same u w :=
  (sorted_eq_iff u w).mp (((sorted_eq_iff u v).mpr h).trans ((sorted_eq_iff v w).mpr h2))

theorem lookup_eq_some_iff {ms : List (String × Json)} (hnames : (ms.map Prod.fst).Nodup)
    {name : String} {v : Json} : ms.lookup name = some v ↔ (name, v) ∈ ms := by
  induction ms with
  | nil => simp
  | cons m ms ih =>
    obtain ⟨other, w⟩ := m
    rw [List.map_cons, List.nodup_cons] at hnames
    obtain ⟨hother, hnames⟩ := hnames
    rw [List.mem_cons, Prod.mk.injEq]
    by_cases h : name = other
    · subst h
      rw [lookup_cons_of_eq, Option.some.injEq]
      constructor
      · rintro rfl
        exact Or.inl ⟨rfl, rfl⟩
      · rintro (⟨-, rfl⟩ | hmem)
        · rfl
        · exact absurd (List.mem_map_of_mem hmem) hother
    · rw [lookup_cons_of_ne h, ih hnames]
      exact ⟨Or.inr, fun hmem => hmem.resolve_left fun heq => h heq.1⟩

/-! ## Members put in order

`sortMembers` puts members in order as they are added to an object, one after the other, so that
here the last one of a name counts. -/

/-- Of the members of one name the last one counts. -/
theorem lookup_sortMembers (name : String) (ms : List (String × Json)) :
    (sortMembers ms).lookup name = ms.reverse.lookup name := by
  induction ms using List.reverseRecOn with
  | nil => rfl
  | append_singleton ms m ih =>
    have hstep : sortMembers (ms ++ [m]) = insert m.1 m.2 (sortMembers ms) :=
      List.foldl_append
    rw [hstep, lookup_insert, ih, List.reverse_append]
    by_cases h : name = m.1
    · rw [if_pos h, h]
      exact lookup_cons_of_eq.symm
    · rw [if_neg h]
      exact (lookup_cons_of_ne h).symm

/-- Where no name is repeated it does not matter which member of a name counts. -/
theorem lookup_sortMembers_of_nodup {ms : List (String × Json)} (h : (ms.map Prod.fst).Nodup)
    (name : String) : (sortMembers ms).lookup name = ms.lookup name := by
  have hreverse : (ms.reverse.map Prod.fst).Nodup := by
    rw [List.map_reverse]
    exact List.nodup_reverse.mpr h
  rw [lookup_sortMembers]
  apply Option.ext
  intro v
  rw [lookup_eq_some_iff hreverse, lookup_eq_some_iff h, List.mem_reverse]

/-- Members that are in order stay as they are. -/
theorem Ordered.sortMembers_eq {ms : List (String × Json)} (h : Ordered ms) :
    sortMembers ms = ms := by
  apply eq_of_lookup_eq (ordered_sortMembers ms) h
  intro name
  exact lookup_sortMembers_of_nodup h.names_nodup name

end NodeRpc.Json
