import NodeRpc.Call.Coalescer
import Mathlib.Data.List.Nodup

/-!
# The table and its publishers

A publisher that acts removes its key from the table, and it does so without checking that the entry
under the key is its own. Read by itself that line looks wrong: a publisher that acts late could
remove the entry of the next round of the key, whose callers would then be joined by nobody, and the
next caller would start a third round beside the second. It is safe for a reason that stands nowhere
in the operation, and this module is that reason.

The reason is an invariant, `Coalescer.Sound`: the table *is* the list of publishers that have not
acted, entry by entry. A key has at most one of them, so the entry that is removed under a key is
the one that publisher put there; and a slot is empty exactly as long as there is somebody left to
write it, so no wait is ever found closed without an outcome. The last clause, `slot_empty_iff`, is
the one that has to be an iff. From left to right it says that nobody waits in vain, from right to
left that a slot is written once.

The two operations that change the table are each given one equation here, `Sound.acquire_cases` and
`publish_of_mem`. What builds on the table goes by these and by the invariant, and does not open the
operations again.

What is not here is any assumption about who uses the table, or how often.
`NodeRpc.Proofs.Call.Rounds` drops the last one that could be suspected, that a publisher is used
once, and `NodeRpc.Proofs.Call.Trips` is where the dispatcher's own lists come in.
-/

namespace NodeRpc

/-- The entry of the table that a publisher answers for. Its key is what the publisher removes, and
its slot is what the publisher writes. -/
def Publisher.entry (p : Publisher) : RequestKey × Pending := (p.key, ⟨p.slot⟩)

namespace Coalescer

/-- The table has one entry for each publisher that has not acted, and they write different slots
under different keys. What is in the slots is said for all numbers at once, also for those beyond
the last slot, so that a slot which is not there need not be told apart from one that is filled. -/
structure Sound (c : Coalescer) : Prop where
  table_eq : c.table = c.publishers.map Publisher.entry
  keys_nodup : (c.publishers.map (·.key)).Nodup
  slots_nodup : (c.publishers.map (·.slot)).Nodup
  /-- The empty slots are those that a publisher is left for. -/
  slot_empty_iff : ∀ slot, c.slots[slot]? = some none ↔ slot ∈ c.publishers.map (·.slot)

theorem sound_empty : empty.Sound := by
  refine ⟨rfl, List.nodup_nil, List.nodup_nil, ?_⟩
  intro slot
  simp [empty]

theorem Sound.slot_lt {c : Coalescer} (h : c.Sound) {p : Publisher} (hp : p ∈ c.publishers) :
    p.slot < c.slots.size := by
  have hempty := (h.slot_empty_iff p.slot).mpr (List.mem_map_of_mem hp)
  exact (Array.getElem?_eq_some_iff.mp hempty).1

theorem Sound.eq_of_key_eq {c : Coalescer} (h : c.Sound) {p q : Publisher}
    (hp : p ∈ c.publishers) (hq : q ∈ c.publishers) (hkey : p.key = q.key) : p = q :=
  List.inj_on_of_nodup_map h.keys_nodup hp hq hkey

theorem Sound.eq_of_slot_eq {c : Coalescer} (h : c.Sound) {p q : Publisher}
    (hp : p ∈ c.publishers) (hq : q ∈ c.publishers) (hslot : p.slot = q.slot) : p = q :=
  List.inj_on_of_nodup_map h.slots_nodup hp hq hslot

/-! ## Looking up a key

The table is a list with the newest entry in front, and what is looked up in it is the newest entry
of a key. With one publisher for each key there is nothing newer to find, so a lookup is a search
among the publishers. -/

theorem lookup_entries (ps : List Publisher) (key : RequestKey) :
    (ps.map Publisher.entry).lookup key =
      (ps.find? (·.key = key)).map fun p => ⟨p.slot⟩ := by
  induction ps with
  | nil => rfl
  | cons p ps ih =>
    rw [List.map_cons, Publisher.entry, List.lookup_cons, List.find?_cons]
    by_cases hkey : p.key = key
    · simp [hkey]
    · have hne : (key == p.key) = false := beq_false_of_ne (Ne.symm hkey)
      simp [hkey, hne, ih]

theorem Sound.lookup_eq {c : Coalescer} (h : c.Sound) (key : RequestKey) :
    c.table.lookup key = (c.publishers.find? (·.key = key)).map fun p => ⟨p.slot⟩ := by
  rw [h.table_eq, lookup_entries]

/-- **A key is in the table exactly if a publisher is left for it.** From left to right this means
that whoever joins a round has somebody who will write it, and from right to left that a publisher
removes an entry when it acts. -/
theorem Sound.lookup_isSome_iff {c : Coalescer} (h : c.Sound) (key : RequestKey) :
    (c.table.lookup key).isSome ↔ key ∈ c.publishers.map (·.key) := by
  rw [h.lookup_eq, Option.isSome_map, List.find?_isSome]
  simp

/-! ## Acquiring

Acquiring has two outcomes and no third: the caller joins the round of the one publisher of the key,
or there is no such publisher and it starts a round. `acquire_cases` is an equation in both cases,
for the state as well as for what the caller gets. -/

/-- The state after a round was started for a key: one more entry, one more slot, which is empty,
and one more publisher, which is the only one that can fill it. -/
def begun (c : Coalescer) (key : RequestKey) : Coalescer :=
  { c with
    table := (key, ⟨c.slots.size⟩) :: c.table
    slots := c.slots.push none
    publishers := ⟨key, c.slots.size⟩ :: c.publishers }

/-- **What asking for a key does**: it joins the round of the one publisher of the key, or
there is none and it starts a round in a new slot. -/
theorem Sound.acquire_cases {c : Coalescer} (h : c.Sound) (key : RequestKey) :
    (∃ p ∈ c.publishers, p.key = key ∧ c.acquire key = (.waiter ⟨p.slot⟩, c)) ∨
      ((∀ p ∈ c.publishers, p.key ≠ key) ∧
        c.acquire key = (.owner ⟨c.slots.size⟩ ⟨key, c.slots.size⟩, c.begun key)) := by
  unfold acquire
  rw [h.lookup_eq]
  cases hfind : c.publishers.find? (·.key = key) with
  | some p =>
    refine Or.inl ⟨p, List.mem_of_find?_eq_some hfind, ?_, rfl⟩
    simpa using List.find?_some hfind
  | none =>
    refine Or.inr ⟨?_, rfl⟩
    intro p hp
    simpa using List.find?_eq_none.mp hfind p hp

theorem Sound.begun {c : Coalescer} (h : c.Sound) {key : RequestKey}
    (hkey : ∀ p ∈ c.publishers, p.key ≠ key) : (c.begun key).Sound := by
  refine ⟨?_, ?_, ?_, ?_⟩
  · show (key, (⟨c.slots.size⟩ : Pending)) :: c.table = _
    rw [h.table_eq]
    rfl
  · refine List.nodup_cons.mpr ⟨?_, h.keys_nodup⟩
    intro hmem
    obtain ⟨p, hp, heq⟩ := List.mem_map.mp hmem
    exact hkey p hp heq
  · -- the slots in use are below the size, and the new one is the size
    refine List.nodup_cons.mpr ⟨?_, h.slots_nodup⟩
    intro hmem
    obtain ⟨p, hp, heq⟩ := List.mem_map.mp hmem
    have hlt := h.slot_lt hp
    dsimp only at heq
    omega
  · intro slot
    show (c.slots.push none)[slot]? = some none ↔ slot ∈ c.slots.size :: c.publishers.map (·.slot)
    rw [Array.getElem?_push, List.mem_cons, ← h.slot_empty_iff]
    by_cases hsize : slot = c.slots.size
    · rw [if_pos hsize]
      exact ⟨fun _ => Or.inl hsize, fun _ => rfl⟩
    · rw [if_neg hsize]
      exact ⟨Or.inr, fun hor => hor.resolve_left hsize⟩

/-! ## Publishing

The step that the invariant is for. `Sound.filter_table` says that removing by key and removing by
identity are one thing here, and `Sound.dropPublisher_publish` that the drop that follows every
publication finds nothing left to do. -/

/-- The state after a publisher that had not acted wrote its slot. -/
def resolved (c : Coalescer) (p : Publisher) (outcome : Outcome) : Coalescer :=
  { table := c.table.filter fun (key, _) => key ≠ p.key
    slots := c.slots.setIfInBounds p.slot (some ⟨c.published, outcome⟩)
    publishers := c.publishers.erase p
    published := c.published + 1 }

theorem publish_of_mem {c : Coalescer} {p : Publisher} (hp : p ∈ c.publishers)
    (outcome : Outcome) : c.publish p outcome = c.resolved p outcome := by
  unfold publish
  rw [if_pos hp]
  rfl

theorem publish_of_not_mem {c : Coalescer} {p : Publisher} (hp : p ∉ c.publishers)
    (outcome : Outcome) : c.publish p outcome = c := by
  unfold publish
  rw [if_neg hp]

theorem Sound.publishers_nodup {c : Coalescer} (h : c.Sound) : c.publishers.Nodup :=
  h.slots_nodup.of_map _

theorem Sound.erase_eq_filter {c : Coalescer} (h : c.Sound) {p : Publisher}
    (hp : p ∈ c.publishers) : c.publishers.erase p = c.publishers.filter (·.slot ≠ p.slot) := by
  rw [h.publishers_nodup.erase_eq_filter]
  apply List.filter_congr
  intro q hq
  by_cases hpq : q = p
  · simp [hpq]
  · have hslot : q.slot ≠ p.slot := fun heq => hpq (h.eq_of_slot_eq hq hp heq)
    simp [hpq, hslot]

/-- The entry removed under a publisher's key is the publisher's own. This is where the key is good
enough an identity, as no other publisher has it while this one is left to act. -/
theorem Sound.filter_table {c : Coalescer} (h : c.Sound) {p : Publisher}
    (hp : p ∈ c.publishers) :
    c.table.filter (fun (key, _) => key ≠ p.key) = (c.publishers.erase p).map Publisher.entry := by
  rw [h.table_eq, h.publishers_nodup.erase_eq_filter, List.filter_map]
  congr 1
  apply List.filter_congr
  intro q hq
  by_cases hpq : q = p
  · simp [hpq, Publisher.entry]
  · have hkey : q.key ≠ p.key := fun heq => hpq (h.eq_of_key_eq hq hp heq)
    simp [hpq, Publisher.entry, hkey]

theorem Sound.resolved {c : Coalescer} (h : c.Sound) {p : Publisher} (hp : p ∈ c.publishers)
    (outcome : Outcome) : (c.resolved p outcome).Sound := by
  have hsub : (c.publishers.erase p).Sublist c.publishers := List.erase_sublist
  refine ⟨h.filter_table hp, h.keys_nodup.sublist (hsub.map _),
    h.slots_nodup.sublist (hsub.map _), ?_⟩
  intro slot
  show (c.slots.setIfInBounds p.slot (some ⟨c.published, outcome⟩))[slot]? = some none ↔
    slot ∈ (c.publishers.erase p).map (·.slot)
  have hmem : slot ∈ (c.publishers.erase p).map (·.slot) ↔
      slot ∈ c.publishers.map (·.slot) ∧ slot ≠ p.slot := by
    rw [h.erase_eq_filter hp]
    simp only [List.mem_map, List.mem_filter, decide_eq_true_eq, ne_eq]
    constructor
    · rintro ⟨q, ⟨hq, hne⟩, rfl⟩
      exact ⟨⟨q, hq, rfl⟩, hne⟩
    · rintro ⟨⟨q, hq, rfl⟩, hne⟩
      exact ⟨q, ⟨hq, hne⟩, rfl⟩
  rw [hmem, ← h.slot_empty_iff, Array.getElem?_setIfInBounds]
  by_cases hslot : p.slot = slot
  · -- the slot just written is not empty
    subst hslot
    rw [if_pos rfl, if_pos (h.slot_lt hp)]
    simp
  · rw [if_neg hslot]
    exact ⟨fun hnone => ⟨hnone, Ne.symm hslot⟩, And.left⟩

/-- **A publisher acts at most once**: giving up a right that was used does nothing. A publisher is
dropped after every round, also after one that was published, so without this each outcome would be
followed by another that says the round was abandoned. -/
theorem Sound.dropPublisher_publish {c : Coalescer} (h : c.Sound) {p : Publisher}
    (hp : p ∈ c.publishers) (outcome : Outcome) :
    (c.publish p outcome).dropPublisher p = c.publish p outcome := by
  rw [publish_of_mem hp]
  refine publish_of_not_mem ?_ _
  show p ∉ c.publishers.erase p
  exact h.publishers_nodup.not_mem_erase

/-! ## Waiting -/

theorem Sound.wait_of_mem {c : Coalescer} (h : c.Sound) {slot : Nat}
    (hslot : slot ∈ c.publishers.map (·.slot)) : c.wait ⟨slot⟩ = .pending := by
  have hempty := (h.slot_empty_iff slot).mpr hslot
  have hany : c.publishers.any (·.slot = slot) = true := by
    obtain ⟨p, hp, heq⟩ := List.mem_map.mp hslot
    exact List.any_eq_true.mpr ⟨p, hp, by simpa using heq⟩
  unfold wait tryGet
  rw [hempty]
  simp [hany]

/-- A wait for the slot just written ends with the outcome written. -/
theorem Sound.wait_resolved {c : Coalescer} (h : c.Sound) {p : Publisher}
    (hp : p ∈ c.publishers) (outcome : Outcome) :
    (c.resolved p outcome).wait ⟨p.slot⟩ = .resolved ⟨c.published, outcome⟩ := by
  have hslot : (c.resolved p outcome).slots[p.slot]? = some (some ⟨c.published, outcome⟩) := by
    show (c.slots.setIfInBounds p.slot (some ⟨c.published, outcome⟩))[p.slot]? = _
    rw [Array.getElem?_setIfInBounds, if_pos rfl, if_pos (h.slot_lt hp)]
  unfold wait tryGet
  rw [hslot]
  rfl

end Coalescer
end NodeRpc
