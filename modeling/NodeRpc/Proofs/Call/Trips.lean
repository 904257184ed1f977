import NodeRpc.Call.Dispatcher
import NodeRpc.Proofs.Call.Table

/-!
# What one step of the dispatcher does

The dispatcher holds three lists that have to agree: the publishers in its table, the round trips
that are outstanding, and the callers that wait. `Dispatcher.Sound` says how: each round trip holds
one of the publishers, for the key of its own request, and each caller waits for a slot that an
outstanding round trip is going to write.

Nothing in the machine keeps these lists together by construction. They are changed at different
places, a caller may leave while its round trip goes on, and a round trip may end with a publication
or without one. That they agree is an invariant like any other, it is proved for every event in
every state where it holds, and it has no hypothesis about the events: `Sound.run` is about any list
of them, among them round trips that complete twice, slots that were never used, and callers that
leave without having come.

With that a step can be said in full. `Sound.call_cases` and `Sound.finishTrip_cases` are the only
places where the machine is opened; every later fact about runs is a case analysis over them. The
states they name are `joined`, `begun` and `ended`. Both say what is *sent* and who *ends* beside
what the state is, so that an account of the requests or of the endings needs no second look at the
machine.

The last two facts, `Sound.fresh_step` and `Sound.fresh_run`, are about slots and not about keys. A
key comes back, a slot does not, and this is how a round trip is told from a later one that asks for
the same.
-/

namespace NodeRpc

namespace Trip

/-- The slot that an outstanding round trip is known by. -/
def slot (t : Trip) : Nat := t.publisher.slot

/-- The key of what a round trip asked for. -/
def key (t : Trip) : RequestKey := .ofCall t.method t.params

end Trip

namespace Dispatcher

/-- Publishers, round trips and callers agree. The fourth clause is the one that no caller is
stranded by: it is not only that a caller waits for some slot, but that a round trip is outstanding
which will write it. -/
structure Sound (d : Dispatcher) : Prop where
  coalescer : d.coalescer.Sound
  /-- The round trips hold the publishers that have not acted; the last started comes
  first in the table. -/
  publishers_eq : d.coalescer.publishers = (d.trips.map (·.publisher)).reverse
  key_eq : ∀ t ∈ d.trips, t.publisher.key = t.key
  /-- Whoever waits, waits for an outstanding round trip. -/
  waits : ∀ w ∈ d.waiting, ∃ t ∈ d.trips, w.pending = ⟨t.slot⟩

theorem sound_empty : empty.Sound := by
  refine ⟨Coalescer.sound_empty, rfl, ?_, ?_⟩
  · intro t ht
    cases ht
  · intro w hw
    cases hw

section Outstanding

variable {d : Dispatcher} (h : d.Sound)

include h

theorem Sound.publisher_mem {t : Trip} (ht : t ∈ d.trips) :
    t.publisher ∈ d.coalescer.publishers := by
  rw [h.publishers_eq, List.mem_reverse]
  exact List.mem_map_of_mem ht

theorem Sound.exists_trip {p : Publisher} (hp : p ∈ d.coalescer.publishers) :
    ∃ t ∈ d.trips, t.publisher = p := by
  rw [h.publishers_eq, List.mem_reverse] at hp
  exact List.mem_map.mp hp

/-- The slots of the round trips are different. -/
theorem Sound.slots_nodup : (d.trips.map Trip.slot).Nodup := by
  have hslots := h.coalescer.slots_nodup
  rw [h.publishers_eq, List.map_reverse, List.nodup_reverse, List.map_map] at hslots
  exact hslots

/-- The keys of the round trips are those of their publishers. -/
theorem Sound.keys_eq : d.trips.map Trip.key = (d.coalescer.publishers.map (·.key)).reverse := by
  rw [h.publishers_eq, List.map_reverse, List.reverse_reverse, List.map_map]
  apply List.map_congr_left
  intro t ht
  exact (h.key_eq t ht).symm

/-- **No two outstanding round trips have one key.** Each of them has a publisher that is not spent,
and of these no two have one key. -/
theorem Sound.keys_nodup : (d.trips.map Trip.key).Nodup := by
  rw [h.keys_eq, List.nodup_reverse]
  exact h.coalescer.keys_nodup

/-- What is on the wire are the round trips that are outstanding. -/
theorem Sound.inFlight_eq : d.inFlight = d.trips.length := by
  unfold inFlight Coalescer.inFlight
  rw [h.coalescer.table_eq, h.publishers_eq]
  simp

theorem Sound.eq_of_slot_eq {t u : Trip} (ht : t ∈ d.trips) (hu : u ∈ d.trips)
    (hslot : t.slot = u.slot) : t = u :=
  List.inj_on_of_nodup_map h.slots_nodup ht hu hslot

theorem Sound.slot_lt {t : Trip} (ht : t ∈ d.trips) : t.slot < d.coalescer.slots.size :=
  h.coalescer.slot_lt (h.publisher_mem ht)

end Outstanding

/-! ## A caller comes

It joins or it starts a round trip. That a round trip which is joined has the key of the caller is
not enough for later purposes. It has to be *the* round trip of the key, and that is
`Sound.keys_nodup`. -/

/-- The round trip that is started for a call. -/
def newTrip (d : Dispatcher) (method : String) (params : List Json) : Trip :=
  ⟨⟨.ofCall method params, d.coalescer.slots.size⟩, method, params⟩

/-- The state after a caller joined a round trip. -/
def joined (d : Dispatcher) (caller : CallerId) (t : Trip) : Dispatcher :=
  { d with waiting := d.waiting ++ [⟨caller, ⟨t.slot⟩⟩] }

/-- The state after a caller started a round trip. -/
def begun (d : Dispatcher) (caller : CallerId) (method : String) (params : List Json) :
    Dispatcher where
  coalescer := d.coalescer.begun (.ofCall method params)
  trips := d.trips ++ [d.newTrip method params]
  waiting := d.waiting ++ [⟨caller, ⟨(d.newTrip method params).slot⟩⟩]

/-- **What a caller that comes does**: it joins the round trip of its key, and nothing is
sent, or no round trip of its key is outstanding and it starts one. -/
theorem Sound.call_cases {d : Dispatcher} (h : d.Sound) (caller : CallerId) (method : String)
    (params : List Json) :
    (∃ t ∈ d.trips, t.key = .ofCall method params ∧
      d.call caller method params = (d.joined caller t, [.log (.joined method)])) ∨
    ((∀ t ∈ d.trips, t.key ≠ .ofCall method params) ∧
      d.call caller method params = (d.begun caller method params,
        [.log (.dispatched method params.length),
          .send (d.newTrip method params).slot method params])) := by
  unfold call
  rcases h.coalescer.acquire_cases (.ofCall method params) with ⟨p, hp, hkey, hacq⟩ | ⟨hnone, hacq⟩
  · obtain ⟨t, ht, rfl⟩ := h.exists_trip hp
    refine Or.inl ⟨t, ht, (h.key_eq t ht).symm.trans hkey, ?_⟩
    rw [hacq]
    rfl
  · refine Or.inr ⟨?_, ?_⟩
    · intro t ht
      rw [← h.key_eq t ht]
      exact hnone t.publisher (h.publisher_mem ht)
    · rw [hacq]
      rfl

theorem Sound.joined {d : Dispatcher} (h : d.Sound) (caller : CallerId) {t : Trip}
    (ht : t ∈ d.trips) : (d.joined caller t).Sound := by
  refine ⟨h.coalescer, h.publishers_eq, h.key_eq, ?_⟩
  intro w hw
  rcases List.mem_append.mp hw with hw | hw
  · exact h.waits w hw
  · rw [List.mem_singleton] at hw
    exact ⟨t, ht, by rw [hw]⟩

theorem Sound.begun {d : Dispatcher} (h : d.Sound) (caller : CallerId) {method : String}
    {params : List Json} (hkey : ∀ t ∈ d.trips, t.key ≠ .ofCall method params) :
    (d.begun caller method params).Sound := by
  have hpublishers : ∀ p ∈ d.coalescer.publishers, p.key ≠ .ofCall method params := by
    intro p hp
    obtain ⟨t, ht, rfl⟩ := h.exists_trip hp
    rw [h.key_eq t ht]
    exact hkey t ht
  refine ⟨h.coalescer.begun hpublishers, ?_, ?_, ?_⟩
  · -- the new publisher comes first in the table and the new round trip last
    show ⟨.ofCall method params, d.coalescer.slots.size⟩ :: d.coalescer.publishers =
      ((d.trips ++ [d.newTrip method params]).map (·.publisher)).reverse
    rw [List.map_append, List.reverse_append, ← h.publishers_eq]
    rfl
  · intro t ht
    rcases List.mem_append.mp ht with ht | ht
    · exact h.key_eq t ht
    · rw [List.mem_singleton] at ht
      rw [ht]
      rfl
  · intro w hw
    rcases List.mem_append.mp hw with hw | hw
    · obtain ⟨t, ht, heq⟩ := h.waits w hw
      exact ⟨t, List.mem_append_left _ ht, heq⟩
    · rw [List.mem_singleton] at hw
      exact ⟨d.newTrip method params, List.mem_append_right _ (List.mem_singleton_self _),
        by rw [hw]⟩

/-- No round trip ends because a caller comes. -/
theorem Sound.mem_trips_call {d : Dispatcher} (h : d.Sound) (caller : CallerId)
    (method : String) (params : List Json) {t : Trip} (ht : t ∈ d.trips) :
    t ∈ (d.call caller method params).1.trips := by
  rcases h.call_cases caller method params with ⟨u, -, -, heq⟩ | ⟨-, heq⟩
  · rw [heq]
    exact ht
  · rw [heq]
    exact List.mem_append_left _ ht

/-- Who waits after a caller came was waiting before, or is that caller and waits for a round
trip of its key. -/
theorem Sound.mem_waiting_call {d : Dispatcher} (h : d.Sound) {caller : CallerId}
    {method : String} {params : List Json} {w : Waiting}
    (hw : w ∈ (d.call caller method params).1.waiting) :
    w ∈ d.waiting ∨ (w.caller = caller ∧ ∃ t ∈ (d.call caller method params).1.trips,
      w.pending = ⟨t.slot⟩ ∧ t.key = .ofCall method params ∧
      (t ∈ d.trips ∨ t = d.newTrip method params)) := by
  rcases h.call_cases caller method params with ⟨t, ht, hkey, heq⟩ | ⟨-, heq⟩
  · rw [heq] at hw ⊢
    rcases List.mem_append.mp hw with hw | hw
    · exact Or.inl hw
    · rw [List.mem_singleton] at hw
      rw [hw]
      exact Or.inr ⟨rfl, t, ht, rfl, hkey, Or.inl ht⟩
  · rw [heq] at hw ⊢
    rcases List.mem_append.mp hw with hw | hw
    · exact Or.inl hw
    · rw [List.mem_singleton] at hw
      rw [hw]
      exact Or.inr ⟨rfl, d.newTrip method params,
        List.mem_append_right _ (List.mem_singleton_self _), rfl, rfl, Or.inr rfl⟩

theorem Sound.leave {d : Dispatcher} (h : d.Sound) (caller : CallerId) :
    (d.leave caller).Sound :=
  ⟨h.coalescer, h.publishers_eq, h.key_eq, fun w hw => h.waits w (List.mem_of_mem_filter hw)⟩

/-! ## A round trip ends

The hard case of the machine. An outcome goes into a slot, the key goes out of the table, the
publisher is dropped, and then every caller that waits is looked at. What comes out is short: those
who waited for this slot end, with this outcome, and everybody else is where they were
(`Sound.finishTrip_cases`). -/

/-- What those who share a round trip get from the way it ended. If it died without an outcome, they
are told so. -/
def shared (outcome : Option Outcome) : Outcome := outcome.getD (.error .aborted)

/-- The state after a round trip ended: the round trip is gone, and so are those who waited
for it. -/
def ended (d : Dispatcher) (t : Trip) (outcome : Outcome) : Dispatcher where
  coalescer := d.coalescer.resolved t.publisher outcome
  trips := d.trips.filter (·.slot ≠ t.slot)
  waiting := d.waiting.filter (·.pending ≠ ⟨t.slot⟩)

/-- The callers that a round trip ends for. They are those who wait for its slot, in the order in
which they came. -/
def sharers (d : Dispatcher) (t : Trip) : List CallerId :=
  (d.waiting.filter (·.pending = ⟨t.slot⟩)).map (·.caller)

theorem Sound.publisher?_of_mem {d : Dispatcher} (h : d.Sound) {t : Trip} (ht : t ∈ d.trips) :
    d.publisher? t.slot = some t.publisher := by
  unfold publisher?
  cases hfind : d.trips.find? (·.publisher.slot = t.slot) with
  | none =>
    exact absurd (decide_eq_true rfl) (List.find?_eq_none.mp hfind t ht)
  | some u =>
    have hfound := List.find?_some hfind
    have hslot : u.slot = t.slot := of_decide_eq_true hfound
    rw [h.eq_of_slot_eq (List.mem_of_find?_eq_some hfind) ht hslot]
    rfl

theorem publisher?_eq_none {d : Dispatcher} {slot : Nat} (h : ∀ t ∈ d.trips, t.slot ≠ slot) :
    d.publisher? slot = none := by
  unfold publisher?
  rw [Option.map_eq_none_iff, List.find?_eq_none]
  intro t ht
  simpa [Trip.slot] using h t ht

/-- After a round trip ended, those who waited for it have the outcome and the others still
wait. -/
theorem Sound.outcome?_ended {d : Dispatcher} (h : d.Sound) {t : Trip} (ht : t ∈ d.trips)
    {w : Waiting} (hw : w ∈ d.waiting) (outcome : Outcome) :
    ((d.coalescer.resolved t.publisher outcome).wait w.pending).outcome? =
      if w.pending = ⟨t.slot⟩ then some outcome else none := by
  have hmem := h.publisher_mem ht
  by_cases hpending : w.pending = ⟨t.slot⟩
  · rw [if_pos hpending, hpending, Trip.slot, h.coalescer.wait_resolved hmem]
    rfl
  · rw [if_neg hpending]
    obtain ⟨u, hu, heq⟩ := h.waits w hw
    have hne : u.slot ≠ t.slot := by
      intro hslot
      rw [heq, hslot] at hpending
      exact hpending rfl
    -- the publisher it waits for is another one, and is left
    have hleft : u.slot ∈ (d.coalescer.publishers.erase t.publisher).map (·.slot) := by
      rw [h.coalescer.erase_eq_filter hmem]
      refine List.mem_map.mpr ⟨u.publisher, List.mem_filter.mpr ⟨h.publisher_mem hu, ?_⟩, rfl⟩
      simpa [Trip.slot] using hne
    rw [heq, (h.coalescer.resolved hmem outcome).wait_of_mem hleft]
    rfl

/-- The state after the publisher of a round trip acted, before anybody was told. -/
def published (d : Dispatcher) (t : Trip) (outcome : Outcome) : Dispatcher :=
  { d with
    coalescer := d.coalescer.resolved t.publisher outcome
    trips := d.trips.filter (·.slot ≠ t.slot) }

/-- The outcome is published once, and the publisher that is dropped then does nothing. -/
theorem Sound.finishTrip_of_mem {d : Dispatcher} (h : d.Sound) {t : Trip} (ht : t ∈ d.trips)
    (outcome : Option Outcome) :
    d.finishTrip t.slot outcome = (d.published t (shared outcome)).settle := by
  have hmem := h.publisher_mem ht
  unfold finishTrip
  rw [h.publisher?_of_mem ht]
  cases outcome with
  | none =>
    -- nothing was published, so it is the drop that writes the slot
    dsimp only
    rw [Coalescer.dropPublisher, Coalescer.publish_of_mem hmem]
    rfl
  | some o =>
    -- the publisher is spent when it is dropped
    dsimp only
    rw [h.coalescer.dropPublisher_publish hmem, Coalescer.publish_of_mem hmem]
    rfl

theorem Sound.settle_published {d : Dispatcher} (h : d.Sound) {t : Trip} (ht : t ∈ d.trips)
    (outcome : Outcome) :
    (d.published t outcome).settle =
      (d.ended t outcome, (d.sharers t).map (.finish · outcome)) := by
  have hout : ∀ w ∈ d.waiting, (d.published t outcome).outcome? w =
      if w.pending = ⟨t.slot⟩ then some outcome else none :=
    fun w hw => h.outcome?_ended ht hw outcome
  have hleft : ((d.published t outcome).waiting.filter fun w =>
      ((d.published t outcome).outcome? w).isNone) =
      d.waiting.filter (·.pending ≠ ⟨t.slot⟩) := by
    show d.waiting.filter _ = _
    apply List.filter_congr
    intro w hw
    rw [hout w hw]
    by_cases hpending : w.pending = ⟨t.slot⟩
    · simp [hpending]
    · simp [hpending]
  have hdone : ((d.published t outcome).waiting.filterMap fun w =>
      ((d.published t outcome).outcome? w).map (Effect.finish w.caller)) =
      (d.sharers t).map (.finish · outcome) := by
    show d.waiting.filterMap _ = _
    unfold sharers
    rw [List.map_map, ← List.filterMap_eq_map, List.filterMap_filter]
    apply List.filterMap_congr
    intro w hw
    rw [hout w hw]
    by_cases hpending : w.pending = ⟨t.slot⟩
    · simp [hpending]
    · simp [hpending]
  unfold settle
  rw [hleft, hdone]
  rfl

/-- **What the end of a round trip does**: if the slot is not outstanding, nothing; else the
round trip is gone and exactly those who waited for it end, with its outcome. -/
theorem Sound.finishTrip_cases {d : Dispatcher} (h : d.Sound) (slot : Nat)
    (outcome : Option Outcome) :
    ((∀ t ∈ d.trips, t.slot ≠ slot) ∧ d.finishTrip slot outcome = (d, [])) ∨
    (∃ t ∈ d.trips, t.slot = slot ∧
      d.finishTrip slot outcome = (d.ended t (shared outcome),
        (d.sharers t).map (.finish · (shared outcome)))) := by
  by_cases hslot : ∃ t ∈ d.trips, t.slot = slot
  · obtain ⟨t, ht, rfl⟩ := hslot
    refine Or.inr ⟨t, ht, rfl, ?_⟩
    rw [h.finishTrip_of_mem ht, h.settle_published ht]
  · have hnone : ∀ t ∈ d.trips, t.slot ≠ slot := fun t ht heq => hslot ⟨t, ht, heq⟩
    refine Or.inl ⟨hnone, ?_⟩
    unfold finishTrip
    rw [publisher?_eq_none hnone]

theorem Sound.ended {d : Dispatcher} (h : d.Sound) {t : Trip} (ht : t ∈ d.trips)
    (outcome : Outcome) : (d.ended t outcome).Sound := by
  have hmem := h.publisher_mem ht
  refine ⟨h.coalescer.resolved hmem outcome, ?_,
    fun u hu => h.key_eq u (List.mem_of_mem_filter hu), ?_⟩
  · show d.coalescer.publishers.erase t.publisher =
      ((d.trips.filter (·.slot ≠ t.slot)).map (·.publisher)).reverse
    rw [h.coalescer.erase_eq_filter hmem, h.publishers_eq, List.filter_reverse, List.filter_map]
    rfl
  · intro w hw
    obtain ⟨hw, hpending⟩ := List.mem_filter.mp hw
    obtain ⟨u, hu, heq⟩ := h.waits w hw
    refine ⟨u, List.mem_filter.mpr ⟨hu, ?_⟩, heq⟩
    rw [decide_eq_true_eq] at hpending ⊢
    -- it waits for a slot that is not the one written
    intro hslot
    exact hpending (by rw [heq, hslot])

/-! ## Every step and every run -/

/-- **Every step keeps publishers, round trips and callers in agreement.** The publishers that are
not spent are those of the outstanding round trips, and whoever waits does so for one of them. -/
theorem Sound.step {d : Dispatcher} (h : d.Sound) (event : DispatchEvent) :
    (d.step event).1.Sound := by
  have hfinish : ∀ slot outcome, (d.finishTrip slot outcome).1.Sound := by
    intro slot outcome
    rcases h.finishTrip_cases slot outcome with ⟨-, heq⟩ | ⟨t, ht, -, heq⟩
    · rw [heq]
      exact h
    · rw [heq]
      exact h.ended ht _
  cases event with
  | call caller method params =>
    show (d.call caller method params).1.Sound
    rcases h.call_cases caller method params with ⟨t, ht, -, heq⟩ | ⟨hnone, heq⟩
    · rw [heq]
      exact h.joined caller ht
    · rw [heq]
      exact h.begun caller hnone
  | leave caller => exact h.leave caller
  | complete slot outcome => exact hfinish slot (some outcome)
  | die slot => exact hfinish slot none

/-- **Publishers, round trips and callers agree at every point of every run.** The events may be
any; one that is about a round trip that is not there changes nothing. -/
theorem Sound.run {d : Dispatcher} (h : d.Sound) (events : List DispatchEvent) :
    (d.run events).1.Sound := by
  induction events generalizing d with
  | nil => exact h
  | cons event events ih => exact ih (h.step event)

theorem run_append (d : Dispatcher) (events more : List DispatchEvent) :
    (d.run (events ++ more)).1 = ((d.run events).1.run more).1 := by
  induction events generalizing d with
  | nil => rfl
  | cons event events ih => exact ih (d.step event).1

/-- A step uses up slots and starts round trips only in slots that were not there. -/
theorem Sound.fresh_step {d : Dispatcher} (h : d.Sound) (event : DispatchEvent) :
    d.coalescer.slots.size ≤ (d.step event).1.coalescer.slots.size ∧
      ∀ t ∈ (d.step event).1.trips, t ∈ d.trips ∨ d.coalescer.slots.size ≤ t.slot := by
  have hfinish : ∀ slot outcome,
      d.coalescer.slots.size ≤ (d.finishTrip slot outcome).1.coalescer.slots.size ∧
        ∀ t ∈ (d.finishTrip slot outcome).1.trips,
          t ∈ d.trips ∨ d.coalescer.slots.size ≤ t.slot := by
    intro slot outcome
    rcases h.finishTrip_cases slot outcome with ⟨-, heq⟩ | ⟨t, -, -, heq⟩
    · rw [heq]
      exact ⟨Nat.le_refl _, fun t ht => Or.inl ht⟩
    · rw [heq]
      exact ⟨Nat.le_of_eq Array.size_setIfInBounds.symm,
        fun u hu => Or.inl (List.mem_of_mem_filter hu)⟩
  cases event with
  | call caller method params =>
    show d.coalescer.slots.size ≤ (d.call caller method params).1.coalescer.slots.size ∧
      ∀ t ∈ (d.call caller method params).1.trips, t ∈ d.trips ∨ d.coalescer.slots.size ≤ t.slot
    rcases h.call_cases caller method params with ⟨t, -, -, heq⟩ | ⟨-, heq⟩
    · rw [heq]
      exact ⟨Nat.le_refl _, fun t ht => Or.inl ht⟩
    · rw [heq]
      constructor
      · show d.coalescer.slots.size ≤ (d.coalescer.slots.push none).size
        rw [Array.size_push]
        exact Nat.le_succ _
      · intro t ht
        rcases List.mem_append.mp ht with ht | ht
        · exact Or.inl ht
        · rw [List.mem_singleton] at ht
          exact Or.inr (by rw [ht]; exact Nat.le_refl _)
  | leave caller => exact ⟨Nat.le_refl _, fun t ht => Or.inl ht⟩
  | complete slot outcome => exact hfinish slot (some outcome)
  | die slot => exact hfinish slot none

/-- **No slot is used twice**: what a run leaves outstanding was so before or is in a slot that
was not there. -/
theorem Sound.fresh_run {d : Dispatcher} (h : d.Sound) (events : List DispatchEvent) :
    ∀ t ∈ (d.run events).1.trips, t ∈ d.trips ∨ d.coalescer.slots.size ≤ t.slot := by
  induction events generalizing d with
  | nil => exact fun t ht => Or.inl ht
  | cons event events ih =>
    intro t ht
    obtain ⟨hsize, hstep⟩ := h.fresh_step event
    rcases ih (h.step event) t ht with ht | hslot
    · exact hstep t ht
    · exact Or.inr (Nat.le_trans hsize hslot)

end Dispatcher
end NodeRpc
