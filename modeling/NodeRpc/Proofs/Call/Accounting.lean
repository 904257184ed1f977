import NodeRpc.Proofs.Call.Trips

/-!
# One round trip for each key

The promise of a dispatcher is that identical calls that overlap share one round trip. As a sentence
about the table that is nearly true by definition, and it is not what a caller pays for. What
matters is how many requests go to the transport, and when. So the statements here are about the
whole run from an empty dispatcher, for any list of events, and they count.

How many round trips a run starts is settled by its callers alone: one for each caller that finds
none of its key outstanding. Who has left since, who was cancelled and how earlier round trips ended
plays no part. `started` and `foundNone` are the two sides of that, both read off the run without
looking into the table: the round trips that a step adds to the outstanding ones, and the calls
before which no outstanding round trip had the key.

That leaves the word *outstanding*. The machine keeps a list of round trips, and a theorem that
compared its table with its own list could be satisfied by a machine that forgets both together.
`OnItsWay` is what the word means, by the events: a request was sent, and since then neither did its
round trip complete nor did it die. The first part of `one_trip_for_each_key` ties the list to that,
for every request; the others may then speak of the list.

The requests are compared with the round trips started as lists and not as sets. So a request is
sent once and not twice for a round trip, in the order in which the round trips are started, and
with the method and the parameters of the caller that started it.
-/

namespace NodeRpc

/-- What goes to the transport for a round trip. -/
def Trip.request (t : Trip) : Nat × String × List Json := (t.slot, t.method, t.params)

/-- What an effect hands to the transport. -/
def Effect.request? : Effect → Option (Nat × String × List Json)
  | .send slot method params => some (slot, method, params)
  | .log _ => none
  | .finish _ _ => none

namespace Dispatcher

/-- The round trips that a step starts: those outstanding after it and not before. They are told
apart by their slots, as a round trip may well ask for what an earlier one asked for. -/
def startedBy (d : Dispatcher) (event : DispatchEvent) : List Trip :=
  (d.step event).1.trips.filter (·.slot ∉ d.trips.map Trip.slot)

/-- The round trips that a run starts, in order. They are those for which a request goes out. -/
def started (d : Dispatcher) : List DispatchEvent → List Trip
  | [] => []
  | event :: rest => d.startedBy event ++ (d.step event).1.started rest

/-- Whether a caller of a key comes and no round trip of the key is outstanding. -/
def findsNone (d : Dispatcher) (key : RequestKey) : DispatchEvent → Bool
  | .call _ method params => .ofCall method params = key && d.trips.all (·.key ≠ key)
  | _ => false

/-- How many callers of a key found no round trip of it outstanding. This is what the number of
requests is compared with; it looks at the callers when they come, and at nothing that becomes of
them. -/
def foundNone (d : Dispatcher) (key : RequestKey) : List DispatchEvent → Nat
  | [] => 0
  | event :: rest => (d.findsNone key event).toNat + (d.step event).1.foundNone key rest

/-- The round trip of a slot ends with an event: it completes, or it dies without an outcome.
Whether there is such a round trip is not asked. -/
def Ends (slot : Nat) : DispatchEvent → Prop
  | .complete ended _ => ended = slot
  | .die ended => ended = slot
  | _ => False

/-- One of these events sent a request, and none that came since ended its round trip. It is read
off the events and their effects alone, so that what the machine says of itself can be held against
it. -/
def OnItsWay (d : Dispatcher) (events : List DispatchEvent)
    (request : Nat × String × List Json) : Prop :=
  ∃ before event since, events = before ++ event :: since ∧
    request ∈ ((d.run before).1.step event).2.filterMap Effect.request? ∧
    ∀ later ∈ since, ¬Ends request.1 later

/-! ## What a step starts

A step starts a round trip for a caller that finds none, sends its request, and is counted; or it
does none of the three. `Sound.step_starts` says all of this in one sentence, as each of the sums
below is taken over the same steps. -/

/-- A step leaves no round trip outstanding that it did not find, unless it starts it. -/
theorem startedBy_eq_nil {d : Dispatcher} {event : DispatchEvent}
    (h : ∀ t ∈ (d.step event).1.trips, t ∈ d.trips) : d.startedBy event = [] := by
  unfold startedBy
  rw [List.filter_eq_nil_iff]
  intro t ht
  simp only [decide_eq_true_eq, Decidable.not_not]
  exact List.mem_map_of_mem (h t ht)

theorem Sound.startedBy_begun {d : Dispatcher} (h : d.Sound) {caller : CallerId}
    {method : String} {params : List Json}
    (heq : (d.step (.call caller method params)).1 = d.begun caller method params) :
    d.startedBy (.call caller method params) = [d.newTrip method params] := by
  unfold startedBy
  rw [heq]
  show (d.trips ++ [d.newTrip method params]).filter _ = _
  have hold : d.trips.filter (·.slot ∉ d.trips.map Trip.slot) = [] := by
    rw [List.filter_eq_nil_iff]
    intro t ht
    simp only [decide_eq_true_eq, Decidable.not_not]
    exact List.mem_map_of_mem ht
  have hnew : (d.newTrip method params).slot ∉ d.trips.map Trip.slot := by
    intro hmem
    obtain ⟨t, ht, hslot⟩ := List.mem_map.mp hmem
    have hlt := h.slot_lt ht
    rw [hslot] at hlt
    exact Nat.lt_irrefl _ hlt
  rw [List.filter_append, hold, List.nil_append, List.filter_cons_of_pos (by simpa using hnew)]
  rfl

/-- The end of a round trip sends nothing. -/
theorem Sound.requests_finishTrip {d : Dispatcher} (h : d.Sound) (slot : Nat)
    (outcome : Option Outcome) :
    (d.finishTrip slot outcome).2.filterMap Effect.request? = [] := by
  rcases h.finishTrip_cases slot outcome with ⟨-, heq⟩ | ⟨t, -, -, heq⟩
  · rw [heq]
    rfl
  · rw [heq, List.filterMap_map]
    exact List.filterMap_eq_nil_iff.mpr fun c hc => rfl

/-- **What a step starts, sends and counts**: it starts a round trip for a caller that finds
none, and sends its request, or it starts nothing, sends nothing and no caller finds
none. -/
theorem Sound.step_starts {d : Dispatcher} (h : d.Sound) (event : DispatchEvent) :
    (∃ t : Trip, d.startedBy event = [t] ∧ t.slot = d.coalescer.slots.size ∧
      (d.step event).1.coalescer.slots.size = d.coalescer.slots.size + 1 ∧
      (d.step event).2.filterMap Effect.request? = [t.request] ∧
      ∀ key, d.findsNone key event = decide (t.key = key)) ∨
    (d.startedBy event = [] ∧
      (d.step event).1.coalescer.slots.size = d.coalescer.slots.size ∧
      (d.step event).2.filterMap Effect.request? = [] ∧
      ∀ key, d.findsNone key event = false) := by
  have hfinish : ∀ slot outcome, (d.finishTrip slot outcome).1.trips ⊆ d.trips ∧
      (d.finishTrip slot outcome).1.coalescer.slots.size = d.coalescer.slots.size := by
    intro slot outcome
    rcases h.finishTrip_cases slot outcome with ⟨-, heq⟩ | ⟨t, ht, -, heq⟩
    · rw [heq]
      exact ⟨fun t ht => ht, rfl⟩
    · rw [heq]
      exact ⟨fun u hu => List.mem_of_mem_filter hu, Array.size_setIfInBounds⟩
  -- only a call starts anything; what ends a round trip leaves a part of those there were
  cases event with
  | call caller method params =>
    rcases h.call_cases caller method params with ⟨t, ht, hkey, heq⟩ | ⟨hnone, heq⟩
    · -- the round trip that it joins has the key, so none of the key is not found
      right
      have hstep : d.step (.call caller method params) = _ := heq
      refine ⟨startedBy_eq_nil ?_, ?_, ?_, ?_⟩
      · rw [hstep]
        exact fun u hu => hu
      · rw [hstep]
        rfl
      · rw [hstep]
        rfl
      · intro key
        show (decide (RequestKey.ofCall method params = key) && d.trips.all (·.key ≠ key)) = false
        by_cases hk : RequestKey.ofCall method params = key
        · have hfound : d.trips.all (·.key ≠ key) = false := by
            rw [List.all_eq_false]
            exact ⟨t, ht, by simp [hkey, hk]⟩
          rw [hfound, Bool.and_false]
        · simp [hk]
    · left
      have hstep : d.step (.call caller method params) = _ := heq
      refine ⟨d.newTrip method params, h.startedBy_begun (by rw [hstep]), rfl, ?_, ?_, ?_⟩
      · rw [hstep]
        exact Array.size_push _
      · rw [hstep]
        rfl
      · intro key
        show (decide (RequestKey.ofCall method params = key) && d.trips.all (·.key ≠ key)) =
          decide (RequestKey.ofCall method params = key)
        by_cases hk : RequestKey.ofCall method params = key
        · have hall : d.trips.all (·.key ≠ key) = true := by
            rw [List.all_eq_true]
            intro t ht
            rw [← hk]
            simpa using hnone t ht
          rw [hall, Bool.and_true]
        · simp [hk]
  | leave caller =>
    exact Or.inr ⟨startedBy_eq_nil fun t ht => ht, rfl, rfl, fun _ => rfl⟩
  | complete slot outcome =>
    obtain ⟨htrips, hsize⟩ := hfinish slot (some outcome)
    exact Or.inr ⟨startedBy_eq_nil fun t ht => htrips ht, hsize,
      h.requests_finishTrip slot (some outcome), fun _ => rfl⟩
  | die slot =>
    obtain ⟨htrips, hsize⟩ := hfinish slot none
    exact Or.inr ⟨startedBy_eq_nil fun t ht => htrips ht, hsize,
      h.requests_finishTrip slot none, fun _ => rfl⟩

/-! ## What a run starts

Three inductions on the events, each with `Sound.step_starts` for its step: the requests, the count
for a key, and that slots differ. -/

/-- The requests of a run are those of the round trips it starts, one each. -/
theorem Sound.requests_run {d : Dispatcher} (h : d.Sound) (events : List DispatchEvent) :
    (d.run events).2.flatten.filterMap Effect.request? = (d.started events).map Trip.request := by
  induction events generalizing d with
  | nil => rfl
  | cons event events ih =>
    have hrest := ih (h.step event)
    show ((d.step event).2 ++ ((d.step event).1.run events).2.flatten).filterMap _ =
      (d.startedBy event ++ (d.step event).1.started events).map _
    rw [List.filterMap_append, List.map_append, hrest]
    rcases h.step_starts event with ⟨t, hstarted, -, -, hsends, -⟩ | ⟨hstarted, -, hsends, -⟩
    · rw [hstarted, hsends]
      rfl
    · rw [hstarted, hsends]
      rfl

/-- A key is started as often as a caller finds none of it. -/
theorem Sound.started_eq_foundNone {d : Dispatcher} (h : d.Sound) (key : RequestKey)
    (events : List DispatchEvent) :
    ((d.started events).filter (·.key = key)).length = d.foundNone key events := by
  induction events generalizing d with
  | nil => rfl
  | cons event events ih =>
    have hrest := ih (h.step event)
    unfold started foundNone
    rw [List.filter_append, List.length_append, hrest]
    congr 1
    rcases h.step_starts event with ⟨t, hstarted, -, -, -, hfinds⟩ | ⟨hstarted, -, -, hfinds⟩
    · rw [hstarted, hfinds]
      by_cases hkey : t.key = key
      · simp [hkey]
      · simp [hkey]
    · rw [hstarted, hfinds]
      rfl

theorem Sound.le_slot_of_started {d : Dispatcher} (h : d.Sound) (events : List DispatchEvent) :
    ∀ t ∈ d.started events, d.coalescer.slots.size ≤ t.slot := by
  induction events generalizing d with
  | nil =>
    intro t ht
    cases ht
  | cons event events ih =>
    intro t ht
    rcases List.mem_append.mp ht with ht | ht
    · rcases h.step_starts event with ⟨u, hstarted, hslot, -, -, -⟩ | ⟨hstarted, -, -, -⟩
      · rw [hstarted, List.mem_singleton] at ht
        exact Nat.le_of_eq (by rw [ht, hslot])
      · rw [hstarted] at ht
        cases ht
    · -- a later step starts in a slot beyond those after this step, which are no fewer
      have hlater := ih (h.step event) t ht
      rcases h.step_starts event with ⟨u, -, -, hsize, -, -⟩ | ⟨-, hsize, -, -⟩
      · omega
      · omega

/-- No two round trips of a run have one slot. -/
theorem Sound.started_nodup {d : Dispatcher} (h : d.Sound) (events : List DispatchEvent) :
    ((d.started events).map Trip.slot).Nodup := by
  induction events generalizing d with
  | nil => exact List.nodup_nil
  | cons event events ih =>
    have hrest := ih (h.step event)
    unfold started
    rcases h.step_starts event with ⟨t, hstarted, hslot, hsize, -, -⟩ | ⟨hstarted, -, -, -⟩
    · rw [hstarted, List.map_append]
      refine List.nodup_cons.mpr ⟨?_, hrest⟩
      intro hmem
      obtain ⟨u, hu, heq⟩ := List.mem_map.mp hmem
      have hlater := (h.step event).le_slot_of_started events u hu
      omega
    · rw [hstarted]
      exact hrest

/-! ## What is on its way

The list of outstanding round trips against the events. A step adds what it sends, and takes out
what it ends. For a run both are said at once, from any sound state, as what was outstanding before
the run is still there if it did not end. -/

theorem Sound.mem_trips_finishTrip {d : Dispatcher} (h : d.Sound) (slot : Nat)
    (outcome : Option Outcome) (request : Nat × String × List Json) :
    request ∈ (d.finishTrip slot outcome).1.trips.map Trip.request ↔
      request ∈ d.trips.map Trip.request ∧ slot ≠ request.1 := by
  simp only [List.mem_map]
  rcases h.finishTrip_cases slot outcome with ⟨hnone, heq⟩ | ⟨t, -, rfl, heq⟩
  · rw [heq]
    constructor
    · rintro ⟨t, ht, rfl⟩
      exact ⟨⟨t, ht, rfl⟩, (hnone t ht).symm⟩
    · exact And.left
  · rw [heq]
    constructor
    · rintro ⟨u, hu, rfl⟩
      obtain ⟨hu, hslot⟩ := List.mem_filter.mp hu
      exact ⟨⟨u, hu, rfl⟩, (of_decide_eq_true hslot).symm⟩
    · rintro ⟨⟨u, hu, rfl⟩, hslot⟩
      exact ⟨u, List.mem_filter.mpr ⟨hu, decide_eq_true hslot.symm⟩, rfl⟩

/-- **What a step leaves outstanding**: what it sends, and what was outstanding and does not end
with it. -/
theorem Sound.mem_trips_step {d : Dispatcher} (h : d.Sound) (event : DispatchEvent)
    (request : Nat × String × List Json) :
    request ∈ (d.step event).1.trips.map Trip.request ↔
      (request ∈ d.trips.map Trip.request ∧ ¬Ends request.1 event) ∨
        request ∈ (d.step event).2.filterMap Effect.request? := by
  cases event with
  | call caller method params =>
    show request ∈ (d.call caller method params).1.trips.map Trip.request ↔
      _ ∨ request ∈ (d.call caller method params).2.filterMap Effect.request?
    rcases h.call_cases caller method params with ⟨t, -, -, heq⟩ | ⟨-, heq⟩
    · rw [heq]
      show request ∈ d.trips.map Trip.request ↔
        (request ∈ d.trips.map Trip.request ∧ ¬False) ∨ request ∈ []
      simp
    · rw [heq]
      show request ∈ (d.trips ++ [d.newTrip method params]).map Trip.request ↔
        (request ∈ d.trips.map Trip.request ∧ ¬False) ∨
          request ∈ [(d.newTrip method params).request]
      rw [List.map_append, List.mem_append, not_false_eq_true, and_true]
      rfl
  | leave caller =>
    show request ∈ d.trips.map Trip.request ↔
      (request ∈ d.trips.map Trip.request ∧ ¬False) ∨ request ∈ []
    simp
  | complete slot outcome =>
    show request ∈ (d.finishTrip slot (some outcome)).1.trips.map Trip.request ↔
      _ ∨ request ∈ (d.finishTrip slot (some outcome)).2.filterMap Effect.request?
    rw [h.mem_trips_finishTrip, h.requests_finishTrip]
    simp [Ends]
  | die slot =>
    show request ∈ (d.finishTrip slot none).1.trips.map Trip.request ↔
      _ ∨ request ∈ (d.finishTrip slot none).2.filterMap Effect.request?
    rw [h.mem_trips_finishTrip, h.requests_finishTrip]
    simp [Ends]

theorem onItsWay_cons {d : Dispatcher} {event : DispatchEvent} {events : List DispatchEvent}
    {request : Nat × String × List Json} :
    d.OnItsWay (event :: events) request ↔
      (request ∈ (d.step event).2.filterMap Effect.request? ∧
        ∀ later ∈ events, ¬Ends request.1 later) ∨
      (d.step event).1.OnItsWay events request := by
  constructor
  · rintro ⟨before, sent, since, heq, hsent, hsince⟩
    cases before with
    | nil =>
      obtain ⟨rfl, rfl⟩ := List.cons.inj heq
      exact Or.inl ⟨hsent, hsince⟩
    | cons first before =>
      obtain ⟨rfl, rfl⟩ := List.cons.inj heq
      exact Or.inr ⟨before, sent, since, rfl, hsent, hsince⟩
  · rintro (⟨hsent, hsince⟩ | ⟨before, sent, since, rfl, hsent, hsince⟩)
    · exact ⟨[], event, events, rfl, hsent, hsince⟩
    · exact ⟨event :: before, sent, since, rfl, hsent, hsince⟩

/-- What a run leaves outstanding was so before and did not end, or it is on its way since. A slot
is never used twice, but that is not needed here: an event that ends a slot ends whatever was sent
for it. -/
theorem Sound.mem_trips_run {d : Dispatcher} (h : d.Sound) (events : List DispatchEvent)
    (request : Nat × String × List Json) :
    request ∈ (d.run events).1.trips.map Trip.request ↔
      (request ∈ d.trips.map Trip.request ∧ ∀ later ∈ events, ¬Ends request.1 later) ∨
        d.OnItsWay events request := by
  induction events generalizing d with
  | nil =>
    show request ∈ d.trips.map Trip.request ↔ _
    simp [OnItsWay]
  | cons event events ih =>
    show request ∈ ((d.step event).1.run events).1.trips.map Trip.request ↔ _
    rw [ih (h.step event), h.mem_trips_step, onItsWay_cons, List.forall_mem_cons]
    tauto

/-- **One round trip for each key, and the table is exact.** At every point of every run:

* what is outstanding is what was sent and did not end since, by completing or by dying;
* no two outstanding round trips have one key;
* a key is in the table exactly if a round trip of it is outstanding, and `inFlight` counts
  the outstanding round trips;
* a key was started as often as a caller of it found none outstanding;
* the requests that went to the transport are those of the round trips started, in their
  order and one for each, and no two of these are the same round trip. -/
theorem one_trip_for_each_key (events : List DispatchEvent) :
    (∀ request, request ∈ (empty.run events).1.trips.map Trip.request ↔
      empty.OnItsWay events request) ∧
    ((empty.run events).1.trips.map Trip.key).Nodup ∧
    (∀ key, ((empty.run events).1.coalescer.table.lookup key).isSome ↔
      ∃ t ∈ (empty.run events).1.trips, t.key = key) ∧
    (empty.run events).1.inFlight = (empty.run events).1.trips.length ∧
    (∀ key, ((empty.started events).filter (·.key = key)).length = empty.foundNone key events) ∧
    (empty.run events).2.flatten.filterMap Effect.request? =
      (empty.started events).map Trip.request ∧
    ((empty.started events).map Trip.slot).Nodup := by
  have hsound := sound_empty.run events
  refine ⟨?_, hsound.keys_nodup, ?_, ?_, fun key => sound_empty.started_eq_foundNone key events,
    sound_empty.requests_run events, sound_empty.started_nodup events⟩
  · intro request
    rw [sound_empty.mem_trips_run]
    simp [empty]
  · intro key
    rw [hsound.coalescer.lookup_isSome_iff, ← List.mem_reverse, ← hsound.keys_eq, List.mem_map]
  · unfold inFlight Coalescer.inFlight
    rw [hsound.coalescer.table_eq, hsound.publishers_eq]
    simp

end Dispatcher
end NodeRpc
