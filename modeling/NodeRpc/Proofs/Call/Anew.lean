import NodeRpc.Proofs.Call.Moves
import NodeRpc.Proofs.Call.Rounds

/-!
# As good as new

When no round trip is outstanding, a dispatcher differs from a new one only in how many callers it
has seen and how many slots it has used up: its `Lead`. Whatever happens to it from then on does
what it does to the new one, with numbers that are ahead by the lead (`Dispatcher.Ahead`). What is
about a caller or a slot from before does nothing at all.

That "nothing is left over" is a statement about the future, and there is no list of the things that
could be left over which one would trust. So it is said by comparison: the dispatcher is run side by
side with a new one, move by move, for any moves, and the two cannot be told apart but for the
numbers. A new dispatcher is as good as any standard, since what is wrong with it is wrong with
everything.

The comparison is a simulation (`GoesOn`), kept by every move. A move that is about a number from
before has no counterpart, and `Move.since` says so by giving none; the lemmas named `_stale` are
that such a move does nothing. They are what a late reply is answered with, or a cancellation that
comes after the caller has ended.

The outcomes that were published before are not compared. They are still there for whoever holds the
read side of an old round, but nobody waits for them.
-/

namespace NodeRpc

/-- How far the numbers of callers and of slots are ahead of those of a new dispatcher. Both only
ever grow, so one lead holds for all of what comes after. -/
structure Lead where
  callers : Nat
  slots : Nat

namespace Lead

/-- A number, counted from another one on; none for what came before. In a move that has none
somebody is meant whom the new dispatcher never had. -/
def since (n i : Nat) : Option Nat := if i < n then none else some (i - n)

theorem since_eq_some {n i j : Nat} (h : since n i = some j) : i = j + n := by
  obtain ⟨hle, hj⟩ := Option.ite_none_left_eq_some.mp h
  have hsub := Option.some.inj hj
  omega

theorem since_eq_none {n i : Nat} (h : since n i = none) : i < n := by
  by_contra hle
  rw [since, if_neg hle] at h
  cases h

end Lead

/-- Numbers do not matter to a property that does not look at them. -/
theorem filter_map_comm {α β : Type} {f : α → β} {p : β → Bool} {q : α → Bool}
    (h : ∀ a, p (f a) = q a) (l : List α) : (l.map f).filter p = (l.filter q).map f := by
  rw [List.filter_map]
  congr 1
  exact List.filter_congr fun a _ => h a

variable (k : Lead)

def Trip.ahead (t : Trip) : Trip := { t with publisher.slot := t.publisher.slot + k.slots }

def Waiting.ahead (w : Waiting) : Waiting := ⟨w.caller + k.callers, ⟨w.pending.slot + k.slots⟩⟩

def Ended.ahead (e : Ended) : Ended := { e with caller := e.caller + k.callers }

def Effect.ahead : Effect → Effect
  | .log event => .log event
  | .send slot method params => .send (slot + k.slots) method params
  | .finish caller outcome => .finish (caller + k.callers) outcome

/-- A move as it is made with a new dispatcher, unless it is about a caller or a slot from
before. -/
def Move.since : Move → Option Move
  | .call method params patience => some (.call method params patience)
  | .cancel caller => (Lead.since k.callers caller).map .cancel
  | .expire caller limit => (Lead.since k.callers caller).map (.expire · limit)
  | .drop caller => (Lead.since k.callers caller).map .drop
  | .reply slot ending => (Lead.since k.slots slot).map (.reply · ending)

variable {k}

@[simp] theorem Trip.slot_ahead (t : Trip) : (t.ahead k).slot = t.slot + k.slots := rfl

@[simp] theorem Trip.key_ahead (t : Trip) : (t.ahead k).key = t.key := rfl

/-! ## Dispatchers

Two dispatchers with the same round trips and callers, whose numbers differ by a constant. The table
is not compared by itself. It follows from the round trips, by soundness. -/

namespace Dispatcher

/-- A dispatcher is ahead of another: the same round trips are outstanding and the same callers
wait for them, under numbers that are ahead. -/
structure Ahead (k : Lead) (d d' : Dispatcher) : Prop where
  sound : d.Sound
  sound' : d'.Sound
  size_eq : d.coalescer.slots.size = d'.coalescer.slots.size + k.slots
  trips_eq : d.trips = d'.trips.map (Trip.ahead k)
  waiting_eq : d.waiting = d'.waiting.map (Waiting.ahead k)

variable {d d' : Dispatcher}

section Ahead

variable (h : Ahead k d d')

include h

theorem Ahead.mem_trips {t : Trip} (ht : t ∈ d'.trips) : t.ahead k ∈ d.trips := by
  rw [h.trips_eq]
  exact List.mem_map_of_mem ht

/-- **The same keys are outstanding.** Nothing else about the tables has to be compared: which entry
is found for a key is decided by the key. -/
theorem Ahead.keys_eq : d.trips.map Trip.key = d'.trips.map Trip.key := by
  rw [h.trips_eq, List.map_map]
  rfl

theorem Ahead.le_slot {t : Trip} (ht : t ∈ d.trips) : k.slots ≤ t.slot := by
  rw [h.trips_eq] at ht
  obtain ⟨t', -, rfl⟩ := List.mem_map.mp ht
  exact Nat.le_add_left _ _

theorem Ahead.le_caller {w : Waiting} (hw : w ∈ d.waiting) : k.callers ≤ w.caller := by
  rw [h.waiting_eq] at hw
  obtain ⟨w', -, rfl⟩ := List.mem_map.mp hw
  exact Nat.le_add_left _ _

/-- **Whoever asks gets the same role.** It starts a round trip on both sides or joins one on
both. -/
theorem Ahead.role_eq (key : RequestKey) :
    (d.coalescer.acquire key).1.publisher?.isSome =
      (d'.coalescer.acquire key).1.publisher?.isSome := by
  have howner : ∀ {d : Dispatcher}, d.Sound → ((d.coalescer.acquire key).1.publisher?.isSome ↔
      key ∉ d.trips.map Trip.key) := by
    intro d hd
    rw [hd.coalescer.isSome_publisher?_acquire, hd.keys_eq, List.mem_reverse]
    simp
  rw [Bool.eq_iff_iff, howner h.sound, howner h.sound', h.keys_eq]

theorem Ahead.inFlight_eq : d.inFlight = d'.inFlight := by
  rw [h.sound.inFlight_eq, h.sound'.inFlight_eq, h.trips_eq, List.length_map]

/-! ### Steps -/

theorem Ahead.call (caller : CallerId) (method : String) (params : List Json) :
    Ahead k (d.call (caller + k.callers) method params).1 (d'.call caller method params).1 ∧
      (d.call (caller + k.callers) method params).2 =
        (d'.call caller method params).2.map (Effect.ahead k) := by
  have hsound := h.sound.step (.call (caller + k.callers) method params)
  have hsound' := h.sound'.step (.call caller method params)
  have hkeys : RequestKey.ofCall method params ∈ d.trips.map Trip.key ↔
      RequestKey.ofCall method params ∈ d'.trips.map Trip.key := by rw [h.keys_eq]
  rcases h.sound.call_cases (caller + k.callers) method params with
    ⟨t, ht, hkey, heq⟩ | ⟨hnone, heq⟩
  · rcases h.sound'.call_cases caller method params with ⟨t', ht', hkey', heq'⟩ | ⟨hnone', -⟩
    · -- a key has one round trip, so both join the same
      obtain rfl : t = t'.ahead k := by
        refine List.inj_on_of_nodup_map h.sound.keys_nodup ht (h.mem_trips ht') ?_
        rw [hkey, Trip.key_ahead, hkey']
      refine ⟨⟨hsound, hsound', ?_, ?_, ?_⟩, ?_⟩
      · rw [heq, heq']
        exact h.size_eq
      · rw [heq, heq']
        exact h.trips_eq
      · rw [heq, heq']
        simp [joined, h.waiting_eq, Waiting.ahead]
      · rw [heq, heq']
        rfl
    · obtain ⟨t', ht', hkey'⟩ := List.mem_map.mp (hkeys.mp (hkey ▸ List.mem_map_of_mem ht))
      exact absurd hkey' (hnone' t' ht')
  · rcases h.sound'.call_cases caller method params with ⟨t', ht', hkey', -⟩ | ⟨-, heq'⟩
    · obtain ⟨t, ht, hkey⟩ := List.mem_map.mp (hkeys.mpr (hkey' ▸ List.mem_map_of_mem ht'))
      exact absurd hkey (hnone t ht)
    · have hnew : d.newTrip method params = (d'.newTrip method params).ahead k := by
        unfold newTrip
        rw [h.size_eq]
        rfl
      refine ⟨⟨hsound, hsound', ?_, ?_, ?_⟩, ?_⟩
      · rw [heq, heq']
        show (d.coalescer.slots.push none).size = (d'.coalescer.slots.push none).size + k.slots
        rw [Array.size_push, Array.size_push, h.size_eq]
        omega
      · rw [heq, heq']
        simp [begun, h.trips_eq, hnew]
      · rw [heq, heq']
        simp [begun, h.waiting_eq, hnew, Waiting.ahead]
      · rw [heq, heq', hnew]
        rfl

theorem Ahead.leave (caller : CallerId) :
    Ahead k (d.leave (caller + k.callers)) (d'.leave caller) := by
  refine ⟨h.sound.leave _, h.sound'.leave _, h.size_eq, h.trips_eq, ?_⟩
  show d.waiting.filter _ = (d'.waiting.filter _).map _
  rw [h.waiting_eq]
  apply filter_map_comm
  intro w
  simp [Waiting.ahead]

/-- What is left of a round trip is the same, and so is who shared it. -/
theorem Ahead.ended {t : Trip} (ht : t ∈ d'.trips) (outcome : Outcome) :
    Ahead k (d.ended (t.ahead k) outcome) (d'.ended t outcome) ∧
      d.sharers (t.ahead k) = (d'.sharers t).map (· + k.callers) := by
  have hpending : ∀ w : Waiting, (w.ahead k).pending = ⟨(t.ahead k).slot⟩ ↔
      w.pending = ⟨t.slot⟩ := by
    rintro ⟨caller, ⟨slot⟩⟩
    simp [Waiting.ahead]
  refine ⟨⟨h.sound.ended (h.mem_trips ht) outcome, h.sound'.ended ht outcome, ?_, ?_, ?_⟩, ?_⟩
  · show (d.coalescer.slots.setIfInBounds _ _).size =
      (d'.coalescer.slots.setIfInBounds _ _).size + k.slots
    rw [Array.size_setIfInBounds, Array.size_setIfInBounds, h.size_eq]
  · show d.trips.filter _ = (d'.trips.filter _).map _
    rw [h.trips_eq]
    apply filter_map_comm
    intro u
    simp
  · show d.waiting.filter _ = (d'.waiting.filter _).map _
    rw [h.waiting_eq]
    apply filter_map_comm
    intro w
    simp only [ne_eq, hpending]
  · have hsame : d.waiting.filter (·.pending = ⟨(t.ahead k).slot⟩) =
        (d'.waiting.filter (·.pending = ⟨t.slot⟩)).map (Waiting.ahead k) := by
      rw [h.waiting_eq]
      apply filter_map_comm
      intro w
      simp only [hpending]
    unfold sharers
    rw [hsame, List.map_map, List.map_map]
    rfl

theorem Ahead.finishTrip (slot : Nat) (outcome : Option Outcome) :
    Ahead k (d.finishTrip (slot + k.slots) outcome).1 (d'.finishTrip slot outcome).1 ∧
      (d.finishTrip (slot + k.slots) outcome).2 =
        (d'.finishTrip slot outcome).2.map (Effect.ahead k) := by
  rcases h.sound'.finishTrip_cases slot outcome with ⟨hnone', heq'⟩ | ⟨t', ht', rfl, heq'⟩
  · rcases h.sound.finishTrip_cases (slot + k.slots) outcome with ⟨-, heq⟩ | ⟨t, ht, hslot, -⟩
    · rw [heq, heq']
      exact ⟨h, rfl⟩
    · rw [h.trips_eq] at ht
      obtain ⟨t', ht', rfl⟩ := List.mem_map.mp ht
      exact absurd (Nat.add_right_cancel hslot) (hnone' t' ht')
  · rcases h.sound.finishTrip_cases (t'.slot + k.slots) outcome with
      ⟨hnone, -⟩ | ⟨t, ht, hslot, heq⟩
    · exact absurd rfl (hnone _ (h.mem_trips ht'))
    · obtain rfl : t = t'.ahead k := h.sound.eq_of_slot_eq ht (h.mem_trips ht') hslot
      obtain ⟨hended, hsharers⟩ := h.ended ht' (shared outcome)
      rw [heq, heq', hsharers]
      refine ⟨hended, ?_⟩
      dsimp only
      rw [List.map_map, List.map_map]
      rfl

/-! ### What is about a caller or a slot from before -/

theorem Ahead.leave_stale {caller : CallerId} (hcaller : caller < k.callers) :
    d.leave caller = d := by
  unfold Dispatcher.leave
  rw [List.filter_eq_self.mpr]
  intro w hw
  have hlt := Nat.lt_of_lt_of_le hcaller (h.le_caller hw)
  exact decide_eq_true (Nat.ne_of_gt hlt)

theorem Ahead.finishTrip_stale {slot : Nat} (hslot : slot < k.slots) (outcome : Option Outcome) :
    d.finishTrip slot outcome = (d, []) := by
  rcases h.sound.finishTrip_cases slot outcome with ⟨-, heq⟩ | ⟨t, ht, rfl, -⟩
  · exact heq
  · exact absurd (h.le_slot ht) (Nat.not_le_of_lt hslot)

end Ahead

/-- **With nothing outstanding a dispatcher is ahead of a new one.** It has used slots and callers
that are gone, and the lead says how many; this is where the comparison begins. -/
theorem Sound.ahead_empty (h : d.Sound) (hnone : d.trips = []) (callers : Nat) :
    Ahead ⟨callers, d.coalescer.slots.size⟩ d empty := by
  refine ⟨h, sound_empty, (Nat.zero_add _).symm, hnone, ?_⟩
  refine List.eq_nil_iff_forall_not_mem.mpr ?_
  intro w hw
  obtain ⟨t, ht, -⟩ := h.waits w hw
  rw [hnone] at ht
  cases ht

end Dispatcher

/-! ## Timelines

The same for timelines. What went before stands at the end of the lists of requests, log and
endings, and stays there. -/

namespace Timeline

variable {σ : Type}

/-- How far a dispatcher's numbers are by now. -/
def lead (t : Timeline σ) (name : String) : Lead :=
  ⟨t.callers, (t.dispatcher name).coalescer.slots.size⟩

/-- New dispatchers over the transport as it is now. The transport keeps what it remembers: it
cannot know that the dispatchers are new. -/
def anew (t : Timeline σ) : Timeline σ :=
  { transport := t.transport, memory := t.memory, now := t.now }

/-- One timeline has gone on from `t` as another has from a new one. Everything that is recorded has
two parts, what was there at `t` and what came since, and it is the second that is compared. -/
structure GoesOn (t : Timeline σ) (name : String) (u v : Timeline σ) : Prop where
  transport : u.transport = v.transport
  memory : u.memory = v.memory
  now : u.now = v.now
  callers : u.callers = v.callers + t.callers
  dispatcher : (u.dispatcher name).Ahead (t.lead name) (v.dispatcher name)
  requests : u.requests = v.requests ++ t.requests
  log : u.log = v.log ++ t.log
  ended : u.ended = v.ended.map (Ended.ahead (t.lead name)) ++ t.ended

section GoesOn

variable {t u v : Timeline σ} {name : String} (h : GoesOn t name u v)

include h

theorem GoesOn.setDispatcher {d d' : Dispatcher} (hd : d.Ahead (t.lead name) d') :
    GoesOn t name (u.setDispatcher name d) (v.setDispatcher name d') := by
  refine ⟨by simpa using h.transport, by simpa using h.memory, by simpa using h.now,
    by simpa using h.callers, ?_, by simpa using h.requests, by simpa using h.log,
    by simpa using h.ended⟩
  rw [dispatcher_setDispatcher_self, dispatcher_setDispatcher_self]
  exact hd

theorem GoesOn.setDispatcher_self :
    GoesOn t name (u.setDispatcher name (u.dispatcher name)) v := by
  refine ⟨by simpa using h.transport, by simpa using h.memory, by simpa using h.now,
    by simpa using h.callers, ?_, by simpa using h.requests, by simpa using h.log,
    by simpa using h.ended⟩
  rw [dispatcher_setDispatcher_self]
  exact h.dispatcher

theorem GoesOn.conclude (caller : CallerId) (ending : Ending) :
    GoesOn t name (u.conclude (caller + t.callers) ending) (v.conclude caller ending) := by
  refine ⟨h.transport, h.memory, h.now, h.callers, h.dispatcher, h.requests, h.log, ?_⟩
  simp [Timeline.conclude, h.ended, h.now, Ended.ahead, lead]

/-- What is arranged plays no part: the moves say what comes about. -/
theorem GoesOn.appoint (a a' : Appointment) : GoesOn t name (u.appoint a) (v.appoint a') :=
  ⟨h.transport, h.memory, h.now, h.callers, h.dispatcher, h.requests, h.log, h.ended⟩

/-! ### Effects and events -/

theorem GoesOn.perform (effect : Effect) :
    GoesOn t name (perform name u (effect.ahead (t.lead name))) (perform name v effect) := by
  cases effect with
  | log event =>
    have hlog : event :: u.log = event :: v.log ++ t.log := by rw [h.log]; rfl
    exact ⟨h.transport, h.memory, h.now, h.callers, h.dispatcher, h.requests, hlog, h.ended⟩
  | send slot method params =>
    have hreply : u.transport.send u.memory method params =
        v.transport.send v.memory method params := by rw [h.transport, h.memory]
    have hrequests : (method, params) :: u.requests =
        (method, params) :: v.requests ++ t.requests := by rw [h.requests]; rfl
    exact ⟨h.transport, congrArg Prod.snd hreply, h.now, h.callers, h.dispatcher, hrequests,
      h.log, h.ended⟩
  | finish caller outcome => exact h.conclude caller (.outcome outcome)

/-- The same happens to both, with numbers that are ahead. -/
theorem GoesOn.happen {event event' : DispatchEvent}
    (hstep : ((u.dispatcher name).step event).1.Ahead (t.lead name)
      ((v.dispatcher name).step event').1 ∧
      ((u.dispatcher name).step event).2 =
        ((v.dispatcher name).step event').2.map (Effect.ahead (t.lead name))) :
    GoesOn t name (u.happen name event) (v.happen name event') := by
  obtain ⟨hd, heffects⟩ := hstep
  have hset := h.setDispatcher hd
  unfold Timeline.happen
  dsimp only
  rw [heffects, List.foldl_map]
  generalize ((v.dispatcher name).step event').2 = effects
  generalize u.setDispatcher name _ = u' at hset
  generalize v.setDispatcher name _ = v' at hset
  clear h hd heffects
  induction effects generalizing u' v' with
  | nil => exact hset
  | cons effect effects ih => exact ih _ _ (hset.perform effect)

/-- Nothing happens on one side alone. -/
theorem GoesOn.happen_stale {event : DispatchEvent}
    (hstep : (u.dispatcher name).step event = (u.dispatcher name, [])) :
    GoesOn t name (u.happen name event) v := by
  unfold Timeline.happen
  rw [hstep]
  exact h.setDispatcher_self

/-! ### Moves -/

theorem GoesOn.entered : GoesOn t name { u with callers := v.callers + t.callers + 1 }
    { v with callers := v.callers + 1 } :=
  ⟨h.transport, h.memory, h.now, Nat.succ_add .. |>.symm, h.dispatcher, h.requests, h.log, h.ended⟩

theorem GoesOn.asked (method : String) (params : List Json) :
    GoesOn t name (u.asked name method params) (v.asked name method params) := by
  unfold Timeline.asked
  rw [h.callers]
  exact h.entered.happen (h.dispatcher.call v.callers method params)

theorem GoesOn.isWaiting_eq (caller : CallerId) :
    u.isWaiting name (caller + t.callers) = v.isWaiting name caller := by
  unfold isWaiting
  rw [h.dispatcher.waiting_eq, List.any_map]
  congr 1
  funext w
  simp [Waiting.ahead, lead]

theorem GoesOn.leave (caller : CallerId) :
    GoesOn t name (u.happen name (.leave (caller + t.callers)))
      (v.happen name (.leave caller)) := by
  have hstep : ((u.dispatcher name).step (.leave (caller + t.callers))).1.Ahead (t.lead name)
      ((v.dispatcher name).step (.leave caller)).1 := h.dispatcher.leave caller
  exact h.happen ⟨hstep, rfl⟩

theorem GoesOn.dismiss (caller : CallerId) (ending : Ending) :
    GoesOn t name (u.dismiss name (caller + t.callers) ending) (v.dismiss name caller ending) := by
  unfold Timeline.dismiss
  rw [h.isWaiting_eq]
  split
  · exact (h.leave caller).conclude caller ending
  · exact h

theorem GoesOn.dismiss_stale {caller : CallerId} (hcaller : caller < t.callers)
    (ending : Ending) : GoesOn t name (u.dismiss name caller ending) v := by
  have hnone : u.isWaiting name caller = false := by
    unfold isWaiting
    rw [List.any_eq_false]
    intro w hw
    have hle := h.dispatcher.le_caller hw
    have hlt := Nat.lt_of_lt_of_le hcaller hle
    simpa using Nat.ne_of_gt hlt
  unfold Timeline.dismiss
  rw [hnone]
  exact h

theorem GoesOn.call (method : String) (params : List Json) (patience : Patience) :
    GoesOn t name (u.call name method params patience).2
      (v.call name method params patience).2 := by
  have hasked := h.asked method params
  rw [call_eq, call_eq]
  rcases patience with - | (- | delay) | ⟨limit, - | ticks⟩
  · exact hasked
  · dsimp only
    rw [h.callers]
    exact (h.entered.setDispatcher h.dispatcher).conclude v.callers .cancelled
  · exact hasked.appoint _ _
  · dsimp only
    rw [h.callers]
    exact hasked.dismiss v.callers _
  · exact hasked.appoint _ _

/-- **A move does on one side what it does on the other.** The numbers in it are moved back by the
lead first, and a move that has a number from before the lead is another case
(`GoesOn.move_stale`). -/
theorem GoesOn.move {m m' : Move} (hm : m.since (t.lead name) = some m') :
    GoesOn t name (u.move name m) (v.move name m') := by
  cases m with
  | call method params patience =>
    obtain rfl := Option.some.inj hm
    exact h.call method params patience
  | cancel caller =>
    obtain ⟨i, hi, rfl⟩ := Option.map_eq_some_iff.mp hm
    rw [Lead.since_eq_some hi]
    exact h.dismiss i .cancelled
  | expire caller limit =>
    obtain ⟨i, hi, rfl⟩ := Option.map_eq_some_iff.mp hm
    rw [Lead.since_eq_some hi]
    exact h.dismiss i (.timedOut limit)
  | drop caller =>
    obtain ⟨i, hi, rfl⟩ := Option.map_eq_some_iff.mp hm
    rw [Lead.since_eq_some hi]
    exact h.leave i
  | reply slot ending =>
    obtain ⟨i, hi, rfl⟩ := Option.map_eq_some_iff.mp hm
    rw [Lead.since_eq_some hi, move_reply, move_reply]
    refine h.happen ?_
    rw [ending.step_event, ending.step_event]
    exact h.dispatcher.finishTrip i ending.outcome?

/-- **What is about a caller or a slot from before changes nothing.** It may still come, a late
reply or a deadline of somebody who is gone, and the new dispatcher has no such move. -/
theorem GoesOn.move_stale {m : Move} (hm : m.since (t.lead name) = none) :
    GoesOn t name (u.move name m) v := by
  cases m with
  | call method params patience => cases hm
  | cancel caller =>
    exact h.dismiss_stale (Lead.since_eq_none (Option.map_eq_none_iff.mp hm)) .cancelled
  | expire caller limit =>
    exact h.dismiss_stale (Lead.since_eq_none (Option.map_eq_none_iff.mp hm)) (.timedOut limit)
  | drop caller =>
    have hlt := Lead.since_eq_none (Option.map_eq_none_iff.mp hm)
    have hstep : (u.dispatcher name).step (.leave caller) = (u.dispatcher name, []) :=
      congrArg (·, []) (h.dispatcher.leave_stale hlt)
    exact h.happen_stale hstep
  | reply slot ending =>
    have hlt := Lead.since_eq_none (Option.map_eq_none_iff.mp hm)
    rw [move_reply]
    refine h.happen_stale ?_
    rw [ending.step_event]
    exact h.dispatcher.finishTrip_stale hlt ending.outcome?

end GoesOn

theorem GoesOn.play {t u v : Timeline σ} {name : String} (h : GoesOn t name u v)
    (more : List Move) : GoesOn t name (u.play name more)
      (v.play name (more.filterMap (Move.since (t.lead name)))) := by
  induction more generalizing u v with
  | nil => exact h
  | cons m more ih =>
    cases hm : m.since (t.lead name) with
    | none =>
      rw [List.filterMap_cons_none hm]
      exact ih (h.move_stale hm)
    | some m' =>
      rw [List.filterMap_cons_some hm]
      exact ih (h.move hm)

theorem goesOn_anew {t : Timeline σ} {name : String} (hsound : (t.dispatcher name).Sound)
    (hnone : (t.dispatcher name).trips = []) : GoesOn t name t t.anew :=
  ⟨rfl, rfl, rfl, (Nat.zero_add _).symm, hsound.ahead_empty hnone t.callers, rfl, rfl, rfl⟩

end Timeline
end NodeRpc
