import NodeRpc.Proofs.Call.Plans

/-!
# The flights of a plan

Which round trips a plan makes can be said without the machine. A caller who asks takes the flight
of its dispatcher and key that has not landed yet, or starts one, and when a flight lands is known
when it starts, from the transport alone (`board`, `Plan.flights`). Who gives up, and when, does not
come into it.

A flight is meant to be something that can be worked out on paper: look for one that is under way,
else send a request and note down how long the transport will take. There are no slots, no
publishers and nobody who waits. That the dispatcher does the same is proved elsewhere
(`NodeRpc.Proofs.Call.Outstanding`). Kept apart like this, the description can be judged by itself,
and a theorem that says when a caller ends can be stated with it.

Flights of one dispatcher and key do not overlap (`Plan.InOrder.orderly`), so there is at most one
that a caller can take. A flight that lands at the moment at which a caller comes has landed:
replies are looked at before callers, and the caller starts a new one.
-/

namespace NodeRpc

/-- A round trip as the plan and the transport make it. A flight knows when it was sent and how long
it takes, and nothing of those who wait for it. -/
structure Flight where
  dispatcher : String
  method : String
  params : List Json
  sent : Nat
  delay : Nat
  ending : TripEnd

namespace Flight

def key (f : Flight) : RequestKey := .ofCall f.method f.params

def lands (f : Flight) : Nat := f.sent + f.delay

/-- Whether a caller of a dispatcher and a key can share the flight at a time: it is for that
dispatcher and key, and it has not landed. That it has been sent is not asked for, as flights are
looked for among those started so far. -/
def takes (f : Flight) (dispatcher : String) (key : RequestKey) (time : Nat) : Prop :=
  f.dispatcher = dispatcher ∧ f.key = key ∧ time < f.lands

instance (f : Flight) (dispatcher : String) (key : RequestKey) (time : Nat) :
    Decidable (f.takes dispatcher key time) := inferInstanceAs (Decidable (_ ∧ _ ∧ _))

/-- The reply that ends the flight, as the round trip of a slot. -/
def reply (f : Flight) (slot : Nat) : Appointment := ⟨f.lands, .reply f.dispatcher slot f.ending⟩

end Flight

/-- The flights so far, the last one first, and what the transport remembers of them. Its answers
may depend on that, so flights are made in the order in which they are sent. -/
structure Flights (σ : Type) where
  memory : σ
  started : List Flight := []

namespace Flights

variable {σ : Type}

/-- The flight of a caller who asks: the one there is for its dispatcher and key, or a new
one. -/
def board (flights : Flights σ) (transport : Transport σ) (time : Nat)
    (dispatcher method : String) (params : List Json) : Flight × Flights σ :=
  match flights.started.find? (·.takes dispatcher (.ofCall method params) time) with
  | some flight => (flight, flights)
  | none =>
    let (reply, memory) := transport.send flights.memory method params
    let flight := ⟨dispatcher, method, params, time, reply.delay, reply.ending⟩
    (flight, ⟨memory, flight :: flights.started⟩)

/-- What a deed adds to the flights. -/
def depart (transport : Transport σ) (flights : Flights σ) : Nat × Deed → Flights σ
  | (time, .call dispatcher method params patience) =>
    if patience.asks then (flights.board transport time dispatcher method params).2 else flights
  | (_, .drop _ _) => flights

/-- The flight that a caller starts. -/
def fresh (flights : Flights σ) (transport : Transport σ) (time : Nat)
    (dispatcher method : String) (params : List Json) : Flight :=
  ⟨dispatcher, method, params, time, (transport.send flights.memory method params).1.delay,
    (transport.send flights.memory method params).1.ending⟩

section Board

variable (flights : Flights σ) (transport : Transport σ) (time : Nat) (dispatcher method : String)
  (params : List Json)

/-- A caller takes a flight that has not landed, or there is none and it starts one. -/
theorem board_cases :
    (∃ f ∈ flights.started, f.takes dispatcher (.ofCall method params) time ∧
      flights.board transport time dispatcher method params = (f, flights)) ∨
    ((∀ f ∈ flights.started, ¬f.takes dispatcher (.ofCall method params) time) ∧
      flights.board transport time dispatcher method params =
        (flights.fresh transport time dispatcher method params,
          ⟨(transport.send flights.memory method params).2,
            flights.fresh transport time dispatcher method params :: flights.started⟩)) := by
  unfold board
  cases hfind : flights.started.find? (·.takes dispatcher (.ofCall method params) time) with
  | some f =>
    have htakes := List.find?_some hfind
    exact Or.inl ⟨f, List.mem_of_find?_eq_some hfind, of_decide_eq_true htakes, rfl⟩
  | none =>
    refine Or.inr ⟨fun f hf htakes => ?_, rfl⟩
    exact List.find?_eq_none.mp hfind f hf (decide_eq_true htakes)

/-- Whichever flight it is, it is for the caller's dispatcher and key. -/
theorem board_fits : (flights.board transport time dispatcher method params).1.dispatcher =
      dispatcher ∧
    (flights.board transport time dispatcher method params).1.key = .ofCall method params := by
  rcases flights.board_cases transport time dispatcher method params with
    ⟨f, -, ⟨hdispatcher, hkey, -⟩, heq⟩ | ⟨-, heq⟩
  · rw [heq]
    exact ⟨hdispatcher, hkey⟩
  · rw [heq]
    exact ⟨rfl, rfl⟩

/-- If there is none, the caller starts one. -/
theorem board_of_none
    (hnone : ∀ f ∈ flights.started, ¬f.takes dispatcher (.ofCall method params) time) :
    (flights.board transport time dispatcher method params).1 =
      flights.fresh transport time dispatcher method params := by
  rcases flights.board_cases transport time dispatcher method params with
    ⟨f, hf, htakes, -⟩ | ⟨-, hboard⟩
  · exact absurd htakes (hnone f hf)
  · rw [hboard]

/-- It does not land before the caller takes it. -/
theorem le_lands_board :
    time ≤ (flights.board transport time dispatcher method params).1.lands := by
  rcases flights.board_cases transport time dispatcher method params with
    ⟨f, -, ⟨-, -, hlands⟩, heq⟩ | ⟨-, heq⟩
  · rw [heq]
    exact Nat.le_of_lt hlands
  · rw [heq]
    exact Nat.le_add_right _ _

end Board

/-- The flights were sent by a time, and of those of one dispatcher and key each was sent after
the ones before it had landed. -/
structure Orderly (flights : Flights σ) (time : Nat) : Prop where
  sent_le : ∀ f ∈ flights.started, f.sent ≤ time
  apart : flights.started.Pairwise fun f earlier =>
    f.dispatcher = earlier.dispatcher → f.key = earlier.key → earlier.lands ≤ f.sent

section Orderly

variable {flights : Flights σ} {time : Nat}

theorem Orderly.later (h : flights.Orderly time) {last : Nat} (hlast : time ≤ last) :
    flights.Orderly last :=
  ⟨fun f hf => Nat.le_trans (h.sent_le f hf) hlast, h.apart⟩

/-- **At any time there is one flight that a caller can take**, if there is any. A flight that has
not landed keeps others of its key from starting, which is what being orderly says. -/
theorem Orderly.takes_unique (h : flights.Orderly time) {dispatcher : String} {key : RequestKey}
    {f g : Flight} (hf : f ∈ flights.started) (hg : g ∈ flights.started)
    (hftakes : f.takes dispatcher key time) (hgtakes : g.takes dispatcher key time) : f = g := by
  obtain ⟨hfdispatcher, hfkey, hflands⟩ := hftakes
  obtain ⟨hgdispatcher, hgkey, hglands⟩ := hgtakes
  -- of two flights the earlier one has landed when the later one is sent
  have hnot : ∀ {f g : Flight}, f ∈ flights.started → f.dispatcher = dispatcher → f.key = key →
      g.dispatcher = dispatcher → g.key = key → time < g.lands →
      ¬(f.dispatcher = g.dispatcher → f.key = g.key → g.lands ≤ f.sent) := by
    intro f g hf hfd hfk hgd hgk hlands happart
    have hsent := h.sent_le f hf
    have hle := happart (hfd.trans hgd.symm) (hfk.trans hgk.symm)
    omega
  by_contra hne
  obtain ⟨i, hi, rfl⟩ := List.getElem_of_mem hf
  obtain ⟨j, hj, rfl⟩ := List.getElem_of_mem hg
  have hapart := List.pairwise_iff_getElem.mp h.apart
  rcases Nat.lt_trichotomy i j with hij | rfl | hij
  · exact hnot hf hfdispatcher hfkey hgdispatcher hgkey hglands (hapart i j hi hj hij)
  · exact hne rfl
  · exact hnot hg hgdispatcher hgkey hfdispatcher hfkey hflands (hapart j i hj hi hij)

/-- **If there is one, a caller takes it.** So a plan need not say which flight a caller joins;
there is never a choice. -/
theorem Orderly.eq_board (h : flights.Orderly time) (transport : Transport σ)
    {dispatcher method : String} {params : List Json} {f : Flight} (hf : f ∈ flights.started)
    (htakes : f.takes dispatcher (.ofCall method params) time) :
    f = (flights.board transport time dispatcher method params).1 := by
  rcases flights.board_cases transport time dispatcher method params with
    ⟨g, hg, hgtakes, hboard⟩ | ⟨hnone, -⟩
  · rw [hboard]
    exact h.takes_unique hf hg htakes hgtakes
  · exact absurd htakes (hnone f hf)

theorem Orderly.board (h : flights.Orderly time) (transport : Transport σ)
    (dispatcher method : String) (params : List Json) :
    (flights.board transport time dispatcher method params).1.sent ≤ time ∧
    (flights.board transport time dispatcher method params).2.Orderly time := by
  rcases flights.board_cases transport time dispatcher method params with
    ⟨f, hf, -, heq⟩ | ⟨hnone, heq⟩
  · rw [heq]
    exact ⟨h.sent_le f hf, h⟩
  · rw [heq]
    refine ⟨Nat.le_refl _, ?_, ?_⟩
    · intro f hf
      rcases List.mem_cons.mp hf with rfl | hf
      · exact Nat.le_refl _
      · exact h.sent_le f hf
    · -- one that had not landed would have been taken
      refine List.pairwise_cons.mpr ⟨fun f hf hdispatcher hkey => ?_, h.apart⟩
      have hlanded := hnone f hf
      unfold Flight.takes at hlanded
      exact Nat.le_of_not_lt fun hlands => hlanded ⟨hdispatcher.symm, hkey.symm, hlands⟩

theorem Orderly.depart (h : flights.Orderly time) (transport : Transport σ) (deed : Deed) :
    (depart transport flights (time, deed)).Orderly time := by
  cases deed with
  | drop dispatcher caller => exact h
  | call dispatcher method params patience =>
    rw [Flights.depart]
    split
    · exact (h.board transport dispatcher method params).2
    · exact h

end Orderly
end Flights

theorem Plan.le_of_mem_upTo {plan : Plan} {time : Nat} {entry : Nat × Deed}
    (h : entry ∈ plan.upTo time) : entry.1 ≤ time :=
  of_decide_eq_true (List.mem_takeWhile_imp (p := fun e : Nat × Deed => e.1 ≤ time) h)

/-- The flights that a plan makes. They are found without any timeline, by going through the plan
once. -/
def Plan.flights {σ : Type} (plan : Plan) (transport : Transport σ) (memory : σ) : Flights σ :=
  plan.foldl (Flights.depart transport) ⟨memory, []⟩

theorem Flights.Orderly.foldl_depart {σ : Type} {transport : Transport σ} {flights : Flights σ}
    {time last : Nat} {plan : Plan} (h : flights.Orderly time) (hplan : plan.InOrder)
    (hfirst : ∀ entry ∈ plan, time ≤ entry.1) (hlast : ∀ entry ∈ plan, entry.1 ≤ last)
    (hle : time ≤ last) : (plan.foldl (Flights.depart transport) flights).Orderly last := by
  induction plan generalizing flights time with
  | nil => exact h.later hle
  | cons entry plan ih =>
    have hnow := h.later (hfirst entry List.mem_cons_self)
    exact ih (hnow.depart transport entry.2) hplan.of_cons (List.pairwise_cons.mp hplan).1
      (fun later hlater => hlast later (List.mem_cons_of_mem _ hlater))
      (hlast entry List.mem_cons_self)

/-- **The flights of a plan are orderly.** No transport can make them otherwise, since a flight is
started only by a caller who finds none, and this is decided before the transport is asked. -/
theorem Plan.InOrder.orderly {σ : Type} {plan : Plan} (hplan : plan.InOrder)
    (transport : Transport σ) (memory : σ) {last : Nat} (hlast : ∀ entry ∈ plan, entry.1 ≤ last) :
    (plan.flights transport memory).Orderly last := by
  have hstart : (⟨memory, []⟩ : Flights σ).Orderly 0 :=
    ⟨fun f hf => (List.not_mem_nil hf).elim, List.Pairwise.nil⟩
  exact hstart.foldl_depart hplan (fun _ _ => Nat.zero_le _) hlast (Nat.zero_le _)

end NodeRpc
