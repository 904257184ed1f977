import NodeRpc.Proofs.Call.Views

/-!
# Timelines that are alike

`Alike v v' t t'` says that two timelines have handed the same requests to the same transport and
that what is seen of their callers, under a view of each, is the same. The clock is left out: it is
read when something is arranged or recorded, and what comes about sets it first.

The lemmas come in two kinds. Something that is seen is done on both sides. Something that is not
seen may be done on one side alone, and these are the lemmas that say why a caller's wait holds no
part of what is shared. They have names in `_left`, and there is none for a caller that comes and
asks: such a caller may start a round trip, and that is seen by everybody whether or not the caller
is.

So the relation is not that of two runs of which one has fewer callers. It is that of two runs in
which the same callers ask at the same times. What may differ is the rest of their lives: whether
they wait, how long, and whether they are cancelled or dropped. `Patience.overlooked` is what is
left of a patience when only that is kept, and the one patience it does not touch is that of a
caller which is cancelled already, as such a caller does not ask.

The memory of the transport is compared as well as the requests. A transport may answer differently
the second time, and two runs that have asked it the same things in the same order must find it in
the same state.
-/

namespace NodeRpc

/-- Whether a caller asks at all: one that is cancelled already does not. -/
def Patience.asks : Patience → Bool
  | .cancelledAfter 0 => false
  | _ => true

/-- What others can tell of a caller's patience. -/
def Patience.overlooked (patience : Patience) : Patience :=
  if patience.asks then .unlimited else patience

theorem Patience.asks_overlooked (patience : Patience) :
    patience.overlooked.asks = patience.asks := by
  unfold overlooked
  split
  · rename_i hasks
    exact hasks.symm
  · rfl

namespace Timeline

variable {σ : Type} {v v' : View} {t t' : Timeline σ}

/-- The transport cannot tell the timelines apart, nor can an observer of their callers. That the
agendas are in order is kept along with it, as without order it cannot be said where something that
is arranged goes. -/
structure Alike (v v' : View) (t t' : Timeline σ) : Prop where
  transport : t.transport = t'.transport
  memory : t.memory = t'.memory
  requests : t.requests = t'.requests
  log : t.log = t'.log
  dispatcher : ∀ name, (t.dispatcher name).seen v = (t'.dispatcher name).seen v'
  agenda : t.agenda.filterMap (Appointment.seen v) = t'.agenda.filterMap (Appointment.seen v')
  ended : t.ended.filterMap (Ended.seen v) = t'.ended.filterMap (Ended.seen v')
  inOrder : InOrder t.agenda
  inOrder' : InOrder t'.agenda

theorem Alike.symm (h : Alike v v' t t') : Alike v' v t' t :=
  ⟨h.transport.symm, h.memory.symm, h.requests.symm, h.log.symm,
    fun name => (h.dispatcher name).symm, h.agenda.symm, h.ended.symm, h.inOrder', h.inOrder⟩

theorem alike_start (transport : Transport σ) (memory : σ) (v v' : View) :
    Alike v v' (start transport memory) (start transport memory) :=
  ⟨rfl, rfl, rfl, rfl, fun _ => rfl, rfl, rfl, List.Pairwise.nil, List.Pairwise.nil⟩

/-! ## Folds over what is seen

The effects of an event and the appointments that are due are lists, and of the two lists only what
is seen agrees. `foldl_seen` is the induction over both, once, with what is not seen on either side
passed over. -/

section Folds

variable {α β γ S T : Type} {see : α → Option γ} {see' : β → Option γ} {f : S → α → S}
  {g : T → β → T} {R : S → T → Prop}

theorem foldl_unseen (right : ∀ s s' b, see' b = none → R s s' → R s (g s' b)) {l : List β}
    (hl : ∀ b ∈ l, see' b = none) {s : S} {s' : T} (hR : R s s') : R s (l.foldl g s') := by
  induction l generalizing s' with
  | nil => exact hR
  | cons b l ih =>
    refine ih (fun c hc => hl c (List.mem_cons_of_mem _ hc)) ?_
    exact right s s' b (hl b List.mem_cons_self) hR

/-- Two folds keep a relation if what is seen of their lists is the same, what is seen keeps it
when done on both sides, and what is not seen when done on either. -/
theorem foldl_seen (left : ∀ s s' a, see a = none → R s s' → R (f s a) s')
    (right : ∀ s s' b, see' b = none → R s s' → R s (g s' b))
    (both : ∀ s s' a b c, see a = some c → see' b = some c → R s s' → R (f s a) (g s' b))
    {l : List α} {l' : List β} (h : l.filterMap see = l'.filterMap see') {s : S} {s' : T}
    (hR : R s s') : R (l.foldl f s) (l'.foldl g s') := by
  induction l generalizing l' s s' with
  | nil =>
    refine foldl_unseen right ?_ hR
    intro b hb
    exact List.filterMap_eq_nil_iff.mp h.symm b hb
  | cons a l ih =>
    cases ha : see a with
    | none =>
      rw [List.filterMap_cons_none ha] at h
      exact ih h (left s s' a ha hR)
    | some c =>
      rw [List.filterMap_cons_some ha] at h
      -- what is seen first on the other side comes behind things that are not seen
      obtain ⟨before, b, after, rfl, hbefore, hb, hafter⟩ := List.filterMap_eq_cons_iff.mp h.symm
      rw [List.foldl_append]
      exact ih hafter.symm (both _ _ a b c ha hb (foldl_unseen right hbefore hR))

end Folds

/-! ## The parts of a timeline -/

/-- The clock is not compared. -/
theorem Alike.withNow (h : Alike v v' t t') (now now' : Nat) :
    Alike v v' { t with now } { t' with now := now' } :=
  ⟨h.transport, h.memory, h.requests, h.log, h.dispatcher, h.agenda, h.ended, h.inOrder,
    h.inOrder'⟩

theorem Alike.withCallers (h : Alike v v' t t') (callers callers' : Nat) :
    Alike v v' { t with callers } { t' with callers := callers' } :=
  ⟨h.transport, h.memory, h.requests, h.log, h.dispatcher, h.agenda, h.ended, h.inOrder,
    h.inOrder'⟩

theorem Alike.setDispatcher (h : Alike v v' t t') (name : String) {d d' : Dispatcher}
    (hd : d.seen v = d'.seen v') :
    Alike v v' (t.setDispatcher name d) (t'.setDispatcher name d') := by
  refine ⟨by simpa using h.transport, by simpa using h.memory, by simpa using h.requests,
    by simpa using h.log, ?_, by simpa using h.agenda, by simpa using h.ended,
    by simpa using h.inOrder, by simpa using h.inOrder'⟩
  intro other
  by_cases hother : other = name
  · rw [hother, dispatcher_setDispatcher_self, dispatcher_setDispatcher_self, hd]
  · rw [dispatcher_setDispatcher_ne t hother, dispatcher_setDispatcher_ne t' hother, h.dispatcher]

/-- A dispatcher is replaced by one that looks the same. -/
theorem Alike.setDispatcher_left (h : Alike v v' t t') {name : String} {d : Dispatcher}
    (hd : d.seen v = (t.dispatcher name).seen v) : Alike v v' (t.setDispatcher name d) t' := by
  refine ⟨by simpa using h.transport, by simpa using h.memory, by simpa using h.requests,
    by simpa using h.log, ?_, by simpa using h.agenda, by simpa using h.ended,
    by simpa using h.inOrder, h.inOrder'⟩
  intro other
  by_cases hother : other = name
  · rw [hother, dispatcher_setDispatcher_self, hd, h.dispatcher]
  · rw [dispatcher_setDispatcher_ne t hother, h.dispatcher]

/-- Callers that are seen as one, or not at all, end at the same time in the same way. -/
theorem Alike.conclude (h : Alike v v' t t') (hnow : t.now = t'.now) {i j : CallerId}
    (hij : v i = v' j) (ending : Ending) :
    Alike v v' (t.conclude i ending) (t'.conclude j ending) := by
  have hsame : Ended.seen v ⟨i, t.now, ending⟩ = Ended.seen v' ⟨j, t'.now, ending⟩ := by
    unfold Ended.seen
    rw [hij, hnow]
  refine ⟨h.transport, h.memory, h.requests, h.log, h.dispatcher, h.agenda, ?_, h.inOrder,
    h.inOrder'⟩
  unfold Timeline.conclude
  rw [List.filterMap_cons, List.filterMap_cons, hsame, h.ended]

theorem Alike.conclude_left (h : Alike v v' t t') {i : CallerId} (hi : v i = none)
    (ending : Ending) : Alike v v' (t.conclude i ending) t' := by
  have hnone : Ended.seen v ⟨i, t.now, ending⟩ = none := by
    unfold Ended.seen
    rw [hi]
    rfl
  refine ⟨h.transport, h.memory, h.requests, h.log, h.dispatcher, h.agenda, ?_, h.inOrder,
    h.inOrder'⟩
  unfold Timeline.conclude
  rw [List.filterMap_cons_none hnone, h.ended]

/-- Things that are seen as one, or not at all, are arranged. -/
theorem Alike.appoint (h : Alike v v' t t') {a a' : Appointment}
    (ha : a.seen v = a'.seen v') : Alike v v' (t.appoint a) (t'.appoint a') := by
  refine ⟨h.transport, h.memory, h.requests, h.log, h.dispatcher, ?_, h.ended,
    inOrder_schedule h.inOrder a, inOrder_schedule h.inOrder' a'⟩
  unfold Timeline.appoint
  cases hs : a.seen v with
  | none => rw [seen_schedule_none hs, seen_schedule_none (ha ▸ hs), h.agenda]
  | some s => rw [seen_schedule hs h.inOrder, seen_schedule (ha ▸ hs) h.inOrder', h.agenda]

theorem Alike.appoint_left (h : Alike v v' t t') {a : Appointment} (ha : a.seen v = none) :
    Alike v v' (t.appoint a) t' := by
  refine ⟨h.transport, h.memory, h.requests, h.log, h.dispatcher, ?_, h.ended,
    inOrder_schedule h.inOrder a, h.inOrder'⟩
  unfold Timeline.appoint
  rw [seen_schedule_none ha, h.agenda]

/-! ## Effects and events -/

/-- An effect that is not seen is the end of a caller that is not. -/
theorem finish_of_seen_none {e : Effect} (he : e.seen v = none) :
    ∃ i outcome, e = .finish i outcome ∧ v i = none := by
  cases e with
  | log event => cases he
  | send slot method params => cases he
  | finish i outcome => exact ⟨i, outcome, rfl, Option.map_eq_none_iff.mp he⟩

/-- Two effects seen as one are the same, but for the number of a caller that they end. -/
theorem same_of_seen {e e' s : Effect} (he : e.seen v = some s) (he' : e'.seen v' = some s) :
    (e = e' ∧ ∀ i outcome, e ≠ .finish i outcome) ∨
      ∃ i j outcome, e = .finish i outcome ∧ e' = .finish j outcome ∧ v i = v' j := by
  -- an effect is seen as one of its own kind, so the two are of one kind
  cases e' with
  | log event =>
    obtain rfl := Option.some.inj he'
    cases e with
    | log event =>
      obtain rfl := Effect.log.inj (Option.some.inj he)
      exact Or.inl ⟨rfl, fun _ _ h => by cases h⟩
    | send slot method params => cases he
    | finish i outcome =>
      obtain ⟨k, -, hk⟩ := Option.map_eq_some_iff.mp he
      cases hk
  | send slot method params =>
    obtain rfl := Option.some.inj he'
    cases e with
    | log event => cases he
    | send slot method params =>
      obtain ⟨rfl, rfl, rfl⟩ := Effect.send.inj (Option.some.inj he)
      exact Or.inl ⟨rfl, fun _ _ h => by cases h⟩
    | finish i outcome =>
      obtain ⟨k, -, hk⟩ := Option.map_eq_some_iff.mp he
      cases hk
  | finish j outcome =>
    obtain ⟨k, hj, rfl⟩ := Option.map_eq_some_iff.mp he'
    cases e with
    | log event => cases he
    | send slot method params => cases he
    | finish i outcome' =>
      obtain ⟨l, hi, heq⟩ := Option.map_eq_some_iff.mp he
      obtain ⟨rfl, rfl⟩ := Effect.finish.inj heq
      exact Or.inr ⟨i, j, outcome', rfl, rfl, hi.trans hj.symm⟩

theorem Alike.perform (h : Alike v v' t t') (hnow : t.now = t'.now) (name : String)
    {e e' s : Effect} (he : e.seen v = some s) (he' : e'.seen v' = some s) :
    Alike v v' (perform name t e) (perform name t' e') := by
  rcases same_of_seen he he' with ⟨rfl, hfinish⟩ | ⟨i, j, outcome, rfl, rfl, hij⟩
  · cases e with
    | log event =>
      have hlog : event :: t.log = event :: t'.log := by rw [h.log]
      exact ⟨h.transport, h.memory, h.requests, hlog, h.dispatcher, h.agenda, h.ended,
        h.inOrder, h.inOrder'⟩
    | send slot method params =>
      have hreply : t.transport.send t.memory method params =
          t'.transport.send t'.memory method params := by rw [h.transport, h.memory]
      have hrequests : (method, params) :: t.requests = (method, params) :: t'.requests := by
        rw [h.requests]
      have hsent : Alike v v'
          { t with
            memory := (t.transport.send t.memory method params).2
            requests := (method, params) :: t.requests }
          { t' with
            memory := (t'.transport.send t'.memory method params).2
            requests := (method, params) :: t'.requests } :=
        ⟨h.transport, congrArg Prod.snd hreply, hrequests, h.log, h.dispatcher,
          h.agenda, h.ended, h.inOrder, h.inOrder'⟩
      refine hsent.appoint (a := ⟨_, .reply name slot _⟩) ?_
      rw [h.transport, h.memory, hnow]
      rfl
    | finish i outcome => exact absurd rfl (hfinish i outcome)
  · exact h.conclude hnow hij (.outcome outcome)

/-- Effects of which the same is seen are carried out on both sides. -/
theorem Alike.performAll (h : Alike v v' t t') (hnow : t.now = t'.now) (name : String)
    {effects effects' : List Effect}
    (heffects : effects.filterMap (Effect.seen v) = effects'.filterMap (Effect.seen v')) :
    Alike v v' (effects.foldl (Timeline.perform name) t)
      (effects'.foldl (Timeline.perform name) t') := by
  have hnows : ∀ (u u' : Timeline σ) e e', u.now = u'.now →
      (Timeline.perform name u e).now = (Timeline.perform name u' e').now := by
    intro u u' e e' hu
    exact (now_perform name [e] u).trans (hu.trans (now_perform name [e'] u').symm)
  refine (foldl_seen (R := fun u u' => Alike v v' u u' ∧ u.now = u'.now) ?_ ?_ ?_ heffects
    ⟨h, hnow⟩).1
  · rintro u u' e he ⟨hu, hunow⟩
    obtain ⟨i, outcome, rfl, hi⟩ := finish_of_seen_none he
    exact ⟨hu.conclude_left hi _, hunow⟩
  · rintro u u' e he ⟨hu, hunow⟩
    obtain ⟨i, outcome, rfl, hi⟩ := finish_of_seen_none he
    exact ⟨(hu.symm.conclude_left hi _).symm, hunow⟩
  · rintro u u' e e' s he he' ⟨hu, hunow⟩
    exact ⟨hu.perform hunow name he he', hnows u u' e e' hunow⟩

/-- Events that look the same to the dispatcher happen on both sides. -/
theorem Alike.happen (h : Alike v v' t t') (hnow : t.now = t'.now) (name : String)
    {event event' : DispatchEvent}
    (hstep : ((t.dispatcher name).step event).1.seen v =
      ((t'.dispatcher name).step event').1.seen v')
    (heffects : ((t.dispatcher name).step event).2.filterMap (Effect.seen v) =
      ((t'.dispatcher name).step event').2.filterMap (Effect.seen v')) :
    Alike v v' (t.happen name event) (t'.happen name event') := by
  refine (h.setDispatcher name hstep).performAll ?_ name heffects
  rw [now_setDispatcher, now_setDispatcher, hnow]

theorem seen_effects_call (v : View) (d : Dispatcher) (caller : CallerId) (method : String)
    (params : List Json) : (d.call caller method params).2.filterMap (Effect.seen v) =
      (d.call caller method params).2 := by
  unfold Dispatcher.call
  split
  · rfl
  · rfl

/-- Callers that are seen as one, or not at all, come and ask. -/
theorem Alike.asked (h : Alike v v' t t') (hnow : t.now = t'.now)
    (hcallers : v t.callers = v' t'.callers) (name method : String) (params : List Json) :
    Alike v v' (t.asked name method params) (t'.asked name method params) := by
  obtain ⟨hstep, heffects⟩ :=
    Dispatcher.seen_call (h.dispatcher name) hcallers method params
  have hentered := h.withCallers (t.callers + 1) (t'.callers + 1)
  refine hentered.happen hnow name hstep ?_
  -- nobody ends when a caller comes, so the views do not matter for the effects
  show ((t.dispatcher name).call t.callers method params).2.filterMap _ =
    ((t'.dispatcher name).call t'.callers method params).2.filterMap _
  rw [seen_effects_call, seen_effects_call, heffects]

theorem Alike.finishTrip (h : Alike v v' t t') (hnow : t.now = t'.now) (name : String)
    {event : DispatchEvent} (slot : Nat) (outcome : Option Outcome)
    (hevent : ∀ d : Dispatcher, d.step event = d.finishTrip slot outcome) :
    Alike v v' (t.happen name event) (t'.happen name event) := by
  have hseen : ((t.dispatcher name).seen v).finishTrip slot outcome =
      ((t'.dispatcher name).seen v').finishTrip slot outcome := by rw [h.dispatcher name]
  rw [Dispatcher.seen_finishTrip, Dispatcher.seen_finishTrip] at hseen
  obtain ⟨hstep, heffects⟩ := Prod.mk.inj hseen
  refine h.happen hnow name ?_ ?_
  · rw [hevent, hevent, hstep]
  · rw [hevent, hevent, heffects]

/-! ## Callers leave

The step at which a waiting caller and an observer part. Whoever leaves takes a place in the list of
those who wait with it, and nothing else. -/

theorem Alike.leave (h : Alike v v' t t') (hv : v.Faithful) (hv' : v'.Faithful)
    (hnow : t.now = t'.now) (name : String) {i j k : CallerId} (hi : v i = some k)
    (hj : v' j = some k) :
    Alike v v' (t.happen name (.leave i)) (t'.happen name (.leave j)) := by
  refine h.happen hnow name ?_ rfl
  show ((t.dispatcher name).leave i).seen v = ((t'.dispatcher name).leave j).seen v'
  rw [Dispatcher.seen_leave hv _ hi, Dispatcher.seen_leave hv' _ hj, h.dispatcher]

theorem Alike.leave_left (h : Alike v v' t t') (name : String) {i : CallerId}
    (hi : v i = none) : Alike v v' (t.happen name (.leave i)) t' :=
  h.setDispatcher_left (Dispatcher.seen_leave_none (t.dispatcher name) hi)

theorem isWaiting_eq (hv : v.Faithful) (t : Timeline σ) (name : String) {i k : CallerId}
    (hi : v i = some k) :
    t.isWaiting name i = ((t.dispatcher name).seen v).waiting.any (·.caller = k) := by
  rw [Bool.eq_iff_iff]
  unfold isWaiting
  rw [List.any_eq_true, List.any_eq_true]
  constructor
  · rintro ⟨w, hw, hcaller⟩
    refine ⟨⟨k, w.pending⟩, List.mem_filterMap.mpr ⟨w, hw, ?_⟩, by simp⟩
    unfold Waiting.seen
    rw [of_decide_eq_true hcaller, hi]
    rfl
  · rintro ⟨s, hs, hcaller⟩
    obtain ⟨w, hw, hws⟩ := List.mem_filterMap.mp hs
    obtain ⟨l, hl, rfl⟩ := Option.map_eq_some_iff.mp hws
    have hlk : l = k := of_decide_eq_true hcaller
    exact ⟨w, hw, decide_eq_true (hv _ _ _ (hlk ▸ hl) hi)⟩

theorem Alike.dismiss (h : Alike v v' t t') (hv : v.Faithful) (hv' : v'.Faithful)
    (hnow : t.now = t'.now) (name : String) {i j k : CallerId} (hi : v i = some k)
    (hj : v' j = some k) (ending : Ending) :
    Alike v v' (t.dismiss name i ending) (t'.dismiss name j ending) := by
  have hwaiting : t.isWaiting name i = t'.isWaiting name j := by
    rw [isWaiting_eq hv t name hi, isWaiting_eq hv' t' name hj, h.dispatcher]
  have hleft := h.leave hv hv' hnow name hi hj
  unfold Timeline.dismiss
  rw [hwaiting]
  split
  · exact hleft.conclude (by rw [now_happen, now_happen, hnow]) (hi.trans hj.symm) ending
  · exact h

theorem Alike.dismiss_left (h : Alike v v' t t') (name : String) {i : CallerId}
    (hi : v i = none) (ending : Ending) : Alike v v' (t.dismiss name i ending) t' := by
  unfold Timeline.dismiss
  split
  · exact (h.leave_left name hi).conclude_left hi ending
  · exact h

/-! ## Time passes

What is due on the two sides is the same as far as it is seen, and in the same order. Each
appointment sets the clock before it does anything, so the clocks need not agree before. -/

/-- Two appointments seen as one are the same, but for the number of a caller whose wait they
end. -/
theorem same_appointment_of_seen {a a' s : Appointment} (ha : a.seen v = some s)
    (ha' : a'.seen v' = some s) :
    (a = a' ∧ ∃ name slot ending, a.coming = .reply name slot ending) ∨
      ∃ time name i j k ending, a = ⟨time, .alarm name i ending⟩ ∧
        a' = ⟨time, .alarm name j ending⟩ ∧ v i = some k ∧ v' j = some k := by
  obtain ⟨time, coming⟩ := a
  obtain ⟨time', coming'⟩ := a'
  cases coming with
  | reply name slot ending =>
    obtain rfl := Option.some.inj ha
    cases coming' with
    | reply name' slot' ending' =>
      exact Or.inl ⟨(Option.some.inj ha').symm, name, slot, ending, rfl⟩
    | alarm name' j ending' =>
      obtain ⟨k, -, hk⟩ := Option.map_eq_some_iff.mp ha'
      cases hk
  | alarm name i ending =>
    obtain ⟨k, hi, rfl⟩ := Option.map_eq_some_iff.mp ha
    cases coming' with
    | reply name' slot' ending' => cases ha'
    | alarm name' j ending' =>
      obtain ⟨l, hj, heq⟩ := Option.map_eq_some_iff.mp ha'
      cases heq
      exact Or.inr ⟨time, name, i, j, k, ending, rfl, rfl, hi, hj⟩

theorem Alike.comeAbout (h : Alike v v' t t') (hv : v.Faithful) (hv' : v'.Faithful)
    {a a' s : Appointment} (ha : a.seen v = some s) (ha' : a'.seen v' = some s) :
    Alike v v' (t.comeAbout a) (t'.comeAbout a') := by
  rcases same_appointment_of_seen ha ha' with
    ⟨rfl, name, slot, ending, hreply⟩ | ⟨time, name, i, j, k, ending, rfl, rfl, hi, hj⟩
  · have hset := h.withNow a.time a.time
    unfold Timeline.comeAbout
    rw [hreply]
    cases ending with
    | answers outcome => exact hset.finishTrip rfl name slot (some outcome) fun _ => rfl
    | dies => exact hset.finishTrip rfl name slot none fun _ => rfl
  · exact (h.withNow time time).dismiss hv hv' rfl name hi hj ending

theorem Alike.comeAbout_left (h : Alike v v' t t') {a : Appointment} (ha : a.seen v = none) :
    Alike v v' (t.comeAbout a) t' := by
  obtain ⟨time, coming⟩ := a
  cases coming with
  | reply name slot ending => cases ha
  | alarm name caller ending =>
    have hcaller : v caller = none := Option.map_eq_none_iff.mp ha
    exact (h.withNow time t'.now).dismiss_left name hcaller ending

/-- **Time passes for both.** The two agendas need not be the same; what is on one of them only is
about something that the views leave out, and comes about without being seen. -/
theorem Alike.passUntil (h : Alike v v' t t') (hv : v.Faithful) (hv' : v'.Faithful)
    (time : Nat) : Alike v v' (t.passUntil time) (t'.passUntil time) := by
  have hdue : (t.agenda.takeWhile (·.time ≤ time)).filterMap (Appointment.seen v) =
      (t'.agenda.takeWhile (·.time ≤ time)).filterMap (Appointment.seen v') := by
    rw [seen_takeWhile h.inOrder, seen_takeWhile h.inOrder', h.agenda]
  have hlater : (t.agenda.dropWhile (·.time ≤ time)).filterMap (Appointment.seen v) =
      (t'.agenda.dropWhile (·.time ≤ time)).filterMap (Appointment.seen v') := by
    rw [seen_dropWhile h.inOrder, seen_dropWhile h.inOrder', h.agenda]
  have hfold : Alike v v' ((t.agenda.takeWhile (·.time ≤ time)).foldl Timeline.comeAbout t)
      ((t'.agenda.takeWhile (·.time ≤ time)).foldl Timeline.comeAbout t') := by
    refine foldl_seen (R := Alike v v') ?_ ?_ ?_ hdue h
    · exact fun _ _ _ ha hu => hu.comeAbout_left ha
    · exact fun _ _ _ ha hu => (hu.symm.comeAbout_left ha).symm
    · exact fun _ _ _ _ _ ha ha' hu => hu.comeAbout hv hv' ha ha'
  -- what comes about leaves the agenda alone, so the rest of it is what it was before
  rw [passUntil_eq, passUntil_eq]
  exact ⟨hfold.transport, hfold.memory, hfold.requests, hfold.log, hfold.dispatcher, hlater,
    hfold.ended, h.inOrder.sublist (List.dropWhile_sublist _),
    h.inOrder'.sublist (List.dropWhile_sublist _)⟩

/-! ## Callers come

Three lemmas for three kinds of callers: one that is seen, one that is not seen and asks, and one
that is cancelled before it could ask. Only the last may come on one side alone. -/

section Call

variable {k : CallerId} (name method : String) (params : List Json) {patience : Patience}

/-- A caller that is seen comes, with the same patience on both sides. -/
theorem Alike.call (h : Alike v v' t t') (hv : v.Faithful) (hv' : v'.Faithful)
    (hnow : t.now = t'.now) (hi : v t.callers = some k) (hj : v' t'.callers = some k)
    (patience : Patience) : Alike v v' (t.call name method params patience).2
      (t'.call name method params patience).2 := by
  have hij : v t.callers = v' t'.callers := hi.trans hj.symm
  have hasked := h.asked hnow hij name method params
  have hnows : (t.asked name method params).now = (t'.asked name method params).now := by
    rw [now_asked, now_asked, hnow]
  have halarm : ∀ delay ending,
      Appointment.seen v ⟨(t.asked name method params).now + delay, .alarm name t.callers ending⟩ =
        Appointment.seen v' ⟨(t'.asked name method params).now + delay,
          .alarm name t'.callers ending⟩ := by
    intro delay ending
    unfold Appointment.seen
    rw [hnows]
    dsimp only
    rw [hij]
  rw [call_eq, call_eq]
  rcases patience with - | (- | delay) | ⟨limit, - | ticks⟩
  · exact hasked
  · have hentered := h.withCallers (t.callers + 1) (t'.callers + 1)
    have hset := hentered.setDispatcher name (h.dispatcher name)
    refine hset.conclude ?_ hij .cancelled
    rw [now_setDispatcher, now_setDispatcher]
    exact hnow
  · exact hasked.appoint (halarm _ _)
  · exact hasked.dismiss hv hv' hnows name hi hj (.timedOut limit)
  · exact hasked.appoint (halarm _ _)

/-- How long a caller that is not seen is willing to wait is not seen, as long as it asks. -/
theorem Alike.call_of_asked (h : Alike v v' (t.asked name method params) t')
    (hi : v t.callers = none) (hasks : patience.asks = true) :
    Alike v v' (t.call name method params patience).2 t' := by
  have halarm : ∀ time ending,
      Appointment.seen v ⟨time, .alarm name t.callers ending⟩ = none := by
    intro time ending
    unfold Appointment.seen
    dsimp only
    rw [hi]
    rfl
  rw [call_eq]
  rcases patience with - | (- | delay) | ⟨limit, - | ticks⟩
  · exact h
  · cases hasks
  · exact h.appoint_left (halarm _ _)
  · exact h.dismiss_left name hi (.timedOut limit)
  · exact h.appoint_left (halarm _ _)

/-- **A caller that is cancelled already does nothing** that others see. It gets a number and an
ending, and it neither asks nor joins; on the other side nobody has come at all. -/
theorem Alike.call_idle_left (h : Alike v v' t t') (hi : v t.callers = none)
    (hidle : patience.asks = false) : Alike v v' (t.call name method params patience).2 t' := by
  have hentered := h.withCallers (t.callers + 1) t'.callers
  rw [call_eq]
  rcases patience with - | (- | delay) | ⟨limit, - | ticks⟩
  · cases hidle
  · exact (hentered.setDispatcher_left rfl).conclude_left hi .cancelled
  · cases hidle
  · cases hidle
  · cases hidle

/-- **A caller that is not seen comes**, on both sides and with any patience of those with
which it asks. -/
theorem Alike.call_unseen (h : Alike v v' t t') (hnow : t.now = t'.now)
    (hi : v t.callers = none) (hj : v' t'.callers = none) {patience' : Patience}
    (hasks : patience.asks = patience'.asks) :
    Alike v v' (t.call name method params patience).2
      (t'.call name method params patience').2 := by
  cases ha : patience.asks with
  | false =>
    have hleft := h.call_idle_left name method params hi ha
    exact (hleft.symm.call_idle_left name method params hj (hasks ▸ ha)).symm
  | true =>
    have hasked := h.asked hnow (hi.trans hj.symm) name method params
    have hleft := hasked.call_of_asked name method params hi ha
    exact (hleft.symm.call_of_asked name method params hj (hasks ▸ ha)).symm

end Call

end Timeline
end NodeRpc
