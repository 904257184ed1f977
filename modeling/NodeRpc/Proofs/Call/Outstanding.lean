import NodeRpc.Proofs.Call.Flights
import NodeRpc.Proofs.Call.Moves

/-!
# Round trips outstanding

The machine carries the flights of its plan and no others (`Carries`): the round trips that are
outstanding are those of the flights that have not landed, and for each of them one reply stands on
the agenda. What comes about keeps that (`Carries.comeAbout`), and so does a caller who asks
(`Carries.asked`), who waits for the flight that it takes.

Flights are what a plan and a transport come to on paper, and round trips are what the machine has.
The relation between the two has to say three things that are easily taken for one. A flight that
has not landed has a round trip. A round trip that is outstanding has a flight. And the reply on the
agenda for the slot of the round trip is the flight's reply, with its time and its ending. It is the
third that lets a fact about when something lands become a fact about when somebody ends.

The reply is looked up on the agenda as *the first* for its slot. There is never a second, but to
prove that would be a detour: what comes about first is what ends the round trip, and after that
nobody waits for the slot. For the same reason it is part of the invariant that no reply is expected
for a slot that is not used yet (`Carries.used`), else a new round trip could be ended by a reply
that was there before it.

`Carries` has the agenda as a parameter of its own, beside the timeline. While time passes, what is
due is carried out one by one over a timeline whose agenda was taken off, and between two of these
steps the agenda of the timeline is not what is still to come.
-/

namespace NodeRpc

/-- Whether the reply for a slot of a dispatcher comes about. -/
def Coming.isReply (name : String) (slot : Nat) : Coming → Bool
  | .reply dispatcher other _ => dispatcher = name && other = slot
  | .alarm _ _ _ => false

/-! ## Looking things up on the agenda

What is put on the agenda is found there, unless something of its kind is due before it or with it;
and what is not looked for is not found in its place. -/

section Agenda

variable {p : Appointment → Bool} {new : Appointment} {agenda : List Appointment}

theorem find?_schedule_of_neg (hnew : p new = false) :
    (schedule new agenda).find? p = agenda.find? p := by
  induction agenda with
  | nil => rw [schedule, List.find?_cons, hnew]
  | cons other rest ih =>
    rw [schedule_cons]
    split
    · rw [List.find?_cons, hnew]
    · rw [List.find?_cons, List.find?_cons, ih]

/-- What is arranged is found unless something of the kind comes before it or with it. -/
theorem find?_schedule_of_pos (hagenda : InOrder agenda) (hnew : p new = true) :
    (schedule new agenda).find? p =
      match agenda.find? p with
      | none => some new
      | some old => some (if new.rank < old.rank then new else old) := by
  induction agenda with
  | nil => rw [schedule, List.find?_cons, hnew]; rfl
  | cons other rest ih =>
    rw [schedule_cons]
    by_cases hrank : new.rank < other.rank
    · rw [if_pos hrank, List.find?_cons, hnew]
      cases hfind : (other :: rest).find? p with
      | none => rfl
      | some old =>
        have hle : other.rank ≤ old.rank := by
          rcases List.mem_cons.mp (List.mem_of_find?_eq_some hfind) with rfl | hold
          · exact Nat.le_refl _
          · exact (List.pairwise_cons.mp hagenda).1 old hold
        dsimp only
        rw [if_pos (Nat.lt_of_lt_of_le hrank hle)]
    · rw [if_neg hrank, List.find?_cons, List.find?_cons]
      cases p other with
      | true => simp [hrank]
      | false => exact ih hagenda.of_cons

/-- What is left when time has passed is due later. -/
theorem lt_time_of_mem_dropWhile (hagenda : InOrder agenda) {time : Nat} {a : Appointment}
    (ha : a ∈ agenda.dropWhile (·.time ≤ time)) : time < a.time := by
  induction agenda with
  | nil => cases ha
  | cons other rest ih =>
    by_cases hdue : other.time ≤ time
    · rw [List.dropWhile_cons_of_pos (by simpa using hdue)] at ha
      exact ih hagenda.of_cons ha
    · rw [List.dropWhile_cons_of_neg (by simpa using hdue)] at ha
      rcases List.mem_cons.mp ha with rfl | ha
      · omega
      · have := time_le_of_rank_le ((List.pairwise_cons.mp hagenda).1 a ha)
        omega

end Agenda

namespace Timeline

variable {σ : Type}

/-! ## What only a request or an arrangement changes

The wire is what a timeline has of the transport, together with the agenda. Endings leave it alone,
and so does whoever leaves. -/

/-- What a timeline has of the transport and the agenda. Logging and the endings of callers do not
touch it. -/
def wire (t : Timeline σ) : Transport σ × σ × List (String × List Json) × List Appointment :=
  (t.transport, t.memory, t.requests, t.agenda)

theorem wire_perform (name : String) {effects : List Effect}
    (h : ∀ e ∈ effects, ∃ caller outcome, e = .finish caller outcome) (t : Timeline σ) :
    (effects.foldl (perform name) t).wire = t.wire := by
  induction effects generalizing t with
  | nil => rfl
  | cons effect effects ih =>
    obtain ⟨caller, outcome, rfl⟩ := h effect List.mem_cons_self
    exact ih (fun e he => h e (List.mem_cons_of_mem _ he)) _

theorem wire_setDispatcher (t : Timeline σ) (name : String) (d : Dispatcher) :
    (t.setDispatcher name d).wire = t.wire := by
  rw [setDispatcher_eq]
  rfl

theorem wire_happen (t : Timeline σ) (name : String) {event : DispatchEvent}
    (h : ∀ caller method params, event ≠ .call caller method params) :
    (t.happen name event).wire = t.wire :=
  (wire_perform name (effects_finish _ event h) _).trans (wire_setDispatcher t name _)

theorem wire_leave (t : Timeline σ) (name : String) (caller : CallerId) :
    (t.happen name (.leave caller)).wire = t.wire :=
  wire_happen t name fun _ _ _ h => by cases h

theorem wire_dismiss (t : Timeline σ) (name : String) (caller : CallerId) (ending : Ending) :
    (t.dismiss name caller ending).wire = t.wire := by
  unfold dismiss
  split
  · exact wire_leave t name caller
  · rfl

/-- The end of a round trip, when it comes about, is a move at that time. -/
theorem comeAbout_reply (t : Timeline σ) (time : Nat) (name : String) (slot : Nat)
    (ending : TripEnd) : t.comeAbout ⟨time, .reply name slot ending⟩ =
      { t with now := time }.happen name (ending.event slot) :=
  move_reply { t with now := time } name slot ending

theorem wire_comeAbout (t : Timeline σ) (a : Appointment) : (t.comeAbout a).wire = t.wire := by
  obtain ⟨time, coming⟩ := a
  cases coming with
  | reply name slot ending =>
    rw [comeAbout_reply]
    refine wire_happen _ name fun _ _ _ h => ?_
    cases ending with
    | answers outcome => cases h
    | dies => cases h
  | alarm name caller ending => exact wire_dismiss _ name caller ending

/-! ## What happens to the round trips -/

/-- Every dispatcher is sound. This is kept by everything that happens, as each event is a step of
one of them. -/
def AllSound (t : Timeline σ) : Prop := ∀ name, (t.dispatcher name).Sound

theorem AllSound.happen {t : Timeline σ} (h : t.AllSound) (name : String)
    (event : DispatchEvent) : (t.happen name event).AllSound := by
  intro other
  by_cases hother : other = name
  · rw [hother, dispatcher_happen_self]
    exact (h name).step event
  · rw [dispatcher_happen_ne t name event hother]
    exact h other

theorem dispatcher_dismiss (t : Timeline σ) (name : String) (caller : CallerId)
    (ending : Ending) (other : String) :
    (t.dismiss name caller ending).dispatcher other = t.dispatcher other ∨
      (t.dismiss name caller ending).dispatcher other = (t.dispatcher other).leave caller := by
  unfold dismiss
  split
  · by_cases hother : other = name
    · rw [hother]
      exact Or.inr (dispatcher_happen_self t name (.leave caller))
    · exact Or.inl (dispatcher_happen_ne t name _ hother)
  · exact Or.inl rfl

theorem AllSound.dismiss {t : Timeline σ} (h : t.AllSound) (name : String) (caller : CallerId)
    (ending : Ending) : (t.dismiss name caller ending).AllSound := by
  intro other
  rcases dispatcher_dismiss t name caller ending other with heq | heq
  · rw [heq]
    exact h other
  · rw [heq]
    exact (h other).leave caller

theorem AllSound.comeAbout {t : Timeline σ} (h : t.AllSound) (a : Appointment) :
    (t.comeAbout a).AllSound := by
  obtain ⟨time, coming⟩ := a
  cases coming with
  | reply name slot ending =>
    rw [comeAbout_reply]
    exact AllSound.happen (t := { t with now := time }) h name _
  | alarm name caller ending =>
    exact AllSound.dismiss (t := { t with now := time }) h name caller ending

/-- **What comes about ends the round trip that it is the reply for, and no other.** An alarm is the
reply for none, so a deadline that is over does not end a round trip. -/
theorem trips_comeAbout {t : Timeline σ} (h : t.AllSound) (a : Appointment) (name : String) :
    ((t.comeAbout a).dispatcher name).trips =
        (t.dispatcher name).trips.filter (fun trip => !a.coming.isReply name trip.slot) ∧
      ((t.comeAbout a).dispatcher name).coalescer.slots.size =
        (t.dispatcher name).coalescer.slots.size := by
  obtain ⟨time, coming⟩ := a
  -- an alarm lets a caller leave, which ends no round trip
  cases coming with
  | alarm other caller ending =>
    have hall : (t.dispatcher name).trips.filter (fun _ => true) = (t.dispatcher name).trips :=
      List.filter_true _
    rcases dispatcher_dismiss { t with now := time } other caller ending name with heq | heq
    · exact ⟨(congrArg Dispatcher.trips heq).trans hall.symm,
        congrArg (·.coalescer.slots.size) heq⟩
    · exact ⟨(congrArg Dispatcher.trips heq).trans hall.symm,
        congrArg (·.coalescer.slots.size) heq⟩
  | reply other slot ending =>
    rw [comeAbout_reply]
    unfold Coming.isReply
    by_cases hother : name = other
    · subst hother
      have hstep := dispatcher_happen_self { t with now := time } name (ending.event slot)
      rw [hstep, ending.step_event]
      show ((t.dispatcher name).finishTrip slot ending.outcome?).1.trips = _ ∧
        ((t.dispatcher name).finishTrip slot ending.outcome?).1.coalescer.slots.size = _
      rcases (h name).finishTrip_cases slot ending.outcome? with
        ⟨hnone, heq⟩ | ⟨trip, -, hslot, heq⟩
      · rw [heq]
        refine ⟨(List.filter_eq_self.mpr fun trip htrip => ?_).symm, rfl⟩
        simpa using Ne.symm (hnone trip htrip)
      · rw [heq]
        refine ⟨List.filter_congr fun other _ => ?_, Array.size_setIfInBounds⟩
        simp [hslot, eq_comm]
    · have hframe := dispatcher_happen_ne { t with now := time } other (ending.event slot) hother
      rw [hframe]
      refine ⟨(List.filter_eq_self.mpr fun trip _ => ?_).symm, rfl⟩
      simp [Ne.symm hother]

/-- **What a caller who asks does to its dispatcher and to the wire**: it joins the round trip
of its key, or it starts one, whose reply is put on the agenda. -/
theorem asked_cases (t : Timeline σ) {name : String} (h : (t.dispatcher name).Sound)
    (method : String) (params : List Json) :
    (∃ trip ∈ (t.dispatcher name).trips, trip.key = .ofCall method params ∧
      (t.asked name method params).dispatcher name =
        (t.dispatcher name).joined t.callers trip ∧
      (t.asked name method params).wire = t.wire) ∨
    ((∀ trip ∈ (t.dispatcher name).trips, trip.key ≠ .ofCall method params) ∧
      (t.asked name method params).dispatcher name =
        (t.dispatcher name).begun t.callers method params ∧
      (t.asked name method params).wire =
        (t.transport, (t.transport.send t.memory method params).2,
          (method, params) :: t.requests,
          schedule ⟨t.now + (t.transport.send t.memory method params).1.delay,
            .reply name ((t.dispatcher name).newTrip method params).slot
              (t.transport.send t.memory method params).1.ending⟩ t.agenda)) := by
  have hdispatcher := dispatcher_asked_self t name method params
  have hwire : (t.asked name method params).wire =
      (((t.dispatcher name).call t.callers method params).2.foldl (perform name)
        ({ t with callers := t.callers + 1 }.setDispatcher name
          ((t.dispatcher name).call t.callers method params).1)).wire := rfl
  rcases h.call_cases t.callers method params with ⟨trip, htrip, hkey, heq⟩ | ⟨hnone, heq⟩
  · rw [heq] at hdispatcher hwire
    exact Or.inl ⟨trip, htrip, hkey, hdispatcher, hwire.trans (wire_setDispatcher _ name _)⟩
  · rw [heq] at hdispatcher hwire
    refine Or.inr ⟨hnone, hdispatcher, hwire.trans ?_⟩
    rw [setDispatcher_eq]
    rfl

theorem dispatcher_asked_ne (t : Timeline σ) {name other : String} (h : other ≠ name)
    (method : String) (params : List Json) :
    (t.asked name method params).dispatcher other = t.dispatcher other :=
  dispatcher_happen_ne { t with callers := t.callers + 1 } name _ h

/-! ## Flights and round trips

The relation between a flight and its round trip, and from it the invariant. There is a lemma for
each thing that can happen. -/

/-- A round trip is a flight's: it has its request, and its reply is the flight's. The reply is the
first on the agenda for the slot, so it is the one that will end it. -/
structure Tracks (agenda : List Appointment) (f : Flight) (trip : Trip) : Prop where
  method : trip.method = f.method
  params : trip.params = f.params
  reply : agenda.find? (·.coming.isReply f.dispatcher trip.slot) = some (f.reply trip.slot)

section Tracks

variable {agenda : List Appointment} {f : Flight} {trip : Trip} {a : Appointment}

theorem Tracks.key (h : Tracks agenda f trip) : trip.key = f.key := by
  unfold Trip.key Flight.key
  rw [h.method, h.params]

theorem Tracks.of_cons (h : Tracks (a :: agenda) f trip)
    (ha : a.coming.isReply f.dispatcher trip.slot = false) : Tracks agenda f trip := by
  refine ⟨h.method, h.params, ?_⟩
  have hreply := h.reply
  rwa [List.find?_cons, ha] at hreply

theorem Tracks.schedule (h : Tracks agenda f trip)
    (ha : a.coming.isReply f.dispatcher trip.slot = false) :
    Tracks (schedule a agenda) f trip :=
  ⟨h.method, h.params, (find?_schedule_of_neg ha).trans h.reply⟩

end Tracks

/-- A timeline carries flights, of which those have landed that land by `time`. `agenda` is what is
still to come. The memory of the transport is compared as well, since the next flight lands when the
transport says so. -/
structure Carries (transport : Transport σ) (agenda : List Appointment) (time : Nat)
    (t : Timeline σ) (flights : Flights σ) : Prop where
  transport_eq : t.transport = transport
  memory_eq : t.memory = flights.memory
  requests_eq : t.requests = flights.started.map fun f => (f.method, f.params)
  sound : t.AllSound
  inOrder : InOrder agenda
  /-- What has not landed is outstanding. -/
  outstanding : ∀ f ∈ flights.started, time < f.lands →
    ∃ trip ∈ (t.dispatcher f.dispatcher).trips, Tracks agenda f trip
  /-- What is outstanding has been started. -/
  started : ∀ name, ∀ trip ∈ (t.dispatcher name).trips,
    ∃ f ∈ flights.started, f.dispatcher = name ∧ Tracks agenda f trip
  /-- No reply is expected for a slot that is not used yet. -/
  used : ∀ name slot, (t.dispatcher name).coalescer.slots.size ≤ slot →
    agenda.find? (·.coming.isReply name slot) = none

section Carries

variable {transport : Transport σ} {agenda : List Appointment} {time : Nat} {t : Timeline σ}
  {flights : Flights σ}

theorem carries_start (transport : Transport σ) (memory : σ) (time : Nat) :
    Carries transport [] time (start transport memory) ⟨memory, []⟩ where
  transport_eq := rfl
  memory_eq := rfl
  requests_eq := rfl
  sound _ := Dispatcher.sound_empty
  inOrder := List.Pairwise.nil
  outstanding f hf := by cases hf
  started _ trip htrip := by cases htrip
  used _ _ _ := rfl

/-- Later more has landed. -/
theorem Carries.later (h : Carries transport agenda time t flights) {last : Nat}
    (hlast : time ≤ last) : Carries transport agenda last t flights :=
  { h with
    outstanding := fun f hf hlands => h.outstanding f hf (Nat.lt_of_le_of_lt hlast hlands) }

/-- What keeps the round trips and the wire keeps the flights. -/
theorem Carries.of_trips_eq (h : Carries transport agenda time t flights) {t' : Timeline σ}
    (hwire : t'.wire = t.wire) (hsound : t'.AllSound)
    (htrips : ∀ name, (t'.dispatcher name).trips = (t.dispatcher name).trips)
    (hsize : ∀ name, (t'.dispatcher name).coalescer.slots.size =
      (t.dispatcher name).coalescer.slots.size) : Carries transport agenda time t' flights where
  transport_eq := (congrArg Prod.fst hwire).trans h.transport_eq
  memory_eq := (congrArg (·.2.1) hwire).trans h.memory_eq
  requests_eq := (congrArg (·.2.2.1) hwire).trans h.requests_eq
  sound := hsound
  inOrder := h.inOrder
  outstanding f hf hlands := by
    rw [htrips]
    exact h.outstanding f hf hlands
  started name trip htrip := h.started name trip (htrips name ▸ htrip)
  used name slot hslot := h.used name slot (hsize name ▸ hslot)

/-- Nor does it matter to the flights whether a caller leaves. -/
theorem Carries.of_leave (h : Carries transport t.agenda time t flights) {t' : Timeline σ}
    (caller : CallerId) (hwire : t'.wire = t.wire)
    (hleft : ∀ name, t'.dispatcher name = t.dispatcher name ∨
      t'.dispatcher name = (t.dispatcher name).leave caller) :
    Carries transport t'.agenda time t' flights := by
  have hagenda : t'.agenda = t.agenda := congrArg (·.2.2.2) hwire
  rw [hagenda]
  refine h.of_trips_eq hwire ?_ ?_ ?_
  all_goals
    intro name
    rcases hleft name with heq | heq
  · exact heq ▸ h.sound name
  · exact heq ▸ (h.sound name).leave caller
  · rw [heq]
  · rw [heq]
    rfl
  · rw [heq]
  · rw [heq]
    rfl

/-- An alarm is nothing to the flights. -/
theorem Carries.appoint (h : Carries transport agenda time t flights) {a : Appointment}
    (ha : ∀ name slot, a.coming.isReply name slot = false) :
    Carries transport (schedule a agenda) time t flights where
  transport_eq := h.transport_eq
  memory_eq := h.memory_eq
  requests_eq := h.requests_eq
  sound := h.sound
  inOrder := inOrder_schedule h.inOrder a
  outstanding f hf hlands := by
    obtain ⟨trip, htrip, htracks⟩ := h.outstanding f hf hlands
    exact ⟨trip, htrip, htracks.schedule (ha _ _)⟩
  started name trip htrip := by
    obtain ⟨f, hf, hname, htracks⟩ := h.started name trip htrip
    exact ⟨f, hf, hname, htracks.schedule (ha _ _)⟩
  used name slot hslot := (find?_schedule_of_neg (ha _ _)).trans (h.used name slot hslot)

/-- **What comes about lands the flight that it is the reply for.** If it is not a reply, all
flights stay in the air. -/
theorem Carries.comeAbout {a : Appointment}
    (h : Carries transport (a :: agenda) time t flights) (ha : a.time ≤ time) :
    Carries transport agenda time (t.comeAbout a) flights := by
  have hwire := wire_comeAbout t a
  have htrips := trips_comeAbout h.sound a
  refine ⟨(congrArg Prod.fst hwire).trans h.transport_eq,
    (congrArg (·.2.1) hwire).trans h.memory_eq, (congrArg (·.2.2.1) hwire).trans h.requests_eq,
    h.sound.comeAbout a, h.inOrder.of_cons, ?_, ?_, ?_⟩
  · intro f hf hlands
    obtain ⟨trip, htrip, htracks⟩ := h.outstanding f hf hlands
    -- the reply of a flight that has not landed is due later than `a`
    have hother : a.coming.isReply f.dispatcher trip.slot = false := by
      by_contra hreply
      have hfind := htracks.reply
      rw [List.find?_cons, (Bool.not_eq_false _).mp hreply] at hfind
      have htime : a.time = f.lands := congrArg Appointment.time (Option.some.inj hfind)
      omega
    refine ⟨trip, ?_, htracks.of_cons hother⟩
    rw [(htrips _).1]
    exact List.mem_filter.mpr ⟨htrip, by rw [hother]; rfl⟩
  · intro name trip htrip
    rw [(htrips name).1] at htrip
    obtain ⟨htrip, hother⟩ := List.mem_filter.mp htrip
    obtain ⟨f, hf, rfl, htracks⟩ := h.started name trip htrip
    exact ⟨f, hf, rfl, htracks.of_cons ((Bool.not_eq_true' _).mp hother)⟩
  · intro name slot hslot
    rw [(htrips name).2] at hslot
    have hnone := h.used name slot hslot
    rw [List.find?_cons] at hnone
    split at hnone
    · cases hnone
    · exact hnone

/-- Time passes, and what is due until then lands. -/
theorem Carries.pass (h : Carries transport agenda time t flights) :
    Carries transport (agenda.dropWhile (·.time ≤ time)) time
      ((agenda.takeWhile (·.time ≤ time)).foldl Timeline.comeAbout t) flights := by
  induction agenda generalizing t with
  | nil => exact h
  | cons a rest ih =>
    by_cases hdue : a.time ≤ time
    · rw [List.dropWhile_cons_of_pos (by simpa using hdue),
        List.takeWhile_cons_of_pos (by simpa using hdue)]
      exact ih (h.comeAbout hdue)
    · rw [List.dropWhile_cons_of_neg (by simpa using hdue),
        List.takeWhile_cons_of_neg (by simpa using hdue)]
      exact h

/-- The agenda and the clock of a timeline are not looked at. -/
theorem Carries.withAgenda (h : Carries transport agenda time t flights)
    (kept : List Appointment) (now : Nat) :
    Carries transport agenda time { t with agenda := kept, now } flights :=
  ⟨h.transport_eq, h.memory_eq, h.requests_eq, h.sound, h.inOrder, h.outstanding, h.started,
    h.used⟩

end Carries

/-! ## Time passes and callers come

The induction along a plan: time passes up to the next deed, so that nothing is overdue when it is
done, and then the deed is done. That nothing is overdue is what makes "outstanding" and "has not
landed" the same at that moment. -/

section Deeds

variable {transport : Transport σ} {t : Timeline σ} {flights : Flights σ}

/-- After time has passed, what is to come is due later. -/
theorem settled_passUntil (h : InOrder t.agenda) (time : Nat) :
    ∀ a ∈ (t.passUntil time).agenda, time < a.time := by
  rw [passUntil_eq]
  exact fun a ha => lt_time_of_mem_dropWhile h ha

theorem Carries.passUntil (h : Carries transport t.agenda t.now t flights) {time : Nat}
    (htime : t.now ≤ time) :
    Carries transport (t.passUntil time).agenda time (t.passUntil time) flights := by
  rw [passUntil_eq]
  exact (h.later htime).pass.withAgenda _ _

section NewReply

variable {agenda : List Appointment} {time : Nat}

/-- The reply of a new flight is for the next slot of its dispatcher. -/
def replyTo (t : Timeline σ) (f : Flight) : Appointment :=
  f.reply (t.dispatcher f.dispatcher).coalescer.slots.size

theorem isReply_replyTo (t : Timeline σ) (f : Flight) (name : String) (slot : Nat) :
    (t.replyTo f).coming.isReply name slot =
      (f.dispatcher = name && (t.dispatcher f.dispatcher).coalescer.slots.size = slot) := rfl

/-- It is none of the replies that are expected. -/
theorem Carries.tracks_old (h : Carries transport agenda time t flights) (fresh : Flight)
    {f : Flight} {trip : Trip} (htrip : trip ∈ (t.dispatcher f.dispatcher).trips)
    (htracks : Tracks agenda f trip) :
    Tracks (schedule (t.replyTo fresh) agenda) f trip := by
  refine htracks.schedule ?_
  rw [isReply_replyTo, Bool.and_eq_false_iff, decide_eq_false_iff_not, decide_eq_false_iff_not]
  by_cases hdispatcher : fresh.dispatcher = f.dispatcher
  · rw [hdispatcher]
    exact Or.inr (Nat.ne_of_gt ((h.sound _).slot_lt htrip))
  · exact Or.inl hdispatcher

/-- It is the one for its own round trip. -/
theorem Carries.tracks_new (h : Carries transport agenda time t flights) {fresh : Flight}
    {trip : Trip} (hmethod : trip.method = fresh.method) (hparams : trip.params = fresh.params)
    (hslot : trip.slot = (t.dispatcher fresh.dispatcher).coalescer.slots.size) :
    Tracks (schedule (t.replyTo fresh) agenda) fresh trip := by
  refine ⟨hmethod, hparams, ?_⟩
  have hreply : (t.replyTo fresh).coming.isReply fresh.dispatcher trip.slot = true := by
    rw [isReply_replyTo, hslot]
    simp
  rw [find?_schedule_of_pos h.inOrder hreply, h.used fresh.dispatcher trip.slot hslot.ge, hslot]
  rfl

/-- Of the slots further on none is in use. -/
theorem Carries.used_later (h : Carries transport agenda time t flights) {fresh : Flight}
    {name : String} {slot : Nat} (hslot : (t.dispatcher name).coalescer.slots.size ≤ slot)
    (hnext : fresh.dispatcher = name →
      (t.dispatcher fresh.dispatcher).coalescer.slots.size ≠ slot) :
    (schedule (t.replyTo fresh) agenda).find? (·.coming.isReply name slot) = none := by
  rw [find?_schedule_of_neg]
  · exact h.used name slot hslot
  · rw [isReply_replyTo, Bool.and_eq_false_iff, decide_eq_false_iff_not, decide_eq_false_iff_not]
    exact Decidable.not_or_of_imp hnext

end NewReply

section Asked

variable (h : Carries transport t.agenda t.now t flights)
  (hsettled : ∀ a ∈ t.agenda, t.now < a.time) (name method : String) (params : List Json)

include h

/-- What is outstanding at a time when everything due has come about has not landed. -/
theorem Carries.takes_of_trip {time : Nat} (hsettled : ∀ a ∈ t.agenda, time < a.time)
    {name : String} {trip : Trip} (htrip : trip ∈ (t.dispatcher name).trips) :
    ∃ f ∈ flights.started, f.takes name trip.key time := by
  obtain ⟨f, hf, hname, htracks⟩ := h.started name trip htrip
  have hlands := hsettled _ (List.mem_of_find?_eq_some htracks.reply)
  exact ⟨f, hf, hname, htracks.key.symm, hlands⟩

/-- A caller who starts a flight: its round trip tracks it, and the others are as they were. -/
theorem Carries.begun {t' : Timeline σ} (hsound : t'.AllSound)
    (hother : ∀ other, other ≠ name → t'.dispatcher other = t.dispatcher other)
    (hdispatcher : t'.dispatcher name = (t.dispatcher name).begun t.callers method params)
    (hwire : t'.wire = (transport, (transport.send flights.memory method params).2,
      (method, params) :: t.requests,
      schedule (t.replyTo (flights.fresh transport t.now name method params)) t.agenda)) :
    Tracks t'.agenda (flights.fresh transport t.now name method params)
      ((t.dispatcher name).newTrip method params) ∧
    Carries transport t'.agenda t.now t' ⟨(transport.send flights.memory method params).2,
      flights.fresh transport t.now name method params :: flights.started⟩ := by
  have hagenda : t'.agenda = _ := congrArg (·.2.2.2) hwire
  have hrequests : t'.requests = (method, params) :: t.requests := congrArg (·.2.2.1) hwire
  have hsize : (t'.dispatcher name).coalescer.slots.size =
      (t.dispatcher name).coalescer.slots.size + 1 := by
    rw [hdispatcher]
    exact Array.size_push none
  have htrips : ∀ other old, old ∈ (t'.dispatcher other).trips ↔
      old ∈ (t.dispatcher other).trips ∨
        other = name ∧ old = (t.dispatcher name).newTrip method params := by
    intro other old
    by_cases hne : other = name
    · subst hne
      rw [hdispatcher]
      exact List.mem_append.trans (or_congr_right (by simp))
    · rw [hother other hne]
      simp [hne]
  have htracks : Tracks t'.agenda (flights.fresh transport t.now name method params)
      ((t.dispatcher name).newTrip method params) := by
    rw [hagenda]
    exact h.tracks_new rfl rfl rfl
  rw [hagenda] at htracks ⊢
  -- what flies is the new flight or an old one, and an old one is tracked as before
  refine ⟨htracks, congrArg Prod.fst hwire, congrArg (·.2.1) hwire, ?_, hsound,
    inOrder_schedule h.inOrder _, ?_, ?_, ?_⟩
  · rw [hrequests, h.requests_eq]
    rfl
  · intro f hf hlands
    rcases List.mem_cons.mp hf with rfl | hf
    · exact ⟨_, (htrips name _).mpr (Or.inr ⟨rfl, rfl⟩), htracks⟩
    · obtain ⟨old, hmem, hold⟩ := h.outstanding f hf hlands
      exact ⟨old, (htrips _ old).mpr (Or.inl hmem), h.tracks_old _ hmem hold⟩
  · intro other old hmem
    rcases (htrips other old).mp hmem with hmem | ⟨rfl, rfl⟩
    · obtain ⟨f, hf, rfl, hold⟩ := h.started other old hmem
      exact ⟨f, List.mem_cons_of_mem _ hf, rfl, h.tracks_old _ hmem hold⟩
    · exact ⟨_, List.mem_cons_self, rfl, htracks⟩
  · intro other slot hunused
    by_cases hne : other = name
    · subst hne
      rw [hsize] at hunused
      exact h.used_later (Nat.le_of_succ_le hunused) fun _ => Nat.ne_of_lt hunused
    · rw [hother other hne] at hunused
      exact h.used_later hunused fun heq => absurd heq.symm hne

/-- **A caller who asks joins the round trip of its key, or it starts a flight**, whatever is due
by then. -/
theorem Carries.asked_cases :
    (∃ trip ∈ (t.dispatcher name).trips, trip.key = .ofCall method params ∧
      (t.asked name method params).dispatcher name = (t.dispatcher name).joined t.callers trip ∧
      (t.asked name method params).agenda = t.agenda ∧
      Carries transport t.agenda t.now (t.asked name method params) flights) ∨
    ((∀ trip ∈ (t.dispatcher name).trips, trip.key ≠ .ofCall method params) ∧
      (t.asked name method params).dispatcher name =
        (t.dispatcher name).begun t.callers method params ∧
      (t.asked name method params).agenda =
        schedule (t.replyTo (flights.fresh transport t.now name method params)) t.agenda ∧
      Tracks (t.asked name method params).agenda
        (flights.fresh transport t.now name method params)
        ((t.dispatcher name).newTrip method params) ∧
      Carries transport (t.asked name method params).agenda t.now (t.asked name method params)
        ⟨(transport.send flights.memory method params).2,
          flights.fresh transport t.now name method params :: flights.started⟩) := by
  have hsound : (t.asked name method params).AllSound :=
    AllSound.happen (t := { t with callers := t.callers + 1 }) h.sound name _
  have hother : ∀ other, other ≠ name →
      (t.asked name method params).dispatcher other = t.dispatcher other :=
    fun other hne => t.dispatcher_asked_ne hne method params
  rcases t.asked_cases (h.sound name) method params with
    ⟨trip, htrip, hkey, hdispatcher, hwire⟩ | ⟨hnone, hdispatcher, hwire⟩
  · -- who joins a round trip adds only to those who wait
    have hsame : ∀ other,
        ((t.asked name method params).dispatcher other).trips = (t.dispatcher other).trips ∧
        ((t.asked name method params).dispatcher other).coalescer.slots.size =
          (t.dispatcher other).coalescer.slots.size := by
      intro other
      by_cases hne : other = name
      · rw [hne, hdispatcher]
        exact ⟨rfl, rfl⟩
      · rw [hother other hne]
        exact ⟨rfl, rfl⟩
    exact Or.inl ⟨trip, htrip, hkey, hdispatcher, congrArg (·.2.2.2) hwire,
      h.of_trips_eq hwire hsound (fun other => (hsame other).1) fun other => (hsame other).2⟩
  · rw [h.transport_eq, h.memory_eq] at hwire
    exact Or.inr ⟨hnone, hdispatcher, congrArg (·.2.2.2) hwire,
      h.begun name method params hsound hother hdispatcher hwire⟩

/-- How long a caller is willing to wait is nothing to the flights, once it has asked. -/
theorem Carries.of_asked {boarded : Flights σ}
    (hasked : Carries transport (t.asked name method params).agenda t.now
      (t.asked name method params) boarded) (patience : Patience) :
    Carries transport (t.call name method params patience).2.agenda t.now
      (t.call name method params patience).2 (if patience.asks then boarded else flights) := by
  have halarm : ∀ time ending other slot,
      (Appointment.mk time (.alarm name t.callers ending)).coming.isReply other slot = false :=
    fun _ _ _ _ => rfl
  rw [call_eq]
  rcases patience with - | (- | delay) | ⟨limit, - | ticks⟩
  · exact hasked
  · -- it does not ask
    exact h.of_leave t.callers (wire_setDispatcher _ name _) fun other =>
      Or.inl (dispatcher_setDispatcher_same { t with callers := t.callers + 1 } name other)
  · exact (hasked.appoint (halarm _ _)).withAgenda _ _
  · exact hasked.of_leave t.callers (wire_dismiss _ name _ _) (dispatcher_dismiss _ name _ _)
  · exact (hasked.appoint (halarm _ _)).withAgenda _ _

include hsettled

/-- **A caller who asks takes the flight that it would take by the plan**: it waits for the
flight's round trip. -/
theorem Carries.asked : ∃ trip ∈ ((t.asked name method params).dispatcher name).trips,
    Tracks (t.asked name method params).agenda
      (flights.board transport t.now name method params).1 trip ∧
    ((t.asked name method params).dispatcher name).waiting =
      (t.dispatcher name).waiting ++ [⟨t.callers, ⟨trip.slot⟩⟩] ∧
    Carries transport (t.asked name method params).agenda t.now (t.asked name method params)
      (flights.board transport t.now name method params).2 := by
  rcases h.asked_cases name method params with
    ⟨trip, htrip, hkey, hdispatcher, hagenda, hcarries⟩ |
    ⟨hnone, hdispatcher, -, htracks, hcarries⟩
  · -- the round trip that it joins has not landed, so the plan has a flight for it too
    obtain ⟨f', hf', htakes'⟩ := h.takes_of_trip hsettled htrip
    rw [hkey] at htakes'
    rcases flights.board_cases transport t.now name method params with
      ⟨f, hf, ⟨rfl, hfkey, hlands⟩, hboard⟩ | ⟨hnot, -⟩
    · obtain ⟨found, hfound, htracks⟩ := h.outstanding f hf hlands
      have hsame : found = trip := by
        refine List.inj_on_of_nodup_map (h.sound _).keys_nodup hfound htrip ?_
        rw [htracks.key, hfkey, hkey]
      subst hsame
      rw [hboard, hdispatcher, hagenda]
      exact ⟨found, htrip, htracks, rfl, hcarries⟩
    · exact absurd htakes' (hnot f' hf')
  · -- nor has the plan a flight where there is no round trip
    rcases flights.board_cases transport t.now name method params with
      ⟨f, hf, ⟨rfl, hfkey, hlands⟩, -⟩ | ⟨-, hboard⟩
    · obtain ⟨found, hfound, htracks⟩ := h.outstanding f hf hlands
      exact absurd (htracks.key.trans hfkey) (hnone found hfound)
    · rw [hboard, hdispatcher]
      exact ⟨(t.dispatcher name).newTrip method params,
        List.mem_append_right _ (List.mem_singleton_self _), htracks, rfl, hcarries⟩

theorem Carries.call (patience : Patience) :
    Carries transport (t.call name method params patience).2.agenda t.now
      (t.call name method params patience).2
      (flights.depart transport (t.now, .call name method params patience)) := by
  obtain ⟨-, -, -, -, hasked⟩ := h.asked hsettled name method params
  exact h.of_asked name method params hasked patience

end Asked

/-- A caller who is dropped is nothing to the flights. -/
theorem Carries.drop (h : Carries transport t.agenda t.now t flights) (name : String)
    (caller : CallerId) : Carries transport (t.drop name caller).agenda (t.drop name caller).now
      (t.drop name caller) flights := by
  have hnow : (t.drop name caller).now = t.now := now_happen t name _
  rw [hnow]
  refine h.of_leave caller (wire_leave t name caller) fun other => ?_
  by_cases hother : other = name
  · rw [hother]
    exact Or.inr (dispatcher_happen_self t name (.leave caller))
  · exact Or.inl (dispatcher_happen_ne t name _ hother)

/-- **A deed makes the flights that the plan says.** The plan is looked at on one side and the
timeline on the other, and this is the step in which the two are compared. -/
theorem Carries.act (h : Carries transport t.agenda t.now t flights)
    (hsettled : ∀ a ∈ t.agenda, t.now < a.time) (deed : Deed) :
    Carries transport (t.act deed).agenda (t.act deed).now (t.act deed)
      (flights.depart transport (t.now, deed)) := by
  cases deed with
  | call name method params patience =>
    rw [now_act]
    exact h.call hsettled name method params patience
  | drop name caller => exact h.drop name caller

theorem carries_follow {plan : Plan} (hplan : plan.InOrder)
    (h : Carries transport t.agenda t.now t flights) (hnow : ∀ entry ∈ plan, t.now ≤ entry.1) :
    Carries transport (t.follow plan).agenda (t.follow plan).now (t.follow plan)
      (plan.foldl (Flights.depart transport) flights) := by
  induction plan generalizing t flights with
  | nil => exact h
  | cons entry plan ih =>
    obtain ⟨time, deed⟩ := entry
    have hpassed := h.passUntil (hnow _ List.mem_cons_self)
    have hacted := hpassed.act (settled_passUntil h.inOrder time) deed
    exact ih hplan.of_cons hacted (now_acted_le hplan)

end Deeds

section AsOf

variable {plan : Plan} (hplan : plan.InOrder) (transport : Transport σ) (memory : σ)

include hplan

/-- At every point of a plan a timeline carries the flights so far. -/
theorem carries_plan : Carries transport ((start transport memory).follow plan).agenda
    ((start transport memory).follow plan).now ((start transport memory).follow plan)
    (plan.flights transport memory) :=
  carries_follow hplan (carries_start transport memory 0) fun _ _ => Nat.zero_le _

variable (time : Nat)

/-- **At every time a timeline carries the flights of its plan up to then**, and nothing is
overdue. -/
theorem carries_asOf :
    Carries transport ((start transport memory).asOf plan time).agenda time
      ((start transport memory).asOf plan time) ((plan.upTo time).flights transport memory) ∧
    ∀ a ∈ ((start transport memory).asOf plan time).agenda, time < a.time := by
  have hdue : (plan.upTo time).InOrder := hplan.sublist (List.takeWhile_sublist _)
  have hcarries := carries_plan hdue transport memory
  have hnow : ((start transport memory).follow (plan.upTo time)).now ≤ time :=
    now_follow_le (Nat.zero_le _) fun entry => Plan.le_of_mem_upTo
  exact ⟨hcarries.passUntil hnow, settled_passUntil hcarries.inOrder time⟩

/-- The traffic of a timeline is that of the flights: each was requested when it was sent, and the
round trips that are outstanding are those of the flights that have not landed. This is `Carries`
without the agenda, for statements that are made about a time and not about what follows. -/
structure Flies (t : Timeline σ) (flights : Flights σ) (time : Nat) : Prop where
  requests : t.requests = flights.started.map fun f => (f.method, f.params)
  outstanding : ∀ name key, (∃ trip ∈ (t.dispatcher name).trips, trip.key = key) ↔
    ∃ f ∈ flights.started, f.takes name key time

/-- **The traffic at a time is that of the flights up to then.** What callers do later has no part
in it, so a statement about one time need not speak of the rest of a plan. -/
theorem flies_asOf : Flies ((start transport memory).asOf plan time)
    ((plan.upTo time).flights transport memory) time := by
  obtain ⟨hcarries, hsettled⟩ := carries_asOf hplan transport memory time
  refine ⟨hcarries.requests_eq, fun name key => ⟨?_, ?_⟩⟩
  · rintro ⟨trip, htrip, rfl⟩
    exact hcarries.takes_of_trip hsettled htrip
  · rintro ⟨f, hf, rfl, rfl, hlands⟩
    obtain ⟨trip, htrip, htracks⟩ := hcarries.outstanding f hf hlands
    exact ⟨trip, htrip, htracks.key⟩

end AsOf

end Timeline
end NodeRpc
