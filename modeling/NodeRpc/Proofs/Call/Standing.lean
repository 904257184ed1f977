import NodeRpc.Proofs.Call.Outstanding

/-!
# One caller among the others

A caller is followed by what a timeline has of it (`Standing`): nothing before it comes, then the
slot that it waits for, then its ending. Two things end a caller who waits, the reply for its slot
and its own alarm (`standing_comeAbout`). Whatever else comes about leaves its standing alone
(`standing_comeAbout_of_not`), and so does whatever the other callers do.

The standing is a filter, of those who wait and of the endings. That is what makes "leaves it alone"
an equation, with nothing to be said about the order in which callers stand in these lists. And it
is taken over all dispatchers at once, since a caller is a number and the numbers are shared: an
alarm at one dispatcher must not end a caller of another.

The three standings `unknown`, `waits` and `finished` are the phases of a life. Each is a definition
with equality and not a predicate, so that a caller who waits is known to wait once, at one
dispatcher, and not to have ended.
-/

namespace NodeRpc

/-- Whether something that comes about ends a caller of a dispatcher who waits for a slot. It is a
decision about the thing alone, without the timeline, and that is why what ends a caller can be
found on the agenda beforehand. -/
def Coming.concerns (name : String) (caller : CallerId) (slot : Nat) : Coming → Bool
  | .reply dispatcher other _ => dispatcher = name && other = slot
  | .alarm dispatcher other _ => dispatcher = name && other = caller

/-- Whether it is the alarm of a caller. -/
def Coming.rings (caller : CallerId) : Coming → Bool
  | .reply _ _ _ => false
  | .alarm _ other _ => other = caller

theorem Coming.concerns_of_not_rings {coming : Coming} {name : String} {caller : CallerId}
    (h : coming.rings caller = false) (slot : Nat) :
    coming.concerns name caller slot = coming.isReply name slot := by
  cases coming with
  | reply dispatcher other ending => rfl
  | alarm dispatcher other ending => exact Bool.and_eq_false_iff.mpr (Or.inr h)

/-- How a caller ends whom an appointment ends. -/
def Appointment.ends (a : Appointment) (caller : CallerId) : Ended :=
  ⟨caller, a.time,
    match a.coming with
    | .reply _ _ ending => .outcome ending.outcome
    | .alarm _ _ ending => ending⟩

/-- What there is of a caller: its places among those who wait, and its endings. As lists, so that a
caller that waits twice or ends twice could be seen; none does. -/
structure Standing where
  waiting : String → List Waiting
  ended : List Ended

namespace Standing

def unknown : Standing := ⟨fun _ => [], []⟩

def waits (name : String) (caller : CallerId) (slot : Nat) : Standing :=
  ⟨fun other => if other = name then [⟨caller, ⟨slot⟩⟩] else [], []⟩

def finished (e : Ended) : Standing := ⟨fun _ => [], [e]⟩

theorem mem_waits {name place : String} {caller other : CallerId} {slot another : Nat}
    (h : ⟨other, ⟨another⟩⟩ ∈ (waits name caller slot).waiting place) :
    place = name ∧ another = slot := by
  unfold waits at h
  dsimp only at h
  split at h
  · cases List.mem_singleton.mp h
    exact ⟨‹_›, rfl⟩
  · cases h

end Standing

namespace Timeline

variable {σ : Type}

def standing (t : Timeline σ) (caller : CallerId) : Standing :=
  ⟨fun name => (t.dispatcher name).waiting.filter (·.caller = caller),
    t.ended.filter (·.caller = caller)⟩

/-! ## What happens to a caller

First what leaves a caller alone, for each thing that can come about, and then the two things that
do not. -/

section Standing

variable {t t' : Timeline σ} {caller : CallerId}

theorem standing_eq {s : Standing}
    (hwaiting : ∀ name, (t.dispatcher name).waiting.filter (·.caller = caller) = s.waiting name)
    (hended : t.ended.filter (·.caller = caller) = s.ended) : t.standing caller = s := by
  obtain ⟨waiting, ended⟩ := s
  exact congr (congrArg Standing.mk (funext hwaiting)) hended

theorem filter_leave (waiting : List Waiting) {other : CallerId} (h : other ≠ caller) :
    (waiting.filter (·.caller ≠ other)).filter (·.caller = caller) =
      waiting.filter (·.caller = caller) := by
  rw [List.filter_filter]
  apply List.filter_congr
  intro w _
  by_cases hw : w.caller = caller
  · simp [hw, Ne.symm h]
  · simp [hw]

theorem standing_leave (t : Timeline σ) (name : String) {other : CallerId}
    (h : other ≠ caller ∨ (t.standing caller).waiting name = []) :
    (t.happen name (.leave other)).standing caller = t.standing caller := by
  refine standing_eq ?_ (congrArg (List.filter _) (ended_happen t name _))
  intro place
  by_cases hplace : place = name
  · rw [hplace, dispatcher_happen_self]
    show ((t.dispatcher name).waiting.filter (·.caller ≠ other)).filter (·.caller = caller) = _
    rcases h with hother | hnone
    · exact filter_leave _ hother
    · have hempty : (t.dispatcher name).waiting.filter (·.caller = caller) = [] := hnone
      rw [hnone, List.filter_comm, hempty, List.filter_nil]
  · rw [dispatcher_happen_ne t name _ hplace]
    rfl

theorem standing_conclude (t : Timeline σ) {other : CallerId} (h : other ≠ caller)
    (ending : Ending) : (t.conclude other ending).standing caller = t.standing caller := by
  refine standing_eq (fun _ => rfl) ?_
  unfold conclude
  rw [List.filter_cons_of_neg (by simpa using h)]
  rfl

theorem isWaiting_eq_false {name : String} (h : (t.standing caller).waiting name = []) :
    t.isWaiting name caller = false := by
  unfold isWaiting
  rw [List.any_eq_false]
  intro w hw hcaller
  exact List.not_mem_nil (h ▸ List.mem_filter.mpr ⟨hw, hcaller⟩ : w ∈ [])

/-- That others are dismissed leaves a caller alone, and so does a dismissal from a dispatcher
where it does not wait. -/
theorem standing_dismiss (t : Timeline σ) (name : String) {other : CallerId}
    (h : other ≠ caller ∨ (t.standing caller).waiting name = []) (ending : Ending) :
    (t.dismiss name other ending).standing caller = t.standing caller := by
  by_cases hother : other = caller
  · have hnone := h.resolve_left (not_not_intro hother)
    unfold dismiss
    rw [hother, isWaiting_eq_false hnone]
    rfl
  · unfold dismiss
    split
    · exact (standing_conclude _ hother ending).trans (standing_leave t name (Or.inl hother))
    · rfl

/-- **The reply for a slot ends exactly those who wait for the slot.** It ends them at this time and
with its own outcome, in the order in which they came, and it leaves the other dispatchers as they
are. -/
theorem comeAbout_reply_cases (hsound : t.AllSound) (time : Nat) (name : String) (slot : Nat)
    (ending : TripEnd) :
    (∀ other, other ≠ name →
      (t.comeAbout ⟨time, .reply name slot ending⟩).dispatcher other = t.dispatcher other) ∧
    ((t.comeAbout ⟨time, .reply name slot ending⟩).dispatcher name).waiting =
      (t.dispatcher name).waiting.filter (·.pending ≠ ⟨slot⟩) ∧
    (t.comeAbout ⟨time, .reply name slot ending⟩).ended =
      (((t.dispatcher name).waiting.filter (·.pending = ⟨slot⟩)).map
        fun w => ⟨w.caller, time, .outcome ending.outcome⟩).reverse ++ t.ended := by
  refine ⟨fun other hne => ?_, ?_⟩
  · rw [comeAbout_reply]
    exact dispatcher_happen_ne { t with now := time } name _ hne
  · rcases reply_cases { t with now := time } name (hsound name) slot ending with
      ⟨hnone, hdispatcher, hended⟩ | ⟨trip, -, hslot, hdispatcher, hended⟩
    · -- who waits, waits for a round trip that is outstanding
      have hnot : ∀ w ∈ (t.dispatcher name).waiting, w.pending ≠ ⟨slot⟩ := by
        intro w hw hpending
        obtain ⟨trip, htrip, heq⟩ := (hsound name).waits w hw
        rw [hpending] at heq
        exact hnone trip htrip (congrArg Pending.slot heq).symm
      refine ⟨(congrArg Dispatcher.waiting hdispatcher).trans ?_, hended.trans ?_⟩
      · exact (List.filter_eq_self.mpr fun w hw => decide_eq_true (hnot w hw)).symm
      · rw [List.filter_eq_nil_iff.mpr fun w hw => by simpa using hnot w hw]
        rfl
    · subst hslot
      refine ⟨congrArg Dispatcher.waiting hdispatcher, hended.trans ?_⟩
      unfold Dispatcher.sharers
      rw [List.map_map]
      rfl

/-- **What does not concern a caller leaves it alone.** Concerning it are an alarm of its own and
the reply for the slot it waits for; the reply for another slot is about other callers. -/
theorem standing_comeAbout_of_not (hsound : t.AllSound) {a : Appointment}
    (h : ∀ name slot, ⟨caller, ⟨slot⟩⟩ ∈ (t.standing caller).waiting name →
      a.coming.concerns name caller slot = false) :
    (t.comeAbout a).standing caller = t.standing caller := by
  have hplace : ∀ {name : String} {w : Waiting}, w ∈ (t.dispatcher name).waiting →
      w.caller = caller → a.coming.concerns name caller w.pending.slot = false := by
    rintro name w hw rfl
    exact h name w.pending.slot (List.mem_filter.mpr ⟨hw, decide_eq_true rfl⟩)
  obtain ⟨time, coming⟩ := a
  cases coming with
  | alarm name other ending =>
    refine standing_dismiss { t with now := time } name ?_ ending
    by_cases hother : other = caller
    · refine Or.inr (List.filter_eq_nil_iff.mpr fun w hw hcaller => ?_)
      have hconcerns := hplace hw (of_decide_eq_true hcaller)
      simp [Coming.concerns, hother] at hconcerns
    · exact Or.inl hother
  | reply name slot ending =>
    obtain ⟨hothers, hwaiting, hended⟩ := comeAbout_reply_cases hsound time name slot ending
    have hnot : ∀ w ∈ (t.dispatcher name).waiting, w.caller = caller → w.pending ≠ ⟨slot⟩ := by
      intro w hw hcaller hpending
      have hconcerns := hplace hw hcaller
      simp [Coming.concerns, hpending] at hconcerns
    refine standing_eq (fun other => ?_) ?_
    · by_cases hother : other = name
      · rw [hother, hwaiting, List.filter_filter]
        refine List.filter_congr fun w hw => ?_
        by_cases hcaller : w.caller = caller
        · simp [hcaller, hnot w hw hcaller]
        · simp [hcaller]
      · rw [hothers other hother]
        rfl
    · rw [hended, List.filter_append, List.filter_eq_nil_iff.mpr, List.nil_append]
      · rfl
      · intro e he hcaller
        obtain ⟨w, hw, rfl⟩ := List.mem_map.mp (List.mem_reverse.mp he)
        obtain ⟨hw, hpending⟩ := List.mem_filter.mp hw
        exact hnot w hw (of_decide_eq_true hcaller) (of_decide_eq_true hpending)

section Waits

variable {name : String} {slot : Nat}

theorem waiting_of_waits (h : t.standing caller = .waits name caller slot) (other : String) :
    (t.dispatcher other).waiting.filter (·.caller = caller) =
      if other = name then [⟨caller, ⟨slot⟩⟩] else [] :=
  congrFun (congrArg Standing.waiting h) other

theorem mem_waiting_of_waits (h : t.standing caller = .waits name caller slot) :
    ⟨caller, ⟨slot⟩⟩ ∈ (t.dispatcher name).waiting := by
  have hself := waiting_of_waits h name
  rw [if_pos rfl] at hself
  exact List.mem_of_mem_filter (hself ▸ List.mem_singleton_self _)

/-- A caller who waits, waits for a slot that is in use. -/
theorem slot_lt_of_waits (hsound : t.AllSound)
    (h : t.standing caller = .waits name caller slot) :
    slot < (t.dispatcher name).coalescer.slots.size := by
  obtain ⟨trip, htrip, heq⟩ := (hsound name).waits _ (mem_waiting_of_waits h)
  cases heq
  exact (hsound name).slot_lt htrip

theorem standing_dismiss_self (h : t.standing caller = .waits name caller slot)
    (ending : Ending) :
    (t.dismiss name caller ending).standing caller = .finished ⟨caller, t.now, ending⟩ := by
  have hwaits : t.isWaiting name caller = true :=
    List.any_eq_true.mpr ⟨_, mem_waiting_of_waits h, decide_eq_true rfl⟩
  have hended : (t.happen name (.leave caller)).ended.filter (·.caller = caller) = [] :=
    (congrArg (List.filter _) (ended_happen t name _)).trans (congrArg Standing.ended h)
  unfold dismiss
  rw [if_pos hwaits]
  refine standing_eq (fun other => ?_) ?_
  · show ((t.happen name (.leave caller)).dispatcher other).waiting.filter _ = []
    by_cases hother : other = name
    · rw [hother, dispatcher_happen_self]
      show ((t.dispatcher name).waiting.filter (·.caller ≠ caller)).filter _ = []
      rw [List.filter_filter, List.filter_eq_nil_iff]
      simp
    · rw [dispatcher_happen_ne t name _ hother, waiting_of_waits h, if_neg hother]
  · show (Ended.mk caller (t.happen name (.leave caller)).now ending ::
      (t.happen name (.leave caller)).ended).filter _ = _
    rw [List.filter_cons_of_pos (by simp), hended, now_happen]
    rfl

/-- **What concerns a caller who waits ends it.** An alarm ends it in the way that was arranged and
a reply with its outcome, whichever comes about first. -/
theorem standing_comeAbout (hsound : t.AllSound)
    (hstanding : t.standing caller = .waits name caller slot) {a : Appointment}
    (h : a.coming.concerns name caller slot = true) :
    (t.comeAbout a).standing caller = .finished (a.ends caller) := by
  obtain ⟨time, coming⟩ := a
  cases coming with
  | alarm dispatcher other ending =>
    simp only [Coming.concerns, Bool.and_eq_true, decide_eq_true_eq] at h
    obtain ⟨rfl, rfl⟩ := h
    exact standing_dismiss_self (t := { t with now := time }) hstanding ending
  | reply dispatcher other ending =>
    simp only [Coming.concerns, Bool.and_eq_true, decide_eq_true_eq] at h
    obtain ⟨rfl, rfl⟩ := h
    obtain ⟨hothers, hleft, hnew⟩ := comeAbout_reply_cases hsound time dispatcher other ending
    have hself := waiting_of_waits hstanding dispatcher
    rw [if_pos rfl] at hself
    -- of those who share the outcome one is the caller, and it is the only place it waits at
    refine standing_eq (fun place => ?_) ?_
    · by_cases hplace : place = dispatcher
      · rw [hplace, hleft, List.filter_comm, hself]
        exact List.filter_cons_of_neg (by simp)
      · rw [hothers place hplace, waiting_of_waits hstanding, if_neg hplace]
        rfl
    · have hended : t.ended.filter (·.caller = caller) = [] :=
        congrArg Standing.ended hstanding
      rw [hnew, List.filter_append, hended, List.append_nil, List.filter_reverse,
        List.filter_map]
      have hsharers : ((t.dispatcher dispatcher).waiting.filter (·.pending = ⟨other⟩)).filter
          (·.caller = caller) = [⟨caller, ⟨other⟩⟩] := by
        rw [List.filter_comm, hself]
        simp
      exact congrArg (fun waiting : List Waiting => (waiting.map fun w =>
        Ended.mk w.caller time (.outcome ending.outcome)).reverse) hsharers

/-- What does not concern a caller who waits leaves it waiting. -/
theorem waits_comeAbout_of_not (hsound : t.AllSound)
    (hstanding : t.standing caller = .waits name caller slot) {a : Appointment}
    (h : a.coming.concerns name caller slot = false) :
    (t.comeAbout a).standing caller = .waits name caller slot := by
  refine (standing_comeAbout_of_not hsound fun place other hmem => ?_).trans hstanding
  rw [hstanding] at hmem
  obtain ⟨rfl, rfl⟩ := Standing.mem_waits hmem
  exact h

end Waits

/-! ## What callers do -/

section Asked

variable (name method : String) (params : List Json)

theorem waiting_asked (hsound : t.AllSound) : ∃ pending,
    ((t.asked name method params).dispatcher name).waiting =
      (t.dispatcher name).waiting ++ [⟨t.callers, pending⟩] := by
  rcases t.asked_cases (hsound name) method params with
    ⟨trip, -, -, hdispatcher, -⟩ | ⟨-, hdispatcher, -⟩
  · exact ⟨⟨trip.slot⟩, congrArg Dispatcher.waiting hdispatcher⟩
  · exact ⟨⟨_⟩, congrArg Dispatcher.waiting hdispatcher⟩

theorem standing_asked_ne (hsound : t.AllSound) (hcaller : caller ≠ t.callers) :
    (t.asked name method params).standing caller = t.standing caller := by
  obtain ⟨pending, hwaiting⟩ := waiting_asked name method params hsound
  refine standing_eq (fun place => ?_) (congrArg (List.filter _) (ended_asked t name _ _))
  by_cases hplace : place = name
  · rw [hplace, hwaiting, List.filter_append,
      List.filter_cons_of_neg (by simpa using hcaller.symm), List.filter_nil, List.append_nil]
    rfl
  · rw [dispatcher_asked_ne t hplace]
    rfl

theorem standing_asked_self (h : t.standing t.callers = .unknown) {slot : Nat}
    (hwaiting : ((t.asked name method params).dispatcher name).waiting =
      (t.dispatcher name).waiting ++ [⟨t.callers, ⟨slot⟩⟩]) :
    (t.asked name method params).standing t.callers = .waits name t.callers slot := by
  have hnone : ∀ place, (t.dispatcher place).waiting.filter (·.caller = t.callers) = [] :=
    congrFun (congrArg Standing.waiting h)
  have hended : t.ended.filter (·.caller = t.callers) = [] := congrArg Standing.ended h
  refine standing_eq (fun place => ?_)
    ((congrArg (List.filter _) (ended_asked t name _ _)).trans hended)
  by_cases hplace : place = name
  · rw [hplace, hwaiting, List.filter_append, hnone,
      List.filter_cons_of_pos (by simp)]
    exact (if_pos rfl).symm
  · rw [dispatcher_asked_ne t hplace, hnone]
    exact (if_neg hplace).symm

/-- **A caller who comes leaves the others alone.** It may join their round trip, may be cancelled
at once or may be out of time at once, and none of it is seen by them. -/
theorem standing_call_ne (hsound : t.AllSound) (hcaller : caller ≠ t.callers)
    (patience : Patience) :
    (t.call name method params patience).2.standing caller = t.standing caller := by
  have hasked := standing_asked_ne name method params hsound hcaller
  rw [call_eq]
  rcases patience with - | (- | delay) | ⟨limit, - | ticks⟩
  · exact hasked
  · refine (standing_conclude _ (Ne.symm hcaller) .cancelled).trans
      (standing_eq (fun place => ?_) (congrArg (List.filter _) (ended_setDispatcher _ name _)))
    exact congrArg (fun d : Dispatcher => d.waiting.filter (·.caller = caller))
      (dispatcher_setDispatcher_same { t with callers := t.callers + 1 } name place)
  · exact hasked
  · exact (standing_dismiss _ name (Or.inl (Ne.symm hcaller)) _).trans hasked
  · exact hasked

/-- A caller who asks puts nothing on the agenda but the reply for a slot that was not used
before. -/
theorem find?_agenda_asked (hsound : t.AllSound) {p : Appointment → Bool}
    (hreply : ∀ time ending,
      p ⟨time, .reply name (t.dispatcher name).coalescer.slots.size ending⟩ = false) :
    (t.asked name method params).agenda.find? p = t.agenda.find? p := by
  rcases t.asked_cases (hsound name) method params with ⟨-, -, -, -, hwire⟩ | ⟨-, -, hwire⟩
  · exact congrArg (·.2.2.2.find? p) hwire
  · exact (congrArg (·.2.2.2.find? p) hwire).trans (find?_schedule_of_neg (hreply _ _))

/-- A caller who comes puts that on the agenda, and an alarm of its own. -/
theorem find?_agenda_call (hsound : t.AllSound) {p : Appointment → Bool}
    (hreply : ∀ time ending,
      p ⟨time, .reply name (t.dispatcher name).coalescer.slots.size ending⟩ = false)
    (halarm : ∀ time ending, p ⟨time, .alarm name t.callers ending⟩ = false)
    (patience : Patience) :
    (t.call name method params patience).2.agenda.find? p = t.agenda.find? p := by
  have hasked := find?_agenda_asked name method params hsound hreply
  have hagenda : ∀ {u v : Timeline σ}, u.wire = v.wire → u.agenda.find? p = v.agenda.find? p :=
    fun hwire => congrArg (·.2.2.2.find? p) hwire
  rw [call_eq]
  rcases patience with - | (- | delay) | ⟨limit, - | ticks⟩
  · exact hasked
  · exact hagenda (wire_setDispatcher _ name _)
  · exact (find?_schedule_of_neg (halarm _ _)).trans hasked
  · exact (hagenda (wire_dismiss _ name _ _)).trans hasked
  · exact (find?_schedule_of_neg (halarm _ _)).trans hasked

end Asked

end Standing

end Timeline
end NodeRpc
