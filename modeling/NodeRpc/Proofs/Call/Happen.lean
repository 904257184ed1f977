import NodeRpc.Call.Timeline

/-!
# What an event does to a timeline

An event happens to one dispatcher, and its effects are carried out one after the other. Of a
timeline each of these touches little: the event only the one dispatcher, an effect only the log,
the requests with the agenda, or the list of endings. The lemmas here say so field by field, so that
a fact about a run can be proved from the step of the dispatcher and the list of its effects alone.

They are frame lemmas, and most of them are true by unfolding. They stand together because there are
two places where they are not. The dispatchers of a timeline are an association list that gets an
entry when it is first needed, so that setting one and reading another is a fact about lookups. And
effects are folded over a timeline, so that what one of them does to a field must be said for all of
them at once (`ended_perform`).

`call_eq` is the one equation here that says what the program does. A caller that is cancelled
before its first look at anything is not there for the dispatcher; every other caller asks, and its
patience decides only what is arranged for it afterwards. Whatever is proved about cancellation
rests on that being so.
-/

namespace NodeRpc.Timeline

variable {σ : Type}

/-! ## Setting a dispatcher

Reading a dispatcher that was set gives what was set, and reading another gives what it was. A
dispatcher that nobody used yet has no entry and reads as the empty one. -/

theorem lookup_map_replace (name other : String) (d : Dispatcher)
    (ds : List (String × Dispatcher)) :
    (ds.map fun e => if e.1 = name then (name, d) else e).lookup other =
      if other = name then (ds.lookup name).map fun _ => d else ds.lookup other := by
  induction ds with
  | nil => simp
  | cons e ds ih =>
    obtain ⟨kept, k⟩ := e
    rw [List.map_cons]
    by_cases hkept : kept = name
    · subst hkept
      rw [if_pos rfl, List.lookup_cons, List.lookup_cons, ih]
      by_cases hother : other = kept
      · simp [hother]
      · have hne : (other == kept) = false := beq_false_of_ne hother
        rw [if_neg hother, if_neg hother, hne, List.lookup_cons, hne]
    · have hne : (name == kept) = false := beq_false_of_ne (Ne.symm hkept)
      rw [if_neg hkept, List.lookup_cons, List.lookup_cons, List.lookup_cons, hne, ih]
      by_cases hother : other = name
      · rw [if_pos hother, if_pos hother, hother, hne]
      · rw [if_neg hother, if_neg hother]

theorem lookup_append_ne {name other : String} (h : other ≠ name) (d : Dispatcher)
    (ds : List (String × Dispatcher)) : (ds ++ [(name, d)]).lookup other = ds.lookup other := by
  induction ds with
  | nil => simpa using h
  | cons e ds ih => rw [List.cons_append, List.lookup_cons, List.lookup_cons, ih]

theorem lookup_append_self {name : String} (d : Dispatcher) {ds : List (String × Dispatcher)}
    (h : ds.any (·.1 == name) = false) : (ds ++ [(name, d)]).lookup name = some d := by
  induction ds with
  | nil => simp
  | cons e ds ih =>
    rw [List.any_cons, Bool.or_eq_false_iff] at h
    have hne : (name == e.1) = false := by
      rw [beq_eq_false_iff_ne] at h ⊢
      exact Ne.symm h.1
    rw [List.cons_append, List.lookup_cons, hne]
    exact ih h.2

theorem lookup_isSome_of_any {name : String} {ds : List (String × Dispatcher)}
    (h : ds.any (·.1 == name) = true) : (ds.lookup name).isSome := by
  rw [List.lookup_isSome_iff]
  obtain ⟨e, he, hname⟩ := List.any_eq_true.mp h
  exact ⟨e, he, by rw [beq_iff_eq] at hname ⊢; exact hname.symm⟩

theorem dispatcher_setDispatcher_self (t : Timeline σ) (name : String) (d : Dispatcher) :
    (t.setDispatcher name d).dispatcher name = d := by
  unfold setDispatcher dispatcher
  split
  · rename_i hany
    obtain ⟨old, hold⟩ := Option.isSome_iff_exists.mp (lookup_isSome_of_any hany)
    rw [lookup_map_replace, if_pos rfl, hold]
    rfl
  · rename_i hany
    rw [lookup_append_self d ((Bool.not_eq_true _).mp hany)]
    rfl

theorem dispatcher_setDispatcher_ne (t : Timeline σ) {name other : String} (h : other ≠ name)
    (d : Dispatcher) : (t.setDispatcher name d).dispatcher other = t.dispatcher other := by
  unfold setDispatcher dispatcher
  split
  · rw [lookup_map_replace, if_neg h]
  · rw [lookup_append_ne h]

/-- A dispatcher that is set to what it is stays as it is, and so do the others. -/
theorem dispatcher_setDispatcher_same (t : Timeline σ) (name other : String) :
    (t.setDispatcher name (t.dispatcher name)).dispatcher other = t.dispatcher other := by
  by_cases h : other = name
  · rw [h]
    exact dispatcher_setDispatcher_self t name _
  · exact dispatcher_setDispatcher_ne t h _

/-- Setting a dispatcher touches nothing but the dispatchers. -/
theorem setDispatcher_eq (t : Timeline σ) (name : String) (d : Dispatcher) :
    t.setDispatcher name d =
      { t with dispatchers := (t.setDispatcher name d).dispatchers } := by
  unfold setDispatcher
  split
  · rfl
  · rfl

section SetDispatcher

variable (t : Timeline σ) (name : String) (d : Dispatcher)

@[simp] theorem transport_setDispatcher : (t.setDispatcher name d).transport = t.transport := by
  rw [setDispatcher_eq]

@[simp] theorem memory_setDispatcher : (t.setDispatcher name d).memory = t.memory := by
  rw [setDispatcher_eq]

@[simp] theorem now_setDispatcher : (t.setDispatcher name d).now = t.now := by
  rw [setDispatcher_eq]

@[simp] theorem agenda_setDispatcher : (t.setDispatcher name d).agenda = t.agenda := by
  rw [setDispatcher_eq]

@[simp] theorem callers_setDispatcher : (t.setDispatcher name d).callers = t.callers := by
  rw [setDispatcher_eq]

@[simp] theorem ended_setDispatcher : (t.setDispatcher name d).ended = t.ended := by
  rw [setDispatcher_eq]

@[simp] theorem requests_setDispatcher : (t.setDispatcher name d).requests = t.requests := by
  rw [setDispatcher_eq]

@[simp] theorem log_setDispatcher : (t.setDispatcher name d).log = t.log := by
  rw [setDispatcher_eq]

end SetDispatcher

/-! ## Carrying out effects -/

/-- What an effect adds to the endings, at a time. -/
def endedBy (now : Nat) : Effect → Option Ended
  | .finish caller outcome => some ⟨caller, now, .outcome outcome⟩
  | .log _ => none
  | .send _ _ _ => none

section Perform

variable (name : String) (effects : List Effect) (t : Timeline σ)

/-- Effects touch neither the dispatchers nor the clock, nor who has come. -/
theorem frame_perform :
    (effects.foldl (perform name) t).dispatchers = t.dispatchers ∧
      (effects.foldl (perform name) t).callers = t.callers ∧
      (effects.foldl (perform name) t).now = t.now := by
  induction effects generalizing t with
  | nil => exact ⟨rfl, rfl, rfl⟩
  | cons effect effects ih =>
    obtain ⟨hdispatchers, hcallers, hnow⟩ := ih (perform name t effect)
    rw [List.foldl_cons, hdispatchers, hcallers, hnow]
    cases effect with
    | log _ => exact ⟨rfl, rfl, rfl⟩
    | send _ _ _ => exact ⟨rfl, rfl, rfl⟩
    | finish _ _ => exact ⟨rfl, rfl, rfl⟩

@[simp] theorem dispatchers_perform :
    (effects.foldl (perform name) t).dispatchers = t.dispatchers := (frame_perform name effects t).1

@[simp] theorem callers_perform : (effects.foldl (perform name) t).callers = t.callers :=
  (frame_perform name effects t).2.1

@[simp] theorem now_perform : (effects.foldl (perform name) t).now = t.now :=
  (frame_perform name effects t).2.2

theorem ended_perform : (effects.foldl (perform name) t).ended =
    (effects.filterMap (endedBy t.now)).reverse ++ t.ended := by
  induction effects generalizing t with
  | nil => rfl
  | cons effect effects ih =>
    rw [List.foldl_cons, ih]
    cases effect with
    | log _ => rfl
    | send _ _ _ => rfl
    | finish caller outcome =>
      simp [perform, conclude, endedBy]

end Perform

/-! ## Events

An event is a step of one dispatcher with its effects carried out on the timeline.
`dispatcher_happen_self` and `dispatcher_happen_ne` are how facts about the machine become facts
about a run. -/

section Happen

variable (t : Timeline σ) (name : String) (event : DispatchEvent)

/-- **An event takes its dispatcher one step.** The effects are carried out around it and do not
reach back into it, so the dispatcher is where its own step has put it. -/
theorem dispatcher_happen_self :
    (t.happen name event).dispatcher name = ((t.dispatcher name).step event).1 := by
  unfold happen dispatcher
  rw [dispatchers_perform]
  exact dispatcher_setDispatcher_self t name _

/-- **An event leaves the other dispatchers alone.** What they have in common is the transport and
the log, and neither is part of a dispatcher. -/
theorem dispatcher_happen_ne {other : String} (h : other ≠ name) :
    (t.happen name event).dispatcher other = t.dispatcher other := by
  unfold happen dispatcher
  rw [dispatchers_perform]
  exact dispatcher_setDispatcher_ne t h _

@[simp] theorem callers_happen : (t.happen name event).callers = t.callers := by
  unfold happen
  rw [callers_perform, callers_setDispatcher]

@[simp] theorem now_happen : (t.happen name event).now = t.now := by
  unfold happen
  rw [now_perform, now_setDispatcher]

theorem ended_happen : (t.happen name event).ended =
    (((t.dispatcher name).step event).2.filterMap (endedBy t.now)).reverse ++ t.ended := by
  unfold happen
  rw [ended_perform, now_setDispatcher, ended_setDispatcher]

end Happen

/-! ## Callers come and go -/

/-- A caller that comes gets nothing yet. -/
theorem endedBy_call (d : Dispatcher) (caller : CallerId) (method : String)
    (params : List Json) (now : Nat) :
    (d.call caller method params).2.filterMap (endedBy now) = [] := by
  unfold Dispatcher.call
  split
  · rfl
  · rfl

/-- A caller comes and asks, with no thought yet of how long it will wait. All that others can
notice of a caller has happened when this is done. -/
def asked (t : Timeline σ) (name method : String) (params : List Json) : Timeline σ :=
  { t with callers := t.callers + 1 }.happen name (.call t.callers method params)

/-- The timeline with one more thing to come. Nothing else of it changes. -/
def appoint (t : Timeline σ) (new : Appointment) : Timeline σ :=
  { t with agenda := schedule new t.agenda }

section Asked

variable (t : Timeline σ) (name method : String) (params : List Json)

theorem dispatcher_asked_self : (t.asked name method params).dispatcher name =
    ((t.dispatcher name).call t.callers method params).1 :=
  dispatcher_happen_self _ name _

@[simp] theorem callers_asked : (t.asked name method params).callers = t.callers + 1 :=
  callers_happen _ name _

@[simp] theorem now_asked : (t.asked name method params).now = t.now :=
  now_happen _ name _

@[simp] theorem ended_asked : (t.asked name method params).ended = t.ended := by
  have hnone := endedBy_call (t.dispatcher name) t.callers method params t.now
  unfold asked
  rw [ended_happen]
  show (((t.dispatcher name).call t.callers method params).2.filterMap (endedBy t.now)).reverse ++
    t.ended = t.ended
  rw [hnone]
  rfl

/-- **What becomes of a caller that comes.** If it is not cancelled already it asks, and how
long it is willing to wait decides only what is arranged then. -/
theorem call_eq (patience : Patience) :
    (t.call name method params patience).2 =
      match patience with
      | .unlimited => t.asked name method params
      | .cancelledAfter 0 =>
        ({ t with callers := t.callers + 1 }.setDispatcher name (t.dispatcher name)).conclude
          t.callers .cancelled
      | .cancelledAfter (delay + 1) =>
        (t.asked name method params).appoint
          ⟨(t.asked name method params).now + (delay + 1), .alarm name t.callers .cancelled⟩
      | .within limit 0 => (t.asked name method params).dismiss name t.callers (.timedOut limit)
      | .within limit (ticks + 1) =>
        (t.asked name method params).appoint
          ⟨(t.asked name method params).now + (ticks + 1),
            .alarm name t.callers (.timedOut limit)⟩ := by
  rcases patience with - | (- | delay) | ⟨limit, - | ticks⟩
  · rfl
  · rfl
  · show (t.asked name method params).arrange name t.callers (delay + 1) .cancelled = _
    unfold arrange
    rw [if_neg (by omega)]
    rfl
  · rfl
  · show (t.asked name method params).arrange name t.callers (ticks + 1) (.timedOut limit) = _
    unfold arrange
    rw [if_neg (by omega)]
    rfl

end Asked

/-- A caller that is dismissed leaves and ends, if it was waiting. -/
theorem dismiss_cases (t : Timeline σ) (name : String) (caller : CallerId) (ending : Ending) :
    ((t.dismiss name caller ending).dispatcher name = (t.dispatcher name).leave caller ∧
      (t.dismiss name caller ending).ended = ⟨caller, t.now, ending⟩ :: t.ended) ∨
    t.dismiss name caller ending = t := by
  unfold dismiss
  split
  · left
    refine ⟨dispatcher_happen_self t name (.leave caller), ?_⟩
    have hnow := now_happen t name (.leave caller)
    have hended := ended_happen t name (.leave caller)
    unfold conclude
    dsimp only
    rw [hnow, hended]
    rfl
  · exact Or.inr rfl

section Dismiss

variable (t : Timeline σ) (name : String) (caller : CallerId) (ending : Ending)

@[simp] theorem callers_dismiss : (t.dismiss name caller ending).callers = t.callers := by
  unfold dismiss
  split
  · exact callers_happen t name _
  · rfl

@[simp] theorem now_dismiss : (t.dismiss name caller ending).now = t.now := by
  unfold dismiss
  split
  · exact now_happen t name _
  · rfl

end Dismiss

section Call

variable (t : Timeline σ) (name method : String) (params : List Json) (patience : Patience)

@[simp] theorem callers_call :
    (t.call name method params patience).2.callers = t.callers + 1 := by
  rw [call_eq]
  rcases patience with - | (- | delay) | ⟨limit, - | ticks⟩
  · exact callers_asked t name method params
  · exact callers_setDispatcher _ name _
  · exact callers_asked t name method params
  · exact (callers_dismiss _ name _ _).trans (callers_asked t name method params)
  · exact callers_asked t name method params

@[simp] theorem now_call : (t.call name method params patience).2.now = t.now := by
  rw [call_eq]
  rcases patience with - | (- | delay) | ⟨limit, - | ticks⟩
  · exact now_asked t name method params
  · exact now_setDispatcher _ name _
  · exact now_asked t name method params
  · exact (now_dismiss _ name _ _).trans (now_asked t name method params)
  · exact now_asked t name method params

end Call

/-! ## Time passes -/

@[simp] theorem now_passUntil (t : Timeline σ) (time : Nat) : (t.passUntil time).now = time := rfl

theorem callers_comeAbout (t : Timeline σ) (a : Appointment) :
    (t.comeAbout a).callers = t.callers := by
  obtain ⟨time, coming⟩ := a
  cases coming with
  | reply name slot ending =>
    cases ending with
    | answers outcome => exact callers_happen _ name _
    | dies => exact callers_happen _ name _
  | alarm name caller ending => exact callers_dismiss _ name caller ending

/-- Nobody comes because time passes. -/
@[simp] theorem callers_passUntil (t : Timeline σ) (time : Nat) :
    (t.passUntil time).callers = t.callers := by
  have hfold : ∀ (due : List Appointment) (u : Timeline σ),
      (due.foldl comeAbout u).callers = u.callers := by
    intro due
    induction due with
    | nil => exact fun u => rfl
    | cons a due ih => exact fun u => (ih (u.comeAbout a)).trans (callers_comeAbout u a)
  exact hfold _ _

end NodeRpc.Timeline
