import NodeRpc.Proofs.Call.Agenda
import Mathlib.Data.List.Basic

/-!
# What an observer sees of a run

Two runs are compared through what an observer sees of the callers. A `View` gives each caller the
number that the observer knows it by, or none if the observer does not look at it. Leaving one
caller out is a view; so is leaving it out and closing the gap in the numbers.

Two timelines are alike under two views (`Alike`) if the transport cannot tell them apart and what
is seen of the callers is the same. Everything a timeline does keeps this: a thing that concerns a
seen caller is done on both sides, and one that concerns a caller who is not seen may be done on one
side alone. The reason is in the dispatcher: its table and its round trips do not depend on who
waits.

The lemmas of this module are that reason. Each says that looking commutes with a step: what is seen
after the step is what the step makes of what is seen (`seen_finishTrip`), or for a caller coming,
that the table and the effects do not depend on which caller it was (`seen_call`). For the last it
is essential that the table is compared in full. A view hides callers and it hides nothing of what
is shared, so two runs that an observer cannot tell apart have the same table, entry by entry.

Agendas need an argument of their own. What is arranged goes behind whatever is due no later, so
where it goes depends on everything in the list, seen or not. That it still lands at the right place
among what is seen is `seen_schedule`, and it needs the list to be in order.
-/

namespace NodeRpc

/-- The numbers that an observer knows callers by. A caller that is not seen has none. -/
abbrev View := CallerId → Option CallerId

/-- No two callers are seen as one. So what is seen of a caller is about that caller alone. -/
def View.Faithful (v : View) : Prop := ∀ i j k, v i = some k → v j = some k → i = j

def Waiting.seen (v : View) (w : Waiting) : Option Waiting :=
  (v w.caller).map fun k => ⟨k, w.pending⟩

/-- What is seen of a dispatcher: all of its table and its round trips, and those who wait under the
numbers that the observer knows them by. -/
def Dispatcher.seen (v : View) (d : Dispatcher) : Dispatcher :=
  { d with waiting := d.waiting.filterMap (Waiting.seen v) }

def Effect.seen (v : View) : Effect → Option Effect
  | .finish caller outcome => (v caller).map fun k => .finish k outcome
  | .log event => some (.log event)
  | .send slot method params => some (.send slot method params)

def Appointment.seen (v : View) (a : Appointment) : Option Appointment :=
  match a.coming with
  | .reply _ _ _ => some a
  | .alarm name caller ending => (v caller).map fun k => ⟨a.time, .alarm name k ending⟩

def Ended.seen (v : View) (e : Ended) : Option Ended :=
  (v e.caller).map fun k => ⟨k, e.time, e.ending⟩

/-! ## Filtering what is seen

A dispatcher filters its callers, and an observer filters them again. The two lemmas are about which
of the filters comes first. -/

section Filtering

variable {α β : Type}

/-- A property that shows can be filtered by before or after looking. -/
theorem filterMap_filter_comm {f : α → Option β} {p : α → Bool} {q : β → Bool} {l : List α}
    (h : ∀ a b, f a = some b → q b = p a) :
    (l.filter p).filterMap f = (l.filterMap f).filter q := by
  induction l with
  | nil => rfl
  | cons a l ih =>
    cases hf : f a with
    | none =>
      rw [List.filterMap_cons_none hf, ← ih]
      cases hp : p a with
      | false => rw [List.filter_cons_of_neg (by simp [hp])]
      | true => rw [List.filter_cons_of_pos hp, List.filterMap_cons_none hf]
    | some b =>
      have hq := h a b hf
      rw [List.filterMap_cons_some hf]
      cases hp : p a with
      | false =>
        rw [List.filter_cons_of_neg (by simp [hp]), List.filter_cons_of_neg (by simp [hq, hp]), ih]
      | true =>
        rw [List.filter_cons_of_pos hp, List.filterMap_cons_some hf,
          List.filter_cons_of_pos (by rw [hq, hp]), ih]

/-- What is not seen can be filtered out without being missed. -/
theorem filterMap_filter_unseen {f : α → Option β} {p : α → Bool} {l : List α}
    (h : ∀ a, p a = false → f a = none) : (l.filter p).filterMap f = l.filterMap f := by
  rw [List.filterMap_filter]
  apply List.filterMap_congr
  intro a _
  cases hp : p a with
  | false => exact (h a hp).symm
  | true => rfl

end Filtering

/-! ## Dispatchers -/

namespace Dispatcher

variable {v v' : View}

/-- Whoever comes, the table and the round trips become the same. -/
theorem seen_call {d d' : Dispatcher} (h : d.seen v = d'.seen v') {i j : CallerId}
    (hij : v i = v' j) (method : String) (params : List Json) :
    (d.call i method params).1.seen v = (d'.call j method params).1.seen v' ∧
      (d.call i method params).2 = (d'.call j method params).2 := by
  obtain ⟨hcoalescer, htrips, hwaiting⟩ := Dispatcher.mk.inj h
  have hnew : ∀ pending : Pending,
      (d.waiting ++ [Waiting.mk i pending]).filterMap (Waiting.seen v) =
        (d'.waiting ++ [Waiting.mk j pending]).filterMap (Waiting.seen v') := by
    intro pending
    have hsame : Waiting.seen v ⟨i, pending⟩ = Waiting.seen v' ⟨j, pending⟩ := by
      unfold Waiting.seen
      rw [hij]
    rw [List.filterMap_append, List.filterMap_append, hwaiting, List.filterMap_cons,
      List.filterMap_cons, hsame]
    rfl
  unfold call
  rw [hcoalescer]
  split
  · exact ⟨by unfold seen; dsimp only; rw [htrips, hnew], rfl⟩
  · exact ⟨by unfold seen; dsimp only; rw [htrips, hnew], rfl⟩

theorem seen_leave (hv : v.Faithful) (d : Dispatcher) {i k : CallerId} (hi : v i = some k) :
    (d.leave i).seen v = (d.seen v).leave k := by
  unfold leave seen
  dsimp only
  congr 1
  apply filterMap_filter_comm
  intro w s hs
  obtain ⟨l, hl, rfl⟩ := Option.map_eq_some_iff.mp hs
  have hiff : l = k ↔ w.caller = i :=
    ⟨fun heq => hv _ _ _ (heq ▸ hl) hi, fun heq => by simpa [heq, hi] using hl.symm⟩
  simp [hiff]

/-- Nobody sees the others leave. -/
theorem seen_leave_none (d : Dispatcher) {i : CallerId} (hi : v i = none) :
    (d.leave i).seen v = d.seen v := by
  unfold leave seen
  dsimp only
  congr 1
  apply filterMap_filter_unseen
  intro w hw
  have hcaller : w.caller = i := by simpa using hw
  unfold Waiting.seen
  rw [hcaller, hi]
  rfl

/-- What is seen of settling is what settling does to what is seen. -/
theorem seen_settle (d : Dispatcher) :
    (d.seen v).settle = (d.settle.1.seen v, d.settle.2.filterMap (Effect.seen v)) := by
  -- what a caller gets depends on the round it waits for and not on its number
  have hout : ∀ w s, Waiting.seen v w = some s → (d.seen v).outcome? s = d.outcome? w := by
    intro w s hs
    obtain ⟨k, -, rfl⟩ := Option.map_eq_some_iff.mp hs
    rfl
  have hleft : (d.seen v).waiting.filter (fun w => ((d.seen v).outcome? w).isNone) =
      (d.waiting.filter fun w => (d.outcome? w).isNone).filterMap (Waiting.seen v) :=
    (filterMap_filter_comm fun w s hs => by rw [hout w s hs]).symm
  have hdone : (d.seen v).waiting.filterMap
      (fun w => ((d.seen v).outcome? w).map (Effect.finish w.caller)) =
      (d.waiting.filterMap fun w => (d.outcome? w).map (Effect.finish w.caller)).filterMap
        (Effect.seen v) := by
    show (d.waiting.filterMap (Waiting.seen v)).filterMap _ = _
    rw [List.filterMap_filterMap, List.filterMap_filterMap]
    apply List.filterMap_congr
    intro w _
    cases hs : Waiting.seen v w with
    | none =>
      have hnone : v w.caller = none := Option.map_eq_none_iff.mp hs
      cases d.outcome? w with
      | none => rfl
      | some outcome => simp [Effect.seen, hnone]
    | some s =>
      obtain ⟨k, hk, rfl⟩ := Option.map_eq_some_iff.mp hs
      rw [Option.bind_some, hout w _ hs]
      cases d.outcome? w with
      | none => rfl
      | some outcome => simp [Effect.seen, hk]
  unfold settle
  rw [hleft, hdone]
  rfl

/-- What is seen of the end of a round trip is what it does to what is seen. -/
theorem seen_finishTrip (d : Dispatcher) (slot : Nat) (outcome : Option Outcome) :
    (d.seen v).finishTrip slot outcome =
      ((d.finishTrip slot outcome).1.seen v,
        (d.finishTrip slot outcome).2.filterMap (Effect.seen v)) := by
  unfold finishTrip
  have hpublisher : (d.seen v).publisher? slot = d.publisher? slot := rfl
  rw [hpublisher]
  cases d.publisher? slot with
  | none => rfl
  | some publisher =>
    cases outcome with
    | none =>
      exact seen_settle { d with
        coalescer := d.coalescer.dropPublisher publisher
        trips := d.trips.filter (·.publisher.slot ≠ slot) }
    | some outcome =>
      exact seen_settle { d with
        coalescer := (d.coalescer.publish publisher outcome).dropPublisher publisher
        trips := d.trips.filter (·.publisher.slot ≠ slot) }

end Dispatcher

/-! ## Agendas

An agenda is in order of time, and of rank where the time is the same. Looking at some of it only
keeps that order (`rank_of_seen`), which is what the lemmas below go by. -/

section Agendas

variable {v : View}

theorem time_of_seen {a s : Appointment} (h : a.seen v = some s) : s.time = a.time := by
  obtain ⟨time, coming⟩ := a
  cases coming with
  | reply name slot ending =>
    cases h
    rfl
  | alarm name caller ending =>
    obtain ⟨k, -, rfl⟩ := Option.map_eq_some_iff.mp h
    rfl

/-- An appointment is seen at its place in the order. -/
theorem rank_of_seen {a s : Appointment} (h : a.seen v = some s) : s.rank = a.rank := by
  obtain ⟨time, coming⟩ := a
  cases coming with
  | reply name slot ending =>
    cases h
    rfl
  | alarm name caller ending =>
    obtain ⟨k, -, rfl⟩ := Option.map_eq_some_iff.mp h
    rfl

theorem seen_schedule_none {new : Appointment} (hnew : new.seen v = none)
    (agenda : List Appointment) :
    (schedule new agenda).filterMap (Appointment.seen v) =
      agenda.filterMap (Appointment.seen v) := by
  induction agenda with
  | nil => rw [schedule, List.filterMap_cons_none hnew]
  | cons other rest ih =>
    rw [schedule_cons]
    split
    · rw [List.filterMap_cons_none hnew]
    · rw [List.filterMap_cons, List.filterMap_cons, ih]

/-- **What is seen to be arranged is arranged among what is seen.** Leaving entries out and putting
a new one in can be done in either order, as the place of the new one depends on times and not on
positions. -/
theorem seen_schedule {new s : Appointment} (hnew : new.seen v = some s)
    {agenda : List Appointment} (hagenda : InOrder agenda) :
    (schedule new agenda).filterMap (Appointment.seen v) =
      schedule s (agenda.filterMap (Appointment.seen v)) := by
  induction agenda with
  | nil => rw [schedule, List.filterMap_cons_some hnew, List.filterMap_nil, schedule]
  | cons other rest ih =>
    obtain ⟨hother, hrest⟩ := List.pairwise_cons.mp hagenda
    rw [schedule_cons]
    by_cases hrank : new.rank < other.rank
    · -- all that is seen stands behind `other`, seen or not
      rw [if_pos hrank, List.filterMap_cons_some hnew, schedule_of_rank_lt]
      intro x hx
      obtain ⟨a, ha, hax⟩ := List.mem_filterMap.mp hx
      rw [rank_of_seen hnew, rank_of_seen hax]
      rcases List.mem_cons.mp ha with rfl | ha
      · exact hrank
      · exact Nat.lt_of_lt_of_le hrank (hother a ha)
    · rw [if_neg hrank]
      cases ho : other.seen v with
      | none => rw [List.filterMap_cons_none ho, List.filterMap_cons_none ho, ih hrest]
      | some o =>
        rw [List.filterMap_cons_some ho, List.filterMap_cons_some ho, schedule_cons,
          rank_of_seen hnew, rank_of_seen ho, if_neg hrank, ih hrest]

/-- Behind something that is not due nothing is. -/
theorem seen_later {a : Appointment} {agenda : List Appointment}
    (h : InOrder (a :: agenda)) {time : Nat} (ha : ¬a.time ≤ time) :
    ∀ s ∈ (a :: agenda).filterMap (Appointment.seen v), decide (s.time ≤ time) = false := by
  intro s hs
  obtain ⟨b, hb, hbs⟩ := List.mem_filterMap.mp hs
  rw [time_of_seen hbs, decide_eq_false_iff_not]
  rcases List.mem_cons.mp hb with rfl | hb
  · exact ha
  · have hle := time_le_of_rank_le ((List.pairwise_cons.mp h).1 b hb)
    omega

theorem seen_takeWhile {agenda : List Appointment} (h : InOrder agenda) (time : Nat) :
    (agenda.takeWhile (·.time ≤ time)).filterMap (Appointment.seen v) =
      (agenda.filterMap (Appointment.seen v)).takeWhile (·.time ≤ time) := by
  induction agenda with
  | nil => rfl
  | cons a agenda ih =>
    have hrest := ih (List.pairwise_cons.mp h).2
    by_cases ha : a.time ≤ time
    · rw [List.takeWhile_cons_of_pos (by simpa using ha)]
      cases hs : a.seen v with
      | none => rw [List.filterMap_cons_none hs, List.filterMap_cons_none hs, hrest]
      | some s =>
        have hstime := time_of_seen hs
        rw [List.filterMap_cons_some hs, List.filterMap_cons_some hs,
          List.takeWhile_cons_of_pos (by simpa [hstime] using ha), hrest]
    · have hlater := seen_later (v := v) h ha
      rw [List.takeWhile_cons_of_neg (by simpa using ha), List.filterMap_nil]
      cases hseen : (a :: agenda).filterMap (Appointment.seen v) with
      | nil => rfl
      | cons s seen =>
        have hs := hlater s (by rw [hseen]; exact List.mem_cons_self)
        rw [List.takeWhile_cons_of_neg (by rw [hs]; decide)]

theorem seen_dropWhile {agenda : List Appointment} (h : InOrder agenda) (time : Nat) :
    (agenda.dropWhile (·.time ≤ time)).filterMap (Appointment.seen v) =
      (agenda.filterMap (Appointment.seen v)).dropWhile (·.time ≤ time) := by
  induction agenda with
  | nil => rfl
  | cons a agenda ih =>
    have hrest := ih (List.pairwise_cons.mp h).2
    by_cases ha : a.time ≤ time
    · rw [List.dropWhile_cons_of_pos (by simpa using ha)]
      cases hs : a.seen v with
      | none => rw [List.filterMap_cons_none hs, hrest]
      | some s =>
        have hstime := time_of_seen hs
        rw [List.filterMap_cons_some hs,
          List.dropWhile_cons_of_pos (by simpa [hstime] using ha), hrest]
    · have hlater := seen_later (v := v) h ha
      rw [List.dropWhile_cons_of_neg (by simpa using ha)]
      cases hseen : (a :: agenda).filterMap (Appointment.seen v) with
      | nil => rfl
      | cons s seen =>
        have hs := hlater s (by rw [hseen]; exact List.mem_cons_self)
        rw [List.dropWhile_cons_of_neg (by rw [hs]; decide)]

end Agendas
end NodeRpc
