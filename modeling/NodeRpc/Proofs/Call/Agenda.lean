import NodeRpc.Proofs.Call.Happen
import Mathlib.Data.List.TakeWhile

/-!
# The agenda

Of things due at the same time replies come first. A caller whose deadline falls on the moment at
which its answer comes has its answer, and that is decided here. It is one comparison of numbers,
`Appointment.rank`, and the agenda is kept sorted by it (`inOrder_schedule`). A thing is put behind
its equals, so equals come about in the order in which they were arranged.

What comes about arranges nothing new and does not look at the agenda. So it makes no difference
whether time passes in one go or is stopped on the way (`passUntil_passUntil`). That law is used
wherever two runs are compared of which one is looked at more often, and it is not as plain as it
sounds: it says that all that is due up to a time can be taken off the agenda before any of it comes
about. A transport that could start a round trip in answer to a reply would break it.
-/

namespace NodeRpc

/-- Earlier things have the lower rank, and of things due at the same time the replies. An alarm at
a time has an odd rank and a reply an even one, so a reply and an alarm never have the same. -/
def Appointment.rank (a : Appointment) : Nat := 2 * a.time + a.coming.isAlarm.toNat

/-- An agenda in which nothing stands before a thing that comes first. What comes first is what is
due earlier, and of things due at one time the replies. -/
def InOrder (agenda : List Appointment) : Prop := agenda.Pairwise fun a b => a.rank ≤ b.rank

theorem schedule_cons (new other : Appointment) (rest : List Appointment) :
    schedule new (other :: rest) =
      if new.rank < other.rank then new :: other :: rest else other :: schedule new rest := by
  have hiff : (new.time < other.time ∨
      new.time = other.time ∧ other.coming.isAlarm ∧ !new.coming.isAlarm) ↔
      new.rank < other.rank := by
    unfold Appointment.rank
    cases new.coming.isAlarm with
    | false =>
      cases other.coming.isAlarm with
      | false => simp
      | true =>
        simp only [Bool.toNat_false, Bool.toNat_true, Bool.not_false, and_true]
        omega
    | true =>
      cases other.coming.isAlarm with
      | false =>
        simp only [Bool.toNat_false, Bool.toNat_true, Bool.not_true, Bool.false_eq_true,
          and_false, or_false]
        omega
      | true => simp
  rw [schedule]
  by_cases h : new.rank < other.rank
  · rw [if_pos h, if_pos (hiff.mpr h)]
  · rw [if_neg h, if_neg (fun hc => h (hiff.mp hc))]

theorem mem_schedule {new a : Appointment} {agenda : List Appointment}
    (h : a ∈ schedule new agenda) : a = new ∨ a ∈ agenda := by
  induction agenda with
  | nil => exact Or.inl (List.mem_singleton.mp h)
  | cons other rest ih =>
    rw [schedule_cons] at h
    split at h
    · rcases List.mem_cons.mp h with rfl | h
      · exact Or.inl rfl
      · exact Or.inr h
    · rcases List.mem_cons.mp h with rfl | h
      · exact Or.inr List.mem_cons_self
      · rcases ih h with h | h
        · exact Or.inl h
        · exact Or.inr (List.mem_cons_of_mem _ h)

/-- **What is arranged is put where it belongs.** An agenda that is in order stays so, whatever is
put on it: behind everything that is due earlier, and among what is due at the same time replies in
front of alarms. -/
theorem inOrder_schedule {agenda : List Appointment} (h : InOrder agenda) (new : Appointment) :
    InOrder (schedule new agenda) := by
  induction agenda with
  | nil => exact List.pairwise_singleton _ _
  | cons other rest ih =>
    obtain ⟨hother, hrest⟩ := List.pairwise_cons.mp h
    rw [schedule_cons]
    by_cases hrank : new.rank < other.rank
    · rw [if_pos hrank]
      refine List.pairwise_cons.mpr ⟨?_, h⟩
      intro a ha
      rcases List.mem_cons.mp ha with rfl | ha
      · exact Nat.le_of_lt hrank
      · exact Nat.le_trans (Nat.le_of_lt hrank) (hother a ha)
    · rw [if_neg hrank]
      refine List.pairwise_cons.mpr ⟨?_, ih hrest⟩
      intro a ha
      rcases mem_schedule ha with rfl | ha
      · exact Nat.le_of_not_lt hrank
      · exact hother a ha

theorem schedule_of_rank_lt {new : Appointment} {agenda : List Appointment}
    (h : ∀ a ∈ agenda, new.rank < a.rank) : schedule new agenda = new :: agenda := by
  cases agenda with
  | nil => rfl
  | cons other rest => rw [schedule_cons, if_pos (h other List.mem_cons_self)]

theorem time_le_of_rank_le {a b : Appointment} (h : a.rank ≤ b.rank) : a.time ≤ b.time := by
  unfold Appointment.rank at h
  have ha := Bool.toNat_le a.coming.isAlarm
  have hb := Bool.toNat_le b.coming.isAlarm
  omega

namespace Timeline

variable {σ : Type}

/-! ## What comes about leaves the agenda alone

The agenda is taken out of the timeline, and each thing that comes about is shown to do the same
with any agenda in its place. Only a caller that comes arranges something, and nobody comes because
time passes. -/

/-- Endings are carried out whatever stands on the agenda. -/
theorem perform_withAgenda (name : String) {effects : List Effect}
    (h : ∀ e ∈ effects, ∃ caller outcome, e = .finish caller outcome) (t : Timeline σ)
    (agenda : List Appointment) :
    effects.foldl (perform name) { t with agenda } =
      { effects.foldl (perform name) t with agenda } := by
  induction effects generalizing t with
  | nil => rfl
  | cons effect effects ih =>
    obtain ⟨caller, outcome, rfl⟩ := h effect List.mem_cons_self
    exact ih (fun e he => h e (List.mem_cons_of_mem _ he)) (t.conclude caller (.outcome outcome))

theorem setDispatcher_withAgenda (t : Timeline σ) (name : String) (d : Dispatcher)
    (agenda : List Appointment) :
    { t with agenda }.setDispatcher name d = { t.setDispatcher name d with agenda } := by
  unfold setDispatcher
  dsimp only
  split
  · rfl
  · rfl

/-- The effects of a step at which nobody comes are endings. -/
theorem effects_finish (d : Dispatcher) (event : DispatchEvent)
    (h : ∀ caller method params, event ≠ .call caller method params) :
    ∀ e ∈ (d.step event).2, ∃ caller outcome, e = .finish caller outcome := by
  have hsettle : ∀ d : Dispatcher, ∀ e ∈ d.settle.2, ∃ caller outcome,
      e = .finish caller outcome := by
    intro d e he
    obtain ⟨w, -, hw⟩ := List.mem_filterMap.mp he
    obtain ⟨outcome, -, rfl⟩ := Option.map_eq_some_iff.mp hw
    exact ⟨w.caller, outcome, rfl⟩
  have hfinish : ∀ slot outcome, ∀ e ∈ (d.finishTrip slot outcome).2, ∃ caller outcome,
      e = .finish caller outcome := by
    intro slot outcome
    unfold Dispatcher.finishTrip
    split
    · intro e he
      cases he
    · exact hsettle _
  cases event with
  | call caller method params => exact absurd rfl (h caller method params)
  | leave caller =>
    intro e he
    cases he
  | complete slot outcome => exact hfinish slot (some outcome)
  | die slot => exact hfinish slot none

theorem happen_withAgenda (t : Timeline σ) (name : String) (event : DispatchEvent)
    (h : ∀ caller method params, event ≠ .call caller method params)
    (agenda : List Appointment) :
    { t with agenda }.happen name event = { t.happen name event with agenda } := by
  show ((t.dispatcher name).step event).2.foldl (perform name)
    ({ t with agenda }.setDispatcher name ((t.dispatcher name).step event).1) = _
  rw [setDispatcher_withAgenda, perform_withAgenda name (effects_finish _ event h)]
  rfl

/-- What comes about neither looks at the agenda nor changes it. -/
theorem comeAbout_withAgenda (t : Timeline σ) (a : Appointment) (agenda : List Appointment) :
    { t with agenda }.comeAbout a = { t.comeAbout a with agenda } := by
  obtain ⟨time, coming⟩ := a
  cases coming with
  | reply name slot ending =>
    cases ending with
    | answers outcome =>
      exact happen_withAgenda { t with now := time } name (.complete slot outcome)
        (fun _ _ _ h => by cases h) agenda
    | dies =>
      exact happen_withAgenda { t with now := time } name (.die slot)
        (fun _ _ _ h => by cases h) agenda
  | alarm name caller ending =>
    have hleave := happen_withAgenda { t with now := time } name (.leave caller)
      (fun _ _ _ h => by cases h) agenda
    unfold comeAbout dismiss
    dsimp only at hleave ⊢
    rw [hleave]
    show (if { t with now := time }.isWaiting name caller then _ else _) = _
    split
    · rfl
    · rfl

theorem foldl_withAgenda (due : List Appointment) (t : Timeline σ) (agenda : List Appointment) :
    due.foldl comeAbout { t with agenda } = { due.foldl comeAbout t with agenda } := by
  induction due generalizing t with
  | nil => rfl
  | cons a due ih =>
    rw [List.foldl_cons, List.foldl_cons, comeAbout_withAgenda, ih]

/-! ## Time passes in one go

With the agenda out of the way, time that passes is a fold over what is due, and what is due up to a
later time is what is due up to an earlier one and then the rest. -/

/-- When the first thing comes about, the time it was before does not matter. -/
theorem foldl_withNow (due : List Appointment) (t : Timeline σ) (before now : Nat) :
    { due.foldl comeAbout { t with now := before } with now } =
      { due.foldl comeAbout t with now } := by
  cases due with
  | nil => rfl
  | cons a due => rfl

theorem passUntil_eq (t : Timeline σ) (time : Nat) : t.passUntil time =
    { (t.agenda.takeWhile (·.time ≤ time)).foldl comeAbout t with
      agenda := t.agenda.dropWhile (·.time ≤ time)
      now := time } := by
  unfold passUntil
  dsimp only
  rw [foldl_withAgenda]

/-- **Time that passes may be stopped on the way.** So it makes no difference at how many times one
looks, and a run may be cut into pieces wherever a proof wants to look at it. -/
theorem passUntil_passUntil (t : Timeline σ) {first last : Nat} (h : first ≤ last) :
    (t.passUntil first).passUntil last = t.passUntil last := by
  have hsoon : ∀ a ∈ t.agenda.takeWhile (·.time ≤ first), decide (a.time ≤ last) = true := by
    intro a ha
    have hfirst := List.mem_takeWhile_imp ha
    rw [decide_eq_true_eq] at hfirst ⊢
    omega
  have htake : t.agenda.takeWhile (·.time ≤ last) = t.agenda.takeWhile (·.time ≤ first) ++
      (t.agenda.dropWhile (·.time ≤ first)).takeWhile (·.time ≤ last) := by
    have happend : (t.agenda.takeWhile (·.time ≤ first) ++
        t.agenda.dropWhile (·.time ≤ first)).takeWhile (·.time ≤ last) = _ :=
      List.takeWhile_append_of_pos hsoon
    rwa [List.takeWhile_append_dropWhile] at happend
  have hdrop : t.agenda.dropWhile (·.time ≤ last) =
      (t.agenda.dropWhile (·.time ≤ first)).dropWhile (·.time ≤ last) := by
    have happend : (t.agenda.takeWhile (·.time ≤ first) ++
        t.agenda.dropWhile (·.time ≤ first)).dropWhile (·.time ≤ last) = _ :=
      List.dropWhile_append_of_pos hsoon
    rwa [List.takeWhile_append_dropWhile] at happend
  rw [passUntil_eq, passUntil_eq t first, passUntil_eq t last, htake, hdrop, List.foldl_append]
  -- what is left on the agenda and the time in between make no difference
  generalize (t.agenda.takeWhile (·.time ≤ first)).foldl comeAbout t = passed
  generalize t.agenda.dropWhile (·.time ≤ first) = later
  have hagenda := foldl_withAgenda (later.takeWhile (·.time ≤ last))
    { passed with now := first } later
  have hnow := foldl_withNow (later.takeWhile (·.time ≤ last)) passed first last
  dsimp only at hagenda ⊢
  rw [hagenda]
  exact congrArg (fun t : Timeline σ =>
    { t with agenda := later.dropWhile (·.time ≤ last) }) hnow

end Timeline
end NodeRpc
