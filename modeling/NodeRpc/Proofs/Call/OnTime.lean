import NodeRpc.Call.Operation
import NodeRpc.Proofs.Call.Standing
import Mathlib.Data.List.Find

/-!
# Callers end on time

When a caller ends can be read off the plan: it ends when the flight that it takes lands, or when
its own patience is over if that is earlier (`exact_endings`). Who else comes, gives up or is
dropped has no part in it, and neither has what happened to earlier flights of the key.

The statement is about times, so it needs to say which time is meant without asking the machine.
That is what flights are for. They are made from the plan and the transport by a rule that a reader
can check by hand (`Plan.flights`), and a caller takes one by another such rule (`Flights.board`).
The theorem then says that the machine, with its table, its slots and its agenda, keeps those times
to the tick: through the whole run the caller has the one ending, from the time on at which it is
due and not before (`EndsAt`).

Two things are left open on purpose. If the limit of a caller and the landing of its flight fall on
one moment, either may be seen first; in this model the reply is, but the statement does not rest on
it. And a caller who is dropped has no ending to be exact about, so the plan must not drop the one
that is asked about. It may drop everybody else, among them the caller that started the flight.

Until a caller comes it is `Absent`. From then on one thing is to come that is going to end it, the
first one on the agenda that concerns it, and it is settled which one that is when the caller has
come (`fated_call`). Nothing that happens later changes that (`Fated.follow`), so the caller ends
when that thing is due (`Fated.passUntil`).
-/

namespace NodeRpc

/-- After how long a caller gives up, and how it ends then. -/
def Patience.limit? : Patience → Option (Nat × Ending)
  | .unlimited => none
  | .cancelledAfter delay => some (delay, .cancelled)
  | .within limit ticks => some (ticks, .timedOut limit)

/-- Whether a caller comes. -/
def Deed.isCall : Deed → Bool
  | .call _ _ _ _ => true
  | .drop _ _ => false

namespace Plan

/-- How many callers come, so that this is the name of the next one. -/
def callers (plan : Plan) : Nat := plan.countP (·.2.isCall)

section Split

variable {before after : Plan} {entry : Nat × Deed} {time : Nat}

theorem upTo_of_le {plan : Plan} (h : ∀ e ∈ plan, e.1 ≤ time) : plan.upTo time = plan :=
  List.takeWhile_eq_self_iff.mpr fun e he => decide_eq_true (h e he)

theorem upTo_split_of_lt (h : time < entry.1) :
    upTo (before ++ entry :: after) time = before.upTo time := by
  unfold upTo
  rw [List.takeWhile_append]
  split
  · rename_i hall
    rw [List.takeWhile_cons_of_neg (by simpa using h), List.append_nil]
    exact (List.takeWhile_prefix _).eq_of_length hall |>.symm
  · rfl

theorem upTo_split_of_le (hplan : InOrder (before ++ entry :: after)) (h : entry.1 ≤ time) :
    upTo (before ++ entry :: after) time = before ++ entry :: after.upTo time := by
  have hbefore : ∀ e ∈ before, decide (e.1 ≤ time) = true := by
    intro e he
    have hle := (List.pairwise_append.mp hplan).2.2 e he entry List.mem_cons_self
    exact decide_eq_true (Nat.le_trans hle h)
  exact (List.takeWhile_append_of_pos hbefore).trans
    (congrArg (before ++ ·) (upTo_cons_of_le h))

end Split
end Plan

namespace Timeline

variable {σ : Type}

theorem follow_append (t : Timeline σ) (plan more : Plan) :
    t.follow (plan ++ more) = (t.follow plan).follow more := List.foldl_append

theorem callers_act (t : Timeline σ) (deed : Deed) :
    (t.act deed).callers = t.callers + deed.isCall.toNat := by
  cases deed with
  | call dispatcher method params patience =>
    exact callers_call t dispatcher method params patience
  | drop dispatcher caller => exact callers_happen t dispatcher _

theorem callers_follow (t : Timeline σ) (plan : Plan) :
    (t.follow plan).callers = t.callers + plan.callers := by
  induction plan generalizing t with
  | nil => rfl
  | cons entry plan ih =>
    have hcount : Plan.callers (entry :: plan) = Plan.callers plan + entry.2.isCall.toNat := by
      unfold Plan.callers
      rw [List.countP_cons]
      cases entry.2.isCall with
      | true => rfl
      | false => rfl
    refine (ih _).trans ?_
    rw [callers_act, callers_passUntil, hcount]
    omega

/-! ## Until a caller comes

Nothing is known of a caller before it comes, and in particular no alarm is set for its number. If
there were one, it might go off before the caller's own. -/

section Absent

variable {t : Timeline σ} {caller : CallerId}

/-- Time that passes is nothing to a caller who does not wait. -/
theorem standing_pass_of_idle {due : List Appointment} (hsound : t.AllSound)
    (hidle : ∀ name, (t.standing caller).waiting name = []) :
    (due.foldl comeAbout t).standing caller = t.standing caller := by
  induction due generalizing t with
  | nil => rfl
  | cons a due ih =>
    have hfirst : (t.comeAbout a).standing caller = t.standing caller :=
      standing_comeAbout_of_not hsound fun name slot hmem => by
        rw [hidle name] at hmem
        exact (List.not_mem_nil hmem).elim
    exact (ih (hsound.comeAbout a) (hfirst ▸ hidle)).trans hfirst

theorem standing_passUntil_of_idle (hsound : t.AllSound)
    (hidle : ∀ name, (t.standing caller).waiting name = []) (time : Nat) :
    (t.passUntil time).standing caller = t.standing caller := by
  rw [passUntil_eq]
  exact standing_pass_of_idle hsound hidle

/-- Nothing is known of the caller, and no alarm is set for it. So a caller that comes has its own
alarm as the first one. -/
structure Absent (t : Timeline σ) (caller : CallerId) : Prop where
  standing : t.standing caller = .unknown
  alarms : t.agenda.find? (·.coming.rings caller) = none

theorem absent_start (transport : Transport σ) (memory : σ) (caller : CallerId) :
    Absent (start transport memory) caller := ⟨rfl, rfl⟩

theorem Absent.passUntil (h : Absent t caller) (hsound : t.AllSound) (time : Nat) :
    Absent (t.passUntil time) caller where
  standing := (standing_passUntil_of_idle hsound (fun name => by rw [h.standing]; rfl)
    time).trans h.standing
  alarms := by
    rw [List.find?_eq_none]
    rw [passUntil_eq]
    exact fun a ha => List.find?_eq_none.mp h.alarms a (List.dropWhile_subset _ ha)

theorem Absent.act (h : Absent t caller) (hsound : t.AllSound) {deed : Deed}
    (hcaller : t.callers + deed.isCall.toNat ≤ caller) : Absent (t.act deed) caller := by
  cases deed with
  | call name method params patience =>
    have hne : caller ≠ t.callers := Nat.ne_of_gt hcaller
    refine ⟨(standing_call_ne name method params hsound hne patience).trans h.standing, ?_⟩
    exact (find?_agenda_call name method params hsound (fun _ _ => rfl)
      (fun _ _ => decide_eq_false (Ne.symm hne)) patience).trans h.alarms
  | drop name other =>
    refine ⟨(standing_leave t name (Or.inr ?_)).trans h.standing, ?_⟩
    · rw [h.standing]
      rfl
    · have hagenda : (t.act (.drop name other)).agenda = t.agenda :=
        congrArg (·.2.2.2) (wire_leave t name other)
      rw [hagenda]
      exact h.alarms

/-- **A caller is absent until it comes.** While others come and time passes nothing is put on the
agenda about it, so there is nothing that could end it early. -/
theorem Absent.follow {transport : Transport σ} {flights : Flights σ} {plan : Plan}
    (h : Absent t caller) (hcarries : Carries transport t.agenda t.now t flights)
    (hplan : plan.InOrder) (hnow : ∀ entry ∈ plan, t.now ≤ entry.1)
    (hcaller : t.callers + plan.callers ≤ caller) : Absent (t.follow plan) caller := by
  -- the tables stay sound because the flights go along with the run
  induction plan generalizing t flights with
  | nil => exact h
  | cons entry plan ih =>
    have hpassed := hcarries.passUntil (hnow entry List.mem_cons_self)
    have hacted := hpassed.act (settled_passUntil hcarries.inOrder entry.1) entry.2
    have hcount : ((t.passUntil entry.1).act entry.2).callers + Plan.callers plan ≤ caller := by
      have hall := callers_follow t (entry :: plan)
      have hrest := callers_follow ((t.passUntil entry.1).act entry.2) plan
      rw [← hrest]
      exact (hall.trans_le hcaller : _)
    refine ih ((h.passUntil hcarries.sound entry.1).act hpassed.sound ?_) hacted hplan.of_cons
      (now_acted_le hplan) hcount
    rw [← callers_act]
    omega

end Absent

/-! ## From then on

What is going to end a caller is the first thing on the agenda that concerns it. When the caller
comes there are two candidates, the reply of its flight and its own alarm, and the agenda has them
in order. Whatever is arranged later concerns others. -/

section Fated

variable {t : Timeline σ} {caller : CallerId} {name : String} {slot : Nat} {last : Appointment}

/-- Where a caller stands whom `last` ends: it is the first thing to come that concerns the
caller, or it has come about. -/
inductive Fated (t : Timeline σ) (name : String) (caller : CallerId) (slot : Nat)
    (last : Appointment) : Prop
  | waits (standing : t.standing caller = .waits name caller slot)
    (first : t.agenda.find? (·.coming.concerns name caller slot) = some last)
  | finished (standing : t.standing caller = .finished (last.ends caller))
    (past : last.time ≤ t.now)

/-- **What is to come ends a caller when it is due**, and until then the caller waits. Of all that
is on the agenda only the first entry that concerns the caller counts, as it is gone after that. -/
theorem standing_pass {agenda : List Appointment} {time : Nat} (hsound : t.AllSound)
    (hagenda : InOrder agenda) (hstanding : t.standing caller = .waits name caller slot)
    (hfirst : agenda.find? (·.coming.concerns name caller slot) = some last) :
    if last.time ≤ time then
      ((agenda.takeWhile (·.time ≤ time)).foldl comeAbout t).standing caller =
        .finished (last.ends caller)
    else
      ((agenda.takeWhile (·.time ≤ time)).foldl comeAbout t).standing caller =
          .waits name caller slot ∧
        (agenda.dropWhile (·.time ≤ time)).find? (·.coming.concerns name caller slot) =
          some last := by
  induction agenda generalizing t with
  | nil => cases hfirst
  | cons a rest ih =>
    by_cases hdue : a.time ≤ time
    · rw [List.takeWhile_cons_of_pos (by simpa using hdue),
        List.dropWhile_cons_of_pos (by simpa using hdue), List.foldl_cons]
      rw [List.find?_cons] at hfirst
      cases hconcerns : a.coming.concerns name caller slot with
      | true =>
        -- it ends the caller, whom nothing that comes after it finds waiting
        rw [hconcerns] at hfirst
        obtain rfl := Option.some.inj hfirst
        have hover := standing_comeAbout hsound hstanding hconcerns
        rw [if_pos hdue]
        exact (standing_pass_of_idle (hsound.comeAbout a) fun _ => by rw [hover]; rfl).trans hover
      | false =>
        rw [hconcerns] at hfirst
        exact ih (hsound.comeAbout a) hagenda.of_cons
          (waits_comeAbout_of_not hsound hstanding hconcerns) hfirst
    · -- the agenda is in order, so nothing on it is due
      have hlater : a.time ≤ last.time := by
        rcases List.mem_cons.mp (List.mem_of_find?_eq_some hfirst) with rfl | hmem
        · exact Nat.le_refl _
        · exact time_le_of_rank_le ((List.pairwise_cons.mp hagenda).1 last hmem)
      rw [List.takeWhile_cons_of_neg (by simpa using hdue),
        List.dropWhile_cons_of_neg (by simpa using hdue), if_neg (by omega)]
      exact ⟨hstanding, hfirst⟩

theorem Fated.waiting_eq_nil (h : Fated t name caller slot last) {place : String}
    (hplace : place ≠ name) : (t.standing caller).waiting place = [] := by
  cases h with
  | waits hstanding _ =>
    rw [hstanding]
    exact if_neg hplace
  | finished hstanding _ =>
    rw [hstanding]
    rfl

/-- **Time passes, and a caller ends when what ends it is due.** It ends once: whatever concerns it
later finds nobody who waits. -/
theorem Fated.passUntil (h : Fated t name caller slot last) (hsound : t.AllSound)
    (hagenda : InOrder t.agenda) {time : Nat} (htime : t.now ≤ time) :
    Fated (t.passUntil time) name caller slot last ∧
      ((t.passUntil time).standing caller).ended =
        if last.time ≤ time then [last.ends caller] else [] := by
  cases h with
  | finished hover hpast =>
    have hdue := Nat.le_trans hpast htime
    have hkept : (t.passUntil time).standing caller = .finished (last.ends caller) :=
      (standing_passUntil_of_idle hsound (fun _ => by rw [hover]; rfl) time).trans hover
    rw [hkept, if_pos hdue]
    exact ⟨.finished hkept hdue, rfl⟩
  | waits hwaits hfirst =>
    have hpass := @standing_pass _ _ _ _ _ _ _ time hsound hagenda hwaits hfirst
    have hfold : (t.passUntil time).standing caller =
        ((t.agenda.takeWhile (·.time ≤ time)).foldl comeAbout t).standing caller := by
      rw [passUntil_eq]
      rfl
    rw [← hfold] at hpass
    by_cases hdue : last.time ≤ time
    · rw [if_pos hdue] at hpass ⊢
      rw [hpass]
      exact ⟨.finished hpass hdue, rfl⟩
    · rw [if_neg hdue] at hpass ⊢
      obtain ⟨hstill, hnext⟩ := hpass
      rw [hstill]
      refine ⟨.waits hstill ?_, rfl⟩
      rw [passUntil_eq]
      exact hnext

/-- **What others do, and what a caller is told to do elsewhere, does not change when it
ends.** -/
theorem Fated.act (h : Fated t name caller slot last) (hsound : t.AllSound) {deed : Deed}
    (hcome : caller < t.callers) (hkept : deed ≠ .drop name caller) :
    Fated (t.act deed) name caller slot last := by
  have hstanding : (t.act deed).standing caller = t.standing caller := by
    cases deed with
    | call place method params patience =>
      exact standing_call_ne place method params hsound (Nat.ne_of_lt hcome) patience
    | drop place other =>
      refine standing_leave t place ?_
      by_cases hother : other = caller
      · refine Or.inr (h.waiting_eq_nil fun hplace => hkept ?_)
        rw [hplace, hother]
      · exact Or.inl hother
  cases h with
  | finished hover hpast =>
    refine .finished (hstanding.trans hover) ?_
    rw [now_act]
    exact hpast
  | waits hwaits hfirst =>
    refine .waits (hstanding.trans hwaits) (Eq.trans ?_ hfirst)
    cases deed with
    | drop place other =>
      have hagenda : (t.act (.drop place other)).agenda = t.agenda :=
        congrArg (·.2.2.2) (wire_leave t place other)
      rw [hagenda]
    | call place method params patience =>
      -- what is put on the agenda is for the caller that comes or for a slot not used yet
      have hused := slot_lt_of_waits hsound hwaits
      refine find?_agenda_call place method params hsound (fun _ _ => ?_) (fun _ _ => ?_) patience
      · refine Bool.and_eq_false_iff.mpr ?_
        by_cases hplace : place = name
        · rw [hplace]
          exact Or.inr (decide_eq_false (Nat.ne_of_gt hused))
        · exact Or.inl (decide_eq_false hplace)
      · exact Bool.and_eq_false_iff.mpr (Or.inr (decide_eq_false (Nat.ne_of_gt hcome)))

/-- **Nothing that a plan goes on to do changes when a caller ends**, unless the caller is
dropped. -/
theorem Fated.follow {transport : Transport σ} {flights : Flights σ} {plan : Plan}
    (h : Fated t name caller slot last) (hcarries : Carries transport t.agenda t.now t flights)
    (hplan : plan.InOrder) (hnow : ∀ entry ∈ plan, t.now ≤ entry.1) (hcome : caller < t.callers)
    (hkept : ∀ time, (time, .drop name caller) ∉ plan) :
    Fated (t.follow plan) name caller slot last := by
  induction plan generalizing t flights with
  | nil => exact h
  | cons entry plan ih =>
    have hentry := hnow entry List.mem_cons_self
    have hpassed := hcarries.passUntil hentry
    have hacted := hpassed.act (settled_passUntil hcarries.inOrder entry.1) entry.2
    have hcome' : caller < (t.passUntil entry.1).callers := by rwa [callers_passUntil]
    have hfated := (h.passUntil hcarries.sound hcarries.inOrder hentry).1
    refine ih (hfated.act hpassed.sound hcome' fun hdrop => ?_) hacted hplan.of_cons
      (now_acted_le hplan) ?_ fun time hmem => hkept time (List.mem_cons_of_mem _ hmem)
    · exact hkept entry.1 (hdrop ▸ List.mem_cons_self)
    · rw [callers_act]
      exact Nat.lt_of_lt_of_le hcome' (Nat.le_add_right _ _)

/-- An alarm ends a caller who waits if it is due before the reply of the flight, and the reply
if that is due before the alarm. -/
theorem fated_alarm {f : Flight} (hagenda : InOrder t.agenda)
    (hwaits : t.standing caller = .waits name caller slot)
    (hfirst : t.agenda.find? (·.coming.concerns name caller slot) = some (f.reply slot))
    (time : Nat) (ending : Ending) :
    ∃ last, Fated (t.appoint ⟨time, .alarm name caller ending⟩) name caller slot last ∧
      (f.lands < time → last = f.reply slot) ∧
      (time < f.lands → last = ⟨time, .alarm name caller ending⟩) := by
  have hconcerns : (Coming.alarm name caller ending).concerns name caller slot = true :=
    Bool.and_eq_true_iff.mpr ⟨decide_eq_true rfl, decide_eq_true rfl⟩
  have hrank : (⟨time, .alarm name caller ending⟩ : Appointment).rank = 2 * time + 1 := rfl
  have hreply : (f.reply slot).rank = 2 * f.lands := rfl
  refine ⟨_, .waits hwaits ((find?_schedule_of_pos hagenda hconcerns).trans (by rw [hfirst])),
    fun hlt => if_neg ?_, fun hlt => if_pos ?_⟩
  · omega
  · omega

/-- No alarm is set yet for one who comes, so the reply of its flight is all that concerns it. -/
theorem first_asked {f : Flight} {method : String} {params : List Json} {trip : Trip}
    (hsound : t.AllSound) (habsent : Absent t t.callers)
    (htracks : Tracks (t.asked name method params).agenda f trip) (hname : f.dispatcher = name) :
    (t.asked name method params).agenda.find? (·.coming.concerns name t.callers trip.slot) =
      some (f.reply trip.slot) := by
  have hsilent := (find?_agenda_asked name method params hsound
    (p := (·.coming.rings t.callers)) fun _ _ => rfl).trans habsent.alarms
  rw [← htracks.reply, hname]
  refine List.find?_congr fun a ha => Coming.concerns_of_not_rings ?_ trip.slot
  exact (Bool.not_eq_true _).mp (List.find?_eq_none.mp hsilent a ha)

section Call

variable {transport : Transport σ} {flights : Flights σ}

/-- **When a caller has come, it is settled what ends it**: the reply of its flight or, if that is
due before, its own alarm. -/
theorem fated_call (hcarries : Carries transport t.agenda t.now t flights)
    (hsettled : ∀ a ∈ t.agenda, t.now < a.time) (habsent : Absent t t.callers)
    (name method : String) (params : List Json) {patience : Patience}
    (hasks : patience.asks = true) :
    ∃ slot last, Fated (t.call name method params patience).2 name t.callers slot last ∧
      match patience.limit? with
      | none => last = (flights.board transport t.now name method params).1.reply slot
      | some (delay, ending) =>
        ((flights.board transport t.now name method params).1.lands < t.now + delay →
          last = (flights.board transport t.now name method params).1.reply slot) ∧
        (t.now + delay < (flights.board transport t.now name method params).1.lands →
          last = ⟨t.now + delay, .alarm name t.callers ending⟩) := by
  obtain ⟨trip, -, htracks, hwaiting, hasked⟩ := hcarries.asked hsettled name method params
  have hname := (flights.board_fits transport t.now name method params).1
  have hlands := flights.le_lands_board transport t.now name method params
  generalize (flights.board transport t.now name method params).1 = f at htracks hname hlands ⊢
  have hwaits := standing_asked_self name method params habsent.standing hwaiting
  have hfirst := first_asked hcarries.sound habsent htracks hname
  have halarm := fun delay ending => fated_alarm hasked.inOrder hwaits hfirst (t.now + delay) ending
  refine ⟨trip.slot, ?_⟩
  rw [call_eq]
  rcases patience with - | (- | delay) | ⟨limit, - | ticks⟩
  · exact ⟨f.reply trip.slot, .waits hwaits hfirst, rfl⟩
  · cases hasks
  · rw [now_asked]
    exact halarm (delay + 1) .cancelled
  · -- it is out of time at once, whatever the flight does
    have hover := standing_dismiss_self hwaits (.timedOut limit)
    rw [now_asked] at hover
    refine ⟨⟨t.now, .alarm name t.callers (.timedOut limit)⟩, .finished hover ?_, fun hlt => ?_,
      fun _ => rfl⟩
    · rw [now_dismiss, now_asked]
    · exact absurd hlands (Nat.not_le_of_lt hlt)
  · rw [now_asked]
    exact halarm (ticks + 1) (.timedOut limit)

end Call
end Fated

/-! ## At every time of a plan

The plan is cut where the caller comes. Before that it is absent, there `fated_call` applies, and
after that the rest of the plan goes by. -/

section AsOf

variable {plan : Plan} {caller : CallerId} (transport : Transport σ) (memory : σ)

/-- A caller whom a plan does not bring is absent. -/
theorem absent_asOf (hplan : plan.InOrder) (hcaller : plan.callers ≤ caller) (time : Nat) :
    Absent ((start transport memory).asOf plan time) caller := by
  have hdue : (plan.upTo time).InOrder := hplan.sublist (List.takeWhile_sublist _)
  have hcount : (plan.upTo time).callers ≤ plan.callers :=
    (List.takeWhile_sublist _).countP_le
  have hfollow := (absent_start transport memory caller).follow
    (carries_start transport memory 0) hdue (fun _ _ => Nat.zero_le _)
    ((Nat.zero_add _).trans_le (Nat.le_trans hcount hcaller))
  exact hfollow.passUntil (carries_plan hdue transport memory).sound time

section Come

variable {before after : Plan} {time : Nat} {name method : String} {params : List Json}
  {patience : Patience} {slot : Nat} {last : Appointment}

section Before

variable (hplan : Plan.InOrder (before ++ (time, .call name method params patience) :: after))

include hplan

theorem upTo_before : before.upTo time = before :=
  Plan.upTo_of_le fun e he => (List.pairwise_append.mp hplan).2.2 e he _ List.mem_cons_self

theorem callers_before :
    ((start transport memory).asOf before time).callers = before.callers := by
  unfold asOf
  rw [upTo_before hplan, callers_passUntil, callers_follow]
  exact Nat.zero_add _

/-- A caller comes when everything before it is done, and then the plan goes on. -/
theorem asOf_split {now : Nat} (hnow : time ≤ now) : (start transport memory).asOf
      (before ++ (time, .call name method params patience) :: after) now =
    ((((start transport memory).asOf before time).act
      (.call name method params patience)).follow (after.upTo now)).passUntil now := by
  unfold asOf
  rw [Plan.upTo_split_of_le hplan hnow, follow_append, upTo_before hplan]
  rfl

/-- It has no ending before it comes. -/
theorem ended_asOf_of_lt {now : Nat} (hnow : now < time) : (((start transport memory).asOf
    (before ++ (time, .call name method params patience) :: after) now).standing
      before.callers).ended = [] := by
  have hbefore : before.InOrder := hplan.sublist (List.sublist_append_left _ _)
  have hearly : (start transport memory).asOf
      (before ++ (time, .call name method params patience) :: after) now =
      (start transport memory).asOf before now := by
    unfold asOf
    rw [Plan.upTo_split_of_lt hnow]
  rw [hearly, (absent_asOf transport memory hbefore (Nat.le_refl _) now).standing]
  rfl

/-- Once it is settled what ends it, the rest of the plan does not change that. -/
theorem ended_asOf_of_le (hkept : ∀ later, (later, .drop name before.callers) ∉ after)
    (hfated : Fated (((start transport memory).asOf before time).act
      (.call name method params patience)) name before.callers slot last)
    {now : Nat} (hnow : time ≤ now) : (((start transport memory).asOf
      (before ++ (time, .call name method params patience) :: after) now).standing
        before.callers).ended = if last.time ≤ now then [last.ends before.callers] else [] := by
  obtain ⟨hbefore, hafter, -⟩ := List.pairwise_append.mp hplan
  obtain ⟨hcarries, hsettled⟩ := carries_asOf hbefore transport memory time
  have hacted := hcarries.act hsettled (.call name method params patience)
  have hclock := now_act ((start transport memory).asOf before time)
    (.call name method params patience)
  have hcome := callers_act ((start transport memory).asOf before time)
    (.call name method params patience)
  rw [callers_before transport memory hplan] at hcome
  rw [asOf_split transport memory hplan hnow]
  generalize ((start transport memory).asOf before time).act
    (.call name method params patience) = acted at hfated hacted hclock hcome ⊢
  have hdue : (after.upTo now).InOrder := hafter.of_cons.sublist (List.takeWhile_sublist _)
  have hsince : ∀ entry ∈ after.upTo now, acted.now ≤ entry.1 := by
    intro entry hentry
    rw [hclock]
    exact (List.pairwise_cons.mp hafter).1 entry (List.takeWhile_subset _ hentry)
  have hlater := hfated.follow hacted hdue hsince (hcome ▸ Nat.lt_succ_self _) fun later hmem =>
    hkept later (List.takeWhile_subset _ hmem)
  have hcarried := carries_follow hdue hacted hsince
  have hreached : (acted.follow (after.upTo now)).now ≤ now :=
    now_follow_le (hclock.trans_le hnow) fun entry => Plan.le_of_mem_upTo
  exact (hlater.passUntil hcarried.sound hcarried.inOrder hreached).2

end Before
end Come
end AsOf

/-! ## When a caller ends -/

section Ends

variable {α : Type}

theorem ending?_eq_head? (t : Timeline σ) (caller : CallerId) :
    t.ending? caller = (t.standing caller).ended.head?.map (·.ending) := by
  unfold ending? standing
  rw [List.head?_filter]

/-- Through a run a caller of an operation ends once, at a time and with a result. The run is given
as what stands at every time, so that "not before" and "once" are part of the same equation. -/
structure EndsAt (run : Nat → Timeline σ) (caller : CallerId) (op : Operation α) (time : Nat)
    (result : Except CallError α) : Prop where
  ended : ∀ now, ((run now).ended.filter (·.caller = caller)).map (·.time) =
    if time ≤ now then [time] else []
  result : ∀ now, op.result? ((run now).ending? caller) =
    if time ≤ now then some result else none

theorem endsAt_of_ended {run : Nat → Timeline σ} {caller : CallerId} {last : Appointment}
    (h : ∀ now, ((run now).standing caller).ended =
      if last.time ≤ now then [last.ends caller] else []) (op : Operation α) :
    EndsAt run caller op last.time ((last.ends caller).ending.result op.method op.read) := by
  refine ⟨fun now => ?_, fun now => ?_⟩
  · refine (congrArg (List.map (·.time)) (h now)).trans ?_
    rw [apply_ite (List.map _)]
    rfl
  · rw [ending?_eq_head?, h now]
    split
    · rfl
    · rfl

/-- The run of a plan in which a caller comes: it ends when and how that is settled then. -/
theorem endsAt_of_fated {before after : Plan} {time : Nat} {name : String} (op : Operation α)
    {patience : Patience} {slot : Nat} {last : Appointment} {transport : Transport σ} {memory : σ}
    (hplan : Plan.InOrder (before ++ (time, .call name op.method op.params patience) :: after))
    (hkept : ∀ later, (later, .drop name before.callers) ∉ after)
    (hfated : Fated (((start transport memory).asOf before time).act
      (.call name op.method op.params patience)) name before.callers slot last)
    (hlast : time ≤ last.time) :
    EndsAt ((start transport memory).asOf
        (before ++ (time, .call name op.method op.params patience) :: after)) before.callers op
      last.time ((last.ends before.callers).ending.result op.method op.read) := by
  refine endsAt_of_ended (fun now => ?_) op
  by_cases hnow : time ≤ now
  · exact ended_asOf_of_le transport memory hplan hkept hfated hnow
  · rw [if_neg (by omega)]
    exact ended_asOf_of_lt transport memory hplan (by omega)

/-- **Exact endings.** A caller who comes at a time takes the flight of its dispatcher and key
that has not landed yet; there is one at most, and if there is none, it starts one. It ends when
the flight lands, with what the flight comes to, however late it joined it. One that has not
unlimited patience ends so if the flight lands before its limit, and if the limit is before, it
ends then, with the error of its limit. The flights are those that the plan makes up to then, and
the traffic of the run is theirs. A tie of the limit with the flight is left open, and so is what
becomes of a caller who is dropped. -/
theorem exact_endings (transport : Transport σ) (memory : σ) {before after : Plan} {time : Nat}
    {name : String} (op : Operation α) {patience : Patience}
    (hplan : Plan.InOrder (before ++ (time, .call name op.method op.params patience) :: after))
    (hasks : patience.asks = true)
    (hkept : ∀ later, (later, .drop name before.callers) ∉ after) :
    let plan := before ++ (time, .call name op.method op.params patience) :: after
    let run := (start transport memory).asOf plan
    let flights := before.flights transport memory
    let flight := (flights.board transport time name op.method op.params).1
    (∀ now, Flies (run now) ((plan.upTo now).flights transport memory) now) ∧
    Flies ((start transport memory).asOf before time) flights time ∧
    (∀ f ∈ flights.started,
      f.takes name (.ofCall op.method op.params) time → f = flight ∧ f.sent ≤ time) ∧
    ((∀ f ∈ flights.started, ¬f.takes name (.ofCall op.method op.params) time) →
      flight = flights.fresh transport time name op.method op.params ∧ flight.sent = time) ∧
    match patience with
    | .unlimited => EndsAt run before.callers op flight.lands (op.read flight.ending.outcome)
    | .within limit ticks =>
      (flight.lands < time + ticks →
        EndsAt run before.callers op flight.lands (op.read flight.ending.outcome)) ∧
      (time + ticks < flight.lands →
        EndsAt run before.callers op (time + ticks) (.error (.timedOut op.method limit)))
    | .cancelledAfter delay =>
      (flight.lands < time + delay →
        EndsAt run before.callers op flight.lands (op.read flight.ending.outcome)) ∧
      (time + delay < flight.lands →
        EndsAt run before.callers op (time + delay) (.error (.cancelled op.method))) := by
  intro plan run flights flight
  have hbefore : before.InOrder := hplan.sublist (List.sublist_append_left _ _)
  have hupTo := upTo_before hplan
  have horderly : flights.Orderly time := hbefore.orderly transport memory
    fun e he => (List.pairwise_append.mp hplan).2.2 e he _ List.mem_cons_self
  obtain ⟨hcarries, hsettled⟩ := carries_asOf hbefore transport memory time
  have hflies := flies_asOf hbefore transport memory time
  have habsent := absent_asOf transport memory hbefore (Nat.le_refl _) time
  rw [hupTo] at hcarries hflies
  have hcallers := callers_before transport memory hplan
  have hlands := flights.le_lands_board transport time name op.method op.params
  -- what the caller is in for is settled as it comes, and nothing that follows changes it
  obtain ⟨slot, last, hfated, hlast⟩ := fated_call hcarries hsettled
    (hcallers.symm ▸ habsent) name op.method op.params hasks
  rw [hcallers] at hfated hlast
  have hends := endsAt_of_fated op hplan hkept hfated
  refine ⟨flies_asOf hplan transport memory, hflies, ?_, ?_, ?_⟩
  · exact fun f hf htakes => ⟨horderly.eq_board transport hf htakes, horderly.sent_le f hf⟩
  · intro hnone
    have hfresh := flights.board_of_none transport time name op.method op.params hnone
    exact ⟨hfresh, congrArg Flight.sent hfresh⟩
  · cases patience with
    | unlimited =>
      subst hlast
      exact hends hlands
    | cancelledAfter delay =>
      refine ⟨fun hlt => ?_, fun hlt => ?_⟩
      · obtain rfl := hlast.1 hlt
        exact hends hlands
      · obtain rfl := hlast.2 hlt
        exact hends (Nat.le_add_right _ _)
    | within limit ticks =>
      refine ⟨fun hlt => ?_, fun hlt => ?_⟩
      · obtain rfl := hlast.1 hlt
        exact hends hlands
      · obtain rfl := hlast.2 hlt
        exact hends (Nat.le_add_right _ _)

/-- A transport that takes ten milliseconds. -/
def tenMillis : List Rule := [⟨"getinfo", none, 10, false, [.ok .null]⟩]

/-- The owner of a round trip is out of time after four milliseconds, and a caller who came after
three has the answer after ten. -/
theorem exact_endings_late :
    EndsAt ((start Transport.scripted tenMillis).asOf
        [(0, .call "node" "getinfo" [] (.within (.ofMillis 4) 4)),
          (3, .call "node" "getinfo" [] .unlimited)])
      0 (.tell "getinfo" []) 4 (.error (.timedOut "getinfo" (.ofMillis 4))) ∧
    EndsAt ((start Transport.scripted tenMillis).asOf
        [(0, .call "node" "getinfo" [] (.within (.ofMillis 4) 4)),
          (3, .call "node" "getinfo" [] .unlimited)])
      1 (.tell "getinfo" []) 10 (.ok ()) := by
  have howner : Plan.InOrder ([] ++ (0, .call "node" "getinfo" [] (.within (.ofMillis 4) 4)) ::
      [(3, .call "node" "getinfo" [] .unlimited)]) := by simp [Plan.InOrder]
  have hlate : Plan.InOrder ([(0, .call "node" "getinfo" [] (.within (.ofMillis 4) 4))] ++
      (3, .call "node" "getinfo" [] .unlimited) :: []) := by simp [Plan.InOrder]
  obtain ⟨-, -, -, -, -, hlimit⟩ := exact_endings Transport.scripted tenMillis
    (.tell "getinfo" []) howner rfl (by simp)
  obtain ⟨-, -, -, -, hlands⟩ := exact_endings Transport.scripted tenMillis
    (.tell "getinfo" []) hlate rfl (by simp)
  exact ⟨hlimit (by decide), hlands⟩

end Ends

end Timeline
end NodeRpc
