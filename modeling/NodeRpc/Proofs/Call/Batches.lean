import NodeRpc.Proofs.Call.Together

/-!
# Results of a batch

A batch that is under way is owed a result by each of its callers (`Owed`). Each time that things
have come about it is seen which of them have ended; a batch gets its results when all have, or when
one is seen to fail, and its callers are dropped (`owed_collect`). Until then something is to come,
so waiting does not end before there are results (`await_gathers`).

The difficulty is in the word *seen*. Which of several failures a batch ends with depends on how
often it is looked at, and on whether it is looked at in the order of its list or in that of events,
which changes with its length (`watchLimit`). None of that should be in a statement about the
results of a batch, and it is not. `Gathers` leaves open which failure it is, and says that it is
one that an operation of the batch ended with; that the batch succeeds exactly if all of them do
follows (`Gathers.exists_ok_iff`), and is the same for every schedule.

Dropping the callers that have not ended yet is the one thing that a batch does to others. It does
not concern them, by the argument of `NodeRpc.Proofs.Call.Standing`; but the callers of two batches
must then be different callers (`Attends.apart`).

Waiting is a loop with fuel, and the fuel is the number of things on the agenda. Each round takes
something off it, so the loop ends with results and not for want of fuel. This needs that a batch
without results has something to come, and that is where `Settled` is used: its callers are going to
end, and what ends them is on the agenda.

At a dispatcher where nothing is outstanding the results are those of the transport's replies, one
to each distinct call (`Reached.runBatch`).
-/

namespace NodeRpc

variable {α : Type}

/-- How the results of operations make those of a batch: all of them in their order, or one that is
an error. Which one, if there are several, is left to the schedule. -/
inductive Gathers (results : List (Except CallError α)) : Except CallError (List α) → Prop
  | all {values : List α} (h : results = values.map .ok) : Gathers results (.ok values)
  | failed {error : CallError} (h : .error error ∈ results) : Gathers results (.error error)

theorem Gathers.eq_map {results : List (Except CallError α)} {values : List α}
    (h : Gathers results (.ok values)) : results = values.map .ok := by
  cases h with
  | all hresults => exact hresults

theorem Gathers.error_mem {results : List (Except CallError α)} {error : CallError}
    (h : Gathers results (.error error)) : .error error ∈ results := by
  cases h with
  | failed hmem => exact hmem

theorem Gathers.error_cons {results : List (Except CallError α)} {error : CallError}
    (h : Gathers results (.error error)) (first : Except CallError α) :
    Gathers (first :: results) (.error error) := .failed (List.mem_cons_of_mem _ h.error_mem)

theorem Gathers.ok_cons {results : List (Except CallError α)} {values : List α}
    (h : Gathers results (.ok values)) (value : α) :
    Gathers (.ok value :: results) (.ok (value :: values)) :=
  .all (congrArg (.ok value :: ·) h.eq_map)

/-- **A batch succeeds exactly if all of its operations do.** In which order they are seen to fail
decides with which error it fails, and never whether. -/
theorem Gathers.exists_ok_iff {results : List (Except CallError α)}
    {joined : Except CallError (List α)} (h : Gathers results joined) :
    (∃ values, joined = .ok values) ↔ ∀ result ∈ results, ∃ value, result = .ok value := by
  cases h with
  | all hresults =>
    subst hresults
    simp
  | failed hmem =>
    constructor
    · rintro ⟨values, hvalues⟩
      cases hvalues
    · intro hall
      obtain ⟨value, hvalue⟩ := hall _ hmem
      cases hvalue

/-- The result that a caller of an operation ends with. -/
def Operation.resultOf (p : Operation α × Ending) : Except CallError α :=
  p.2.result p.1.method p.1.read

/-- **A failure that is seen is one of the results, and all that is seen in full are all of
them**, in whatever order they are taken. Without results there is one who has not ended; `waits`
is what is known then. -/
theorem joinResults_gathers (inOrder : Bool) {waits : Prop}
    {seen : List (Operation α × Option Ending)} {owed : List (Operation α × Ending)}
    (h : List.Forall₂ (fun s p => s.1 = p.1 ∧ (s.2 = some p.2 ∨ s.2 = none ∧ waits)) seen owed) :
    match joinResults inOrder seen with
    | some results => Gathers (owed.map Operation.resultOf) results
    | none => waits := by
  induction h with
  | nil => exact .all rfl
  | @cons s p seen owed hs _ ih =>
    obtain ⟨op, ending⟩ := s
    obtain ⟨rfl, hending⟩ := hs
    rw [List.map_cons]
    unfold joinResults
    rcases hending with hended | ⟨hnone, hwaits⟩
    · obtain rfl : ending = some p.2 := hended
      have hresult : p.1.result? (some p.2) = some (Operation.resultOf p) := rfl
      rw [hresult]
      cases Operation.resultOf p with
      | error error => exact .failed List.mem_cons_self
      | ok value =>
        cases hrest : joinResults inOrder seen with
        | none =>
          rw [hrest] at ih
          exact ih
        | some results =>
          rw [hrest] at ih
          cases results with
          | error error => exact Gathers.error_cons ih _
          | ok values => exact Gathers.ok_cons ih value
    · obtain rfl : ending = none := hnone
      have hresult : p.1.result? none = none := rfl
      rw [hresult]
      cases inOrder with
      | true => exact hwaits
      | false =>
        -- a failure behind one who still waits is seen
        cases hrest : joinResults false seen with
        | none => exact hwaits
        | some results =>
          rw [hrest] at ih
          cases results with
          | ok values => exact hwaits
          | error error => exact Gathers.error_cons ih _

/-- Two lists go on to be related if each item of the first is to what it was related to. -/
theorem forall₂_imp_of_mem {β γ : Type} {R S : β → γ → Prop} {xs : List β} {ys : List γ}
    (h : List.Forall₂ R xs ys) (himp : ∀ x ∈ xs, ∀ y, R x y → S x y) : List.Forall₂ S xs ys := by
  rw [List.forall₂_iff_zip] at h ⊢
  exact ⟨h.1, fun hmem => himp _ (List.of_mem_zip hmem).1 _ (h.2 hmem)⟩

namespace Timeline

variable {σ : Type}

/-- A batch that is under way has its results, or each of its callers is going to end as it is owed.
In the second case nobody knows yet when, and a batch with one that fails may be over before the
others are. -/
inductive Owed (t : Timeline σ) (name : String) :
    Underway α → List (Operation α × Ending) → Prop
  | has {batch : Batch α} {callers : List CallerId} {owed : List (Operation α × Ending)}
    {results : Except CallError (List α)} (h : Gathers (owed.map Operation.resultOf) results) :
    Owed t name ⟨batch, callers, some results⟩ owed
  | waits {batch : Batch α} {callers : List CallerId} {owed : List (Operation α × Ending)}
    (hbatch : batch = owed.map Prod.fst)
    (h : List.Forall₂ (fun caller p => Settled t name caller p.2) callers owed) :
    Owed t name ⟨batch, callers, none⟩ owed

section Owed

variable {t t' : Timeline σ} {name : String} {u : Underway α} {owed : List (Operation α × Ending)}

/-- What keeps it settled how callers end, keeps what a batch is owed. -/
theorem Owed.imp (h : Owed t name u owed)
    (hkeeps : ∀ caller ∈ u.callers, ∀ ending, Settled t name caller ending →
      Settled t' name caller ending) : Owed t' name u owed := by
  cases h with
  | has hgathers => exact .has hgathers
  | waits hbatch hsettled =>
    exact .waits hbatch (forall₂_imp_of_mem hsettled fun caller hcaller p =>
      hkeeps caller hcaller p.2)

/-- **When a batch is looked at it has its results, or something is to come.** So waiting for the
next appointment always makes sense, and it never comes to a point where a batch waits for
nothing. -/
theorem Owed.look (h : Owed t name u owed) :
    match u.results.or (u.batch.results? (u.callers.map t.ending?)) with
    | some results => Gathers (owed.map Operation.resultOf) results
    | none => u.results = none ∧ t.agenda ≠ [] := by
  cases h with
  | has hgathers => exact hgathers
  | @waits batch callers owed hbatch hsettled =>
    subst hbatch
    have hseen : List.Forall₂
        (fun (s : Operation α × Option Ending) (p : Operation α × Ending) =>
          s.1 = p.1 ∧ (s.2 = some p.2 ∨ s.2 = none ∧ t.agenda ≠ []))
        ((owed.map Prod.fst).zip (callers.map t.ending?)) owed := by
      induction hsettled with
      | nil => exact .nil
      | cons hfirst _ ih => exact .cons ⟨rfl, hfirst.cases⟩ ih
    have hjoin := joinResults_gathers (watchLimit < (owed.map Prod.fst).length) hseen
    rw [Option.none_or]
    unfold Batch.results?
    split
    · rename_i hresults
      rwa [hresults] at hjoin
    · rename_i hresults
      rw [hresults] at hjoin
      exact ⟨rfl, hjoin⟩

end Owed

/-! ## Batches are looked at

A look at a batch may drop its callers and does nothing else. `Drops` is that, kept for any number
of batches looked at one after the other. -/

section Collect

variable {transport : Transport σ} {flights : Flights σ} {name : String}

/-- Callers of a dispatcher were dropped, and nothing else was done. -/
structure Drops (transport : Transport σ) (flights : Flights σ) (name : String)
    (callers : List CallerId) (t t' : Timeline σ) : Prop where
  agenda : t'.agenda = t.agenda
  now : t'.now = t.now
  carries : Carries transport t'.agenda t'.now t' flights
  settled : ∀ caller ∉ callers, ∀ ending, Settled t name caller ending →
    Settled t' name caller ending

theorem Carries.drops {t : Timeline σ} (h : Carries transport t.agenda t.now t flights)
    (callers : List CallerId) : Drops transport flights name callers t t :=
  ⟨rfl, rfl, h, fun _ _ _ hsettled => hsettled⟩

theorem Drops.trans {callers more : List CallerId} {t t' last : Timeline σ}
    (h : Drops transport flights name callers t t')
    (hmore : Drops transport flights name more t' last) :
    Drops transport flights name (callers ++ more) t last :=
  ⟨hmore.agenda.trans h.agenda, hmore.now.trans h.now, hmore.carries,
    fun caller hnot ending hsettled => hmore.settled caller
      (fun hmem => hnot (List.mem_append_right _ hmem)) ending (h.settled caller
        (fun hmem => hnot (List.mem_append_left _ hmem)) ending hsettled)⟩

theorem Carries.dropOne {t : Timeline σ} (h : Carries transport t.agenda t.now t flights)
    (caller : CallerId) : Drops transport flights name [caller] t (t.drop name caller) := by
  refine ⟨congrArg (·.2.2.2) (wire_leave t name caller), now_happen t name _, h.drop name caller,
    fun other hnot ending hsettled => hsettled.act h.sound (.drop name caller) fun hdrop => ?_⟩
  cases hdrop
  exact hnot (List.mem_singleton_self _)

theorem Carries.dropAll {t : Timeline σ} (h : Carries transport t.agenda t.now t flights)
    (callers : List CallerId) : Drops transport flights name callers t
      (callers.foldl (fun t caller => t.drop name caller) t) := by
  induction callers generalizing t with
  | nil => exact h.drops []
  | cons caller rest ih =>
    have hfirst : Drops transport flights name [caller] t (t.drop name caller) := h.dropOne caller
    exact hfirst.trans (ih hfirst.carries)

variable {t : Timeline σ} {underway : List (Underway α)}
  {oweds : List (List (Operation α × Ending))}

/-- The timeline when a batch has been looked at. -/
def looked (t : Timeline σ) (name : String) (u : Underway α) : Timeline σ :=
  if u.results.isNone && (u.results.or (u.batch.results? (u.callers.map t.ending?))).isSome then
    u.callers.foldl (fun t caller => t.drop name caller) t
  else t

theorem collect_cons (t : Timeline σ) (name : String) (u : Underway α)
    (rest : List (Underway α)) : t.collect name (u :: rest) =
      (⟨u.batch, u.callers, u.results.or (u.batch.results? (u.callers.map t.ending?))⟩ ::
        ((t.looked name u).collect name rest).1, ((t.looked name u).collect name rest).2) := rfl

theorem Carries.looked (h : Carries transport t.agenda t.now t flights) (u : Underway α) :
    Drops transport flights name u.callers t (t.looked name u) := by
  unfold Timeline.looked
  split
  · exact h.dropAll u.callers
  · exact h.drops u.callers

/-- Looking at batches drops callers of theirs. -/
theorem Carries.collect (h : Carries transport t.agenda t.now t flights) (name : String)
    (underway : List (Underway α)) :
    Drops transport flights name (underway.flatMap (·.callers)) t (t.collect name underway).2 ∧
      (t.collect name underway).1.map (·.callers) = underway.map (·.callers) := by
  induction underway generalizing t with
  | nil => exact ⟨h.drops [], rfl⟩
  | cons u rest ih =>
    have hfirst : Drops transport flights name u.callers t (t.looked name u) := h.looked u
    obtain ⟨hrest, hcallers⟩ := ih hfirst.carries
    exact ⟨hfirst.trans hrest, congrArg (u.callers :: ·) hcallers⟩

/-- **When batches are looked at each has its results or is still owed what it was**, and as long
as one has none something is to come. -/
theorem owed_collect (h : Carries transport t.agenda t.now t flights)
    (howed : List.Forall₂ (Owed t name) underway oweds)
    (hapart : (underway.map (·.callers)).Pairwise List.Disjoint) :
    List.Forall₂ (Owed (t.collect name underway).2 name) (t.collect name underway).1 oweds ∧
      ∀ u ∈ (t.collect name underway).1, u.results = none → t.agenda ≠ [] := by
  induction underway generalizing t oweds with
  | nil =>
    cases howed
    exact ⟨.nil, fun u hu => (List.not_mem_nil hu).elim⟩
  | cons u rest ih =>
    obtain ⟨owed, oweds, hself, hothers, rfl⟩ := List.forall₂_cons_left_iff.mp howed
    obtain ⟨hdisjoint, hapart⟩ := List.pairwise_cons.mp hapart
    have hnot : ∀ v ∈ rest, ∀ caller ∈ u.callers, caller ∉ v.callers := fun v hv caller hcaller =>
      hdisjoint v.callers (List.mem_map_of_mem hv) hcaller
    have hfirst : Drops transport flights name u.callers t (t.looked name u) := h.looked u
    have hkept : List.Forall₂ (Owed (t.looked name u) name) rest oweds :=
      forall₂_imp_of_mem hothers fun v hv owed hv' => hv'.imp fun caller hcaller =>
        hfirst.settled caller fun hmine => hnot v hv caller hmine hcaller
    obtain ⟨hrest, hcoming⟩ := ih hfirst.carries hkept hapart
    have hmore := (hfirst.carries.collect name rest).1
    have hlook := hself.look
    rw [collect_cons]
    refine ⟨.cons ?_ hrest, fun v hv hnone => ?_⟩
    · generalize hresults : u.results.or (u.batch.results? (u.callers.map t.ending?)) = results
        at hlook
      cases results with
      | some results => exact .has hlook
      | none =>
        -- none of its callers were dropped, and none of those who were is one of them
        have hsame : t.looked name u = t := if_neg (by rw [hresults]; simp)
        have hu : u = ⟨u.batch, u.callers, none⟩ := by
          rw [← hlook.1]
        rw [hsame] at hmore ⊢
        rw [← hu]
        refine hself.imp fun caller hcaller => hmore.settled caller fun hmem => ?_
        obtain ⟨v, hv, hmine⟩ := List.mem_flatMap.mp hmem
        exact hnot v hv caller hcaller hmine
    · rcases List.mem_cons.mp hv with rfl | hv
      · dsimp only at hnone
        rw [hnone] at hlook
        exact hlook.2
      · exact hfirst.agenda ▸ hcoming v hv hnone

/-! ## Waiting for batches

One round of the loop, with its invariant, and the induction on the fuel. -/

theorem Owed.passUntil {u : Underway α} {owed : List (Operation α × Ending)}
    (howed : Owed t name u owed) (h : Carries transport t.agenda t.now t flights) {time : Nat}
    (htime : t.now ≤ time) : Owed (t.passUntil time) name u owed :=
  howed.imp fun _ _ _ hsettled => hsettled.passUntil h.sound h.inOrder htime

/-- A batch has the results that it is owed. What it is owed are the endings of its callers, and
`Gathers` is how results are made of them. -/
def Has (u : Underway α) (owed : List (Operation α × Ending)) : Prop :=
  ∃ results, u.results = some results ∧ Gathers (owed.map Operation.resultOf) results

theorem Owed.has_of_isSome {u : Underway α} {owed : List (Operation α × Ending)}
    (h : Owed t name u owed) (hsome : u.results.isSome) : Has u owed := by
  cases h with
  | has hgathers => exact ⟨_, rfl, hgathers⟩
  | waits _ _ => cases hsome

theorem length_agenda_passUntil_le (t : Timeline σ) (time : Nat) :
    (t.passUntil time).agenda.length ≤ t.agenda.length := by
  rw [passUntil_eq]
  exact (List.dropWhile_sublist _).length_le

/-- Batches are attended to: the timeline carries its flights, and each batch, with callers of its
own, is owed its results. -/
structure Attends (transport : Transport σ) (flights : Flights σ) (name : String)
    (underway : List (Underway α)) (oweds : List (List (Operation α × Ending)))
    (t : Timeline σ) : Prop where
  carries : Carries transport t.agenda t.now t flights
  owed : List.Forall₂ (Owed t name) underway oweds
  apart : (underway.map (·.callers)).Pairwise List.Disjoint

theorem Attends.passUntil (h : Attends transport flights name underway oweds t) {time : Nat}
    (htime : t.now ≤ time) : Attends transport flights name underway oweds (t.passUntil time) :=
  ⟨h.carries.passUntil htime, h.owed.imp fun _ _ hu => hu.passUntil h.carries htime, h.apart⟩

/-- One round: what is due comes about, and the batches are looked at. What is to come afterwards
is due later, and there is something unless all batches have their results. -/
theorem Attends.round (h : Attends transport flights name underway oweds t) :
    Attends transport flights name (t.settle.collect name underway).1 oweds
        (t.settle.collect name underway).2 ∧
      (t.settle.collect name underway).2.agenda.length ≤ t.agenda.length ∧
      (∀ a ∈ (t.settle.collect name underway).2.agenda,
        (t.settle.collect name underway).2.now ≤ a.time) ∧
      ∀ u ∈ (t.settle.collect name underway).1, u.results = none →
        (t.settle.collect name underway).2.agenda ≠ [] := by
  have hsettled : Attends transport flights name underway oweds t.settle :=
    h.passUntil (Nat.le_refl t.now)
  obtain ⟨hdrops, hcallers⟩ := hsettled.carries.collect name underway
  obtain ⟨hlooked, hcoming⟩ := owed_collect hsettled.carries hsettled.owed hsettled.apart
  rw [hdrops.agenda, hdrops.now]
  refine ⟨⟨hdrops.carries, hlooked, hcallers ▸ hsettled.apart⟩,
    length_agenda_passUntil_le t t.now, fun a ha => ?_, hcoming⟩
  exact Nat.le_of_lt (settled_passUntil h.carries.inOrder t.now a ha)

/-- When time passes until the next thing on the agenda, less is to come. -/
theorem length_agenda_passUntil_lt {next : Appointment} {later : List Appointment}
    (h : t.agenda = next :: later) :
    (t.passUntil next.time).agenda.length < t.agenda.length := by
  have hgone := (List.dropWhile_sublist (l := later) (·.time ≤ next.time)).length_le
  rw [passUntil_eq, h, List.dropWhile_cons_of_pos (by simp)]
  exact Nat.lt_succ_of_le hgone

/-- **Whoever waits for batches gets the results of all of them**, and nothing is requested
meanwhile. As long as one has none something is to come, and each round leaves less of that. -/
theorem await_gathers {fuel : Nat} (h : Attends transport flights name underway oweds t)
    (hfuel : t.agenda.length < fuel) :
    List.Forall₂ Has (await name fuel underway t).1 oweds ∧
      (await name fuel underway t).2.requests = t.requests := by
  induction fuel generalizing t underway with
  | zero => exact absurd hfuel (Nat.not_lt_zero _)
  | succ fuel ih =>
    obtain ⟨hround, hlength, hlater, hcoming⟩ := h.round
    unfold await
    generalize t.settle.collect name underway = looked at *
    obtain ⟨underway', t'⟩ := looked
    dsimp only at *
    have hrequests : t'.requests = t.requests := by
      rw [hround.carries.requests_eq, h.carries.requests_eq]
    split
    · rename_i hall
      exact ⟨forall₂_imp_of_mem hround.owed fun u hu owed howed =>
        howed.has_of_isSome (List.all_eq_true.mp hall u hu), hrequests⟩
    · rename_i hall
      obtain ⟨u, hu, hnone⟩ : ∃ u ∈ underway', u.results = none := by
        simpa [List.all_eq_true] using hall
      cases hagenda : t'.agenda with
      | nil => exact absurd hagenda (hcoming u hu hnone)
      | cons next later =>
        have hpassed := hround.passUntil (hlater next (hagenda ▸ List.mem_cons_self))
        have hless := length_agenda_passUntil_lt hagenda
        obtain ⟨hhas, hmore⟩ := ih hpassed (by omega)
        refine ⟨hhas, hmore.trans ?_⟩
        rw [hpassed.carries.requests_eq, ← hround.carries.requests_eq, hrequests]

end Collect

/-! ## A batch at an idle dispatcher -/

/-- What is said of different things one by one is what one function says of them. -/
theorem exists_map_eq {α β : Type} [DecidableEq α] [Inhabited β] {xs : List α} (hxs : xs.Nodup)
    {ys : List β} (hlength : ys.length = xs.length) : ∃ f : α → β, xs.map f = ys := by
  refine ⟨fun x => (ys[xs.idxOf x]?).getD default,
    List.ext_getElem (by rw [List.length_map, hlength]) fun i hi hi' => ?_⟩
  rw [List.getElem_map, hxs.idxOf_getElem, List.getElem?_eq_getElem hi', Option.getD_some]

instance : Inhabited TripEnd := ⟨.dies⟩

/-- The callers of a batch come and are waited for. This is what running a batch alone comes to. -/
def attend (t : Timeline σ) (name : String) (patience : Patience) (batch : Batch α) :
    List (Underway α) × Timeline σ :=
  let (callers, t) := t.callAll name patience batch
  await name (t.agenda.length + 1) [⟨batch, callers, none⟩] t

theorem runBatch_eq {t : Timeline σ} {name : String} {patience : Patience} {batch : Batch α}
    {u : Underway α} (h : (t.attend name patience batch).1 = [u]) :
    t.runBatch name patience batch =
      (u.results.getD (.error (.trip .aborted)), (t.attend name patience batch).2) := by
  have hall : t.runAll name patience [batch] =
      ((t.attend name patience batch).1.map fun u => u.results.getD (.error (.trip .aborted)),
        (t.attend name patience batch).2) := rfl
  unfold runBatch
  rw [hall, h]
  rfl

/-- **A batch at a dispatcher where nothing is outstanding.** Each distinct call is requested once,
when the first operation of its key comes, and `answer` is what the transport makes of these
requests one after the other. The batch gets the results that its operations read from the answers
to their own calls. What else is going on, and how long the round trips take, has no part in it. -/
theorem Reached.runBatch {transport : Transport σ} {t : Timeline σ} (h : Reached transport t)
    {name : String} (hidle : (t.dispatcher name).inFlight = 0) (batch : Batch α) :
    ∃ answer : RequestKey → Outcome,
      (batch.starters []).map (fun op => answer op.key) =
        (transport.replies t.memory ((batch.starters []).map Operation.request)).map
          (·.ending.outcome) ∧
      (t.runBatch name .unlimited batch).2.requests =
        ((batch.starters []).map Operation.request).reverse ++ t.requests ∧
      Gathers (batch.map fun op => op.read (answer op.key))
        (t.runBatch name .unlimited batch).1 := by
  obtain ⟨flights, hcarries⟩ := h.carries
  have hnone : (t.dispatcher name).trips = [] := by
    rw [(hcarries.sound name).inFlight_eq] at hidle
    exact List.eq_nil_of_length_eq_zero hidle
  have hkeys : t.outstandingKeys name = [] := congrArg (List.map Trip.key) hnone
  have hlength : ((transport.replies t.memory ((batch.starters []).map Operation.request)).map
      (·.ending)).length = ((batch.starters []).map Operation.key).length := by
    rw [List.length_map, Transport.length_replies, List.length_map, List.length_map]
  -- there are as many replies as distinct calls, so they are a function of the key
  obtain ⟨answer, hanswer⟩ := exists_map_eq (Batch.nodup_starters [] batch).1 hlength
  rw [List.map_map] at hanswer
  have hpromises : Promises t name answer := by
    intro trip htrip
    rw [hnone] at htrip
    cases htrip
  obtain ⟨hlast, hrequests, hsettled⟩ := callAll_settled h hcarries hpromises batch
    (by rw [hkeys, ← hcarries.memory_eq]; exact hanswer)
  rw [hkeys] at hrequests
  obtain ⟨started, hstarted⟩ := hlast.carries
  -- each caller is owed the answer to its own call
  have howed : Owed (t.callAll name .unlimited batch).2 name
      ⟨batch, (t.callAll name .unlimited batch).1, none⟩
      (batch.map fun op => (op, .outcome (answer op.key).outcome)) := by
    refine .waits ?_ (List.forall₂_map_right_iff.mpr hsettled)
    rw [List.map_map]
    exact (List.map_id batch).symm
  obtain ⟨hhas, hquiet⟩ := await_gathers
    ⟨hstarted, .cons howed .nil, List.pairwise_singleton _ _⟩ (Nat.lt_succ_self _)
  obtain ⟨u, us, ⟨results, hresults, hgathers⟩, hnil, hone⟩ := List.forall₂_cons_right_iff.mp hhas
  rw [List.forall₂_nil_right_iff.mp hnil] at hone
  rw [runBatch_eq hone, hresults]
  refine ⟨fun key => (answer key).outcome, ?_, hquiet.trans hrequests, ?_⟩
  · have houtcomes := congrArg (List.map TripEnd.outcome) hanswer
    rwa [List.map_map, List.map_map] at houtcomes
  · rw [List.map_map] at hgathers
    exact hgathers

end Timeline
end NodeRpc
