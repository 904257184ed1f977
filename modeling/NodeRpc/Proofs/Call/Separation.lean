import NodeRpc.Proofs.Call.Lanes
import Mathlib.Algebra.BigOperators.Group.Finset.Basic
import Mathlib.Data.Set.Function

/-!
# Keys do not interfere

A session shows one lane for each key, and what is done under a key is done to its lane alone
(`Named.perform`). So the answers that are given under a key are those of its own acts
(`Session.Shows.run`), and acts under two keys can be done in either order.

`keys_do_not_interfere` says it three times, since there are three ways to look. For somebody who
uses one key, everything under the others can be left out: the answers are equal, as lists. For
somebody who sees everything, two acts in a row under different keys can be swapped, each is
answered as before, and so is whatever comes after. And for somebody who counts, what is in flight
is the sum of what would be in flight for each key alone, with the number the table itself gives.

The swap speaks of the state in the end as well as of the answers, because a state that answers
alike could still differ in what it would answer. Two sessions that show the same lanes differ by no
more than the numbers of their slots (`Session.Renames`), which depend on the order in which rounds
of different keys were begun. The renaming is asked to be a bijection between the slots of the two
tables, and to carry the table, the publishers, the outcomes and every hand.

There is no hypothesis about the acts. A publisher may be used that was used before, a read side
that was dropped, or one that nobody got; the answer is then that there is none.
-/

namespace NodeRpc

/-- What one holds who has a ticket, when the rounds of the key are named by slots. -/
def Lane.hand (l : Lane) (key : RequestKey) (name : Nat → Nat) (nth : Nat) (ticket : Ticket) :
    Hand where
  pending? := ticket.round?.map fun round => ⟨name round⟩
  publisher? := if l.owner? = some nth then some ⟨key, name ticket.round⟩ else none

def Lane.hands (l : Lane) (key : RequestKey) (name : Nat → Nat) : List Hand :=
  l.tickets.mapIdx (l.hand key name)

/-- A session is one lane for each key, with slots as the names of their rounds. What is in the
table and what everybody holds is then determined by the lanes and the names. -/
structure Named (names : RequestKey → Nat → Nat) (lanes : RequestKey → Lane) (s : Session) :
    Prop where
  files : Files names lanes s.coalescer
  sound : ∀ key, (lanes key).Sound
  hands : ∀ key, s.hands key = (lanes key).hands key (names key)

/-- What a session shows to those who use it. The names are left out, as nobody sees the number of a
slot. -/
def Session.Shows (s : Session) (lanes : RequestKey → Lane) : Prop :=
  ∃ names, Named names lanes s

theorem shows_empty : Session.Shows {} fun _ => {} :=
  ⟨fun _ _ => 0, files_empty _, fun _ => Lane.sound_empty, fun _ => rfl⟩

/-! ## One act

For each act, what it does to the session and what it does to the lane. The lemma for all acts is
`Named.perform`. -/

section Hands

variable {l l' : Lane} {key : RequestKey} {name name' : Nat → Nat}

/-- Names matter for the rounds that there are, and who is the owner for those who asked. -/
theorem hands_congr (h : l.Sound)
    (howner : ∀ nth < l.tickets.length, l'.owner? = some nth ↔ l.owner? = some nth)
    (hname : ∀ round < l.rounds, name' round = name round) :
    l.tickets.mapIdx (l'.hand key name') = l.hands key name := by
  unfold Lane.hands
  rw [List.mapIdx_eq_mapIdx_iff]
  intro nth hnth
  have hround := hname _ (h.round_lt _ (List.getElem_mem hnth))
  unfold Lane.hand Ticket.round?
  rw [hround]
  congr 1
  · split
    · rw [Option.map_some, Option.map_some, hround]
    · rfl
  · simp only [howner nth hnth]

theorem hands_joined (h : l.Sound) :
    l.joined.hands key name =
      l.hands key name ++ [⟨some ⟨name l.settled.length⟩, none⟩] := by
  have hlast : l.joined.owner? ≠ some l.tickets.length := by
    intro heq
    exact absurd (h.owner_lt heq) (Nat.lt_irrefl _)
  refine List.mapIdx_concat.trans (congrArg₂ (· ++ [·]) (hands_congr h ?_ ?_) ?_)
  · exact fun _ _ => Iff.rfl
  · exact fun _ _ => rfl
  · exact congrArg (Hand.mk _) (if_neg hlast)

theorem hands_began (h : l.Sound) (hidle : l.owner? = none)
    (hname : ∀ round < l.rounds, name' round = name round) :
    l.began.hands key name' = l.hands key name ++
      [⟨some ⟨name' l.settled.length⟩, some ⟨key, name' l.settled.length⟩⟩] := by
  refine List.mapIdx_concat.trans (congrArg₂ (· ++ [·]) (hands_congr h ?_ hname) ?_)
  · intro nth hnth
    rw [hidle]
    refine iff_of_false (fun heq => ?_) fun heq => by cases heq
    exact absurd (Option.some.inj heq) (Nat.ne_of_gt hnth)
  · exact congrArg (Hand.mk _) (if_pos rfl)

/-- What one holds changes with the ticket and with who is the owner. -/
theorem modify_hands {nth : Nat} (change : Ticket → Ticket) {changeHand : Hand → Hand}
    (htickets : l'.tickets = l.tickets.modify nth change)
    (hself : ∀ ticket, l'.hand key name nth (change ticket) =
      changeHand (l.hand key name nth ticket))
    (hother : ∀ other ticket, other ≠ nth → l'.hand key name other ticket =
      l.hand key name other ticket) :
    (l.hands key name).modify nth changeHand = l'.hands key name := by
  apply List.ext_getElem?
  intro other
  unfold Lane.hands
  rw [List.getElem?_modify, List.getElem?_mapIdx, List.getElem?_mapIdx, htickets,
    List.getElem?_modify]
  cases l.tickets[other]? with
  | none => rfl
  | some ticket =>
    show some (if nth = other then _ else _) =
      some (l'.hand key name other (if nth = other then _ else _))
    by_cases heq : nth = other
    · subst heq
      rw [if_pos rfl, if_pos rfl, hself]
    · rw [if_neg heq, if_neg heq, hother other ticket (Ne.symm heq)]

end Hands

section Perform

variable {names names' : RequestKey → Nat → Nat} {lanes : RequestKey → Lane} {s : Session}

/-- Looking at a session is looking at a lane. -/
theorem Named.look_eq (h : Named names lanes s) (key : RequestKey) (nth : Nat)
    (see : Pending → Answer) :
    s.look key nth see = (lanes key).look nth fun round => see ⟨names key round⟩ := by
  unfold Session.look Session.pending? Lane.look
  rw [h.hands, Lane.hands, List.getElem?_mapIdx]
  cases (lanes key).tickets[nth]? with
  | none => rfl
  | some ticket =>
    show (ticket.round?.map _).elim Answer.missing see = ticket.round?.elim .missing _
    cases ticket.round? with
    | none => rfl
    | some round => rfl

/-- The publisher of a key is held by the owner. -/
theorem Named.publisher?_eq (h : Named names lanes s) (key : RequestKey) (nth : Nat) :
    s.publisher? key nth = if (lanes key).owner? = some nth then
      some ⟨key, names key (lanes key).settled.length⟩ else none := by
  unfold Session.publisher?
  rw [h.hands, Lane.hands, List.getElem?_mapIdx]
  by_cases howner : (lanes key).owner? = some nth
  · obtain ⟨ticket, hticket, hround⟩ := (h.sound key).owner nth howner
    rw [hticket, if_pos howner, ← hround]
    exact if_pos howner
  · rw [if_neg howner]
    cases (lanes key).tickets[nth]? with
    | none => rfl
    | some ticket => exact if_neg howner

/-- What happens under one key leaves what is held under the others. -/
theorem Named.update (h : Named names lanes s) {key : RequestKey} {l : Lane} {s' : Session}
    {hands : List Hand} (hfiles : Files names' (Function.update lanes key l) s'.coalescer)
    (hsound : l.Sound) (hchanged : s'.hands = Function.update s.hands key hands)
    (hhands : hands = l.hands key (names' key))
    (hnames : ∀ other, other ≠ key → names' other = names other) :
    Named names' (Function.update lanes key l) s' := by
  refine ⟨hfiles, fun other => ?_, fun other => ?_⟩
  · by_cases hother : other = key
    · subst hother
      rwa [Function.update_self]
    · rw [Function.update_of_ne hother]
      exact h.sound other
  · rw [hchanged]
    by_cases hother : other = key
    · subst hother
      rw [Function.update_self, Function.update_self, hhands]
    · rw [Function.update_of_ne hother, Function.update_of_ne hother, hnames other hother]
      exact h.hands other

theorem Named.acquire (h : Named names lanes s) (key : RequestKey) : ∃ names',
    Named names' (Function.update lanes key (lanes key).acquire.1) (s.acquire key).1 ∧
      (s.acquire key).2 = (lanes key).acquire.2 := by
  have hsound := h.sound key
  unfold Session.acquire
  rcases h.files.sound.acquire_cases key with ⟨p, hp, rfl, hacq⟩ | ⟨hnone, hacq⟩
  · -- it joins the round of the lane that is not over
    obtain ⟨howner, hslot⟩ := (h.files.publisher_iff p.key p.slot).mp hp
    obtain ⟨owner, howner⟩ := Option.isSome_iff_exists.mp howner
    rw [hacq, Lane.acquire_of_some howner]
    refine ⟨names, h.update (h.files.update rfl rfl) (hsound.joined howner) rfl ?_ fun _ _ => rfl,
      rfl⟩
    rw [h.hands, hands_joined hsound, ← hslot]
    rfl
  · -- it begins a round, as no publisher is left for the key
    have hidle : (lanes key).owner? = none := by
      by_contra hsome
      exact hnone _ ((h.files.publisher_iff key _).mpr ⟨Option.isSome_iff_ne_none.mpr hsome, rfl⟩)
        rfl
    have hkept : (lanes key).began.settled = (lanes key).settled := rfl
    have hfiles := Files.begun hidle hkept h.files (congrArg Prod.snd hacq) rfl
    rw [hacq, Lane.acquire_of_none hidle]
    refine ⟨_, h.update hfiles (hsound.began hidle) rfl ?_
      fun other hother => nameRound_of_key_ne hother _ _ _, rfl⟩
    have hhands := @hands_began _ key (names key) _ hsound hidle fun round hround =>
      @nameRound_of_lt names _ _ _ hidle hkept _ _ hround s.coalescer.slots.size
    rw [← hkept, nameRound_self] at hhands
    rw [h.hands]
    exact hhands.symm

/-- The owner settles the round that is not over; nobody else can. -/
theorem Named.settle (h : Named names lanes s) (key : RequestKey) (nth : Nat)
    (outcome : Outcome) :
    Named names (Function.update lanes key ((lanes key).settle nth outcome).1)
        (s.spend key nth (s.coalescer.publish · outcome)).1 ∧
      (s.spend key nth (s.coalescer.publish · outcome)).2 =
        ((lanes key).settle nth outcome).2 := by
  unfold Session.spend Lane.settle
  rw [h.publisher?_eq]
  by_cases howner : (lanes key).owner? = some nth
  · rw [if_pos howner, if_pos howner]
    have hsound := (h.sound key).settle nth outcome
    unfold Lane.settle at hsound
    rw [if_pos howner] at hsound
    have hfiles := h.files.settle
      { lanes key with settled := (lanes key).settled ++ [outcome], owner? := none }
      (Option.isSome_of_eq_some howner) outcome rfl rfl
    refine ⟨h.update hfiles hsound rfl ?_ fun _ _ => rfl, rfl⟩
    rw [h.hands]
    refine modify_hands id (List.modify_id _ _).symm (fun ticket => rfl) ?_
    intro other ticket hother
    have hnot : (lanes key).owner? ≠ some other := by
      rw [howner]
      exact fun heq => hother (Option.some.inj heq).symm
    exact congrArg (Hand.mk _) (if_neg hnot).symm
  · rw [if_neg howner, if_neg howner, Function.update_eq_self]
    exact ⟨h, rfl⟩

/-- **An act under a key is one of its lane**, and is answered as the lane answers it. The other
lanes stay as they are, and the only thing that changes beside the lane is which slots are named. -/
theorem Named.perform (h : Named names lanes s) (key : RequestKey) (act : Act) : ∃ names',
    Named names' (Function.update lanes key ((lanes key).perform act).1) (s.perform key act).1 ∧
      (s.perform key act).2 = ((lanes key).perform act).2 := by
  have hlook := h.look_eq key
  have hsame : Named names (Function.update lanes key (lanes key)) s := by
    rwa [Function.update_eq_self]
  cases act with
  | acquire => exact h.acquire key
  | publish nth outcome => exact ⟨names, h.settle key nth outcome⟩
  | dropPublisher nth => exact ⟨names, h.settle key nth (.error .aborted)⟩
  | tryGet nth =>
    refine ⟨names, hsame, (hlook nth _).trans
      ((h.sound key).look_congr (fun round hround => ?_) nth)⟩
    rw [h.files.outcome key round hround]
  | wait nth =>
    refine ⟨names, hsame, (hlook nth _).trans
      ((h.sound key).look_congr (fun round hround => ?_) nth)⟩
    rw [h.files.outcome?_wait hround]
  | same nth other =>
    refine ⟨names, hsame, (hlook nth _).trans ((h.sound key).look_congr (fun a ha => ?_) nth)⟩
    refine (hlook other _).trans ((h.sound key).look_congr (fun b hb => ?_) other)
    rw [h.files.same_eq ha hb]
  | dropPending nth =>
    refine ⟨names, h.update (h.files.update rfl rfl) ((h.sound key).perform (.dropPending nth))
      rfl ?_ fun _ _ => rfl, hlook nth _⟩
    rw [h.hands]
    exact modify_hands _ rfl (fun ticket => rfl) fun other ticket _ => rfl

end Perform

/-! ## Runs -/

/-- What stands under a key. For acts it gives those of the key, and for answers the answers to
these. -/
def under {α : Type} (key : RequestKey) (xs : List (RequestKey × α)) : List α :=
  (xs.filter (·.1 = key)).map (·.2)

section Under

variable {α : Type} {key : RequestKey}

theorem under_cons_self (x : α) (xs : List (RequestKey × α)) :
    under key ((key, x) :: xs) = x :: under key xs := by
  unfold under
  rw [List.filter_cons_of_pos (by simp)]
  rfl

theorem under_cons_ne {other : RequestKey} (h : key ≠ other) (x : α)
    (xs : List (RequestKey × α)) : under key ((other, x) :: xs) = under key xs := by
  unfold under
  rw [List.filter_cons_of_neg (by simpa using Ne.symm h)]

theorem under_filter (xs : List (RequestKey × α)) :
    under key (xs.filter (·.1 = key)) = under key xs := by
  unfold under
  rw [List.filter_filter]
  simp

theorem filter_eq_map_under (xs : List (RequestKey × α)) :
    xs.filter (·.1 = key) = (under key xs).map (Prod.mk key) := by
  unfold under
  rw [List.map_map]
  refine (List.map_id _).symm.trans (List.map_congr_left fun x hx => ?_)
  obtain rfl : x.1 = key := of_decide_eq_true (List.mem_filter.mp hx).2
  rfl

end Under

namespace Session

variable {s s' : Session} {lanes : RequestKey → Lane}

theorem Shows.perform (h : s.Shows lanes) (key : RequestKey) (act : Act) :
    (s.perform key act).1.Shows (Function.update lanes key ((lanes key).perform act).1) ∧
      (s.perform key act).2 = ((lanes key).perform act).2 := by
  obtain ⟨names, hnamed⟩ := h
  obtain ⟨names', hnamed', hanswer⟩ := hnamed.perform key act
  exact ⟨⟨names', hnamed'⟩, hanswer⟩

theorem run_cons (s : Session) (key : RequestKey) (act : Act) (acts : List (RequestKey × Act)) :
    s.run ((key, act) :: acts) = (((s.perform key act).1.run acts).1,
      (key, (s.perform key act).2) :: ((s.perform key act).1.run acts).2) := rfl

theorem run_append (s : Session) (acts more : List (RequestKey × Act)) :
    s.run (acts ++ more) =
      (((s.run acts).1.run more).1, (s.run acts).2 ++ ((s.run acts).1.run more).2) := by
  induction acts generalizing s with
  | nil => rfl
  | cons act acts ih =>
    rw [List.cons_append, run_cons, run_cons, ih]
    rfl

theorem keys_run (s : Session) (acts : List (RequestKey × Act)) :
    (s.run acts).2.map (·.1) = acts.map (·.1) := by
  induction acts generalizing s with
  | nil => rfl
  | cons act acts ih => exact congrArg (act.1 :: ·) (ih _)

/-- **Every lane goes by its own acts**, and gives the answers to them. So what is known of one key
after a run is known from the acts under it alone, as if there had been no others. -/
theorem Shows.run (h : s.Shows lanes) (acts : List (RequestKey × Act)) :
    ((s.run acts).1.Shows fun key => ((lanes key).run (under key acts)).1) ∧
      ∀ key, under key (s.run acts).2 = ((lanes key).run (under key acts)).2 := by
  induction acts generalizing s lanes with
  | nil => exact ⟨h, fun _ => rfl⟩
  | cons entry acts ih =>
    obtain ⟨key, act⟩ := entry
    obtain ⟨hnext, hanswer⟩ := h.perform key act
    obtain ⟨hlast, hrest⟩ := ih hnext
    have hself := hrest key
    rw [Function.update_self] at hself
    rw [run_cons]
    refine ⟨?_, fun other => ?_⟩
    · have hlanes : (fun other => ((lanes other).run (under other ((key, act) :: acts))).1) =
          fun other => ((Function.update lanes key ((lanes key).perform act).1 other).run
            (under other acts)).1 := by
        funext other
        by_cases hother : other = key
        · subst hother
          rw [under_cons_self, Function.update_self]
          rfl
        · rw [under_cons_ne hother, Function.update_of_ne hother]
      rwa [hlanes]
    · by_cases hother : other = key
      · subst hother
        rw [under_cons_self, under_cons_self, hself, hanswer]
        rfl
      · have hrest := hrest other
        rw [Function.update_of_ne hother] at hrest
        rw [under_cons_ne hother, under_cons_ne hother, hrest]

/-- Sessions that show the same answer the same. -/
theorem Shows.answers_eq (h : s.Shows lanes) (h' : s'.Shows lanes)
    (acts : List (RequestKey × Act)) : (s.run acts).2 = (s'.run acts).2 := by
  induction acts generalizing s s' lanes with
  | nil => rfl
  | cons entry acts ih =>
    obtain ⟨hnext, hanswer⟩ := h.perform entry.1 entry.2
    obtain ⟨hnext', hanswer'⟩ := h'.perform entry.1 entry.2
    exact congrArg₂ (fun answer answers => (entry.1, answer) :: answers)
      (hanswer.trans hanswer'.symm) (ih hnext hnext')

/-! ## What is in flight -/

/-- As many rounds are in flight as there are lanes with one that is not over. -/
theorem Shows.inFlight (h : s.Shows lanes) (keys : Finset RequestKey)
    (hkeys : ∀ key, (lanes key).owner?.isSome → key ∈ keys) :
    s.coalescer.inFlight = ∑ key ∈ keys, (lanes key).owner?.isSome.toNat := by
  obtain ⟨names, hfiles, -, -⟩ := h
  have hmem : (s.coalescer.publishers.map (·.key)).toFinset =
      keys.filter fun key => (lanes key).owner?.isSome := by
    ext key
    rw [List.mem_toFinset, List.mem_map, Finset.mem_filter]
    constructor
    · rintro ⟨p, hp, rfl⟩
      have howner := ((hfiles.publisher_iff p.key p.slot).mp hp).1
      exact ⟨hkeys _ howner, howner⟩
    · exact fun hkey => ⟨_, (hfiles.publisher_iff key _).mpr ⟨hkey.2, rfl⟩, rfl⟩
  calc s.coalescer.inFlight
      = (s.coalescer.publishers.map (·.key)).length := by
        unfold Coalescer.inFlight
        rw [hfiles.sound.table_eq, List.length_map, List.length_map]
    _ = (keys.filter fun key => (lanes key).owner?.isSome).card := by
        rw [← hmem, List.toFinset_card_of_nodup hfiles.sound.keys_nodup]
    _ = ∑ key ∈ keys, (lanes key).owner?.isSome.toNat := by
        rw [Finset.card_filter]
        refine Finset.sum_congr rfl fun key _ => ?_
        cases (lanes key).owner?.isSome with
        | true => rfl
        | false => rfl

end Session

/-! ## The names of slots

What it is for two sessions to be the same but for numbers. It is proved from the lanes: if both
show the same, then a slot is sent to the slot of the same round. -/

/-- What one holds, with other names for the slots. -/
def Hand.rename (f : Nat → Nat) (hand : Hand) : Hand where
  pending? := hand.pending?.map fun pending => ⟨f pending.slot⟩
  publisher? := hand.publisher?.map fun publisher => ⟨publisher.key, f publisher.slot⟩

namespace Session

/-- Two sessions are the same but for the names of the slots: `f` is what the slots of the first are
called in the second. How publications are numbered is left out, too, as that is the order in which
they were made, and the two may have been made in another order. -/
structure Renames (f : Nat → Nat) (s s' : Session) : Prop where
  slots : Set.BijOn f (Set.Iio s.coalescer.slots.size) (Set.Iio s'.coalescer.slots.size)
  table : ∀ key, ∀ slot < s.coalescer.slots.size,
    ((key, ⟨slot⟩) ∈ s.coalescer.table ↔ (key, ⟨f slot⟩) ∈ s'.coalescer.table)
  publishers : ∀ key, ∀ slot < s.coalescer.slots.size,
    (⟨key, slot⟩ ∈ s.coalescer.publishers ↔ ⟨key, f slot⟩ ∈ s'.coalescer.publishers)
  outcome : ∀ slot < s.coalescer.slots.size, (s.coalescer.tryGet ⟨slot⟩).map (·.outcome) =
    (s'.coalescer.tryGet ⟨f slot⟩).map (·.outcome)
  hands : ∀ key, s'.hands key = (s.hands key).map (Hand.rename f)

end Session

section Renames

variable {names names' : RequestKey → Nat → Nat} {lanes : RequestKey → Lane} {s s' : Session}

theorem Files.mem_table_iff {c : Coalescer} (h : Files names lanes c) (key : RequestKey)
    (slot : Nat) : (key, ⟨slot⟩) ∈ c.table ↔ ⟨key, slot⟩ ∈ c.publishers := by
  rw [h.sound.table_eq, List.mem_map]
  constructor
  · rintro ⟨p, hp, heq⟩
    cases heq
    exact hp
  · exact fun hp => ⟨_, hp, rfl⟩

theorem hands_rename {l : Lane} (h : l.Sound) {key : RequestKey} {f name name' : Nat → Nat}
    (hf : ∀ round < l.rounds, f (name round) = name' round) :
    (l.hands key name).map (Hand.rename f) = l.hands key name' := by
  apply List.ext_getElem?
  intro nth
  unfold Lane.hands
  rw [List.getElem?_map, List.getElem?_mapIdx, List.getElem?_mapIdx]
  cases hticket : l.tickets[nth]? with
  | none => rfl
  | some ticket =>
    have hround := hf ticket.round (h.round_lt ticket (List.mem_of_getElem? hticket))
    refine congrArg some ?_
    unfold Lane.hand Hand.rename Ticket.round?
    congr 1
    · cases ticket.held with
      | true => exact congrArg (fun slot => some (Pending.mk slot)) hround
      | false => rfl
    · show (if _ then some _ else none : Option Publisher).map _ = _
      rw [apply_ite (Option.map _), Option.map_some, Option.map_none, hround]

/-- The slots of a table can be given other names. -/
theorem Files.exists_rename {c : Coalescer} (h : Files names lanes c)
    (names' : RequestKey → Nat → Nat) : ∃ f : Nat → Nat,
      ∀ key, ∀ round < (lanes key).rounds, f (names key round) = names' key round := by
  have hplace : ∀ slot, ∃ place : RequestKey × Nat, slot < c.slots.size →
      place.2 < (lanes place.1).rounds ∧ names place.1 place.2 = slot := by
    intro slot
    by_cases hslot : slot < c.slots.size
    · obtain ⟨key, round, hround⟩ := h.onto slot hslot
      exact ⟨(key, round), fun _ => hround⟩
    · exact ⟨(⟨""⟩, 0), fun hlt => absurd hlt hslot⟩
  choose place hplace using hplace
  refine ⟨fun slot => names' (place slot).1 (place slot).2, fun key round hround => ?_⟩
  obtain ⟨hlt, heq⟩ := hplace _ (h.slot_lt key round hround)
  obtain ⟨hkey, hsame⟩ := h.inj _ _ _ _ hlt hround heq
  dsimp only
  rw [hkey, hsame]

/-- **Sessions that show the same lanes are the same but for the names of the slots.** Slots are
counted over all keys, so a session in which the other keys were left out has other numbers, and
nothing else can differ. -/
theorem Session.Shows.renames (h : s.Shows lanes) (h' : s'.Shows lanes) :
    ∃ f, s.Renames f s' := by
  obtain ⟨names, hfiles, hsound, hhands⟩ := h
  obtain ⟨names', hfiles', -, hhands'⟩ := h'
  obtain ⟨f, hf⟩ := hfiles.exists_rename names'
  have hlast : ∀ key, (lanes key).owner?.isSome →
      (lanes key).settled.length < (lanes key).rounds := by
    intro key howner
    rw [Lane.rounds_of_isSome howner]
    exact Nat.lt_succ_self _
  -- every slot is the name of a round, and the rounds are the same on both sides
  have hpublishers : ∀ key, ∀ slot < s.coalescer.slots.size,
      (⟨key, slot⟩ ∈ s.coalescer.publishers ↔ ⟨key, f slot⟩ ∈ s'.coalescer.publishers) := by
    intro key slot hslot
    obtain ⟨other, round, hround, rfl⟩ := hfiles.onto slot hslot
    rw [hfiles.publisher_iff, hfiles'.publisher_iff, hf other round hround]
    refine and_congr_right fun howner => ⟨fun heq => ?_, fun heq => ?_⟩
    · obtain ⟨rfl, rfl⟩ := hfiles.inj _ _ _ _ hround (hlast key howner) heq
      rfl
    · obtain ⟨rfl, rfl⟩ := hfiles'.inj _ _ _ _ hround (hlast key howner) heq
      rfl
  refine ⟨f, ⟨?_, ?_, ?_⟩, ?_, hpublishers, ?_, ?_⟩
  · intro slot hslot
    obtain ⟨key, round, hround, rfl⟩ := hfiles.onto slot hslot
    rw [hf key round hround]
    exact hfiles'.slot_lt key round hround
  · intro slot hslot other hother heq
    obtain ⟨key, round, hround, rfl⟩ := hfiles.onto slot hslot
    obtain ⟨key', round', hround', rfl⟩ := hfiles.onto other hother
    rw [hf key round hround, hf key' round' hround'] at heq
    obtain ⟨rfl, rfl⟩ := hfiles'.inj _ _ _ _ hround hround' heq
    rfl
  · intro slot hslot
    obtain ⟨key, round, hround, rfl⟩ := hfiles'.onto slot hslot
    exact ⟨names key round, hfiles.slot_lt key round hround, hf key round hround⟩
  · intro key slot hslot
    rw [hfiles.mem_table_iff, hfiles'.mem_table_iff]
    exact hpublishers key slot hslot
  · intro slot hslot
    obtain ⟨key, round, hround, rfl⟩ := hfiles.onto slot hslot
    rw [hf key round hround, hfiles.outcome key round hround, hfiles'.outcome key round hround]
  · intro key
    rw [hhands, hhands']
    exact (hands_rename (hsound key) (hf key)).symm

end Renames

/-! ## Keys apart

The three parts of the main result, each from the fact that a session goes by its lanes. -/

namespace Session

/-- Those who begin with a new table, after what they did. -/
def after (acts : List (RequestKey × Act)) : Session := (run {} acts).1

def answers (acts : List (RequestKey × Act)) : List (RequestKey × Answer) := (run {} acts).2

theorem length_answers (acts : List (RequestKey × Act)) : (answers acts).length = acts.length := by
  have hkeys := congrArg List.length (keys_run {} acts)
  rwa [List.length_map, List.length_map] at hkeys

theorem shows_after (acts : List (RequestKey × Act)) :
    (after acts).Shows fun key => (Lane.run {} (under key acts)).1 := (shows_empty.run acts).1

/-- **Under a key the answers are those to its own acts.** The acts of other keys can be taken out
of a list without changing any answer that is left. -/
theorem answers_filter (acts : List (RequestKey × Act)) (key : RequestKey) :
    (answers acts).filter (·.1 = key) = answers (acts.filter (·.1 = key)) := by
  have hall : (answers (acts.filter (·.1 = key))).filter (·.1 = key) =
      answers (acts.filter (·.1 = key)) := by
    refine List.filter_eq_self.mpr fun answer hanswer => ?_
    have hkey : answer.1 ∈ (acts.filter (·.1 = key)).map (·.1) :=
      keys_run {} (acts.filter (·.1 = key)) ▸ List.mem_map_of_mem hanswer
    obtain ⟨act, hact, heq⟩ := List.mem_map.mp hkey
    exact heq ▸ (List.mem_filter.mp hact).2
  rw [← hall, filter_eq_map_under, filter_eq_map_under]
  refine congrArg (List.map _) ?_
  refine ((shows_empty.run acts).2 key).trans ?_
  rw [← under_filter acts]
  exact ((shows_empty.run (acts.filter (·.1 = key))).2 key).symm

/-- **Acts under two keys can be done in either order.** The answers come in the other order too,
each as it was, and the sessions in the end differ by the names of two slots at most. -/
theorem Shows.swap {s : Session} {lanes : RequestKey → Lane} (h : s.Shows lanes)
    {a b : RequestKey × Act} (hkeys : a.1 ≠ b.1) (more : List (RequestKey × Act)) :
    (∃ f, (s.run (a :: b :: more)).1.Renames f (s.run (b :: a :: more)).1) ∧
    ∃ x y answers, (s.run (a :: b :: more)).2 = x :: y :: answers ∧
      (s.run (b :: a :: more)).2 = y :: x :: answers := by
  obtain ⟨hfirst, hfirstAnswer⟩ := h.perform a.1 a.2
  obtain ⟨hboth, hsecondAnswer⟩ := hfirst.perform b.1 b.2
  obtain ⟨hfirst', hfirstAnswer'⟩ := h.perform b.1 b.2
  obtain ⟨hboth', hsecondAnswer'⟩ := hfirst'.perform a.1 a.2
  rw [Function.update_of_ne (Ne.symm hkeys)] at hboth hsecondAnswer
  rw [Function.update_of_ne hkeys, Function.update_comm hkeys.symm] at hboth'
  rw [Function.update_of_ne hkeys] at hsecondAnswer'
  have hrest := hboth.answers_eq hboth' more
  refine ⟨(hboth.run more).1.renames (hboth'.run more).1, (a.1, ((lanes a.1).perform a.2).2),
    (b.1, ((lanes b.1).perform b.2).2),
    (((s.perform a.1 a.2).1.perform b.1 b.2).1.run more).2, ?_, ?_⟩
  · rw [← hfirstAnswer, ← hsecondAnswer]
    rfl
  · rw [hrest, ← hfirstAnswer', ← hsecondAnswer']
    rfl

/-- **What is in flight is the sum of what is in flight for each key.** Each summand is zero or one
and is computed from the acts of its own key. -/
theorem inFlight_after (acts : List (RequestKey × Act)) :
    (after acts).coalescer.inFlight = ∑ key ∈ (acts.map (·.1)).toFinset,
      (after (acts.filter (·.1 = key))).coalescer.inFlight := by
  have hidle : ∀ {acts : List (RequestKey × Act)} {key : RequestKey},
      (Lane.run {} (under key acts)).1.owner?.isSome → key ∈ acts.map (·.1) := by
    intro acts key howner
    by_contra hnone
    have hunder : under key acts = [] := by
      unfold under
      rw [List.map_eq_nil_iff, List.filter_eq_nil_iff]
      exact fun act hact hkey => hnone (of_decide_eq_true hkey ▸ List.mem_map_of_mem hact)
    rw [hunder] at howner
    cases howner
  rw [(shows_after acts).inFlight _ fun key howner => List.mem_toFinset.mpr (hidle howner)]
  refine Finset.sum_congr rfl fun key _ => ?_
  have hone := (shows_after (acts.filter (·.1 = key))).inFlight {key} fun other howner => by
    obtain ⟨act, hact, rfl⟩ := List.mem_map.mp (hidle howner)
    exact Finset.mem_singleton.mpr (of_decide_eq_true (List.mem_filter.mp hact).2)
  rw [hone, Finset.sum_singleton, under_filter]

/-- **Keys do not interfere.** Whatever is done under any keys:

* the answers under a key are those that are given if everything under other keys is left out;
* two acts in a row under different keys can be swapped: each is answered as before and so is
  everything else, and in the end all is the same but for the names of the slots;
* there is in flight what would be for each key alone. -/
theorem keys_do_not_interfere (acts : List (RequestKey × Act)) :
    (∀ key, (answers acts).filter (·.1 = key) = answers (acts.filter (·.1 = key))) ∧
    (∀ before a b more, acts = before ++ a :: b :: more → a.1 ≠ b.1 →
      (∃ f, (after acts).Renames f (after (before ++ b :: a :: more))) ∧
      ∃ xs x y ys, xs.length = before.length ∧ answers acts = xs ++ x :: y :: ys ∧
        answers (before ++ b :: a :: more) = xs ++ y :: x :: ys) ∧
    (after acts).coalescer.inFlight = ∑ key ∈ (acts.map (·.1)).toFinset,
      (after (acts.filter (·.1 = key))).coalescer.inFlight := by
  refine ⟨answers_filter acts, ?_, inFlight_after acts⟩
  rintro before a b more rfl hkeys
  obtain ⟨hstate, x, y, ys, hxy, hyx⟩ := (shows_after before).swap hkeys more
  unfold answers after
  rw [run_append, run_append]
  refine ⟨hstate, answers before, x, y, ys, ?_, ?_, ?_⟩
  · exact length_answers before
  · exact congrArg (answers before ++ ·) hxy
  · exact congrArg (answers before ++ ·) hyx

/-- The round of one key is joined and given up, while that of another is published. -/
def twoKeys : List (RequestKey × Act) :=
  [(⟨"getinfo"⟩, .acquire), (⟨"getmininginfo"⟩, .acquire), (⟨"getinfo"⟩, .acquire),
    (⟨"getmininginfo"⟩, .publish 0 (.ok .null)), (⟨"getinfo"⟩, .wait 1),
    (⟨"getinfo"⟩, .dropPublisher 0), (⟨"getinfo"⟩, .tryGet 1), (⟨"getinfo"⟩, .same 0 1),
    (⟨"getmininginfo"⟩, .acquire)]

/-- The first key sees nothing of the second, which can come first as well. In the end the second
round of the second key is in flight, and nothing else. -/
theorem keys_do_not_interfere_twoKeys :
    (answers twoKeys).filter (·.1 = ⟨"getinfo"⟩) =
      [(⟨"getinfo"⟩, .role true), (⟨"getinfo"⟩, .role false), (⟨"getinfo"⟩, .shows none),
        (⟨"getinfo"⟩, .done), (⟨"getinfo"⟩, .shows (some (.error .aborted))),
        (⟨"getinfo"⟩, .shares true)] ∧
    (∃ f, (after twoKeys).Renames f (after ((⟨"getmininginfo"⟩, .acquire) ::
      (⟨"getinfo"⟩, .acquire) :: twoKeys.drop 2))) ∧
    (after twoKeys).coalescer.inFlight = 1 := by
  obtain ⟨hanswers, hswap, -⟩ := keys_do_not_interfere twoKeys
  refine ⟨(hanswers ⟨"getinfo"⟩).trans rfl, ?_, rfl⟩
  exact (hswap [] (⟨"getinfo"⟩, .acquire) (⟨"getmininginfo"⟩, .acquire) (twoKeys.drop 2) rfl
    (by decide)).1

end Session
end NodeRpc
