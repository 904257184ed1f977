import NodeRpc.Proofs.Call.Rounds

/-!
# One outcome for each round

A read side outlives its entry in the table, and its key may be used for any number of rounds after
that. So what it shows is a fact about what was done, not about the table: it belongs to the round
that its acquire took part in (`Joins`), and what that round came to is settled by the first use of
the round's publisher (`cameTo`).

Both are defined without the table. `Joins` says that the round is the last one of the key that
began with the acquire or before it; `cameTo` is the first ending in a list. The main result,
`write_once`, is then an equation between what a read side shows at any time and `cameTo` of its
round at that time. "Never revised" and "never empty again" are not separate sentences that could be
forgotten. They follow from the equation, and are stated only because a reader will look for them.

Two things are said that an equation between values could not say. A wait is never found *closed*:
the code has an answer for a slot that is empty with nobody left to fill it, and that answer is out
of reach. And two read sides show one and the same publication, not only an equal one, exactly if
they are of one round; for that publications are numbered, so that two of them which say the same
are still two (`Numbered`).

The invariant is short. A slot is empty as long as its publisher is still to act, the publisher's
first use fills it, and nothing writes a slot that is filled.
-/

namespace NodeRpc.Coalescer

/-- The round that an acquire of a key takes part in: the last one of the key that began with this
acquire or before it. `earlier` was done before the acquire, and `before` before the round. If the
acquire began the round itself, the two are the same. -/
structure Joins (earlier : List Use) (key : RequestKey) (before : List Use) (p : Publisher) :
    Prop where
  began : ∃ since, Began (earlier ++ [.acquire key]) before key p since
  last : ∀ other q since, Began (earlier ++ [.acquire key]) other key q since →
    other.length ≤ before.length

/-- What the round of a publisher came to, by what was done since it began: the first use of
the publisher settles it. -/
def cameTo (p : Publisher) (since : List Use) : Option Outcome := since.findSome? (·.ending? p)

/-- The read side that an acquire of a key gives after these uses. -/
def readSide (earlier : List Use) (key : RequestKey) : Pending :=
  ((after earlier).acquire key).1.pending

/-! ## Slots are written once

An empty slot has one publisher that can fill it, and a filled slot has none. These two lemmas are
what the rest is made of; neither of them mentions rounds. -/

theorem Sound.tryGet_acquire {c : Coalescer} (h : c.Sound) (key : RequestKey)
    (pending : Pending) : (c.acquire key).2.tryGet pending = c.tryGet pending := by
  rcases h.acquire_cases key with ⟨p, -, -, hacq⟩ | ⟨-, hacq⟩
  · rw [hacq]
  · rw [hacq]
    show ((c.slots.push none)[pending.slot]?).join = (c.slots[pending.slot]?).join
    rw [Array.getElem?_push]
    split
    · -- the new slot is empty, as is one that is not there
      rename_i hnew
      rw [hnew, Array.getElem?_size]
      rfl
    · rfl

/-- Nothing writes a slot that is filled. -/
theorem Sound.tryGet_apply_of_some {c : Coalescer} (h : c.Sound) {pending : Pending}
    {shared : Shared} (hget : c.tryGet pending = some shared) (use : Use) :
    (c.apply use).tryGet pending = some shared := by
  rcases c.apply_cases use with ⟨key, rfl⟩ | ⟨p, outcome, heq, -⟩ | ⟨heq, -⟩
  · exact (h.tryGet_acquire key pending).trans hget
  · rw [heq]
    by_cases hp : p ∈ c.publishers
    · have hne : pending ≠ ⟨p.slot⟩ := by
        rintro rfl
        rw [h.tryGet_of_mem hp] at hget
        cases hget
      rw [h.tryGet_publish hp, if_neg hne, hget]
    · rw [publish_of_not_mem hp, hget]
  · rw [heq, hget]

/-- An empty slot is filled by the use of its publisher and by nothing else. -/
theorem Sound.tryGet_apply_of_mem {c : Coalescer} (h : c.Sound) {p : Publisher}
    (hp : p ∈ c.publishers) (use : Use) :
    ((c.apply use).tryGet ⟨p.slot⟩).map (·.outcome) = use.ending? p := by
  rcases c.apply_cases use with ⟨key, rfl⟩ | ⟨q, outcome, heq, -, hending⟩ | ⟨heq, -, hending⟩
  · have hget := h.tryGet_acquire key ⟨p.slot⟩
    show (((c.acquire key).2.tryGet ⟨p.slot⟩).map (·.outcome)) = none
    rw [hget, h.tryGet_of_mem hp]
    rfl
  · rw [heq, hending]
    by_cases hqp : q = p
    · subst hqp
      rw [h.tryGet_publish hp, if_pos rfl, if_pos rfl]
      rfl
    · rw [if_neg hqp]
      by_cases hq : q ∈ c.publishers
      · have hne : (⟨p.slot⟩ : Pending) ≠ ⟨q.slot⟩ := by
          intro hslot
          exact hqp (h.eq_of_slot_eq hq hp (Pending.mk.inj hslot).symm)
        rw [h.tryGet_publish hq, if_neg hne, h.tryGet_of_mem hp]
        rfl
      · rw [publish_of_not_mem hq, h.tryGet_of_mem hp]
        rfl
  · rw [heq, hending, h.tryGet_of_mem hp]
    rfl

/-- A filled slot stays as it is. -/
theorem tryGet_later {uses : List Use} {pending : Pending} {shared : Shared}
    (hget : (after uses).tryGet pending = some shared) (more : List Use) :
    (after (uses ++ more)).tryGet pending = some shared := by
  induction more using List.reverseRecOn with
  | nil => rwa [List.append_nil]
  | append_singleton more use ih =>
    rw [← List.append_assoc, after_snoc]
    exact (sound_after (uses ++ more)).tryGet_apply_of_some ih use

/-! ## What a round came to -/

section Round

variable {uses before since : List Use} {key : RequestKey} {p : Publisher}

theorem Began.live (h : Began uses before key p since) (hnone : cameTo p since = none) :
    Live uses p :=
  ⟨before, key, since, h, List.findSome?_eq_none_iff.mp hnone⟩

/-- **A round has no outcome until its publisher is used, and then the one of that use.** `cameTo`
reads it off the list of later uses, where only the first use of the publisher counts. -/
theorem Began.tryGet_eq (h : Began uses before key p since) :
    ((after uses).tryGet ⟨p.slot⟩).map (·.outcome) = cameTo p since := by
  induction since using List.reverseRecOn generalizing uses with
  | nil =>
    have hp := (live_iff uses p).mp (h.live rfl)
    rw [(sound_after uses).tryGet_of_mem hp]
    rfl
  | append_singleton since use ih =>
    obtain ⟨rfl, hout⟩ := h
    have hbegan : Began (before ++ .acquire key :: since) before key p since := ⟨rfl, hout⟩
    have hbefore := ih hbegan
    have hsound := sound_after (before ++ .acquire key :: since)
    rw [← List.cons_append, ← List.append_assoc, after_snoc]
    unfold cameTo
    rw [List.findSome?_append]
    cases hcame : cameTo p since with
    | none =>
      have hp := (live_iff _ p).mp (hbegan.live hcame)
      rw [hsound.tryGet_apply_of_mem hp, show since.findSome? (·.ending? p) = none from hcame]
      simp
    | some outcome =>
      rw [hcame] at hbefore
      obtain ⟨shared, hget, hshared⟩ := Option.map_eq_some_iff.mp hbefore
      rw [hsound.tryGet_apply_of_some hget, show since.findSome? (·.ending? p) = _ from hcame,
        Option.map_some, hshared]
      rfl

/-- A wait for a round is over exactly if the round has an outcome: there is always somebody left
who will write it. The third answer that a wait has, that the slot is closed and empty, does not
occur. -/
theorem Began.wait_eq (h : Began uses before key p since) :
    (after uses).wait ⟨p.slot⟩ = ((after uses).tryGet ⟨p.slot⟩).elim .pending .resolved := by
  have hget := h.tryGet_eq
  cases hcame : (after uses).tryGet ⟨p.slot⟩ with
  | none =>
    rw [hcame] at hget
    have hp := (live_iff uses p).mp (h.live hget.symm)
    exact (sound_after uses).wait_of_mem (List.mem_map_of_mem hp)
  | some shared =>
    unfold wait
    rw [hcame]
    rfl

end Round

/-! ## Which round it is

That an acquire takes part in one round, and in which, is said by where the round began in the list.
Rounds are compared by the length of what was done before them, which is the order of their slots as
well (`Began.slot_lt`). -/

section Which

variable {uses before before' since since' earlier : List Use} {key key' : RequestKey}
  {p p' : Publisher}

/-- Rounds that began at the same place are the same. -/
theorem Began.eq_of_length_eq (h : Began uses before key p since)
    (h' : Began uses before' key' p' since') (hlength : before.length = before'.length) :
    before = before' ∧ key = key' ∧ p = p' := by
  obtain ⟨rfl, htail⟩ := List.append_inj (h.uses_eq.symm.trans h'.uses_eq) hlength
  obtain ⟨huse, -⟩ := List.cons.inj htail
  obtain rfl := Use.acquire.inj huse
  exact ⟨rfl, rfl, Option.some.inj (h.handed_out.symm.trans h'.handed_out)⟩

theorem Began.slot_eq (h : Began uses before key p since) :
    p.slot = (after before).slots.size :=
  ((sound_after before).size_apply (.acquire key)).2 p h.handed_out

/-- A round that began later has a slot further on. -/
theorem Began.slot_lt (h : Began uses before key p since)
    (h' : Began uses before' key' p' since') (hlength : before.length < before'.length) :
    p.slot < p'.slot := by
  rcases List.append_eq_append_iff.mp (h.uses_eq.symm.trans h'.uses_eq) with
    ⟨mid, rfl, hmid⟩ | ⟨mid, rfl, -⟩
  · cases mid with
    | nil => simp at hlength
    | cons use mid =>
      -- the first round had its slot when the second one began
      obtain ⟨rfl, -⟩ := List.cons.inj hmid
      have hbegan : Began (before ++ [.acquire key]) before key p [] := ⟨rfl, h.handed_out⟩
      have hp := (live_iff _ p).mp (hbegan.live rfl)
      have hlt := (sound_after _).slot_lt hp
      have hle := size_le_after (before ++ [.acquire key]) mid
      rw [h'.slot_eq]
      rw [List.append_assoc, List.singleton_append] at hle
      omega
  · simp at hlength

theorem Began.key_eq (h : Began uses before key p since) : p.key = key := by
  have hout := h.handed_out
  rcases (sound_after before).acquire_cases key with ⟨q, -, -, hacq⟩ | ⟨-, hacq⟩
  · rw [hacq] at hout
    cases hout
  · rw [hacq] at hout
    cases hout
    rfl

/-- While a publisher is still to act for a key, no other round of the key begins. -/
theorem Began.length_le (h : Began uses before key p since)
    (hsince : ∀ use ∈ since, use.ending? p = none)
    (h' : Began uses before' key p' since') : before'.length ≤ before.length := by
  by_contra hlonger
  rcases List.append_eq_append_iff.mp (h.uses_eq.symm.trans h'.uses_eq) with
    ⟨mid, rfl, hmid⟩ | ⟨mid, rfl, -⟩
  · cases mid with
    | nil => simp at hlonger
    | cons use mid =>
      obtain ⟨rfl, rfl⟩ := List.cons.inj hmid
      -- it is still to act where the other round began, so that was no owner's acquire
      have hlive : Live (before ++ .acquire key :: mid) p :=
        ⟨before, key, mid, ⟨rfl, h.handed_out⟩, fun use huse =>
          hsince use (List.mem_append_left _ huse)⟩
      have hnone := (sound_after (before ++ .acquire key :: mid)).isSome_publisher?_acquire key
      rw [h'.handed_out] at hnone
      exact hnone.mp rfl p ((live_iff _ p).mp hlive) h.key_eq
  · simp at hlonger

/-- Rounds have one slot exactly if they began at one place. -/
theorem Began.slot_eq_iff (h : Began uses before key p since)
    (h' : Began uses before' key' p' since') : p.slot = p'.slot ↔ before = before' := by
  rcases Nat.lt_trichotomy before.length before'.length with hlt | heq | hgt
  · have hslot := h.slot_lt h' hlt
    exact iff_of_false (Nat.ne_of_lt hslot) fun heq => by simp [heq] at hlt
  · obtain ⟨rfl, -, rfl⟩ := h.eq_of_length_eq h' heq
    exact iff_of_true rfl rfl
  · have hslot := h'.slot_lt h hgt
    exact iff_of_false (Nat.ne_of_gt hslot) fun heq => by simp [heq] at hgt

/-- **Every acquire takes part in a round**, and gets the read side of its slot. The round is the
one that was begun for the key last, unless that is over, and then one begins here. -/
theorem exists_joins (earlier : List Use) (key : RequestKey) :
    ∃ before p since, Joins earlier key before p ∧
      Began (earlier ++ [.acquire key]) before key p since ∧
      readSide earlier key = ⟨p.slot⟩ := by
  rcases (sound_after earlier).acquire_cases key with ⟨p, hp, hkey, hacq⟩ | ⟨-, hacq⟩
  · -- it joins the round of the publisher that is still to act for the key
    obtain ⟨before, key', since, hbegan, hsince⟩ := (live_iff earlier p).mpr hp
    obtain rfl := hbegan.key_eq.symm.trans hkey
    have hmore := hbegan.snoc [.acquire key']
    refine ⟨before, p, _, ⟨⟨_, hmore⟩, ?_⟩, hmore, ?_⟩
    · intro other q since' hother
      refine hmore.length_le ?_ hother
      intro use huse
      rcases List.mem_append.mp huse with huse | huse
      · exact hsince use huse
      · rw [List.mem_singleton.mp huse]
        rfl
    · unfold readSide
      rw [hacq]
      rfl
  · -- it begins one, and nothing is done after it
    have hbegan : Began (earlier ++ [.acquire key]) earlier key ⟨key, (after earlier).slots.size⟩
        [] := ⟨rfl, by rw [hacq]; rfl⟩
    refine ⟨earlier, _, [], ⟨⟨[], hbegan⟩, ?_⟩, hbegan, ?_⟩
    · exact fun other q since hother => hbegan.length_le (fun use huse => by cases huse) hother
    · unfold readSide
      rw [hacq]
      rfl

/-- An acquire takes part in one round. -/
theorem Joins.unique (h : Joins earlier key before p) (h' : Joins earlier key before' p') :
    before = before' ∧ p = p' := by
  obtain ⟨since, hbegan⟩ := h.began
  obtain ⟨since', hbegan'⟩ := h'.began
  obtain ⟨rfl, -, rfl⟩ := hbegan.eq_of_length_eq hbegan'
    (Nat.le_antisymm (h'.last _ _ _ hbegan) (h.last _ _ _ hbegan'))
  exact ⟨rfl, rfl⟩

end Which

/-! ## Publications are told apart

Two rounds may come to the same value, and then the values do not tell whether a read side shows its
own round. Each publication has a number, and the numbers grow. -/

/-- Outcomes are numbered as they are published. Two rounds have one number only if they are the
same round, also if the same was published for both. -/
structure Numbered (c : Coalescer) : Prop where
  id_lt : ∀ pending shared, c.tryGet pending = some shared → shared.id < c.published
  eq_of_id_eq : ∀ a b x y, c.tryGet a = some x → c.tryGet b = some y → x.id = y.id → a = b

theorem numbered_empty : empty.Numbered := by
  have hnone : ∀ pending, empty.tryGet pending = none := fun _ => rfl
  refine ⟨?_, ?_⟩
  · intro pending shared hget
    rw [hnone] at hget
    cases hget
  · intro a b x y hx
    rw [hnone] at hx
    cases hx

theorem Numbered.publish {c : Coalescer} (h : c.Numbered) (hsound : c.Sound) (p : Publisher)
    (outcome : Outcome) : (c.publish p outcome).Numbered := by
  by_cases hp : p ∈ c.publishers
  · have hcases : ∀ pending shared, (c.publish p outcome).tryGet pending = some shared →
        (pending = ⟨p.slot⟩ ∧ shared.id = c.published) ∨
          (c.tryGet pending = some shared ∧ shared.id < c.published) := by
      intro pending shared hget
      rw [hsound.tryGet_publish hp] at hget
      split at hget
      · rename_i hpending
        obtain rfl := Option.some.inj hget
        exact Or.inl ⟨hpending, rfl⟩
      · exact Or.inr ⟨hget, h.id_lt _ _ hget⟩
    have hpublished : (c.publish p outcome).published = c.published + 1 := by
      rw [publish_of_mem hp]
      rfl
    refine ⟨?_, ?_⟩
    · intro pending shared hget
      rcases hcases pending shared hget with ⟨-, hid⟩ | ⟨-, hid⟩
      · omega
      · omega
    · intro a b x y hx hy hid
      rcases hcases a x hx with ⟨ha, hxid⟩ | ⟨hx, hxid⟩
      · rcases hcases b y hy with ⟨hb, -⟩ | ⟨-, hyid⟩
        · rw [ha, hb]
        · omega
      · rcases hcases b y hy with ⟨-, hyid⟩ | ⟨hy, -⟩
        · omega
        · exact h.eq_of_id_eq a b x y hx hy hid
  · rw [publish_of_not_mem hp]
    exact h

theorem Numbered.apply {c : Coalescer} (h : c.Numbered) (hsound : c.Sound) (use : Use) :
    (c.apply use).Numbered := by
  rcases c.apply_cases use with ⟨key, rfl⟩ | ⟨p, outcome, heq, -⟩ | ⟨heq, -⟩
  · have hget := hsound.tryGet_acquire key
    have hpublished : (c.acquire key).2.published = c.published := by
      rcases hsound.acquire_cases key with ⟨p, -, -, hacq⟩ | ⟨-, hacq⟩
      · rw [hacq]
      · rw [hacq]
        rfl
    refine ⟨?_, ?_⟩
    · intro pending shared hshared
      show shared.id < (c.acquire key).2.published
      rw [hpublished]
      exact h.id_lt pending shared ((hget pending).symm.trans hshared)
    · intro a b x y hx hy
      exact h.eq_of_id_eq a b x y ((hget a).symm.trans hx) ((hget b).symm.trans hy)
  · rw [heq]
    exact h.publish hsound p outcome
  · rw [heq]
    exact h

theorem numbered_after (uses : List Use) : (after uses).Numbered := by
  induction uses using List.reverseRecOn with
  | nil => exact numbered_empty
  | append_singleton uses use ih =>
    rw [after_snoc]
    exact ih.apply (sound_after uses) use

/-- Two read sides show one and the same publication exactly if they are of one slot and that
is filled. -/
theorem Numbered.same_iff {c : Coalescer} (h : c.Numbered) (a b : Pending) :
    c.same a b = true ↔ b = a ∧ (c.tryGet a).isSome := by
  unfold same
  cases hx : c.tryGet a with
  | none => simp
  | some x =>
    cases hy : c.tryGet b with
    | none =>
      refine iff_of_false Bool.false_ne_true ?_
      rintro ⟨rfl, -⟩
      rw [hx] at hy
      cases hy
    | some y =>
      simp only [beq_iff_eq, Option.isSome_some, and_true]
      constructor
      · exact fun hid => (h.eq_of_id_eq a b x y hx hy hid).symm
      · rintro rfl
        rw [Option.some.inj (hx.symm.trans hy)]

/-- **One outcome for each round, written once.** Take any uses of a table, and among them an
acquire of a key. There is a round that the acquire takes part in, the last one of the key that
began with it or before it. For the read side that the acquire gave:

* there is no outcome until the round's publisher is published or dropped, and from then on it
  is the outcome that was published, or that the round was aborted;
* a wait is over exactly when there is an outcome, and it is never found closed without one;
* the publication that is there once is there forever, whatever is done later;
* it is the very same publication as that of another read side exactly if there is one and the
  other read side is of the same round. -/
theorem write_once {uses earlier later : List Use} {key : RequestKey}
    (huses : uses = earlier ++ .acquire key :: later) :
    ∃ before p since, Joins earlier key before p ∧ Began uses before key p since ∧
      ((after uses).tryGet (readSide earlier key)).map (·.outcome) = cameTo p since ∧
      (after uses).wait (readSide earlier key) =
        ((after uses).tryGet (readSide earlier key)).elim .pending .resolved ∧
      (∀ more shared, (after uses).tryGet (readSide earlier key) = some shared →
        (after (uses ++ more)).tryGet (readSide earlier key) = some shared) ∧
      ∀ earlier' key' later' before' p', uses = earlier' ++ .acquire key' :: later' →
        Joins earlier' key' before' p' →
          ((after uses).same (readSide earlier key) (readSide earlier' key') = true ↔
            before' = before ∧ ((after uses).tryGet (readSide earlier key)).isSome) := by
  obtain ⟨before, p, since, hjoins, hbegan, hside⟩ := exists_joins earlier key
  have hmore := hbegan.snoc later
  rw [List.append_assoc, List.singleton_append, ← huses] at hmore
  rw [hside]
  refine ⟨before, p, since ++ later, hjoins, hmore, hmore.tryGet_eq, hmore.wait_eq,
    fun more shared hget => tryGet_later hget more, ?_⟩
  intro earlier' key' later' before' p' huses' hjoins'
  obtain ⟨other, q, since', hother, hbegan', hside'⟩ := exists_joins earlier' key'
  obtain ⟨rfl, rfl⟩ := hother.unique hjoins'
  have hmore' := hbegan'.snoc later'
  rw [List.append_assoc, List.singleton_append, ← huses'] at hmore'
  rw [(numbered_after uses).same_iff, hside', Pending.mk.injEq, hmore'.slot_eq_iff hmore]

/-- The uses of a key in two rounds: the first is joined and published, the second given up. -/
def twoRounds : List Use :=
  [.acquire ⟨"getinfo"⟩, .acquire ⟨"getinfo"⟩, .publish ⟨⟨"getinfo"⟩, 0⟩ (.ok .null),
    .acquire ⟨"getinfo"⟩, .dropPublisher ⟨⟨"getinfo"⟩, 1⟩]

/-- The read side of the one that joined the first round shows its outcome, and will do so
forever; that of the second round shows another. -/
theorem write_once_twoRounds :
    ((after twoRounds).tryGet (readSide [.acquire ⟨"getinfo"⟩] ⟨"getinfo"⟩)).map (·.outcome) =
        some (.ok .null) ∧
      (∀ more, ((after (twoRounds ++ more)).tryGet
        (readSide [.acquire ⟨"getinfo"⟩] ⟨"getinfo"⟩)).map (·.outcome) = some (.ok .null)) ∧
      ((after twoRounds).tryGet (readSide (twoRounds.take 3) ⟨"getinfo"⟩)).map (·.outcome) =
        some (.error .aborted) := by
  have hjoined : twoRounds =
      [.acquire ⟨"getinfo"⟩] ++ .acquire ⟨"getinfo"⟩ :: twoRounds.drop 2 := rfl
  obtain ⟨_, _, _, -, -, -, -, hlater, -⟩ := write_once hjoined
  refine ⟨rfl, ?_, rfl⟩
  intro more
  rw [hlater more ⟨0, .ok .null⟩ rfl]
  rfl

end NodeRpc.Coalescer
