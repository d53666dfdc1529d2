import DurableJobs.Proofs.Admission.Tokens

/-!
# Who is cancelled

A cancellation that has been raised is noticed at the next look, whatever the look would have found: a
token, a free slot, or a slot that was assigned in the meantime. So two things have to be known of a run:
that a cancellation stays raised, and that whoever waits does so under the cancellation it came with
(`Heeded`). The look itself is one constructor of `Gate.Looks`, and what it does to the gate is giving up
what the wait had, which has three endings (`Slots.GivesUp`).

Who has been turned away is neither a waiter nor at work, and as nobody asks twice it stays so
(`Dismissed`).
-/

set_option autoImplicit false

namespace DurableJobs.Admission

variable {ι κ : Type}

/-! ## Giving up what a wait has -/

namespace Slots

variable [DecidableEq ι]

/-- What is left of slots when somebody gives up. -/
inductive GivesUp (slots : Slots ι) (asker : ι) : Slots ι → Prop where
  /-- The slot goes to the head of the queue. -/
  | handsOn (next : ι) (rest : List ι) (assigned : asker ∈ slots.assigned)
      (queue : slots.queue = next :: rest) :
      GivesUp slots asker ⟨slots.free, rest, slots.assigned.erase asker ++ [next], slots.held⟩
  | frees (assigned : asker ∈ slots.assigned) (queue : slots.queue = []) :
      GivesUp slots asker ⟨slots.free + 1, [], slots.assigned.erase asker, slots.held⟩
  | leavesQueue (unassigned : asker ∉ slots.assigned) :
      GivesUp slots asker { slots with queue := slots.queue.erase asker }

theorem givesUp_withdraw (slots : Slots ι) (asker : ι) : slots.GivesUp asker (slots.withdraw asker) := by
  unfold withdraw
  by_cases hassigned : asker ∈ slots.assigned
  · rw [if_pos hassigned]
    cases hqueue : slots.queue with
    | nil =>
      simp only [pass]
      exact .frees hassigned hqueue
    | cons next rest =>
      simp only [pass]
      exact .handsOn next rest hassigned hqueue
  · rw [if_neg hassigned]
    exact .leavesQueue hassigned

/-- There is one way to give up. -/
theorem GivesUp.eq_withdraw {slots after : Slots ι} {asker : ι} (h : slots.GivesUp asker after) :
    after = slots.withdraw asker := by
  cases h with
  | handsOn next rest assigned queue => simp only [withdraw, if_pos assigned, pass, queue]
  | frees assigned queue => simp only [withdraw, if_pos assigned, pass, queue]
  | leavesQueue unassigned => rw [withdraw, if_neg unassigned]

/-- A slot that is handed on goes to somebody who queues. -/
theorem GivesUp.assigned {slots after : Slots ι} {asker next : ι} (h : slots.GivesUp asker after)
    (hnext : next ∈ after.assigned) : next ∈ slots.assigned ∨ next ∈ slots.queue := by
  cases h with
  | handsOn head rest _ hqueue =>
    rw [List.mem_append, List.mem_singleton] at hnext
    rcases hnext with hold | rfl
    · exact Or.inl (List.mem_of_mem_erase hold)
    · exact Or.inr (hqueue ▸ List.mem_cons_self)
  | frees => exact Or.inl (List.mem_of_mem_erase hnext)
  | leavesQueue => exact Or.inl hnext

/-- Nothing is given up by somebody the slots do not know. -/
theorem withdraw_of_not_mem {slots : Slots ι} {asker : ι} (h : asker ∉ slots.waiting) :
    slots.withdraw asker = slots := by
  rw [waiting, List.mem_append, not_or] at h
  rw [withdraw, if_neg h.2, List.erase_of_not_mem h.1]

end Slots

/-- Whoever is cancelled gives up whatever else it would have found. -/
theorem Gate.look_cancelled [DecidableEq ι] (gate : Gate ι) (asker : ι) (stage : Stage) (now : Nat) :
    gate.look asker stage true now = ⟨.denied .cancelled, gate.withdraw asker stage, .leaves⟩ :=
  if_pos rfl

section Askers

variable [DecidableEq ι] {limiter presented : Limiter ι κ} {waiter : Waiter ι κ} {gate : Gate ι}
  {act : Act ι κ}

/-- Whoever looks queues nowhere but at its gate, and only if it has its token. -/
theorem Presents.queuesAt (h : Presents limiter act waiter presented) (hfresh : Fresh limiter act) {g : Nat}
    (hqueues : limiter.QueuesAt g waiter.asker) : g = waiter.gate ∧ waiter.stage = .slot := by
  obtain ⟨w, hw, rfl, hstage⟩ := hqueues
  rcases h.cases_waiter with ⟨hcomes, -⟩ | hfound
  · rw [(hfresh _ hcomes).1] at hw
    cases hw
  · rw [hfound] at hw
    cases hw
    exact ⟨rfl, hstage⟩

/-- Whoever gives up at its gate gives up at all of them: the others do not know it. -/
theorem Limiter.Counted.gates_withdrawn (h : limiter.Counted) (hshown : Shown limiter waiter presented)
    (hqueues : ∀ g, limiter.QueuesAt g waiter.asker → g = waiter.gate ∧ waiter.stage = .slot)
    (there : limiter.gates[waiter.gate]? = some gate) (g : Nat) :
    (presented.settle waiter (gate.withdraw waiter.asker waiter.stage) .leaves).gates[g]? =
      limiter.gates[g]?.map fun old => { old with slots := old.slots.withdraw waiter.asker } := by
  have hidle : ∀ {g : Nat} {old : Gate ι}, limiter.gates[g]? = some old →
      ¬limiter.QueuesAt g waiter.asker → old.slots.withdraw waiter.asker = old.slots :=
    fun hold habsent => Slots.withdraw_of_not_mem fun hmem =>
      habsent (((h.slots _ _ hold).waits _).mp hmem)
  rw [hshown.gates_settle there]
  by_cases hg : g = waiter.gate
  · rw [if_pos hg, hg, there, Option.map_some]
    cases hstage : waiter.stage with
    | slot => rfl
    | token =>
      have habsent : ¬limiter.QueuesAt waiter.gate waiter.asker := fun hold => by
        rw [(hqueues _ hold).2] at hstage
        cases hstage
      rw [hidle there habsent]
      rfl
  · rw [if_neg hg]
    cases hold : limiter.gates[g]? with
    | none => rfl
    | some old => rw [Option.map_some, hidle hold fun hqueued => hg (hqueues g hqueued).1]

/-- Somebody who does not work goes from among those who wait, and gives up what it had at its gate. -/
structure Limiter.Withdraws (limiter : Limiter ι κ) (asker : ι) (after : Limiter ι κ) : Prop where
  idle : limiter.permit? asker = none
  goes : ∃ waiter presented gate, waiter.asker = asker ∧ Shown limiter waiter presented ∧
    (∀ g, limiter.QueuesAt g asker → g = waiter.gate ∧ waiter.stage = .slot) ∧
    limiter.gates[waiter.gate]? = some gate ∧
    after = presented.settle waiter (gate.withdraw asker waiter.stage) .leaves

namespace Limiter.Withdraws

variable {after : Limiter ι κ} {asker : ι}

/-- Whoever has gone neither waits nor works. -/
theorem gone (h : limiter.Withdraws asker after) :
    after.waiter? asker = none ∧ after.permit? asker = none := by
  obtain ⟨hidle, waiter, presented, gate, rfl, hshown, -, -, rfl⟩ := h
  rw [hshown.waiter?_settle, if_pos rfl, hshown.permit?_settle, if_neg fun h => nomatch h.1]
  exact ⟨rfl, hidle⟩

/-- What is left at the gates: a slot that was assigned has gone to the head of the queue, or is free. -/
theorem givesUp (h : limiter.Withdraws asker after) (hcounted : limiter.Counted) {g : Nat}
    (there : limiter.gates[g]? = some gate) :
    ∃ slots, after.gates[g]? = some { gate with slots } ∧ gate.slots.GivesUp asker slots ∧
      ∀ next ∈ slots.assigned, next ∉ gate.slots.assigned → limiter.QueuesAt g next := by
  obtain ⟨-, waiter, presented, own, rfl, hshown, hqueues, hown, rfl⟩ := h
  have hgivesUp := gate.slots.givesUp_withdraw waiter.asker
  refine ⟨gate.slots.withdraw waiter.asker, ?_, hgivesUp, fun next hnext hbefore => ?_⟩
  · rw [hcounted.gates_withdrawn hshown hqueues hown, there, Option.map_some]
  · refine ((hcounted.slots g gate there).waits next).mp (List.mem_append_left _ ?_)
    exact (hgivesUp.assigned hnext).resolve_left hbefore

end Limiter.Withdraws

/-- The slots of a gate do not name anybody who neither waits nor works. -/
theorem Limiter.Counted.not_named (h : limiter.Counted) {asker : ι} (habsent : limiter.waiter? asker = none)
    (hidle : limiter.permit? asker = none) {g : Nat} (there : limiter.gates[g]? = some gate) :
    asker ∉ gate.slots.waiting ∧ asker ∉ gate.slots.held := by
  have htidy := h.slots g gate there
  refine ⟨fun hwaits => ?_, fun hworks => ?_⟩
  · obtain ⟨w, hw, -⟩ := (htidy.waits _).mp hwaits
    rw [habsent] at hw
    cases hw
  · obtain ⟨p, hp, -⟩ := (htidy.works _).mp hworks
    rw [hidle] at hp
    cases hp

end Askers

/-- Nobody is turned away but by a cancellation, and whoever is gives up what it had. -/
theorem Gate.Looks.turned_away [DecidableEq ι] {gate : Gate ι} {asker : ι} {now : Nat} {stage : Stage}
    {cancelled : Bool} {outcome : Outcome ι} {denial : Denial}
    (h : gate.Looks asker now stage cancelled outcome) (hanswer : outcome.answer = .denied denial) :
    outcome = ⟨.denied .cancelled, gate.withdraw asker stage, .leaves⟩ := by
  cases h with
  | turnedAway => rfl
  | _ => cases hanswer

/-! ## Cancellations -/

/-- The cancellation that is raised. -/
def Act.raises? : Act ι κ → Option κ
  | .cancel cancellation => some cancellation
  | _ => none

/-- Somebody has asked under a cancellation. -/
def AskedUnder (visits : List (Visit ι κ)) (asker : ι) (cancellation : κ) : Prop :=
  ∃ c ∈ visits, ∃ jobType, c.act = .acquire asker jobType cancellation

/-- A cancellation has been raised. -/
def Raised (visits : List (Visit ι κ)) (cancellation : κ) : Prop :=
  ∃ c ∈ visits, c.act = .cancel cancellation

/-- Somebody has asked and neither waits nor works any more. -/
structure Dismissed [DecidableEq ι] (visits : List (Visit ι κ)) (desk : Desk ι κ) (asker : ι) : Prop
    extends Gone visits desk asker where
  idle : desk.limiter.permit? asker = none

variable [DecidableEq ι] [DecidableEq κ]

/-- Somebody looks who waits, or who asks and looks for the first time. -/
def Visit.Looks (v : Visit ι κ) (asker : ι) : Prop :=
  ∃ waiter presented, Presents v.before.limiter v.act waiter presented ∧ waiter.asker = asker

section Step

variable {desk after : Desk ι κ} {act : Act ι κ} {reply : Reply} {waiter : Waiter ι κ} {asker : ι}
  {presented : Limiter ι κ}

theorem Step.raised (h : Step desk act reply after) (hfresh : Fresh desk.limiter act) :
    after.limiter.raised = act.raises?.toList ++ desk.limiter.raised := by
  cases h with
  | looked presents =>
    rw [Limiter.raised_settle, (presents.shown hfresh).raised]
    cases presents <;> rfl
  | abandoned => exact Limiter.raised_settle _
  | _ => rfl

/-- Whoever waits behind an act has waited before it, under the same cancellation, or asks in it. -/
theorem Step.waits_under (h : Step desk act reply after) (hfresh : Fresh desk.limiter act)
    (hwaits : after.limiter.waiter? asker = some waiter) :
    (∃ w, desk.limiter.waiter? asker = some w ∧ w.cancellation = waiter.cancellation) ∨
      ∃ jobType, act = .acquire asker jobType waiter.cancellation := by
  by_cases hown : act.asker? = some asker
  · cases h with
    | @looked _ looker _ _ outcome presents =>
      rw [presents.asker?] at hown
      cases hown
      rw [(presents.shown hfresh).waiter?_settle, if_pos rfl] at hwaits
      have hkept : waiter.cancellation = looker.cancellation := by
        cases hnext : outcome.next <;> rw [hnext] at hwaits <;> cases hwaits <;> rfl
      rw [hkept]
      cases presents with
      | newcomer asker jobType cancellation => exact Or.inr ⟨jobType, rfl⟩
      | waiter _ found => exact Or.inl ⟨looker, found, rfl⟩
    | abandoned found =>
      cases hown
      rw [Limiter.waiter?_settle found, if_pos rfl] at hwaits
      cases hwaits
    | _ => exact Or.inl ⟨waiter, hwaits, rfl⟩
  · rw [(h.others hfresh hown).1] at hwaits
    exact Or.inl ⟨waiter, hwaits, rfl⟩

/-- Whoever looks under a raised cancellation is turned away. -/
theorem Step.turned_away (h : Step desk act reply after)
    (hpresents : Presents desk.limiter act waiter presented)
    (hraised : waiter.cancellation ∈ desk.limiter.raised) :
    reply = .looked (some (.denied .cancelled)) ∧ ∃ gate, desk.limiter.gates[waiter.gate]? = some gate ∧
      after.limiter = presented.settle waiter (gate.withdraw waiter.asker waiter.stage) .leaves := by
  have hlook : ∀ gate : Gate ι, gate.look waiter.asker waiter.stage
      (decide (waiter.cancellation ∈ desk.limiter.raised)) desk.now =
        ⟨.denied .cancelled, gate.withdraw waiter.asker waiter.stage, .leaves⟩ := by
    intro gate
    rw [decide_eq_true hraised, Gate.look_cancelled]
  cases hpresents with
  | newcomer =>
    cases h with
    | looked presents there looks =>
      cases presents
      subst looks
      rw [hlook]
      exact ⟨rfl, _, there, rfl⟩
  | waiter _ found =>
    cases h with
    | looked presents there looks =>
      generalize hact : Act.poll waiter.asker = act at presents
      cases presents with
      | newcomer => cases hact
      | waiter other found' =>
        have hsame := Act.poll.inj hact
        rw [← hsame, found] at found'
        cases found'
        subst looks
        rw [hlook]
        exact ⟨rfl, _, there, rfl⟩
    | polledInVain absent =>
      rw [absent] at found
      cases found

/-- Whoever is turned away goes. -/
theorem Step.denied_withdraws (h : Step desk act reply after) (hfresh : Fresh desk.limiter act)
    (hapart : ∀ asker, desk.limiter.waiter? asker = none ∨ desk.limiter.permit? asker = none)
    (hown : act.asker? = some asker) {denial : Denial} (hreply : reply = .looked (some (.denied denial))) :
    desk.limiter.Withdraws asker after.limiter := by
  cases h with
  | @looked _ waiter presented gate outcome presents there looks =>
    rw [presents.asker?] at hown
    cases hown
    have hlooks : gate.Looks _ _ _ _ outcome := looks ▸ gate.looks _ _ _ _
    obtain rfl := hlooks.turned_away (Option.some.inj (Reply.looked.inj hreply))
    exact ⟨presents.permit?_eq_none hfresh hapart, waiter, presented, gate, rfl, presents.shown hfresh,
      fun _ => presents.queuesAt hfresh, there, rfl⟩
  | _ => cases hreply

/-- Whoever waits and gives up goes. -/
theorem Step.abandoned_withdraws (h : Step desk (.abandon asker) reply after)
    (hapart : ∀ asker, desk.limiter.waiter? asker = none ∨ desk.limiter.permit? asker = none)
    (hwaits : desk.limiter.waiter? asker ≠ none) : desk.limiter.Withdraws asker after.limiter := by
  cases h with
  | looked presents => cases presents
  | @abandoned waiter gate found there =>
    refine ⟨(hapart _).resolve_left hwaits, waiter, _, gate, rfl, .of_found found, ?_, there, rfl⟩
    rintro g ⟨w, hw, rfl, hstage⟩
    rw [found] at hw
    cases hw
    exact ⟨rfl, hstage⟩
  | abandonedInVain absent => exact absurd absent hwaits

/-- Whoever is let in looked under a cancellation that was not raised. -/
theorem Step.granted (h : Step desk act reply after) (hgranted : reply = .looked (some .granted)) :
    ∃ waiter presented, Presents desk.limiter act waiter presented ∧
      waiter.cancellation ∉ desk.limiter.raised := by
  cases h with
  | @looked _ waiter presented gate outcome presents there looks =>
    refine ⟨waiter, presented, presents, fun hraised => ?_⟩
    rw [decide_eq_true hraised, Gate.look_cancelled] at looks
    subst looks
    cases hgranted
  | _ => cases hgranted

/-- No act of somebody who neither waits nor works nor asks does anything. -/
theorem Step.in_vain (h : Step desk act reply after) (hown : act.asker? = some asker)
    (hwaits : desk.limiter.waiter? asker = none) (hworks : desk.limiter.permit? asker = none)
    (hnew : act.newcomer? ≠ some asker) : after = desk ∧ reply ≠ .looked (some .granted) := by
  cases h with
  | looked presents =>
    rw [presents.asker?] at hown
    cases hown
    rcases presents.cases_waiter with ⟨hcomes, -⟩ | hfound
    · exact absurd hcomes hnew
    · rw [hwaits] at hfound
      cases hfound
  | abandoned found =>
    cases hown
    rw [hwaits] at found
    cases found
  | released found =>
    cases hown
    rw [hworks] at found
    cases found
  | polledInVain | abandonedInVain | releasedInVain => exact ⟨rfl, nofun⟩
  | cancelled | registered | passed => cases hown

end Step

/-- A cancellation that was raised stays raised, whoever waits does so under the cancellation it came with,
and whoever was turned away is gone for good. -/
structure Heeded (visits : List (Visit ι κ)) (desk : Desk ι κ) : Prop where
  raised : ∀ cancellation, Raised visits cancellation → cancellation ∈ desk.limiter.raised
  under : ∀ asker w, desk.limiter.waiter? asker = some w →
    ∀ cancellation, AskedUnder visits asker cancellation → w.cancellation = cancellation
  dismissed : ∀ v ∈ visits, ∀ asker, v.act.asker? = some asker →
    v.reply = .looked (some (.denied .cancelled)) → Dismissed visits desk asker

section Next

variable {visits : List (Visit ι κ)} {v : Visit ι κ} {asker : ι} {cancellation : κ}

/-- Who has been dismissed stays so, and nothing it does has an effect. -/
theorem Dismissed.next (h : Dismissed visits v.before asker) (horderly : Orderly visits v.before)
    (hnew : AsksFirst visits v) : Dismissed (visits ++ [v]) v.after asker := by
  refine ⟨(h.toGone.next horderly hnew).1, ?_⟩
  obtain ⟨c, hc, hasked⟩ := h.asked
  refine Option.eq_none_iff_forall_ne_some.mpr fun p hp => ?_
  have hstep := horderly.step
  rcases hstep.stands (horderly.fresh hnew) (Or.inr ⟨p, hp, rfl, rfl⟩) with
    (⟨w, hw, -⟩ | ⟨old, hold, -⟩) | ⟨⟨cancellation, hact⟩, -⟩
  · rw [h.absent] at hw
    cases hw
  · rw [h.idle] at hold
    cases hold
  · exact hnew asker (by rw [hact]; rfl) c hc hasked

/-- Whoever looks under a cancellation that has been raised came with it. -/
theorem Heeded.came_with {waiter : Waiter ι κ} {presented : Limiter ι κ}
    (h : Heeded visits v.before) (hnew : AsksFirst visits v)
    (hpresents : Presents v.before.limiter v.act waiter presented)
    (hunder : AskedUnder (visits ++ [v]) waiter.asker cancellation) :
    waiter.cancellation = cancellation := by
  obtain ⟨c, hc, jobType, hasked⟩ := hunder
  rw [List.mem_append, List.mem_singleton] at hc
  generalize hact : v.act = act at hpresents
  cases hpresents with
  | newcomer asker _ _ =>
    rcases hc with hold | rfl
    · exact absurd (by rw [hasked]; rfl) (hnew asker (by rw [hact]; rfl) c hold)
    · rw [hasked] at hact
      cases hact
      rfl
  | waiter _ found =>
    rcases hc with hold | rfl
    · exact h.under _ _ found cancellation ⟨c, hold, jobType, hasked⟩
    · rw [hasked] at hact
      cases hact

/-- **Every visit heeds the cancellations.** -/
theorem Heeded.next (h : Heeded visits v.before) (horderly : Orderly visits v.before)
    (hnew : AsksFirst visits v) : Heeded (visits ++ [v]) v.after := by
  have hfresh := horderly.fresh hnew
  have hstep := horderly.step
  refine ⟨fun cancellation hraised => ?_, fun asker w hw cancellation hunder => ?_,
    fun c hc asker hown hreply => ?_⟩
  · rw [hstep.raised hfresh, List.mem_append]
    obtain ⟨c, hc, hcancel⟩ := hraised
    rw [List.mem_append, List.mem_singleton] at hc
    rcases hc with hold | rfl
    · exact Or.inr (h.raised cancellation ⟨c, hold, hcancel⟩)
    · exact Or.inl (by rw [hcancel]; exact List.mem_cons_self)
  · obtain ⟨c, hc, jobType, hasked⟩ := hunder
    rw [List.mem_append, List.mem_singleton] at hc
    rcases hstep.waits_under hfresh hw with ⟨old, hold, hsame⟩ | ⟨other, hacquires⟩
    · rcases hc with hc | rfl
      · exact hsame.symm.trans (h.under asker old hold cancellation ⟨c, hc, jobType, hasked⟩)
      · rw [(hfresh asker (by rw [hasked]; rfl)).1] at hold
        cases hold
    · rcases hc with hc | rfl
      · exact absurd (by rw [hasked]; rfl) (hnew asker (by rw [hacquires]; rfl) c hc)
      · rw [hasked] at hacquires
        cases hacquires
        rfl
  · rw [List.mem_append, List.mem_singleton] at hc
    rcases hc with hold | rfl
    · exact (h.dismissed c hold asker hown hreply).next horderly hnew
    · obtain ⟨habsent, hidle⟩ := (hstep.denied_withdraws hfresh horderly.apart hown hreply).gone
      exact ⟨⟨habsent, (horderly.comes hnew hown (Or.inl ⟨_, hreply⟩)).1⟩, hidle⟩

end Next

section Looks

variable {visits : List (Visit ι κ)} {v : Visit ι κ} {asker : ι} {cancellation : κ}

/-- Whoever looks is turned away if its cancellation has been raised, and gives up what it had at its
gate. -/
theorem Heeded.turned_away (h : Heeded visits v.before) (horderly : Orderly visits v.before)
    (hnew : AsksFirst visits v) {waiter : Waiter ι κ} {presented : Limiter ι κ}
    (hpresents : Presents v.before.limiter v.act waiter presented) (hraised : Raised visits cancellation)
    (hunder : AskedUnder (visits ++ [v]) waiter.asker cancellation) :
    v.reply = .looked (some (.denied .cancelled)) ∧
      ∃ gate, v.before.limiter.gates[waiter.gate]? = some gate ∧ v.after.limiter =
        presented.settle waiter (gate.withdraw waiter.asker waiter.stage) .leaves := by
  have hcame := h.came_with hnew hpresents hunder
  exact horderly.step.turned_away hpresents (hcame ▸ h.raised cancellation hraised)

/-- Nobody whose cancellation has been raised takes a token or is let in. -/
theorem Heeded.takes_nothing (h : Heeded visits v.before) (horderly : Orderly visits v.before)
    (hnew : AsksFirst visits v) (hown : v.act.asker? = some asker) (hraised : Raised visits cancellation)
    (hunder : AskedUnder (visits ++ [v]) asker cancellation) :
    (∀ g, v.after.limiter.bucket? g = v.before.limiter.bucket? g) ∧ v.reply ≠ .looked (some .granted) := by
  have hstep := horderly.step
  generalize hreply : v.reply = reply at hstep
  generalize hafter : v.after = after at hstep
  generalize hact : v.act = act at hstep hown
  cases hstep with
  | looked presents =>
    rw [presents.asker?] at hown
    cases hown
    rw [← hact] at presents
    obtain ⟨hdenied, gate, there, hsettled⟩ := h.turned_away horderly hnew presents hraised hunder
    rw [← hreply, hdenied, ← hafter, hsettled]
    refine ⟨fun g => ?_, fun hgranted => by cases hgranted⟩
    rw [bucket?_withdrawn (presents.gates ▸ there), Limiter.bucket?, presents.gates]
    rfl
  | abandoned found there => exact ⟨bucket?_withdrawn there, fun hgranted => by cases hgranted⟩
  | released found there => exact ⟨bucket?_handBack there, fun hgranted => by cases hgranted⟩
  | polledInVain | abandonedInVain | releasedInVain =>
    exact ⟨fun _ => rfl, fun hgranted => by cases hgranted⟩
  | cancelled | registered | passed => cases hown

/-- What somebody who is turned away had at the gates. -/
theorem Heeded.gives_up (h : Heeded visits v.before) (horderly : Orderly visits v.before)
    (hnew : AsksFirst visits v) (hcounted : v.before.limiter.Counted) (hlooks : v.Looks asker)
    (hraised : Raised visits cancellation) (hunder : AskedUnder (visits ++ [v]) asker cancellation)
    {g : Nat} {gate : Gate ι} (there : v.before.limiter.gates[g]? = some gate) :
    ∃ slots, v.after.limiter.gates[g]? = some { gate with slots } ∧ gate.slots.GivesUp asker slots ∧
      asker ∉ slots.waiting ∧ asker ∉ slots.held ∧
      ∀ next ∈ slots.assigned, next ∉ gate.slots.assigned → v.before.limiter.QueuesAt g next := by
  obtain ⟨waiter, presented, hpresents, rfl⟩ := hlooks
  have hfresh := horderly.fresh hnew
  have hstep := horderly.step
  obtain ⟨hdenied, -⟩ := h.turned_away horderly hnew hpresents hraised hunder
  have hwithdraws := hstep.denied_withdraws hfresh horderly.apart hpresents.asker? hdenied
  obtain ⟨slots, hgate, hgivesUp, hpassed⟩ := hwithdraws.givesUp hcounted there
  have hafter := hstep.counted hfresh horderly.placed horderly.apart hcounted
  obtain ⟨hwaits, hworks⟩ := hafter.not_named hwithdraws.gone.1 hwithdraws.gone.2 hgate
  exact ⟨slots, hgate, hgivesUp, hwaits, hworks, hpassed⟩

end Looks

/-! ## Along a run -/

theorem heeded (profiles : List (String × Profile)) (fallback : Profile) (now : Nat) :
    Lasts (ι := ι) (κ := κ) profiles fallback now Heeded where
  opening := by
    have horderly : Orderly [] (Desk.opening (ι := ι) (κ := κ) profiles fallback now) :=
      .opening profiles fallback now
    refine ⟨fun _ ⟨c, hc, _⟩ => (List.not_mem_nil hc).elim, fun asker w hw => ?_, nofun⟩
    rw [(horderly.stranger nofun).1] at hw
    cases hw
  next _ _ horderly hnew h := h.next horderly hnew

/-- **Whoever is cancelled is turned away.** Take any moment of a run at which somebody acts whose
cancellation has been raised before.

* No token is taken from any gate, and nobody is let in.
* If it looks, whether it has just come, waits for a token, queues for a slot or has been assigned one, it
  is told that it was cancelled, whatever the bucket and the slots hold at that moment. What it had at the
  gates it has given up: an assigned slot goes to the head of the queue, somebody who waits there without
  a slot, or becomes free if nobody queues, and no gate names the asker any more.
* From then on it neither waits nor works, and nothing it does has an effect or lets it in. -/
theorem cancelled_is_turned_away (profiles : List (String × Profile)) (fallback : Profile) (now : Nat)
    (acts : List (Act ι κ)) (honce : AskOnce acts) (earlier later : List (Visit ι κ)) (v : Visit ι κ)
    (hsplit : (Desk.opening profiles fallback now).visits acts = earlier ++ v :: later)
    (asker : ι) (cancellation : κ) (hown : v.act.asker? = some asker)
    (hraised : Raised earlier cancellation) (hunder : AskedUnder (earlier ++ [v]) asker cancellation) :
    (∀ g, v.after.limiter.bucket? g = v.before.limiter.bucket? g) ∧
    v.reply ≠ .looked (some .granted) ∧
    (v.Looks asker →
      v.reply = .looked (some (.denied .cancelled)) ∧
      (∀ g gate, v.before.limiter.gates[g]? = some gate →
        ∃ slots, v.after.limiter.gates[g]? = some { gate with slots } ∧ gate.slots.GivesUp asker slots ∧
          asker ∉ slots.waiting ∧ asker ∉ slots.held ∧
          ∀ next ∈ slots.assigned, next ∉ gate.slots.assigned → v.before.limiter.QueuesAt g next) ∧
      v.after.limiter.waiter? asker = none ∧ v.after.limiter.permit? asker = none ∧
      ∀ c ∈ later, c.act.asker? = some asker →
        c.after = c.before ∧ c.reply ≠ .looked (some .granted)) := by
  have hlaw := heeded (ι := ι) (κ := κ) profiles fallback now
  obtain ⟨horderly, hnew, hheeded⟩ := hlaw.meets honce hsplit
  have hcounted := ((audited profiles fallback now).meets honce hsplit).2.2.counted
  obtain ⟨hbuckets, hgranted⟩ := hheeded.takes_nothing horderly hnew hown hraised hunder
  refine ⟨hbuckets, hgranted, fun hlooks => ?_⟩
  have hdenied : v.reply = .looked (some (.denied .cancelled)) := by
    obtain ⟨waiter, presented, hpresents, rfl⟩ := hlooks
    exact (hheeded.turned_away horderly hnew hpresents hraised hunder).1
  obtain ⟨habsent, hidle⟩ :=
    (horderly.step.denied_withdraws (horderly.fresh hnew) horderly.apart hown hdenied).gone
  refine ⟨hdenied, fun g gate there => hheeded.gives_up horderly hnew hcounted hlooks hraised hunder there,
    habsent, hidle, fun c hc hcown => ?_⟩
  -- the moment is one of those behind the visit, so the dismissal is known there
  obtain ⟨between, rest, rfl⟩ := List.append_of_mem hc
  have hcsplit : (Desk.opening profiles fallback now).visits acts =
      (earlier ++ v :: between) ++ c :: rest := by
    rw [hsplit, List.append_assoc, List.cons_append]
  obtain ⟨horderly', hnew', hheeded'⟩ := hlaw.meets honce hcsplit
  have hdismissed := hheeded'.dismissed v (by simp) asker hown hdenied
  obtain ⟨came, hcame, hasked⟩ := hdismissed.asked
  exact horderly'.step.in_vain hcown hdismissed.absent hdismissed.idle fun hcomes =>
    hnew' asker hcomes came hcame hasked

def oneSlot : List (String × Profile) := [("resize", ⟨1, Binary64.ofNat 1, 5⟩)]

/-- One slot, and the first has it. The second queues for it, and the third behind the second. The second is
cancelled when the slot has just been assigned to it, and the fourth comes under the same cancellation when
the slot and a token are there. -/
def overtaken : List (Act Nat Nat) :=
  [.acquire 1 "resize" 0, .acquire 2 "resize" 1, .acquire 3 "resize" 0, .release 1, .cancel 1, .poll 2,
   .poll 3, .release 3, .acquire 4 "resize" 1, .poll 4]

theorem cancelled_is_turned_away_overtaken :
    let behind := fun n : Nat => (Desk.opening oneSlot Profile.fallback 0).afterAll (overtaken.take n)
    let second : Visit Nat Nat := ⟨behind 5, .poll 2⟩
    let fourth : Visit Nat Nat := ⟨behind 8, .acquire 4 "resize" 1⟩
    AskOnce overtaken ∧
    (behind 5).limiter.gates[1]?.map (·.slots) = some ⟨0, [3], [2], []⟩ ∧
    second.reply = .looked (some (.denied .cancelled)) ∧
    second.after.limiter.gates[1]?.map (·.slots) = some ⟨0, [], [3], []⟩ ∧
    (behind 8).limiter.gates[1]?.map (fun gate => (gate.slots.free, gate.bucket.ready (behind 8).now)) =
      some (1, true) ∧
    fourth.reply = .looked (some (.denied .cancelled)) ∧
    fourth.after.limiter.bucket? 1 = fourth.before.limiter.bucket? 1 := by
  intro behind second fourth
  have honce : AskOnce overtaken := by decide
  have hsecond : (Desk.opening oneSlot Profile.fallback 0).visits overtaken =
      (Desk.opening oneSlot Profile.fallback 0).visits (overtaken.take 5) ++
        second :: second.after.visits (overtaken.drop 6) := rfl
  have hfourth : (Desk.opening oneSlot Profile.fallback 0).visits overtaken =
      (Desk.opening oneSlot Profile.fallback 0).visits (overtaken.take 8) ++
        fourth :: fourth.after.visits (overtaken.drop 9) := rfl
  have hasked : AskedUnder ((Desk.opening oneSlot Profile.fallback 0).visits (overtaken.take 5) ++ [second])
      2 1 :=
    ⟨⟨behind 1, .acquire 2 "resize" 1⟩, List.mem_of_getElem? (i := 1) rfl, "resize", rfl⟩
  have hraised : Raised ((Desk.opening oneSlot Profile.fallback 0).visits (overtaken.take 5)) 1 :=
    ⟨⟨behind 4, .cancel 1⟩, List.mem_of_getElem? (i := 4) rfl, rfl⟩
  have hstays : Raised ((Desk.opening oneSlot Profile.fallback 0).visits (overtaken.take 8)) 1 :=
    ⟨⟨behind 4, .cancel 1⟩, List.mem_of_getElem? (i := 4) rfl, rfl⟩
  obtain ⟨-, -, hdenied⟩ := cancelled_is_turned_away oneSlot Profile.fallback 0 overtaken honce _ _ second
    hsecond 2 1 rfl hraised hasked
  obtain ⟨hbuckets, -, hturned⟩ := cancelled_is_turned_away oneSlot Profile.fallback 0 overtaken honce _ _
    fourth hfourth 4 1 rfl hstays ⟨fourth, by simp, "resize", rfl⟩
  have hfound : (behind 5).limiter.waiter? 2 = some ⟨2, "resize", 1, 1, .slot⟩ := by decide
  obtain ⟨hreply, hgates, -⟩ := hdenied ⟨_, _, .waiter ⟨2, "resize", 1, 1, .slot⟩ hfound, rfl⟩
  refine ⟨honce, by decide, hreply, ?_, by decide, (hturned ⟨_, _, .newcomer 4 "resize" 1, rfl⟩).1,
    hbuckets 1⟩
  obtain ⟨gate, there, hslots⟩ : ∃ gate, (behind 5).limiter.gates[1]? = some gate ∧
      gate.slots = ⟨0, [3], [2], []⟩ := ⟨_, rfl, rfl⟩
  obtain ⟨slots, hafter, hgives, -⟩ := hgates 1 gate there
  obtain rfl := hgives.eq_withdraw
  rw [hafter, Option.map_some, hslots]
  rfl

end DurableJobs.Admission
