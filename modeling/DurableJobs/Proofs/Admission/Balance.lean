import DurableJobs.Proofs.Admission.Cancelled

/-!
# No slot is lost

The slots of a gate add up at every moment (`Counted.balance`), but that alone does not say that they come
back: a wait that has ended and is still counted would keep its place, and the slot assigned to it, for
good. So it has to be known as well that whoever stops waiting leaves nothing behind. There are three ways
to stop without having been let in (`Visit.StopsWaiting`); all of them are one `Limiter.Withdraws`, and as
nobody asks twice, nothing brings the wait back.
-/

set_option autoImplicit false

namespace DurableJobs.Admission

variable {ι κ : Type} [DecidableEq ι]

/-- No trace is left of somebody: it neither waits nor works, and no gate names it. -/
structure Limiter.Forgets (limiter : Limiter ι κ) (asker : ι) : Prop where
  waiters : ∀ w ∈ limiter.waiters, w.asker ≠ asker
  permits : ∀ p ∈ limiter.permits, p.asker ≠ asker
  gates : ∀ gate ∈ limiter.gates, asker ∉ gate.slots.waiting ∧ asker ∉ gate.slots.held

/-- Whoever neither waits nor works has left no trace. -/
theorem Limiter.Counted.forgets {limiter : Limiter ι κ} (h : limiter.Counted) {asker : ι}
    (habsent : limiter.waiter? asker = none) (hidle : limiter.permit? asker = none) :
    limiter.Forgets asker where
  waiters w hw := by simpa using List.find?_eq_none.mp habsent w hw
  permits p hp := by simpa using List.find?_eq_none.mp hidle p hp
  gates gate hgate := by
    obtain ⟨g, there⟩ := List.mem_iff_getElem?.mp hgate
    exact h.not_named habsent hidle there

variable [DecidableEq κ]

/-- The ways to stop waiting without having been let in. -/
inductive Visit.StopsWaiting (earlier : List (Visit ι κ)) (v : Visit ι κ) (asker : ι) : Prop where
  /-- A wait is given up. -/
  | abandons (act : v.act = .abandon asker) (waits : v.before.limiter.waiter? asker ≠ none)
  /-- Somebody looks whose cancellation has been raised. -/
  | cancelled {cancellation : κ} (looks : v.Looks asker) (raised : Raised earlier cancellation)
      (under : AskedUnder (earlier ++ [v]) asker cancellation)
  /-- Somebody is told that it is turned away. -/
  | denied {denial : Denial} (own : v.act.asker? = some asker)
      (reply : v.reply = .looked (some (.denied denial)))

/-- The history up to a moment that is not before another one begins with the history up to that one. -/
theorem split_behind {α : Type} {earlier later : List α} {v c : α} (h : c ∈ v :: later) :
    ∃ past rest, earlier ++ v :: later = past ++ c :: rest ∧ earlier ++ [v] <+: past ++ [c] := by
  rcases List.mem_cons.mp h with rfl | hlater
  · exact ⟨earlier, later, rfl, List.prefix_rfl⟩
  · obtain ⟨between, rest, rfl⟩ := List.append_of_mem hlater
    exact ⟨earlier ++ v :: between, rest, by simp, between ++ [c], by simp⟩

section Visit

variable {earlier : List (Visit ι κ)} {v : Visit ι κ} {asker : ι}

/-- **Whoever stops waiting goes**, and gives up what it had. -/
theorem Visit.StopsWaiting.withdraws (h : v.StopsWaiting earlier asker)
    (horderly : Orderly earlier v.before) (hnew : AsksFirst earlier v) (hheeded : Heeded earlier v.before) :
    v.before.limiter.Withdraws asker v.after.limiter := by
  have hstep := horderly.step
  have hfresh := horderly.fresh hnew
  cases h with
  | abandons act waits =>
    rw [act] at hstep
    exact hstep.abandoned_withdraws horderly.apart waits
  | cancelled looks raised under =>
    obtain ⟨waiter, presented, hpresents, rfl⟩ := looks
    obtain ⟨hdenied, -⟩ := hheeded.turned_away horderly hnew hpresents raised under
    exact hstep.denied_withdraws hfresh horderly.apart hpresents.asker? hdenied
  | denied own reply => exact hstep.denied_withdraws hfresh horderly.apart own reply

/-- Whoever stops waiting has asked. -/
theorem Visit.StopsWaiting.asked (h : v.StopsWaiting earlier asker) (horderly : Orderly earlier v.before)
    (hnew : AsksFirst earlier v) : ∃ c ∈ earlier ++ [v], c.act.newcomer? = some asker := by
  cases h with
  | abandons act waits =>
    obtain ⟨w, hw⟩ := Option.ne_none_iff_exists'.mp waits
    obtain ⟨c, hc, ⟨cancellation, hact⟩, -⟩ := horderly.asked asker _ _ (Or.inl ⟨w, hw, rfl, rfl⟩)
    exact ⟨c, List.mem_append_left _ hc, by rw [hact]; rfl⟩
  | cancelled looks raised under =>
    obtain ⟨c, hc, jobType, hact⟩ := under
    exact ⟨c, hc, by rw [hact]; rfl⟩
  | denied own reply => exact (horderly.comes hnew own (Or.inl ⟨_, reply⟩)).1

/-- Whoever stops waiting is dismissed. -/
theorem Visit.StopsWaiting.dismissed (h : v.StopsWaiting earlier asker)
    (horderly : Orderly earlier v.before) (hnew : AsksFirst earlier v) (hheeded : Heeded earlier v.before) :
    Dismissed (earlier ++ [v]) v.after asker := by
  obtain ⟨habsent, hidle⟩ := (h.withdraws horderly hnew hheeded).gone
  exact ⟨⟨habsent, h.asked horderly hnew⟩, hidle⟩

/-- Who has been dismissed once is dismissed at every later moment. -/
theorem dismissed_for_good (profiles : List (String × Profile)) (fallback : Profile) (now : Nat)
    (h : Dismissed (earlier ++ [v]) v.after asker) :
    Lasts profiles fallback now fun visits desk =>
      earlier ++ [v] <+: visits → Dismissed visits desk asker where
  opening hprefix := by
    rw [List.prefix_nil, List.append_eq_nil_iff] at hprefix
    cases hprefix.2
  next visits w horderly hnew hlaw hprefix := by
    rcases List.prefix_concat_iff.mp hprefix with hhere | hbefore
    · obtain ⟨rfl, hw⟩ := List.append_inj' hhere rfl
      cases hw
      exact h
    · exact (hlaw hbefore).next horderly hnew

end Visit

/-- **No slot is lost and none is made.** Behind every run of a limiter:

* its gates are the shared one and one for each registration, with the profiles that were asked for;
* the free slots of a gate, the permits that are out from it and the slots assigned to those who queue
  there add up to its concurrency, or to one if that is zero, and no slot is free while somebody queues
  there without one; the slots name those who queue there and those who work there, and nobody else;
* of a type that has been registered, the limiter says how many permits are out and how many slots are
  assigned at the gate of its latest registration, and of any other type it says nothing;
* whoever has given a permit back had been sent to the gate of the permit when it asked, and moved one
  slot of that gate and none of any other;
* whoever has stopped waiting, because it gave up or because it was cancelled, has handed an assigned slot
  to the head of the queue of its gate, or has freed it if nobody queued there, and has left its place if
  it had no slot yet; from then on it is not among those who wait or work, and no gate names it. -/
theorem slots_add_up (profiles : List (String × Profile)) (fallback : Profile) (now : Nat)
    (acts : List (Act ι κ)) (honce : AskOnce acts) :
    let start : Desk ι κ := .opening profiles fallback now
    let limiter := (start.afterAll acts).limiter
    let entries := registrations profiles acts
    limiter.gates.map (·.profile) = fallback :: entries.map (·.2) ∧
    (∀ g gate, limiter.gates[g]? = some gate →
      gate.slots.free + limiter.heldAt g + limiter.assignedAt g = max gate.profile.concurrency 1 ∧
      (∀ w ∈ limiter.waiters, w.gate = g → w.stage = .slot → limiter.hasSlot w = false →
        gate.slots.free = 0) ∧
      ∀ asker, (asker ∈ gate.slots.waiting ↔ limiter.QueuesAt g asker) ∧
        (asker ∈ gate.slots.held ↔ limiter.WorksAt g asker)) ∧
    (∀ jobType, limiter.stats.lookup jobType = (latest? entries jobType).bind fun g =>
      (fallback :: entries.map (·.2))[g]?.map fun profile =>
        ⟨max profile.concurrency 1, limiter.heldAt g + limiter.assignedAt g, profile.rate⟩) ∧
    (∀ (earlier later : List (Visit ι κ)) (v : Visit ι κ) (asker : ι) (permit : Permit ι),
      start.visits acts = earlier ++ v :: later → v.act = .release asker →
      v.before.limiter.permit? asker = some permit →
        AskedAt earlier asker permit.jobType permit.gate ∧
        (∀ g, g ≠ permit.gate → v.after.limiter.gates[g]? = v.before.limiter.gates[g]?) ∧
        ∃ before behind, v.before.limiter.gates[permit.gate]? = some before ∧
          v.after.limiter.gates[permit.gate]? = some behind ∧
          behind.slots.free + v.after.limiter.assignedAt permit.gate =
            before.slots.free + v.before.limiter.assignedAt permit.gate + 1) ∧
    ∀ (earlier later : List (Visit ι κ)) (v : Visit ι κ) (asker : ι),
      start.visits acts = earlier ++ v :: later → v.StopsWaiting earlier asker →
        (∀ g gate, v.before.limiter.gates[g]? = some gate →
          ∃ slots, v.after.limiter.gates[g]? = some { gate with slots } ∧
            gate.slots.GivesUp asker slots ∧
            ∀ next ∈ slots.assigned, next ∉ gate.slots.assigned → v.before.limiter.QueuesAt g next) ∧
        ∀ c ∈ v :: later, c.after.limiter.Forgets asker := by
  intro start limiter entries
  have hlaw := audited (ι := ι) (κ := κ) profiles fallback now
  obtain ⟨horderly, haudited⟩ := hlaw.run honce
  have hacts : (start.visits acts).map (·.act) = acts := Run.map_act_history start acts
  refine ⟨?_, fun g gate there => ?_, fun jobType => ?_, ?_, ?_⟩
  · rw [haudited.enrolled.profiles, hacts]
  · obtain ⟨hsum, hfull⟩ := haudited.counted.balance there
    have htidy := haudited.counted.slots g gate there
    exact ⟨hsum, hfull, fun asker => ⟨htidy.waits asker, htidy.works asker⟩⟩
  · have hstats := haudited.stats horderly.placed jobType
    rwa [hacts] at hstats
  · intro earlier later v asker permit hsplit hact found
    obtain ⟨hbefore, -, hmeets⟩ := hlaw.meets honce hsplit
    have hstep := hbefore.step
    rw [hact] at hstep
    exact ⟨hbefore.asked asker _ _ (Or.inr ⟨permit, found, rfl, rfl⟩),
      hstep.gives_back found hmeets.counted (hlaw.leaves honce hsplit).counted⟩
  · intro earlier later v asker hsplit hstops
    obtain ⟨hbefore, hnew, hheeded⟩ := (heeded profiles fallback now).meets honce hsplit
    have hwithdraws := hstops.withdraws hbefore hnew hheeded
    have hcounted := (hlaw.meets honce hsplit).2.2.counted
    refine ⟨fun g gate there => hwithdraws.givesUp hcounted there, fun c hc => ?_⟩
    obtain ⟨past, rest, hcut, hprefix⟩ := split_behind hc
    have hcsplit := hsplit.trans hcut
    have hdismissed := hstops.dismissed hbefore hnew hheeded
    have hgone := (dismissed_for_good profiles fallback now hdismissed).leaves honce hcsplit hprefix
    exact (hlaw.leaves honce hcsplit).counted.forgets hgone.absent hgone.idle

/-- One slot for many: the first gives it back when the second has been cancelled and does not know it yet,
and the type is registered anew before the second looks. The third, which gets the slot then, gives up
before it has collected it. -/
def crowded : List (Act Nat Nat) :=
  [.acquire 1 "resize" 0, .acquire 2 "resize" 1, .acquire 3 "resize" 0, .acquire 5 "resize" 0, .cancel 1,
   .release 1, .register "resize" ⟨2, Binary64.ofNat 1, 5⟩, .poll 2, .abandon 3, .acquire 4 "resize" 0]

theorem slots_add_up_crowded :
    let behind := fun n : Nat => (Desk.opening oneSlot Profile.fallback 0).afterAll (crowded.take n)
    let limiter := (behind 10).limiter
    let second : Visit Nat Nat := ⟨behind 7, .poll 2⟩
    let third : Visit Nat Nat := ⟨behind 8, .abandon 3⟩
    AskOnce crowded ∧
    (∃ gate, limiter.gates[1]? = some gate ∧
      gate.slots.free + limiter.heldAt 1 + limiter.assignedAt 1 = 1 ∧ limiter.assignedAt 1 = 1) ∧
    limiter.stats.lookup "resize" = some ⟨2, 1, Binary64.ofNat 1⟩ ∧
    AskedAt ((Desk.opening oneSlot Profile.fallback 0).visits (crowded.take 5)) 1 "resize" 1 ∧
    (behind 7).limiter.gates[1]?.map (·.slots) = some ⟨0, [3, 5], [2], []⟩ ∧
    second.after.limiter.gates[1]?.map (·.slots) = some ⟨0, [5], [3], []⟩ ∧
    third.after.limiter.gates[1]?.map (·.slots) = some ⟨0, [], [5], []⟩ ∧
    limiter.Forgets 2 ∧ limiter.Forgets 3 := by
  intro behind limiter second third
  have honce : AskOnce crowded := by decide
  obtain ⟨-, hslots, hstats, hreleases, hstops⟩ := slots_add_up oneSlot Profile.fallback 0 crowded honce
  let visits := (Desk.opening (ι := Nat) (κ := Nat) oneSlot Profile.fallback 0).visits
  let released : Visit Nat Nat := ⟨behind 5, .release 1⟩
  let last : Visit Nat Nat := ⟨behind 9, .acquire 4 "resize" 0⟩
  have hreleased : visits crowded = visits (crowded.take 5) ++ released :: released.after.visits
      (crowded.drop 6) := rfl
  have hsecond : visits crowded = visits (crowded.take 7) ++ second :: [third, last] := rfl
  have hthird : visits crowded = visits (crowded.take 8) ++ third :: [last] := rfl
  have hpermit : released.before.limiter.permit? 1 = some ⟨1, "resize", 1⟩ := by decide
  have hdenied : second.StopsWaiting (visits (crowded.take 7)) 2 :=
    .denied rfl (by decide : second.reply = .looked (some (.denied .cancelled)))
  have habandons : third.StopsWaiting (visits (crowded.take 8)) 3 := .abandons rfl (by decide)
  obtain ⟨hsecondGates, hforgets⟩ := hstops _ _ second 2 hsecond hdenied
  obtain ⟨hthirdGates, hforgetsThird⟩ := hstops _ _ third 3 hthird habandons
  obtain ⟨gate, there, hgate⟩ : ∃ gate, (behind 7).limiter.gates[1]? = some gate ∧
      gate.slots = ⟨0, [3, 5], [2], []⟩ := ⟨_, rfl, rfl⟩
  obtain ⟨slots, hafter, hpasses, -⟩ := hsecondGates 1 gate there
  obtain rfl := hpasses.eq_withdraw
  obtain ⟨slots, hlater, hpassesOn, -⟩ := hthirdGates 1 _ hafter
  obtain rfl := hpassesOn.eq_withdraw
  refine ⟨honce, ?_, ?_, (hreleases _ _ released 1 _ hreleased rfl hpermit).1, by decide, ?_, ?_,
    hforgets last (by simp), hforgetsThird last (by simp)⟩
  · obtain ⟨gate, there, hprofile⟩ : ∃ gate, limiter.gates[1]? = some gate ∧
        gate.profile.concurrency = 1 := ⟨_, rfl, rfl⟩
    have hsum := (hslots 1 gate there).1
    rw [hprofile] at hsum
    exact ⟨gate, there, hsum, by decide⟩
  · exact (hstats "resize").trans (by decide)
  · rw [hafter, Option.map_some, hgate]
    rfl
  · rw [hlater, Option.map_some, hgate]
    rfl

end DurableJobs.Admission
