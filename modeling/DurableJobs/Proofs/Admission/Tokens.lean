import DurableJobs.Proofs.Admission.Accounts
import DurableJobs.Proofs.Admission.Bucket
import Mathlib.Algebra.Order.BigOperators.Group.List

/-!
# What is paid for being let in

Whoever looks and gets past the bucket has taken one token from it, and nothing else takes any. What a
visit takes is read off the buckets before and behind it (`Visit.spends`), and what somebody has paid is
the sum over its visits. So it can be said of every run what those have paid who were let in and those who
went away, and how many tokens a bucket can have given in any stretch of time.
-/

set_option autoImplicit false

namespace DurableJobs.Admission

variable {ι κ : Type}

/-! ## At one gate -/

/-- Whoever looked has taken a token. -/
def Next.takes : Next → Stage → Bool
  | .queues, .token | .works, .token => true
  | _, _ => false

namespace Gate

/-- The bucket is the one that was asked for. -/
structure Stocked (gate : Gate ι) : Prop where
  period : gate.bucket.period = Bucket.periodOfRate gate.profile.rate
  burst : gate.bucket.burst = max gate.profile.burst 1

namespace Stocked

variable {gate : Gate ι}

theorem ofProfile (profile : Profile) : (ofProfile profile : Gate ι).Stocked := ⟨rfl, rfl⟩

theorem period_pos (h : gate.Stocked) : 0 < gate.bucket.period :=
  h.period ▸ Bucket.periodOfRate_pos _

theorem burst_pos (h : gate.Stocked) : 0 < gate.bucket.burst := by
  rw [h.burst]
  omega

end Stocked

variable [DecidableEq ι] {gate : Gate ι} {asker : ι} {now : Nat} {stage : Stage} {cancelled : Bool}
  {outcome : Outcome ι}

/-- A look leaves the bucket as it is, or takes a token that is there. -/
theorem Looks.bucket (h : gate.Looks asker now stage cancelled outcome) :
    (outcome.next.takes stage = false ∧ outcome.gate.bucket = gate.bucket) ∨
      outcome.next.takes stage = true ∧ gate.bucket.ready now = true ∧
        outcome.gate.bucket = gate.bucket.take now := by
  cases h with
  | turnedAway stage => exact Or.inl ⟨rfl, by cases stage <;> rfl⟩
  | withoutToken | collected | unassigned => exact Or.inl ⟨rfl, rfl⟩
  | queued ready | entered ready => exact Or.inr ⟨rfl, ready, rfl⟩

theorem Looks.stocked (h : gate.Looks asker now stage cancelled outcome) (hstocked : gate.Stocked) :
    outcome.gate.Stocked := by
  obtain ⟨hperiod, hburst⟩ := hstocked
  rcases h.bucket with ⟨-, hbucket⟩ | ⟨-, -, hbucket⟩
  · exact ⟨by rw [hbucket, h.profile, hperiod], by rw [hbucket, h.profile, hburst]⟩
  · exact ⟨by rw [hbucket, h.profile, ← hperiod]; rfl, by rw [hbucket, h.profile, ← hburst]; rfl⟩

/-- A look that takes a token takes one. -/
theorem Looks.tokens (h : gate.Looks asker now stage cancelled outcome) (hstocked : gate.Stocked) :
    outcome.gate.bucket.tokens now + (outcome.next.takes stage).toNat = gate.bucket.tokens now := by
  rcases h.bucket with ⟨htakes, hbucket⟩ | ⟨htakes, hready, hbucket⟩
  · rw [htakes, hbucket]
    rfl
  · rw [htakes, hbucket]
    exact Bucket.tokens_take hstocked.period_pos hstocked.burst_pos hready

end Gate

/-! ## In one visit -/

/-- The bucket of a gate; there is none where there is no gate. -/
def Limiter.bucket? (limiter : Limiter ι κ) (g : Nat) : Option Bucket :=
  limiter.gates[g]?.map (·.bucket)

/-- How many tokens of a gate go between two states of a desk. -/
def spentBetween (before after : Desk ι κ) (g : Nat) : Nat :=
  ((before.limiter.bucket? g).map (·.tokens before.now)).getD 0 -
    ((after.limiter.bucket? g).map (·.tokens before.now)).getD 0

/-- All buckets are those that were asked for. -/
def Limiter.Stocked (limiter : Limiter ι κ) : Prop :=
  ∀ (g : Nat) (gate : Gate ι), limiter.gates[g]? = some gate → gate.Stocked

/-- Who waits for a slot has paid one token, and who waits for a token has paid none. -/
def Stage.paid : Stage → Nat
  | .token => 0
  | .slot => 1

/-- What somebody has paid at a gate who waits. -/
def Waiter.paid (waiter : Waiter ι κ) (g : Nat) : Nat :=
  if g = waiter.gate then waiter.stage.paid else 0

variable [DecidableEq ι]

/-- Whoever is let past the bucket has paid one token, and the others have paid what they had. -/
theorem Gate.Looks.paid {gate : Gate ι} {asker : ι} {now : Nat} {stage : Stage} {cancelled : Bool}
    {outcome : Outcome ι} (h : gate.Looks asker now stage cancelled outcome) :
    stage.paid + (outcome.next.takes stage).toNat =
      match outcome.next with
      | .stays | .leaves => stage.paid
      | .queues | .works => 1 := by
  cases h with
  | turnedAway stage => cases stage <;> rfl
  | _ => rfl

theorem Gate.Looks.granted {gate : Gate ι} {asker : ι} {now : Nat} {stage : Stage} {cancelled : Bool}
    {outcome : Outcome ι} (h : gate.Looks asker now stage cancelled outcome)
    (hanswer : outcome.answer = .granted) : outcome.next = .works := by
  cases h <;> first | rfl | cases hanswer

theorem Gate.Looks.denied {gate : Gate ι} {asker : ι} {now : Nat} {stage : Stage} {cancelled : Bool}
    {outcome : Outcome ι} {denial : Denial} (h : gate.Looks asker now stage cancelled outcome)
    (hanswer : outcome.answer = .denied denial) : outcome.next = .leaves := by
  cases h <;> first | rfl | cases hanswer

variable [DecidableEq κ]

/-- How many tokens of a gate a visit takes. -/
def Visit.spends (v : Visit ι κ) (g : Nat) : Nat := spentBetween v.before v.after g

section Step

variable {desk after : Desk ι κ} {act : Act ι κ} {reply : Reply}

omit [DecidableEq ι] [DecidableEq κ] in
theorem spentBetween_of_eq {g : Nat} (h : after.limiter.bucket? g = desk.limiter.bucket? g) :
    spentBetween desk after g = 0 := by
  rw [spentBetween, h, Nat.sub_self]

omit [DecidableEq κ] in
theorem bucket?_settle {limiter : Limiter ι κ} {waiter : Waiter ι κ} {gate old : Gate ι}
    (there : limiter.gates[waiter.gate]? = some old) (next : Next) (g : Nat) :
    (limiter.settle waiter gate next).bucket? g =
      if g = waiter.gate then some gate.bucket else limiter.bucket? g := by
  unfold Limiter.bucket?
  rw [Limiter.gates_settle there]
  split <;> rfl

omit [DecidableEq κ] in
/-- Whoever gives up leaves the bucket alone. -/
theorem bucket?_withdrawn {limiter : Limiter ι κ} {waiter : Waiter ι κ} {gate : Gate ι}
    (there : limiter.gates[waiter.gate]? = some gate) (g : Nat) :
    (limiter.settle waiter (gate.withdraw waiter.asker waiter.stage) .leaves).bucket? g =
      limiter.bucket? g := by
  rw [bucket?_settle there]
  split
  · rename_i hg
    rw [hg, Limiter.bucket?, there]
    cases waiter.stage <;> rfl
  · rfl

omit [DecidableEq κ] in
theorem bucket?_handBack {limiter : Limiter ι κ} {permit : Permit ι} {gate : Gate ι}
    (there : limiter.gates[permit.gate]? = some gate) (g : Nat) :
    (limiter.handBack permit { gate with slots := gate.slots.release permit.asker }).bucket? g =
      limiter.bucket? g := by
  unfold Limiter.bucket?
  rw [Limiter.gates_handBack there]
  split
  · rename_i hg
    rw [hg, there]
    rfl
  · rfl

omit [DecidableEq κ] in
/-- What a look spends. -/
theorem spent_looked {waiter : Waiter ι κ} {limiter : Limiter ι κ} {gate : Gate ι} {outcome : Outcome ι}
    (presents : Presents desk.limiter act waiter limiter)
    (there : desk.limiter.gates[waiter.gate]? = some gate) (hstocked : gate.Stocked) {cancelled : Bool}
    (looks : gate.Looks waiter.asker desk.now waiter.stage cancelled outcome) (g : Nat) :
    spentBetween desk ⟨limiter.settle waiter outcome.gate outcome.next, desk.now⟩ g =
      if g = waiter.gate then (outcome.next.takes waiter.stage).toNat else 0 := by
  have hgates := presents.gates
  rw [← hgates] at there
  unfold spentBetween
  rw [bucket?_settle there]
  by_cases hg : g = waiter.gate
  · have hbefore : desk.limiter.bucket? g = some gate.bucket := by
      rw [Limiter.bucket?, ← hgates, hg, there]
      rfl
    have htokens := looks.tokens hstocked
    rw [if_pos hg, if_pos hg, hbefore, Option.map_some, Option.map_some, Option.getD_some, Option.getD_some]
    omega
  · rw [if_neg hg, if_neg hg, Limiter.bucket?, Limiter.bucket?, hgates, Nat.sub_self]

/-- **What an act does to a bucket**: nothing, or it makes it, or it takes one token that is there. -/
theorem Step.bucket (h : Step desk act reply after) (hstocked : desk.limiter.Stocked) (g : Nat) :
    (spentBetween desk after g = 0 ∧
      (after.limiter.bucket? g = desk.limiter.bucket? g ∨ desk.limiter.bucket? g = none)) ∨
    ∃ bucket, desk.limiter.bucket? g = some bucket ∧ bucket.ready desk.now = true ∧
      after.limiter.bucket? g = some (bucket.take desk.now) ∧ spentBetween desk after g = 1 := by
  have hkept : ∀ {after : Desk ι κ}, after.limiter.bucket? g = desk.limiter.bucket? g →
      spentBetween desk after g = 0 ∧
        (after.limiter.bucket? g = desk.limiter.bucket? g ∨ desk.limiter.bucket? g = none) :=
    fun h => ⟨spentBetween_of_eq h, Or.inl h⟩
  cases h with
  | @looked _ waiter presented gate outcome presents there looks =>
    have hlooks : gate.Looks _ _ _ _ outcome := looks ▸ gate.looks _ _ _ _
    have hspent := spent_looked presents there (hstocked _ _ there) hlooks g
    have hgates := presents.gates
    have hsettled : (presented.settle waiter outcome.gate outcome.next).bucket? g =
        if g = waiter.gate then some outcome.gate.bucket else presented.bucket? g :=
      bucket?_settle (hgates ▸ there) outcome.next g
    have hpresented : presented.bucket? g = desk.limiter.bucket? g := by
      rw [Limiter.bucket?, Limiter.bucket?, hgates]
    rw [hpresented] at hsettled
    by_cases hg : g = waiter.gate
    · subst hg
      have hbefore : desk.limiter.bucket? waiter.gate = some gate.bucket := by
        rw [Limiter.bucket?, there]
        rfl
      rw [if_pos rfl] at hspent hsettled
      rcases hlooks.bucket with ⟨htakes, hbucket⟩ | ⟨htakes, hready, hbucket⟩
      · rw [hbucket, ← hbefore] at hsettled
        exact Or.inl (hkept hsettled)
      · rw [hbucket] at hsettled
        rw [htakes] at hspent
        exact Or.inr ⟨gate.bucket, hbefore, hready, hsettled, hspent⟩
    · rw [if_neg hg] at hsettled
      exact Or.inl (hkept hsettled)
  | abandoned found there => exact Or.inl (hkept (bucket?_withdrawn there g))
  | released found there => exact Or.inl (hkept (bucket?_handBack there g))
  | registered jobType profile =>
    have hgates := desk.limiter.gates_register jobType profile g
    by_cases hg : g = desk.limiter.gates.length
    · have hnone : desk.limiter.bucket? g = none := by
        rw [Limiter.bucket?, hg, List.getElem?_eq_none (Nat.le_refl _)]
        rfl
      refine Or.inl ⟨?_, Or.inr hnone⟩
      rw [spentBetween, hnone]
      exact Nat.zero_sub _
    · rw [if_neg hg] at hgates
      refine Or.inl (hkept ?_)
      rw [Limiter.bucket?, Limiter.bucket?, hgates]
  | _ => exact Or.inl (hkept rfl)

/-- All buckets stay those that were asked for. -/
theorem Step.stocked (h : Step desk act reply after) (hstocked : desk.limiter.Stocked) :
    after.limiter.Stocked := by
  intro g gate there
  cases h with
  | @looked _ waiter presented old outcome presents there' looks =>
    have hlooks : old.Looks _ _ _ _ outcome := looks ▸ old.looks _ _ _ _
    have hgates := presents.gates
    rw [Limiter.gates_settle (hgates ▸ there'), hgates] at there
    split at there
    · cases there
      exact hlooks.stocked (hstocked _ _ there')
    · exact hstocked g gate there
  | @abandoned waiter old found there' =>
    rw [Limiter.gates_settle there'] at there
    split at there
    · cases there
      have hlooks := old.looks waiter.asker waiter.stage true desk.now
      exact hlooks.stocked (hstocked _ _ there')
    · exact hstocked g gate there
  | released found there' =>
    rw [Limiter.gates_handBack there'] at there
    split at there
    · cases there
      exact ⟨(hstocked _ _ there').period, (hstocked _ _ there').burst⟩
    · exact hstocked g gate there
  | registered jobType profile =>
    rw [Limiter.gates_register] at there
    split at there
    · cases there
      exact .ofProfile profile
    · exact hstocked g gate there
  | _ => exact hstocked g gate there

end Step

/-! ## In a stretch of time -/

/-- How many tokens of a gate are taken in a stretch of time, both ends included. -/
def spentIn (visits : List (Visit ι κ)) (g start length : Nat) : Nat :=
  ((visits.filter fun v => start ≤ v.before.now ∧ v.before.now ≤ start + length).map (·.spends g)).sum

theorem spentIn_snoc (visits : List (Visit ι κ)) (v : Visit ι κ) (g start length : Nat) :
    spentIn (visits ++ [v]) g start length = spentIn visits g start length +
      if start ≤ v.before.now ∧ v.before.now ≤ start + length then v.spends g else 0 := by
  unfold spentIn
  rw [List.filter_append, List.map_append, List.sum_append]
  by_cases hin : start ≤ v.before.now ∧ v.before.now ≤ start + length <;> simp [hin]

/-- What has been taken in a stretch of time has put off the time at which the bucket is full, by a period
for each token, and it is no more than a full bucket and what the stretch brings. -/
def Paced (g start length : Nat) (visits : List (Visit ι κ)) (desk : Desk ι κ) : Prop :=
  spentIn visits g start length = 0 ∨ ∃ bucket, desk.limiter.bucket? g = some bucket ∧
    start + spentIn visits g start length * bucket.period ≤ bucket.fullAt ∧
    spentIn visits g start length ≤ bucket.burst + length / bucket.period

theorem Paced.next {g start length : Nat} {visits : List (Visit ι κ)} {v : Visit ι κ}
    (h : Paced g start length visits v.before) (hstocked : v.before.limiter.Stocked)
    (hstep : Step v.before v.act v.reply v.after) : Paced g start length (visits ++ [v]) v.after := by
  unfold Paced at h ⊢
  rw [spentIn_snoc]
  generalize spentIn visits g start length = spent at h ⊢
  rcases hstep.bucket hstocked g with ⟨hnone, hkept⟩ | ⟨bucket, hbefore, hready, hafter, hone⟩
  · change v.spends g = 0 at hnone
    rw [hnone, ite_self, Nat.add_zero]
    refine h.imp_right fun ⟨bucket, hbucket, hdue⟩ => ⟨bucket, ?_, hdue⟩
    rcases hkept with hsame | habsent
    · rw [hsame, hbucket]
    · rw [habsent] at hbucket
      cases hbucket
  · change v.spends g = 1 at hone
    obtain ⟨gate, there, rfl⟩ := Option.map_eq_some_iff.mp hbefore
    have hgate := hstocked g gate there
    -- what was taken before has been taken from this bucket
    have hspent : spent = 0 ∨ start + spent * gate.bucket.period ≤ gate.bucket.fullAt ∧
        spent ≤ gate.bucket.burst + length / gate.bucket.period := by
      refine h.imp_right fun ⟨bucket, hbucket, hdue⟩ => ?_
      rw [hbefore] at hbucket
      cases hbucket
      exact hdue
    rw [hone]
    split
    · rename_i hin
      exact Or.inr ⟨_, hafter, Bucket.one_more hgate.period_pos hgate.burst_pos hready hin.1 hin.2
        (hspent.imp_right And.left)⟩
    · refine hspent.imp_right fun ⟨hdue, hbound⟩ => ⟨_, hafter, ?_, hbound⟩
      exact hdue.trans (Bucket.fullAt_le_take _ _)

/-! ## By one asker -/

/-- How many tokens of a gate somebody has paid. -/
def spentBy (visits : List (Visit ι κ)) (asker : ι) (g : Nat) : Nat :=
  ((visits.filter (·.act.asker? = some asker)).map (·.spends g)).sum

theorem spentBy_snoc (visits : List (Visit ι κ)) (v : Visit ι κ) (asker : ι) (g : Nat) :
    spentBy (visits ++ [v]) asker g =
      spentBy visits asker g + if v.act.asker? = some asker then v.spends g else 0 := by
  unfold spentBy
  rw [List.filter_append, List.map_append, List.sum_append]
  by_cases hown : v.act.asker? = some asker <;> simp [hown]

section Step

variable {desk after : Desk ι κ} {act : Act ι κ} {reply : Reply} {asker : ι} {had : Nat → Nat}

/-- **What somebody has paid** behind an act of its own, if it had paid nothing when it came and one token
for a place in the queue: who waits has paid what it waits with, who is let in has paid one token of its
gate, and who goes away without a token has paid none. -/
theorem Step.pays (h : Step desk act reply after) (hfresh : Fresh desk.limiter act)
    (hstocked : desk.limiter.Stocked) (hasker : act.asker? = some asker)
    (hnew : act.newcomer? = some asker → ∀ g, had g = 0)
    (hwaits : ∀ w, desk.limiter.waiter? asker = some w → ∀ g, had g = w.paid g) :
    (∀ w, after.limiter.waiter? asker = some w → ∀ g, had g + spentBetween desk after g = w.paid g) ∧
    (reply = .looked (some .granted) → after.limiter.waiter? asker = none ∧
      ∃ jobType gate, after.limiter.Stands asker jobType gate ∧
        ∀ g, had g + spentBetween desk after g = if g = gate then 1 else 0) ∧
    (reply = .looked (some (.denied .cancelled)) ∨ reply = .abandoned true →
      after.limiter.waiter? asker = none ∧
        ((∀ w, desk.limiter.waiter? asker = some w → w.stage = .token) →
          ∀ g, had g + spentBetween desk after g = 0)) := by
  cases h with
  | @looked _ waiter presented gate outcome presents there looks =>
    rw [presents.asker?] at hasker
    cases hasker
    have hlooks : gate.Looks _ _ _ _ outcome := looks ▸ gate.looks _ _ _ _
    have hhad : ∀ g, had g = waiter.paid g := by
      rcases presents.cases_waiter with ⟨hcomes, htoken⟩ | hfound
      · intro g
        rw [hnew hcomes, Waiter.paid, htoken]
        exact (ite_self 0).symm
      · exact hwaits waiter hfound
    have htotal : ∀ g, had g + spentBetween desk
        ⟨presented.settle waiter outcome.gate outcome.next, desk.now⟩ g = if g = waiter.gate
          then waiter.stage.paid + (outcome.next.takes waiter.stage).toNat else 0 := by
      intro g
      rw [hhad, spent_looked presents there (hstocked _ _ there) hlooks, Waiter.paid]
      split <;> rfl
    rw [hlooks.paid] at htotal
    have hafter : (presented.settle waiter outcome.gate outcome.next).waiter? waiter.asker =
        outcome.next.wait? waiter := ((presents.shown hfresh).waiter?_settle _ _).trans (if_pos rfl)
    refine ⟨fun w hw g => ?_, fun hreply => ?_, fun hreply => ?_⟩
    · rw [hafter] at hw
      rw [htotal]
      cases hnext : outcome.next <;> rw [hnext] at hw <;> cases hw <;> rfl
    · have hnext := hlooks.granted (Option.some.inj (Reply.looked.inj hreply))
      have hworks : (presented.settle waiter outcome.gate outcome.next).permit? waiter.asker = _ :=
        ((presents.shown hfresh).permit?_settle _ _).trans (if_pos ⟨hnext, rfl⟩)
      rw [hnext] at hafter htotal hworks ⊢
      exact ⟨hafter, _, _, Or.inr ⟨_, hworks, rfl, rfl⟩, htotal⟩
    · have hnext := hlooks.denied (Option.some.inj (Reply.looked.inj (hreply.resolve_right nofun)))
      rw [hnext] at hafter htotal ⊢
      refine ⟨hafter, fun htoken g => ?_⟩
      have hstage : waiter.stage = .token := by
        rcases presents.cases_waiter with ⟨-, htoken⟩ | hfound
        · exact htoken
        · exact htoken waiter hfound
      rw [htotal, hstage]
      exact ite_self 0
  | @abandoned waiter gate found there =>
    cases hasker
    have hafter : (desk.limiter.settle waiter (gate.withdraw waiter.asker waiter.stage)
        .leaves).waiter? waiter.asker = none := (Limiter.waiter?_settle found _ _).trans (if_pos rfl)
    refine ⟨fun w hw => ?_, nofun, fun _ => ⟨hafter, fun htoken g => ?_⟩⟩
    · rw [hafter] at hw
      cases hw
    · rw [hwaits waiter found, spentBetween_of_eq (bucket?_withdrawn there g), Waiter.paid,
        htoken waiter found]
      exact ite_self 0
  | released found there =>
    refine ⟨fun w hw g => ?_, nofun, by simp⟩
    rw [spentBetween_of_eq (bucket?_handBack there g)]
    exact hwaits w hw g
  | polledInVain | abandonedInVain | releasedInVain =>
    refine ⟨fun w hw g => ?_, nofun, by simp⟩
    rw [spentBetween_of_eq rfl]
    exact hwaits w hw g
  | cancelled | registered | passed => cases hasker

/-- Whoever gets an answer, or gives something up, has just asked or has waited. -/
theorem Step.comes (h : Step desk act reply after) (hasker : act.asker? = some asker)
    (hreply : (∃ answer, reply = .looked (some answer)) ∨ reply = .abandoned true) :
    act.newcomer? = some asker ∨ ∃ w, desk.limiter.waiter? asker = some w := by
  cases h with
  | looked presents =>
    rw [presents.asker?] at hasker
    cases hasker
    rcases presents.cases_waiter with ⟨hcomes, -⟩ | hfound
    · exact Or.inl hcomes
    · exact Or.inr ⟨_, hfound⟩
  | abandoned found =>
    cases hasker
    exact Or.inr ⟨_, found⟩
  | _ => simp at hreply

/-- Who does not wait and does not ask does not come to wait, and pays nothing. -/
theorem Step.absent (h : Step desk act reply after) (hfresh : Fresh desk.limiter act)
    (habsent : desk.limiter.waiter? asker = none) (hnew : act.newcomer? ≠ some asker) :
    after.limiter.waiter? asker = none ∧
      (act.asker? = some asker → ∀ g, spentBetween desk after g = 0) := by
  by_cases hasker : act.asker? = some asker
  · cases h with
    | looked presents =>
      rw [presents.asker?] at hasker
      cases hasker
      rcases presents.cases_waiter with ⟨hcomes, -⟩ | hfound
      · exact absurd hcomes hnew
      · rw [habsent] at hfound
        cases hfound
    | abandoned found =>
      cases hasker
      rw [habsent] at found
      cases found
    | released found there => exact ⟨habsent, fun _ g => spentBetween_of_eq (bucket?_handBack there g)⟩
    | polledInVain | abandonedInVain | releasedInVain =>
      exact ⟨habsent, fun _ _ => spentBetween_of_eq rfl⟩
    | cancelled | registered | passed => cases hasker
  · exact ⟨(h.others hfresh hasker).1.trans habsent, fun h => absurd h hasker⟩

end Step

/-- Who is let in by a visit. -/
def Visit.letsIn? (v : Visit ι κ) : Option ι :=
  if v.reply = .looked (some .granted) then v.act.asker? else none

theorem Visit.letsIn?_eq_some {v : Visit ι κ} {asker : ι} :
    v.letsIn? = some asker ↔ v.reply = .looked (some .granted) ∧ v.act.asker? = some asker := by
  unfold letsIn?
  by_cases hreply : v.reply = .looked (some .granted) <;> simp [hreply]

/-- Whoever has been let in, in order. -/
def letIn (visits : List (Visit ι κ)) : List ι := visits.filterMap Visit.letsIn?

/-- Somebody is turned away or gives up before it has got a token. -/
def Visit.LeavesEarly (v : Visit ι κ) (asker : ι) : Prop :=
  v.act.asker? = some asker ∧
    (v.reply = .looked (some (.denied .cancelled)) ∨ v.reply = .abandoned true) ∧
    ∀ w, v.before.limiter.waiter? asker = some w → w.stage = .token

/-- Somebody has asked and does not wait any more. -/
structure Gone (visits : List (Visit ι κ)) (desk : Desk ι κ) (asker : ι) : Prop where
  absent : desk.limiter.waiter? asker = none
  asked : ∃ v ∈ visits, v.act.newcomer? = some asker

/-- Who wait have paid what they wait with, who were let in have paid one token of their gate, and who
left early have paid none. -/
structure Paid (visits : List (Visit ι κ)) (desk : Desk ι κ) : Prop where
  stocked : desk.limiter.Stocked
  strangers : ∀ asker, (∀ v ∈ visits, v.act.newcomer? ≠ some asker) → ∀ g, spentBy visits asker g = 0
  waiters : ∀ asker w, desk.limiter.waiter? asker = some w → ∀ g, spentBy visits asker g = w.paid g
  once : (letIn visits).Nodup
  granted : ∀ asker ∈ letIn visits, Gone visits desk asker ∧ ∃ jobType gate,
    AskedAt visits asker jobType gate ∧ ∀ g, spentBy visits asker g = if g = gate then 1 else 0
  leftEarly : ∀ v ∈ visits, ∀ asker, v.LeavesEarly asker →
    Gone visits desk asker ∧ ∀ g, spentBy visits asker g = 0

section Next

variable {visits : List (Visit ι κ)} {v : Visit ι κ} {asker : ι}

/-- Who is gone stays away and pays nothing more. -/
theorem Gone.next (h : Gone visits v.before asker) (horderly : Orderly visits v.before)
    (hnew : AsksFirst visits v) : Gone (visits ++ [v]) v.after asker ∧
      ∀ g, spentBy (visits ++ [v]) asker g = spentBy visits asker g := by
  obtain ⟨c, hc, hasked⟩ := h.asked
  have hnot : v.act.newcomer? ≠ some asker := fun hcomes => hnew asker hcomes c hc hasked
  have hstep := horderly.step
  obtain ⟨hafter, hspent⟩ := hstep.absent (horderly.fresh hnew) h.absent hnot
  refine ⟨⟨hafter, c, List.mem_append_left _ hc, hasked⟩, fun g => ?_⟩
  rw [spentBy_snoc]
  split
  · rename_i hasker
    have hnone : v.spends g = 0 := hspent hasker g
    rw [hnone, Nat.add_zero]
  · rfl

/-- Whoever gets an answer, or gives something up, has asked by now and was not gone. -/
theorem Orderly.comes (horderly : Orderly visits v.before) (hnew : AsksFirst visits v)
    (hasker : v.act.asker? = some asker)
    (hreply : (∃ answer, v.reply = .looked (some answer)) ∨ v.reply = .abandoned true) :
    (∃ c ∈ visits ++ [v], c.act.newcomer? = some asker) ∧ ¬Gone visits v.before asker := by
  have hstep := horderly.step
  rcases hstep.comes hasker hreply with hcomes | ⟨w, hw⟩
  · refine ⟨⟨v, by simp, hcomes⟩, fun hgone => ?_⟩
    obtain ⟨c, hc, hasked⟩ := hgone.asked
    exact hnew asker hcomes c hc hasked
  · obtain ⟨c, hc, ⟨cancellation, hact⟩, -⟩ := horderly.asked asker _ _ (Or.inl ⟨w, hw, rfl, rfl⟩)
    refine ⟨⟨c, List.mem_append_left _ hc, by rw [hact]; rfl⟩, fun hgone => ?_⟩
    rw [hgone.absent] at hw
    cases hw

/-- **Every visit is paid for.** -/
theorem Paid.next (h : Paid visits v.before) (horderly : Orderly visits v.before)
    (hnew : AsksFirst visits v) : Paid (visits ++ [v]) v.after := by
  have hfresh := horderly.fresh hnew
  have hstep := horderly.step
  have hafter := horderly.next hfresh
  have hpays : ∀ {asker}, v.act.asker? = some asker → _ := fun {asker} hasker =>
    @Step.pays _ _ _ _ _ _ _ _ _ (spentBy visits asker) hstep hfresh h.stocked hasker
      (fun hcomes => h.strangers asker fun c hc => hnew asker hcomes c hc) (h.waiters asker)
  have hown : ∀ {asker}, v.act.asker? = some asker → ∀ g,
      spentBy (visits ++ [v]) asker g = spentBy visits asker g + spentBetween v.before v.after g :=
    fun hasker g => (spentBy_snoc visits v _ g).trans (by rw [if_pos hasker]; rfl)
  have hother : ∀ {asker}, v.act.asker? ≠ some asker → ∀ g,
      spentBy (visits ++ [v]) asker g = spentBy visits asker g :=
    fun hasker g => (spentBy_snoc visits v _ g).trans (by rw [if_neg hasker, Nat.add_zero])
  refine ⟨hstep.stocked h.stocked, fun asker hstranger g => ?_, fun asker w hw g => ?_, ?_,
    fun asker hasker => ?_, fun c hc asker hleaves => ?_⟩
  · have hbefore : ∀ c ∈ visits, c.act.newcomer? ≠ some asker :=
      fun c hc => hstranger c (List.mem_append_left _ hc)
    have hpaid := h.strangers asker hbefore g
    by_cases hasker : v.act.asker? = some asker
    · have hnone := (hstep.absent hfresh (horderly.stranger hbefore).1 (hstranger v (by simp))).2 hasker g
      rw [hown hasker, hpaid, hnone]
    · rw [hother hasker, hpaid]
  · by_cases hasker : v.act.asker? = some asker
    · rw [hown hasker]
      exact (hpays hasker).1 w hw g
    · rw [hother hasker]
      rw [(hstep.others hfresh hasker).1] at hw
      exact h.waiters asker w hw g
  · rw [letIn, Run.filterMap_snoc]
    change (letIn visits ++ _).Nodup
    cases hletsIn : v.letsIn? with
    | none => simpa using h.once
    | some asker =>
      obtain ⟨hreply, hasker⟩ := Visit.letsIn?_eq_some.mp hletsIn
      have hcomes := horderly.comes hnew hasker (Or.inl ⟨_, hreply⟩)
      have hnew : asker ∉ letIn visits := fun hold => hcomes.2 (h.granted asker hold).1
      rw [Option.toList_some, ← List.concat_eq_append]
      exact h.once.concat hnew
  · rw [letIn, Run.filterMap_snoc, List.mem_append, Option.mem_toList] at hasker
    rcases hasker with hold | hletsIn
    · obtain ⟨hgone, jobType, gate, ⟨c, hc, hasked⟩, hpaid⟩ := h.granted asker hold
      obtain ⟨hstays, hsame⟩ := hgone.next horderly hnew
      exact ⟨hstays, jobType, gate, ⟨c, List.mem_append_left _ hc, hasked⟩,
        fun g => (hsame g).trans (hpaid g)⟩
    · obtain ⟨hreply, hown'⟩ := Visit.letsIn?_eq_some.mp hletsIn
      obtain ⟨habsent, jobType, gate, hstands, hpaid⟩ := (hpays hown').2.1 hreply
      exact ⟨⟨habsent, (horderly.comes hnew hown' (Or.inl ⟨_, hreply⟩)).1⟩, jobType, gate,
        hafter.asked _ _ _ hstands, fun g => (hown hown' g).trans (hpaid g)⟩
  · rw [List.mem_append, List.mem_singleton] at hc
    rcases hc with hold | rfl
    · obtain ⟨hgone, hnone⟩ := h.leftEarly c hold asker hleaves
      obtain ⟨hstays, hsame⟩ := hgone.next horderly hnew
      exact ⟨hstays, fun g => (hsame g).trans (hnone g)⟩
    · obtain ⟨hasker, hreply, htoken⟩ := hleaves
      obtain ⟨habsent, hnone⟩ := (hpays hasker).2.2 hreply
      have hcomes := horderly.comes hnew hasker (hreply.imp_left fun h => ⟨_, h⟩)
      exact ⟨⟨habsent, hcomes.1⟩, fun g => (hown hasker g).trans (hnone htoken g)⟩

end Next

/-! ## Along a run -/

omit [DecidableEq ι] [DecidableEq κ] in
theorem Limiter.Stocked.ofProfiles (profiles : List (String × Profile)) (fallback : Profile) :
    (Limiter.ofProfiles profiles fallback : Limiter ι κ).Stocked := by
  refine Limiter.ofProfiles_rule profiles fallback (fun g gate there => ?_)
    fun limiter jobType profile h g gate there => ?_
  · cases g with
    | zero => cases there; exact .ofProfile fallback
    | succ g => cases there
  · rw [Limiter.gates_register] at there
    split at there
    · cases there
      exact .ofProfile profile
    · exact h g gate there

theorem paid (profiles : List (String × Profile)) (fallback : Profile) (now : Nat) :
    Lasts (ι := ι) (κ := κ) profiles fallback now Paid where
  opening := by
    refine ⟨.ofProfiles profiles fallback, fun _ _ _ => rfl, fun asker w hw => ?_, List.nodup_nil, nofun,
      nofun⟩
    have horderly : Orderly [] (Desk.opening (ι := ι) (κ := κ) profiles fallback now) :=
      .opening profiles fallback now
    have hnone := (horderly.stranger nofun).1.symm.trans hw
    cases hnone
  next _ _ horderly hnew h := h.next horderly hnew

theorem paced (profiles : List (String × Profile)) (fallback : Profile) (now g start length : Nat) :
    Lasts (ι := ι) (κ := κ) profiles fallback now
      fun visits desk => desk.limiter.Stocked ∧ Paced g start length visits desk where
  opening := ⟨.ofProfiles profiles fallback, Or.inl rfl⟩
  next _ _ horderly _ h :=
    have hstep := horderly.step
    ⟨hstep.stocked h.1, h.2.next h.1 hstep⟩

/-- Askers who have each taken a token in a stretch of time are no more than the tokens taken in it. -/
theorem length_le_spentIn {visits : List (Visit ι κ)} {askers : List ι} {g start length : Nat}
    (honce : askers.Nodup) (htook : ∀ asker ∈ askers, ∃ v ∈ visits, v.act.asker? = some asker ∧
      0 < v.spends g ∧ start ≤ v.before.now ∧ v.before.now ≤ start + length) :
    askers.length ≤ spentIn visits g start length := by
  let within := visits.filter fun v => start ≤ v.before.now ∧ v.before.now ≤ start + length
  let taking := within.filter fun v => 0 < v.spends g
  have hsub : askers ⊆ taking.filterMap (·.act.asker?) := by
    intro asker hmem
    obtain ⟨v, hv, hasker, hspends, hfrom, hto⟩ := htook asker hmem
    refine List.mem_filterMap.mpr ⟨v, ?_, hasker⟩
    simp [taking, within, hv, hspends, hfrom, hto]
  have hone : ∀ n ∈ taking.map (·.spends g), 1 ≤ n := by
    intro n hn
    obtain ⟨v, hv, rfl⟩ := List.mem_map.mp hn
    exact of_decide_eq_true (List.mem_filter.mp hv).2
  calc askers.length ≤ (taking.filterMap (·.act.asker?)).length := (honce.subperm hsub).length_le
    _ ≤ taking.length := List.length_filterMap_le _ _
    _ = (taking.map (·.spends g)).length := (List.length_map _).symm
    _ ≤ (taking.map (·.spends g)).sum := List.length_le_sum_of_one_le _ hone
    _ ≤ spentIn visits g start length :=
      (List.filter_sublist.map _).sum_le_sum fun _ _ => Nat.zero_le _

/-- **Tokens are paced, and every token has been paid by somebody who got past the bucket.** In every run of
a limiter:

* of those who are let in, those who have taken their token of a gate within a stretch of time are no more
  than a full bucket, of one token at least, and one for each period that the stretch holds;
* nobody is let in twice, and whoever is let in has paid one token of the gate that it was sent to when it
  asked, and none of any other gate;
* whoever is turned away or gives up before it has got a token has paid none. -/
theorem tokens_are_paced (profiles : List (String × Profile)) (fallback : Profile) (now : Nat)
    (acts : List (Act ι κ)) (honce : AskOnce acts) :
    let visits := (Desk.opening profiles fallback now).visits acts
    (∀ g profile, (fallback :: (registrations profiles acts).map (·.2))[g]? = some profile →
      0 < Bucket.periodOfRate profile.rate ∧ ∀ start length,
        ((letIn visits).filter fun asker => visits.any fun v => v.act.asker? = some asker ∧
          0 < v.spends g ∧ start ≤ v.before.now ∧ v.before.now ≤ start + length).length ≤
            max 1 profile.burst + length / Bucket.periodOfRate profile.rate) ∧
    (letIn visits).Nodup ∧
    (∀ asker ∈ letIn visits, ∃ jobType gate, AskedAt visits asker jobType gate ∧
      ∀ g, spentBy visits asker g = if g = gate then 1 else 0) ∧
    ∀ v ∈ visits, ∀ asker, v.LeavesEarly asker → ∀ g, spentBy visits asker g = 0 := by
  intro visits
  have hpaid := ((paid profiles fallback now).run honce).2
  refine ⟨fun g profile hprofile => ⟨Bucket.periodOfRate_pos _, fun start length => ?_⟩, hpaid.once,
    fun asker hmem => (hpaid.granted asker hmem).2, fun v hv asker hleaves =>
      (hpaid.leftEarly v hv asker hleaves).2⟩
  obtain ⟨-, hstocked, hpaced⟩ := (paced profiles fallback now g start length).run honce
  have henrolled := ((audited profiles fallback now).run honce).2.enrolled
  have hacts : visits.map (·.act) = acts := Run.map_act_history _ acts
  rw [hacts] at henrolled
  rw [← henrolled.profiles, List.getElem?_map] at hprofile
  obtain ⟨gate, there, rfl⟩ := Option.map_eq_some_iff.mp hprofile
  have hgate := hstocked g gate there
  have htook : ∀ asker ∈ (letIn visits).filter fun asker => visits.any fun v =>
      v.act.asker? = some asker ∧ 0 < v.spends g ∧ start ≤ v.before.now ∧ v.before.now ≤ start + length,
      ∃ v ∈ visits, v.act.asker? = some asker ∧ 0 < v.spends g ∧ start ≤ v.before.now ∧
        v.before.now ≤ start + length := by
    intro asker hmem
    simpa using (List.mem_filter.mp hmem).2
  refine (length_le_spentIn (hpaid.once.filter _) htook).trans ?_
  rcases hpaced with hnone | ⟨bucket, hbucket, -, hbound⟩
  · exact hnone ▸ Nat.zero_le _
  · rw [Limiter.bucket?, there] at hbucket
    cases hbucket
    rwa [hgate.burst, hgate.period, Nat.max_comm] at hbound

def twoTokens : List (String × Profile) := [("mail", ⟨10, Binary64.ofNat 1, 2⟩)]

/-- Four ask at once for two tokens. The fourth is cancelled, and the third gets the token that the next
second brings. -/
def hurried : List (Act Nat Nat) :=
  [.acquire 1 "mail" 0, .acquire 2 "mail" 0, .acquire 3 "mail" 0, .acquire 4 "mail" 1, .cancel 1,
   .poll 4, .pass 1000000000, .poll 3]

theorem tokens_are_paced_hurried :
    let visits := (Desk.opening twoTokens Profile.fallback 0).visits hurried
    AskOnce hurried ∧ letIn visits = [1, 2, 3] ∧
    ((letIn visits).filter fun asker => visits.any fun v => v.act.asker? = some asker ∧
      0 < v.spends 1 ∧ 0 ≤ v.before.now ∧ v.before.now ≤ 0 + 1000000000).length ≤
        max 1 2 + 1000000000 / Bucket.periodOfRate (Binary64.ofNat 1) ∧
    (∃ jobType gate, AskedAt visits 3 jobType gate ∧
      ∀ g, spentBy visits 3 g = if g = gate then 1 else 0) ∧
    ∀ g, spentBy visits 4 g = 0 := by
  have honce : AskOnce hurried := by decide
  have hletIn : letIn ((Desk.opening twoTokens Profile.fallback 0).visits hurried) = [1, 2, 3] := by
    decide
  obtain ⟨hpaced, -, hpaid, hnone⟩ := tokens_are_paced twoTokens Profile.fallback 0 hurried honce
  let polled : Visit Nat Nat :=
    ⟨(Desk.opening twoTokens Profile.fallback 0).afterAll (hurried.take 5), .poll 4⟩
  have hpolled : polled ∈ (Desk.opening twoTokens Profile.fallback 0).visits hurried := by
    have hsplit : (Desk.opening twoTokens Profile.fallback 0).visits hurried =
        (Desk.opening twoTokens Profile.fallback 0).visits (hurried.take 5) ++
          polled :: polled.after.visits (hurried.drop 6) := rfl
    rw [hsplit]
    simp
  have hleaves : polled.LeavesEarly 4 := by
    refine ⟨rfl, Or.inl (by decide), ?_⟩
    have hwaiter : polled.before.limiter.waiter? 4 = some ⟨4, "mail", 1, 1, .token⟩ := by decide
    intro w hw
    rw [hwaiter] at hw
    cases hw
    rfl
  exact ⟨honce, hletIn, (hpaced 1 _ rfl).2 0 1000000000, hpaid 3 (by rw [hletIn]; decide),
    hnone polled hpolled 4 hleaves⟩

end DurableJobs.Admission
