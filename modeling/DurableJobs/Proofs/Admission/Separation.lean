import DurableJobs.Proofs.Admission.Accounts

/-!
# One type on its own

What is asked of one registered type does not depend on what is asked of the others. A run is compared
with the run that is left when every act about another type is taken out of it. In the two runs the gates
of the type have different numbers, and they are the same gates: `Alike` pairs them, and the other gates
of the full run, the shared one among them, are nobody's business.

An act about the type does the same in both, at paired gates, and an act about another type touches no
gate that has a pair.
-/

set_option autoImplicit false

namespace DurableJobs.Admission

variable {ι κ : Type}

/-! ## What an act is about -/

namespace Act

/-- The type an act is about, if it is known what everybody asks for. -/
def concerns? (typing : ι → Option String) : Act ι κ → Option String
  | acquire _ jobType _ | register jobType _ => some jobType
  | poll asker | abandon asker | release asker => typing asker
  | cancel _ | pass _ => none

/-- Somebody asks for a type. -/
def acquires (act : Act ι κ) (jobType : String) : Prop :=
  ∃ asker cancellation, act = acquire asker jobType cancellation

/-- An act is not about another type. -/
def keeps (typing : ι → Option String) (jobType : String) (act : Act ι κ) : Bool :=
  (act.concerns? typing).all (· == jobType)

/-- Whoever asks in an act asks for what is known. -/
def Typed (typing : ι → Option String) (act : Act ι κ) : Prop :=
  ∀ asker jobType cancellation, act = acquire asker jobType cancellation → typing asker = some jobType

theorem Typed.concerns? {typing : ι → Option String} {act : Act ι κ} (h : act.Typed typing) {asker : ι}
    (hasker : act.asker? = some asker) : act.concerns? typing = typing asker := by
  cases act with
  | acquire _ jobType cancellation =>
    cases hasker
    exact (h asker jobType cancellation rfl).symm
  | poll | abandon | release => cases hasker; rfl
  | cancel | register | pass => cases hasker

end Act

/-- Nothing but one type is known of what somebody asks for. -/
def Mine (typing : ι → Option String) (jobType : String) (asker : ι) : Prop :=
  (typing asker).all (· == jobType) = true

theorem Act.Typed.keeps_iff {typing : ι → Option String} {act : Act ι κ} (h : act.Typed typing)
    {asker : ι} (hasker : act.asker? = some asker) (jobType : String) :
    act.keeps typing jobType = true ↔ Mine typing jobType asker := by
  rw [Act.keeps, h.concerns? hasker, Mine]

/-! ## Two limiters that are alike -/

section Alike

variable [DecidableEq ι]

/-- Two waits that differ only in the number of their gate, and the gates are a pair. -/
def SameWait (pairs : Nat → Nat → Prop) (waiter other : Waiter ι κ) : Prop :=
  pairs waiter.gate other.gate ∧ other = { waiter with gate := other.gate }

def SamePermit (pairs : Nat → Nat → Prop) (permit other : Permit ι) : Prop :=
  pairs permit.gate other.gate ∧ other = { permit with gate := other.gate }

omit [DecidableEq ι] in
theorem SameWait.asker {pairs : Nat → Nat → Prop} {waiter other : Waiter ι κ}
    (h : SameWait pairs waiter other) : other.asker = waiter.asker := by rw [h.2]

omit [DecidableEq ι] in
theorem SamePermit.asker {pairs : Nat → Nat → Prop} {permit other : Permit ι}
    (h : SamePermit pairs permit other) : other.asker = permit.asker := by rw [h.2]

theorem rel_mono {β : Type} {r s : β → β → Prop} (h : ∀ a b, r a b → s a b) {first second : Option β}
    (hrel : Option.Rel r first second) : Option.Rel s first second := by
  cases hrel with
  | none => exact .none
  | some hr => exact .some (h _ _ hr)

theorem eq_some_of_rel {β : Type} {r : β → β → Prop} {a : β} {other : Option β}
    (hrel : Option.Rel r (some a) other) : ∃ b, other = some b ∧ r a b := by
  cases hrel with
  | some hr => exact ⟨_, rfl, hr⟩

theorem eq_none_of_rel {β : Type} {r : β → β → Prop} {other : Option β}
    (hrel : Option.Rel r none other) : other = none := by
  cases hrel
  rfl

/-- What a limiter has of a type is what the other has, at the paired gates, and nobody else is at a gate
that has a pair. -/
structure Alike (typing : ι → Option String) (jobType : String) (pairs : Nat → Nat → Prop)
    (full lone : Limiter ι κ) : Prop where
  raised : lone.raised = full.raised
  gates : ∀ g h, pairs g h → ∃ gate, full.gates[g]? = some gate ∧ lone.gates[h]? = some gate
  apart : ∀ g h g' h', pairs g h → pairs g' h' → (g = g' ↔ h = h')
  own : Option.Rel pairs (full.registered.lookup jobType) (lone.registered.lookup jobType)
  others : ∀ g h, pairs g h → ∀ other, other ≠ jobType → full.gateOf other ≠ g
  waiters : ∀ asker, Mine typing jobType asker →
    Option.Rel (SameWait pairs) (full.waiter? asker) (lone.waiter? asker)
  permits : ∀ asker, Mine typing jobType asker →
    Option.Rel (SamePermit pairs) (full.permit? asker) (lone.permit? asker)
  strangers : ∀ asker, ¬Mine typing jobType asker → ∀ other g h, full.Stands asker other g → ¬pairs g h

namespace Alike

variable {typing : ι → Option String} {jobType : String} {pairs : Nat → Nat → Prop}
  {full lone shownFull shownLone : Limiter ι κ} {waiter waiter' : Waiter ι κ} {gate old : Gate ι}

/-- **The same look at paired gates** leaves the two limiters alike. -/
theorem settle (h : Alike typing jobType pairs full lone) (hmine : Mine typing jobType waiter.asker)
    (hsame : SameWait pairs waiter waiter') (hfull : Shown full waiter shownFull)
    (hlone : Shown lone waiter' shownLone) (there : full.gates[waiter.gate]? = some old)
    (there' : lone.gates[waiter'.gate]? = some old) (next : Next) :
    Alike typing jobType pairs (shownFull.settle waiter gate next)
      (shownLone.settle waiter' gate next) := by
  have hasker := hsame.asker
  obtain ⟨hpair, hwaiter⟩ := hsame
  have hregistered : (shownFull.settle waiter gate next).registered = full.registered :=
    (Limiter.registered_settle _).trans hfull.registered
  refine ⟨?_, fun g g' hg => ?_, h.apart, ?_, fun g g' hg other hother => ?_, fun asker hasker' => ?_,
    fun asker hasker' => ?_, fun asker hasker' other g g' hstands => ?_⟩
  · rw [Limiter.raised_settle, Limiter.raised_settle, hfull.raised, hlone.raised, h.raised]
  · rw [hfull.gates_settle there, hlone.gates_settle there']
    by_cases hgate : g = waiter.gate
    · rw [if_pos hgate, if_pos ((h.apart _ _ _ _ hg hpair).mp hgate)]
      exact ⟨gate, rfl, rfl⟩
    · rw [if_neg hgate, if_neg fun h' => hgate ((h.apart _ _ _ _ hg hpair).mpr h')]
      exact h.gates g g' hg
  · rw [hregistered, Limiter.registered_settle, hlone.registered]
    exact h.own
  · rw [Limiter.gateOf_eq hregistered]
    exact h.others g g' hg other hother
  · rw [hfull.waiter?_settle, hlone.waiter?_settle, hasker]
    split
    · cases next with
      | stays => exact .some ⟨hpair, hwaiter⟩
      | queues => exact .some ⟨hpair, by rw [hwaiter]⟩
      | leaves | works => exact .none
    · exact h.waiters asker hasker'
  · rw [hfull.permit?_settle, hlone.permit?_settle, hasker]
    split
    · exact .some ⟨hpair, by rw [hwaiter]⟩
    · exact h.permits asker hasker'
  · have hne : ¬asker = waiter.asker := fun heq => hasker' (heq ▸ hmine)
    unfold Limiter.Stands at hstands
    rw [hfull.waiter?_settle, hfull.permit?_settle, if_neg hne, if_neg fun h => hne h.2] at hstands
    exact h.strangers asker hasker' other g g' hstands

/-- The same permit given back at paired gates leaves the two limiters alike. -/
theorem handBack {permit permit' : Permit ι} (h : Alike typing jobType pairs full lone)
    (hmine : Mine typing jobType permit.asker) (hsame : SamePermit pairs permit permit')
    (there : full.gates[permit.gate]? = some old) (there' : lone.gates[permit'.gate]? = some old) :
    Alike typing jobType pairs (full.handBack permit gate) (lone.handBack permit' gate) := by
  have hasker := hsame.asker
  obtain ⟨hpair, -⟩ := hsame
  refine ⟨h.raised, fun g g' hg => ?_, h.apart, h.own, h.others, h.waiters, fun asker hasker' => ?_,
    fun asker hasker' other g g' hstands => ?_⟩
  · rw [Limiter.gates_handBack there, Limiter.gates_handBack there']
    by_cases hgate : g = permit.gate
    · rw [if_pos hgate, if_pos ((h.apart _ _ _ _ hg hpair).mp hgate)]
      exact ⟨gate, rfl, rfl⟩
    · rw [if_neg hgate, if_neg fun h' => hgate ((h.apart _ _ _ _ hg hpair).mpr h')]
      exact h.gates g g' hg
  · rw [Limiter.permit?_handBack, Limiter.permit?_handBack, hasker]
    split
    · exact .none
    · exact h.permits asker hasker'
  · have hne : ¬asker = permit.asker := fun heq => hasker' (heq ▸ hmine)
    unfold Limiter.Stands at hstands
    rw [Limiter.permit?_handBack, if_neg hne] at hstands
    exact h.strangers asker hasker' other g g' hstands

/-- The new gates of the type are a pair. -/
theorem register (h : Alike typing jobType pairs full lone) (hfull : full.Placed) (profile : Profile) :
    Alike typing jobType (fun g g' => pairs g g' ∨ g = full.gates.length ∧ g' = lone.gates.length)
      (full.register jobType profile) (lone.register jobType profile) := by
  have hthere : ∀ {g g'}, pairs g g' → g < full.gates.length ∧ g' < lone.gates.length := by
    intro g g' hg
    obtain ⟨gate, there, there'⟩ := h.gates g g' hg
    exact ⟨(List.getElem?_eq_some_iff.mp there).1, (List.getElem?_eq_some_iff.mp there').1⟩
  refine ⟨h.raised, fun g g' hg => ?_, fun g g' i i' hg hi => ?_, ?_, fun g g' hg other hother => ?_,
    fun asker hasker => ?_, fun asker hasker => ?_, fun asker hasker other g g' hstands => ?_⟩
  · rw [Limiter.gates_register, Limiter.gates_register]
    rcases hg with hg | ⟨rfl, rfl⟩
    · rw [if_neg (Nat.ne_of_lt (hthere hg).1), if_neg (Nat.ne_of_lt (hthere hg).2)]
      exact h.gates g g' hg
    · rw [if_pos rfl, if_pos rfl]
      exact ⟨_, rfl, rfl⟩
  · rcases hg with hg | ⟨rfl, rfl⟩ <;> rcases hi with hi | ⟨rfl, rfl⟩
    · exact h.apart g g' i i' hg hi
    · exact iff_of_false (Nat.ne_of_lt (hthere hg).1) (Nat.ne_of_lt (hthere hg).2)
    · exact iff_of_false (Nat.ne_of_gt (hthere hi).1) (Nat.ne_of_gt (hthere hi).2)
    · exact iff_of_true rfl rfl
  · rw [Limiter.lookup_register, Limiter.lookup_register, if_pos rfl, if_pos rfl]
    exact .some (Or.inr ⟨rfl, rfl⟩)
  · rw [Limiter.gateOf_register, if_neg hother]
    rcases hg with hg | ⟨rfl, -⟩
    · exact h.others g g' hg other hother
    · exact Nat.ne_of_lt (hfull.gateOf_lt other)
  · exact rel_mono (fun _ _ hsame => ⟨Or.inl hsame.1, hsame.2⟩) (h.waiters asker hasker)
  · exact rel_mono (fun _ _ hsame => ⟨Or.inl hsame.1, hsame.2⟩) (h.permits asker hasker)
  · rintro (hg | ⟨rfl, -⟩)
    · exact h.strangers asker hasker other g g' hstands hg
    · rcases hstands with ⟨w, hw, -, hgate⟩ | ⟨p, hp, -, hgate⟩
      · exact Nat.ne_of_lt (hfull.waiters asker w hw) hgate
      · exact Nat.ne_of_lt (hfull.permits asker p hp) hgate

end Alike

end Alike

/-! ## Two desks that are alike -/

section Desk

variable [DecidableEq ι] [DecidableEq κ]

/-- **An act touches one gate**: the one its asker is at, or is sent to. -/
theorem Step.gates {desk after : Desk ι κ} {act : Act ι κ} {reply : Reply}
    (h : Step desk act reply after) {g : Nat} (hthere : g < desk.limiter.gates.length)
    (hstands : ∀ asker jobType, act.asker? = some asker → ¬desk.limiter.Stands asker jobType g)
    (hcomes : ∀ asker jobType cancellation, act = .acquire asker jobType cancellation →
      desk.limiter.gateOf jobType ≠ g) : after.limiter.gates[g]? = desk.limiter.gates[g]? := by
  cases h with
  | @looked _ waiter shown gate outcome presents there looks =>
    have hne : g ≠ waiter.gate := by
      rintro rfl
      cases presents with
      | newcomer asker jobType cancellation => exact hcomes asker jobType cancellation rfl rfl
      | waiter _ found => exact hstands waiter.asker _ rfl (Or.inl ⟨waiter, found, rfl, rfl⟩)
    have hgates := presents.gates
    rw [← hgates] at there ⊢
    exact (Limiter.gates_settle there _ g).trans (if_neg hne)
  | @abandoned waiter gate found there =>
    refine (Limiter.gates_settle there _ g).trans (if_neg ?_)
    rintro rfl
    exact hstands waiter.asker _ rfl (Or.inl ⟨waiter, found, rfl, rfl⟩)
  | @released permit gate found there =>
    refine (Limiter.gates_handBack there g).trans (if_neg ?_)
    rintro rfl
    exact hstands permit.asker _ rfl (Or.inr ⟨permit, found, rfl, rfl⟩)
  | registered jobType profile =>
    exact (Limiter.gates_register jobType profile g).trans (if_neg (Nat.ne_of_lt hthere))
  | _ => rfl

/-- An act about another type leaves the clock, the cancellations and the gate of the type alone, and sends
nobody to a gate that is there but those who were sent there before. -/
theorem Step.passes_by {desk after : Desk ι κ} {act : Act ι κ} {reply : Reply}
    (h : Step desk act reply after) {typing : ι → Option String} {jobType : String}
    (hdropped : act.keeps typing jobType = false) :
    after.now = desk.now ∧ after.limiter.raised = desk.limiter.raised ∧
      after.limiter.registered.lookup jobType = desk.limiter.registered.lookup jobType ∧
      ∀ other, after.limiter.gateOf other = desk.limiter.gateOf other ∨
        after.limiter.gateOf other = desk.limiter.gates.length := by
  have hsame : ∀ {after : Limiter ι κ}, after.raised = desk.limiter.raised →
      after.registered = desk.limiter.registered → after.raised = desk.limiter.raised ∧
        after.registered.lookup jobType = desk.limiter.registered.lookup jobType ∧
        ∀ other, after.gateOf other = desk.limiter.gateOf other ∨
          after.gateOf other = desk.limiter.gates.length :=
    fun hraised hregistered => ⟨hraised, by rw [hregistered], fun other =>
      Or.inl (Limiter.gateOf_eq hregistered other)⟩
  cases h with
  | looked presents =>
    refine ⟨rfl, hsame ?_ ?_⟩
    · rw [Limiter.raised_settle]
      cases presents <;> rfl
    · rw [Limiter.registered_settle, presents.registered]
  | abandoned => exact ⟨rfl, hsame (Limiter.raised_settle _) (Limiter.registered_settle _)⟩
  | registered other profile =>
    have hne : jobType ≠ other := by
      rintro rfl
      simp [Act.keeps, Act.concerns?] at hdropped
    refine ⟨rfl, rfl, (Limiter.lookup_register _ _ _).trans (if_neg hne), fun name => ?_⟩
    rw [Limiter.gateOf_register]
    split
    · exact Or.inr rfl
    · exact Or.inl rfl
  | released | polledInVain | abandonedInVain | releasedInVain => exact ⟨rfl, hsame rfl rfl⟩
  | cancelled | passed => simp [Act.keeps, Act.concerns?] at hdropped

namespace Alike

variable {typing : ι → Option String} {jobType : String} {pairs : Nat → Nat → Prop}
  {full lone full' : Desk ι κ} {act : Act ι κ} {reply : Reply}

omit [DecidableEq κ] in
/-- The same gate stands at both ends of a pair. -/
theorem gate_of_pair {full lone : Limiter ι κ} (h : Alike typing jobType pairs full lone) {g g' : Nat}
    (hpair : pairs g g') {gate : Gate ι} (there : full.gates[g]? = some gate) :
    lone.gates[g']? = some gate := by
  obtain ⟨same, hfull, hlone⟩ := h.gates g g' hpair
  rw [there] at hfull
  cases hfull
  exact hlone

omit [DecidableEq κ] in
/-- Who waits in the full run for the type waits in the other one. -/
theorem waiter_there {full lone : Limiter ι κ} {waiter : Waiter ι κ}
    (h : Alike typing jobType pairs full lone) (hmine : Mine typing jobType waiter.asker)
    (found : full.waiter? waiter.asker = some waiter) :
    ∃ waiter', lone.waiter? waiter'.asker = some waiter' ∧ SameWait pairs waiter waiter' := by
  obtain ⟨waiter', found', hsame⟩ := eq_some_of_rel (found ▸ h.waiters waiter.asker hmine)
  exact ⟨waiter', hsame.asker ▸ found', hsame⟩

omit [DecidableEq κ] in
/-- Who works for the type in the full run works in the other one. -/
theorem permit_there {full lone : Limiter ι κ} {permit : Permit ι}
    (h : Alike typing jobType pairs full lone) (hmine : Mine typing jobType permit.asker)
    (found : full.permit? permit.asker = some permit) :
    ∃ permit', lone.permit? permit'.asker = some permit' ∧ SamePermit pairs permit permit' := by
  obtain ⟨permit', found', hsame⟩ := eq_some_of_rel (found ▸ h.permits permit.asker hmine)
  exact ⟨permit', hsame.asker ▸ found', hsame⟩

omit [DecidableEq κ] in
/-- Who looks in the full run looks in the other one, if it asks for the type and finds it registered. -/
theorem presents {full lone shown : Limiter ι κ} {waiter : Waiter ι κ}
    (h : Alike typing jobType pairs full lone) (hkeeps : act.keeps typing jobType = true)
    (hthere : act.acquires jobType → (full.registered.lookup jobType).isSome = true)
    (hmine : Mine typing jobType waiter.asker) (hpresents : Presents full act waiter shown) :
    ∃ waiter' shown', Presents lone act waiter' shown' ∧ SameWait pairs waiter waiter' := by
  cases hpresents with
  | newcomer asker other cancellation =>
    obtain rfl : other = jobType := by simpa [Act.keeps, Act.concerns?] using hkeeps
    obtain ⟨g, hfull⟩ := Option.isSome_iff_exists.mp (hthere ⟨asker, cancellation, rfl⟩)
    obtain ⟨g', hlone, hpair⟩ := eq_some_of_rel (hfull ▸ h.own)
    refine ⟨_, _, .newcomer asker other cancellation, ?_, rfl⟩
    rwa [Limiter.gateOf, Limiter.gateOf, hfull, hlone]
  | waiter _ found =>
    obtain ⟨waiter', found', hsame⟩ := h.waiter_there hmine found
    rw [← hsame.asker]
    exact ⟨waiter', lone, .waiter waiter' found', hsame⟩

/-- **What is asked of the type** is answered in the same way in both runs. -/
theorem kept (h : Alike typing jobType pairs full.limiter lone.limiter) (hnow : lone.now = full.now)
    (hkeeps : act.keeps typing jobType = true) (htyped : act.Typed typing)
    (hthere : act.acquires jobType → (full.limiter.registered.lookup jobType).isSome = true)
    (hfresh : Fresh full.limiter act) (hfresh' : Fresh lone.limiter act)
    (hplaced : full.limiter.Placed) (hstep : Step full act reply full') :
    ∃ pairs' lone', Step lone act reply lone' ∧ lone'.now = full'.now ∧
      Alike typing jobType pairs' full'.limiter lone'.limiter := by
  cases hstep with
  | @looked _ waiter shown gate outcome presents there looks =>
    have hmine := (htyped.keeps_iff presents.asker? jobType).mp hkeeps
    obtain ⟨waiter', shown', hpresents, hsame⟩ := h.presents hkeeps hthere hmine presents
    have there' := h.gate_of_pair hsame.1 there
    have hlooks : gate.look waiter'.asker waiter'.stage
        (decide (waiter'.cancellation ∈ lone.limiter.raised)) lone.now = outcome := by
      rw [hsame.2, h.raised, hnow]
      exact looks
    exact ⟨pairs, _, .looked hpresents there' hlooks, hnow, h.settle hmine hsame (presents.shown hfresh)
      (hpresents.shown hfresh') there there' _⟩
  | @abandoned waiter gate found there =>
    have hmine := (htyped.keeps_iff rfl jobType).mp hkeeps
    obtain ⟨waiter', found', hsame⟩ := h.waiter_there hmine found
    have there' := h.gate_of_pair hsame.1 there
    have hwithdrawn : gate.withdraw waiter.asker waiter.stage =
        gate.withdraw waiter'.asker waiter'.stage := by rw [hsame.2]
    rw [hwithdrawn, ← hsame.asker]
    exact ⟨pairs, _, .abandoned found' there', hnow,
      h.settle hmine hsame (.of_found found) (.of_found found') there there' .leaves⟩
  | @released permit gate found there =>
    have hmine := (htyped.keeps_iff rfl jobType).mp hkeeps
    obtain ⟨permit', found', hsame⟩ := h.permit_there hmine found
    have there' := h.gate_of_pair hsame.1 there
    have htype : permit'.jobType = permit.jobType := by rw [hsame.2]
    have hreleased : gate.slots.release permit.asker = gate.slots.release permit'.asker := by
      rw [hsame.asker]
    rw [hreleased, ← hsame.asker, ← htype]
    exact ⟨pairs, _, .released found' there', hnow, h.handBack hmine hsame there there'⟩
  | @polledInVain asker absent =>
    have hmine := (htyped.keeps_iff rfl jobType).mp hkeeps
    exact ⟨pairs, _, .polledInVain (eq_none_of_rel (absent ▸ h.waiters asker hmine)), hnow, h⟩
  | @abandonedInVain asker absent =>
    have hmine := (htyped.keeps_iff rfl jobType).mp hkeeps
    exact ⟨pairs, _, .abandonedInVain (eq_none_of_rel (absent ▸ h.waiters asker hmine)), hnow, h⟩
  | @releasedInVain asker absent =>
    have hmine := (htyped.keeps_iff rfl jobType).mp hkeeps
    exact ⟨pairs, _, .releasedInVain (eq_none_of_rel (absent ▸ h.permits asker hmine)), hnow, h⟩
  | cancelled cancellation =>
    exact ⟨pairs, _, .cancelled cancellation, hnow, congrArg (cancellation :: ·) h.raised, h.gates, h.apart,
      h.own, h.others, h.waiters, h.permits, h.strangers⟩
  | registered other profile =>
    obtain rfl : other = jobType := by simpa [Act.keeps, Act.concerns?] using hkeeps
    exact ⟨_, _, .registered other profile, hnow, h.register hplaced profile⟩
  | passed nanos => exact ⟨pairs, _, .passed nanos, congrArg (· + nanos) hnow, h⟩

/-- **What is asked of other types** touches no gate that has a pair. -/
theorem dropped (h : Alike typing jobType pairs full.limiter lone.limiter)
    (hdropped : act.keeps typing jobType = false) (htyped : act.Typed typing)
    (hfresh : Fresh full.limiter act) (hstep : Step full act reply full') :
    full'.now = full.now ∧ Alike typing jobType pairs full'.limiter lone.limiter := by
  have hstranger : ∀ {asker}, act.asker? = some asker → ¬Mine typing jobType asker := by
    intro asker hasker hmine
    rw [(htyped.keeps_iff hasker jobType).mpr hmine] at hdropped
    cases hdropped
  have hnewcomer : ∀ {asker other cancellation}, act = .acquire asker other cancellation →
      other ≠ jobType := by
    rintro asker other cancellation rfl rfl
    simp [Act.keeps, Act.concerns?] at hdropped
  have hthere : ∀ {g g'}, pairs g g' → g < full.limiter.gates.length := by
    intro g g' hg
    obtain ⟨gate, there, -⟩ := h.gates g g' hg
    exact (List.getElem?_eq_some_iff.mp there).1
  have hgates : ∀ g g', pairs g g' → full'.limiter.gates[g]? = full.limiter.gates[g]? :=
    fun g g' hg => hstep.gates (hthere hg)
      (fun asker other hasker hstands => h.strangers asker (hstranger hasker) other g g' hstands hg)
      fun asker other cancellation hact => h.others g g' hg other (hnewcomer hact)
  obtain ⟨hnow, hraised, hlookup, hgateOf⟩ := hstep.passes_by hdropped
  refine ⟨hnow, by rw [hraised, h.raised], fun g g' hg => ?_, h.apart, ?_, fun g g' hg other hother => ?_,
    fun asker hmine => ?_, fun asker hmine => ?_, fun asker hother other g g' hstands hg => ?_⟩
  · rw [hgates g g' hg]
    exact h.gates g g' hg
  · rw [hlookup]
    exact h.own
  · rcases hgateOf other with hsame | hnew
    · rw [hsame]
      exact h.others g g' hg other hother
    · rw [hnew]
      exact Nat.ne_of_gt (hthere hg)
  · rw [(hstep.others hfresh fun hasker => hstranger hasker hmine).1]
    exact h.waiters asker hmine
  · rw [(hstep.others hfresh fun hasker => hstranger hasker hmine).2]
    exact h.permits asker hmine
  · rcases hstep.stands hfresh hstands with hold | ⟨⟨cancellation, hact⟩, hgate⟩
    · exact h.strangers asker hother other g g' hold hg
    · exact h.others g g' hg other (hnewcomer hact) hgate

end Alike

end Desk

/-! ## Along a run -/

/-- What somebody asks for in an act. -/
def Act.asksFor? [DecidableEq ι] (asker : ι) : Act ι κ → Option String
  | acquire other jobType _ => if other = asker then some jobType else none
  | _ => none

/-- What somebody asks for in a run. -/
def typeAsked [DecidableEq ι] (acts : List (Act ι κ)) (asker : ι) : Option String :=
  acts.findSome? (Act.asksFor? asker)

section Start

variable [DecidableEq ι]

/-- Where nobody asks twice, it is known what everybody asks for. -/
theorem AskOnce.typed {acts : List (Act ι κ)} (h : AskOnce acts) :
    ∀ act ∈ acts, act.Typed (typeAsked acts) := by
  rintro _ hmem asker jobType cancellation rfl
  induction acts with
  | nil => cases hmem
  | cons first rest ih =>
    unfold typeAsked
    rw [List.findSome?_cons]
    rcases List.mem_cons.mp hmem with rfl | hrest
    · simp [Act.asksFor?]
    · have hrestOnce : AskOnce rest := by
        rw [AskOnce, List.filterMap_cons] at h
        split at h
        · exact h
        · exact (List.nodup_cons.mp h).2
      have hother : first.asksFor? asker = none := by
        cases first with
        | acquire other otherType otherCancellation =>
          have hne : other ≠ asker := by
            rintro rfl
            have hnewcomer : (Act.acquire other otherType otherCancellation).newcomer? = some other := rfl
            rw [AskOnce, List.filterMap_cons_some hnewcomer] at h
            exact (List.nodup_cons.mp h).1 (List.mem_filterMap.mpr ⟨_, hrest, rfl⟩)
          simp [Act.asksFor?, hne]
        | _ => rfl
      rw [hother]
      exact ih hrestOnce hrest

/-- Two types have two gates, unless both share one. -/
theorem Limiter.ofProfiles_apart (profiles : List (String × Profile)) (fallback : Profile) :
    (ofProfiles profiles fallback : Limiter ι κ).Placed ∧ ∀ jobType g,
      (ofProfiles profiles fallback : Limiter ι κ).registered.lookup jobType = some g →
      ∀ other, other ≠ jobType → (ofProfiles profiles fallback : Limiter ι κ).gateOf other ≠ g := by
  refine @Limiter.ofProfiles_rule _ _ (fun limiter : Limiter ι κ => limiter.Placed ∧ ∀ jobType g,
    limiter.registered.lookup jobType = some g → ∀ other, other ≠ jobType → limiter.gateOf other ≠ g)
    profiles fallback ⟨⟨Nat.zero_lt_one, nofun, nofun, nofun⟩, nofun⟩ fun limiter name profile h =>
      ⟨h.1.register name profile, fun jobType g hg other hother => ?_⟩
  rw [lookup_register] at hg
  rw [gateOf_register]
  split at hg
  · cases hg
    rename_i hname
    rw [if_neg (hname ▸ hother)]
    exact Nat.ne_of_lt (h.1.gateOf_lt other)
  · have hlt : g < limiter.gates.length := by
      have hown : limiter.gateOf jobType = g := by rw [gateOf, hg]; rfl
      exact hown ▸ h.1.gateOf_lt jobType
    split
    · exact Nat.ne_of_gt hlt
    · exact h.2 jobType g hg other hother

/-- A limiter that has just been opened is like itself. -/
theorem Alike.opening (profiles : List (String × Profile)) (fallback : Profile) (jobType : String)
    (typing : ι → Option String) : ∃ pairs, Alike typing jobType pairs
      (Limiter.ofProfiles profiles fallback : Limiter ι κ) (Limiter.ofProfiles profiles fallback) := by
  obtain ⟨hplaced, hapart⟩ := Limiter.ofProfiles_apart (ι := ι) (κ := κ) profiles fallback
  have horderly : Orderly [] (Desk.opening (ι := ι) (κ := κ) profiles fallback 0) :=
    .opening profiles fallback 0
  have hempty : ∀ asker, (Limiter.ofProfiles profiles fallback : Limiter ι κ).waiter? asker = none ∧
      (Limiter.ofProfiles profiles fallback : Limiter ι κ).permit? asker = none :=
    fun asker => horderly.stranger nofun
  generalize (Limiter.ofProfiles profiles fallback : Limiter ι κ) = limiter at hplaced hapart hempty ⊢
  -- the gate of the type, if it has one, is paired with itself
  refine ⟨fun g g' => limiter.registered.lookup jobType = some g ∧ g' = g, rfl, ?_, ?_, ?_, ?_,
    fun asker _ => ?_, fun asker _ => ?_, fun asker _ other g g' hstands => ?_⟩
  · rintro g g' ⟨hg, rfl⟩
    obtain ⟨gate, there⟩ := Limiter.gate_there (hplaced.registered_lt hg)
    exact ⟨gate, there, there⟩
  · rintro g g' i i' ⟨-, rfl⟩ ⟨-, rfl⟩
    exact Iff.rfl
  · cases limiter.registered.lookup jobType with
    | none => exact .none
    | some g => exact .some ⟨rfl, rfl⟩
  · rintro g g' ⟨hg, -⟩ other hother
    exact hapart jobType g hg other hother
  · rw [(hempty asker).1]
    exact .none
  · rw [(hempty asker).2]
    exact .none
  · rcases hstands with ⟨w, hw, -⟩ | ⟨p, hp, -⟩
    · cases (hempty asker).1.symm.trans hw
    · cases (hempty asker).2.symm.trans hp

/-- Of a type, limiters that are alike say the same. -/
theorem Alike.stats {typing : ι → Option String} {jobType : String} {pairs : Nat → Nat → Prop}
    {full lone : Limiter ι κ}
    (h : Alike typing jobType pairs full lone) (hfull : full.Placed) (hlone : lone.Placed) :
    lone.stats.lookup jobType = full.stats.lookup jobType := by
  rw [Limiter.stats_lookup hlone.registered, Limiter.stats_lookup hfull.registered]
  have hown := h.own
  generalize full.registered.lookup jobType = own, lone.registered.lookup jobType = other at hown ⊢
  cases hown with
  | none => rfl
  | @some g g' hpair =>
    obtain ⟨gate, there, there'⟩ := h.gates g g' hpair
    rw [Option.bind_some, Option.bind_some, there, there']

end Start

/-- A type is registered whenever it is asked for. -/
def RegisteredWhenAsked (profiles : List (String × Profile)) (jobType : String)
    (acts : List (Act ι κ)) : Prop :=
  ∀ (first rest : List (Act ι κ)) (act : Act ι κ), acts = first ++ act :: rest → act.acquires jobType →
    jobType ∈ (registrations profiles first).map (·.1)

namespace RegisteredWhenAsked

variable {profiles : List (String × Profile)} {jobType : String}

/-- A type that is registered from the start is registered throughout. -/
theorem of_profiles (h : jobType ∈ profiles.map (·.1)) (acts : List (Act ι κ)) :
    RegisteredWhenAsked profiles jobType acts := by
  intro first rest act _ _
  rw [registrations, List.map_append]
  exact List.mem_append_left _ h

theorem of_append {first rest : List (Act ι κ)}
    (h : RegisteredWhenAsked profiles jobType (first ++ rest)) :
    RegisteredWhenAsked profiles jobType first := by
  rintro before behind act rfl hact
  exact h before (behind ++ rest) act (by simp) hact

end RegisteredWhenAsked

section Run

variable [DecidableEq ι] [DecidableEq κ] {profiles : List (String × Profile)} {fallback : Profile}
  {now : Nat} {jobType : String} {typing : ι → Option String}

/-- Whoever asks at the end of a run finds the type registered. -/
theorem RegisteredWhenAsked.lookup {acts : List (Act ι κ)} {act : Act ι κ}
    (h : RegisteredWhenAsked profiles jobType (acts ++ [act])) (honce : AskOnce acts)
    (hact : act.acquires jobType) :
    (((Desk.opening profiles fallback now).afterAll acts).limiter.registered.lookup jobType).isSome =
      true := by
  have henrolled := ((audited profiles fallback now).run honce).2.enrolled
  have hacts : ((Desk.opening profiles fallback now).visits acts).map (·.act) = acts :=
    Run.map_act_history _ acts
  rw [henrolled.latest, hacts]
  exact latest?_isSome (h acts [] act rfl hact)

/-- What is done and what it brings. -/
def Visit.exchange (v : Visit ι κ) : Act ι κ × Reply := (v.act, v.reply)

/-- What is left of a run without the acts about other types. -/
def leftOf (typing : ι → Option String) (jobType : String) (acts : List (Act ι κ)) : List (Act ι κ) :=
  acts.filter (·.keeps typing jobType)

/-- **A run and what is left of it** are alike, and what is left is answered in the same way. -/
theorem alike_run {acts : List (Act ι κ)} (hthere : RegisteredWhenAsked profiles jobType acts)
    (honce : AskOnce acts) (htyped : ∀ act ∈ acts, act.Typed typing) {start : Desk ι κ}
    (hstart : start = .opening profiles fallback now) :
    ((start.visits acts).filter (·.act.keeps typing jobType)).map Visit.exchange =
        (start.visits (leftOf typing jobType acts)).map Visit.exchange ∧
      (start.afterAll (leftOf typing jobType acts)).now = (start.afterAll acts).now ∧
      ∃ pairs, Alike typing jobType pairs (start.afterAll acts).limiter
        (start.afterAll (leftOf typing jobType acts)).limiter := by
  induction acts using List.reverseRecOn with
  | nil =>
    subst hstart
    exact ⟨rfl, rfl, Alike.opening profiles fallback jobType typing⟩
  | append_singleton acts act ih =>
    have hfirst := honce.of_sublist (List.sublist_append_left acts [act])
    obtain ⟨hreplies, hnow, pairs, halike⟩ := ih hthere.of_append hfirst fun a ha => htyped a (by simp [ha])
    have hact : act.Typed typing := htyped act (by simp)
    have hfresh : Fresh (start.afterAll acts).limiter act :=
      hstart ▸ Orderly.fresh_run profiles fallback now honce
    have hplaced : (start.afterAll acts).limiter.Placed :=
      hstart ▸ (Orderly.run profiles fallback now hfirst).placed
    have hstep := Desk.step hplaced act
    have hleft : leftOf typing jobType (acts ++ [act]) =
        leftOf typing jobType acts ++ if act.keeps typing jobType = true then [act] else [] := by
      rw [leftOf, List.filter_append, List.filter_cons, List.filter_nil, leftOf]
    rw [hleft, Desk.visits_snoc, Desk.afterAll_snoc, List.filter_append, List.map_append, hreplies,
      List.filter_cons, List.filter_nil]
    cases hkeeps : act.keeps typing jobType with
    | true =>
      have hleftOnce : AskOnce (leftOf typing jobType acts ++ [act]) :=
        honce.of_sublist (List.filter_sublist.append (List.Sublist.refl _))
      have hfresh' : Fresh (start.afterAll (leftOf typing jobType acts)).limiter act :=
        hstart ▸ Orderly.fresh_run profiles fallback now hleftOnce
      have hregistered : act.acquires jobType →
          ((start.afterAll acts).limiter.registered.lookup jobType).isSome = true :=
        fun hacquires => hstart ▸ hthere.lookup hfirst hacquires
      obtain ⟨pairs', lone, hlone, hnow', halike'⟩ :=
        halike.kept hnow hkeeps hact hregistered hfresh hfresh' hplaced hstep
      have hreply := congrArg Prod.fst hlone.act_eq
      have hafter : (start.afterAll (leftOf typing jobType acts)).after act = lone :=
        congrArg Prod.snd hlone.act_eq
      rw [if_pos rfl, if_pos rfl, Desk.visits_snoc, Desk.afterAll_snoc, List.map_append, hafter]
      exact ⟨congrArg _ (congrArg (fun reply => [(act, reply)]) hreply.symm), hnow', pairs', halike'⟩
    | false =>
      obtain ⟨hnow', halike'⟩ := halike.dropped hkeeps hact hfresh hstep
      rw [if_neg Bool.false_ne_true, if_neg Bool.false_ne_true, List.append_nil, List.map_nil,
        List.append_nil]
      exact ⟨rfl, hnow.trans hnow'.symm, pairs, halike'⟩

/-- **Other types do not matter** to a type that is registered whenever it is asked for. Take all acts about
other types out of a run, with those who ask for types that nobody registered: every act that is left brings
what it brought before, and wherever the run is stopped, the limiter says the same of the type. -/
theorem other_types_do_not_matter (profiles : List (String × Profile)) (fallback : Profile) (now : Nat)
    (jobType : String) (acts : List (Act ι κ)) (honce : AskOnce acts)
    (hthere : RegisteredWhenAsked profiles jobType acts) :
    let start : Desk ι κ := .opening profiles fallback now
    let typing := typeAsked acts
    ((start.visits acts).filter (·.act.keeps typing jobType)).map Visit.exchange =
      (start.visits (leftOf typing jobType acts)).map Visit.exchange ∧
    ∀ first rest, acts = first ++ rest →
      (start.afterAll (leftOf typing jobType first)).limiter.stats.lookup jobType =
        (start.afterAll first).limiter.stats.lookup jobType := by
  intro start typing
  refine ⟨(alike_run hthere honce honce.typed rfl).1, ?_⟩
  rintro first rest rfl
  have hfirst := honce.of_sublist (List.sublist_append_left first rest)
  have hleft : AskOnce (leftOf typing jobType first) := hfirst.of_sublist List.filter_sublist
  have htyped : ∀ act ∈ first, act.Typed typing :=
    fun act hact => honce.typed act (List.mem_append_left rest hact)
  have hstart : start = .opening profiles fallback now := rfl
  obtain ⟨-, -, pairs, halike⟩ := alike_run hthere.of_append hfirst htyped hstart
  exact halike.stats (Orderly.run profiles fallback now hfirst).placed
    (Orderly.run profiles fallback now hleft).placed

end Run

def twoTypes : List (String × Profile) :=
  [("mail", ⟨1, Binary64.ofNat 1, 5⟩), ("resize", ⟨1, Binary64.ofNat 1, 5⟩)]

/-- Mails between a type that is registered anew, one that nobody registered, and a cancellation that both
a mail and a resize wait under. -/
def mixed : List (Act Nat Nat) :=
  [.acquire 1 "resize" 0, .acquire 2 "mail" 0, .acquire 3 "resize" 1, .acquire 4 "mail" 1,
   .acquire 5 "sweep" 0, .register "resize" ⟨2, Binary64.ofNat 1, 5⟩, .acquire 6 "mail" 0, .cancel 1,
   .poll 3, .poll 4, .release 1, .pass 500, .release 2, .poll 6, .abandon 5]

theorem other_types_do_not_matter_mixed :
    AskOnce mixed ∧ RegisteredWhenAsked twoTypes "mail" mixed ∧
    (((Desk.opening twoTypes Profile.fallback 0).visits mixed).filter
        (·.act.keeps (typeAsked mixed) "mail")).map Visit.exchange =
      [(.acquire 2 "mail" 0, .looked (some .granted)), (.acquire 4 "mail" 1, .looked (some .waiting)),
       (.acquire 6 "mail" 0, .looked (some .waiting)), (.cancel 1, .done),
       (.poll 4, .looked (some (.denied .cancelled))), (.pass 500, .done),
       (.release 2, .released (some "mail")), (.poll 6, .looked (some .granted))] ∧
    ((Desk.opening twoTypes Profile.fallback 0).afterAll mixed).limiter.stats.lookup "mail" =
      some ⟨1, 1, Binary64.ofNat 1⟩ := by
  have honce : AskOnce mixed := by decide
  have hthere : RegisteredWhenAsked twoTypes "mail" mixed := .of_profiles (by decide) mixed
  obtain ⟨hanswers, hstats⟩ :=
    other_types_do_not_matter twoTypes Profile.fallback 0 "mail" mixed honce hthere
  refine ⟨honce, hthere, hanswers.trans ?_, (hstats mixed [] (by simp)).symm.trans ?_⟩
  · decide
  · decide

end DurableJobs.Admission
