import DurableJobs.Proofs.Admission.Gate
import DurableJobs.Proofs.Run

/-!
# A limiter at work

A `Desk` is a limiter with the clock it reads. A run of it is a list of acts of any askers in any order:
asking, looking again, giving up, giving a permit back, raising a cancellation, registering a type, and
letting time pass. An asker stands for one wait, so nobody asks twice (`AskOnce`).

`Step` says once and for all what an act can do, in terms of one gate and one asker, and every law of a
desk is a case analysis on it. It holds of desks in which nobody refers to a gate that is not there, and
that is part of what every run keeps (`Orderly`).
-/

set_option autoImplicit false

namespace DurableJobs.Admission

variable {ι κ : Type}

/-! ## Acts -/

/-- What can be done with a limiter. -/
inductive Act (ι κ : Type) where
  | acquire (asker : ι) (jobType : String) (cancellation : κ)
  | poll (asker : ι)
  | abandon (asker : ι)
  | release (asker : ι)
  | cancel (cancellation : κ)
  | register (jobType : String) (profile : Profile)
  /-- Time goes by. -/
  | pass (nanos : Nat)
  deriving DecidableEq

namespace Act

/-- Whose act it is. -/
def asker? : Act ι κ → Option ι
  | acquire asker _ _ | poll asker | abandon asker | release asker => some asker
  | cancel _ | register _ _ | pass _ => none

/-- Who asks for the first time. -/
def newcomer? : Act ι κ → Option ι
  | acquire asker _ _ => some asker
  | _ => none

end Act

/-- Nobody asks twice. -/
def AskOnce (acts : List (Act ι κ)) : Prop := (acts.filterMap Act.newcomer?).Nodup

instance [DecidableEq ι] (acts : List (Act ι κ)) : Decidable (AskOnce acts) :=
  inferInstanceAs (Decidable (List.Nodup _))

theorem AskOnce.of_sublist {acts fewer : List (Act ι κ)} (h : AskOnce acts)
    (hsub : fewer.Sublist acts) : AskOnce fewer := (hsub.filterMap _).nodup h

/-! ## Who comes to a limiter -/

section Askers

variable [DecidableEq ι] {limiter presented : Limiter ι κ} {act : Act ι κ} {waiter : Waiter ι κ}
  {gate : Gate ι}

/-- Whoever waits, works or may come is at a gate that is there. -/
structure Limiter.Placed (limiter : Limiter ι κ) : Prop where
  shared : 0 < limiter.gates.length
  registered : ∀ entry ∈ limiter.registered, entry.2 < limiter.gates.length
  waiters : ∀ asker w, limiter.waiter? asker = some w → w.gate < limiter.gates.length
  permits : ∀ asker p, limiter.permit? asker = some p → p.gate < limiter.gates.length

namespace Limiter.Placed

variable {limiter : Limiter ι κ}

theorem registered_lt (h : limiter.Placed) {jobType : String} {g : Nat}
    (hg : limiter.registered.lookup jobType = some g) : g < limiter.gates.length := by
  obtain ⟨first, rest, hentries, -⟩ := List.lookup_eq_some_iff.mp hg
  exact h.registered (jobType, g) (by rw [hentries]; simp)

theorem gateOf_lt (h : limiter.Placed) (jobType : String) :
    limiter.gateOf jobType < limiter.gates.length := by
  unfold gateOf
  cases hg : limiter.registered.lookup jobType with
  | none => exact h.shared
  | some g => exact h.registered_lt hg

theorem register (h : limiter.Placed) (jobType : String)
    (profile : Profile) : (limiter.register jobType profile).Placed := by
  have hlength : (limiter.register jobType profile).gates.length = limiter.gates.length + 1 :=
    List.length_append
  refine ⟨by omega, fun entry hentry => ?_, fun asker w hw => ?_, fun asker p hp => ?_⟩
  · rcases List.mem_cons.mp hentry with rfl | hold
    · exact hlength ▸ Nat.lt_succ_self _
    · have := h.registered entry (List.mem_filter.mp hold).1
      omega
  · have := h.waiters asker w hw
    omega
  · have := h.permits asker p hp
    omega

/-- Who is moved on stays at its gate. -/
theorem settle (h : limiter.Placed) (found : limiter.waiter? waiter.asker = some waiter) (next : Next) :
    (limiter.settle waiter gate next).Placed := by
  have hlt := h.waiters _ _ found
  refine ⟨?_, fun entry hentry => ?_, fun asker w hw => ?_, fun asker p hp => ?_⟩
  · rw [Limiter.length_gates_settle]
    exact h.shared
  · rw [Limiter.length_gates_settle]
    rw [Limiter.registered_settle] at hentry
    exact h.registered entry hentry
  · rw [Limiter.length_gates_settle]
    rw [Limiter.waiter?_settle found] at hw
    split at hw
    · have hgate : w.gate = waiter.gate := by
        cases next <;> cases hw <;> rfl
      exact hgate ▸ hlt
    · exact h.waiters asker w hw
  · rw [Limiter.length_gates_settle]
    rw [Limiter.permit?_settle] at hp
    split at hp
    · cases hp
      exact hlt
    · exact h.permits asker p hp

theorem handBack (h : limiter.Placed) (permit : Permit ι) : (limiter.handBack permit gate).Placed := by
  have hlength : (limiter.handBack permit gate).gates.length = limiter.gates.length :=
    List.length_modify _ _ _
  refine ⟨hlength ▸ h.shared, fun entry hentry => hlength ▸ h.registered entry hentry,
    fun asker w hw => hlength ▸ h.waiters asker w hw, fun asker p hp => ?_⟩
  rw [Limiter.permit?_handBack] at hp
  split at hp
  · cases hp
  · exact hlength ▸ h.permits asker p hp

end Limiter.Placed

/-- Somebody of that name waits or works, for that type and at that gate. -/
def Limiter.Stands (limiter : Limiter ι κ) (asker : ι) (jobType : String) (gate : Nat) : Prop :=
  (∃ w, limiter.waiter? asker = some w ∧ w.jobType = jobType ∧ w.gate = gate) ∨
    ∃ p, limiter.permit? asker = some p ∧ p.jobType = jobType ∧ p.gate = gate

/-- Who looks in an act, and the limiter with it among those who wait. -/
inductive Presents (limiter : Limiter ι κ) : Act ι κ → Waiter ι κ → Limiter ι κ → Prop where
  | newcomer (asker : ι) (jobType : String) (cancellation : κ) :
      Presents limiter (.acquire asker jobType cancellation)
        ⟨asker, jobType, limiter.gateOf jobType, cancellation, .token⟩
        (limiter.join ⟨asker, jobType, limiter.gateOf jobType, cancellation, .token⟩)
  | waiter (waiter : Waiter ι κ) (found : limiter.waiter? waiter.asker = some waiter) :
      Presents limiter (.poll waiter.asker) waiter limiter

/-- Nobody of that name waits or works when it asks. -/
def Fresh (limiter : Limiter ι κ) (act : Act ι κ) : Prop :=
  ∀ asker, act.newcomer? = some asker →
    limiter.waiter? asker = none ∧ limiter.permit? asker = none

namespace Presents

variable {limiter presented : Limiter ι κ} {act : Act ι κ} {waiter : Waiter ι κ}

theorem asker? (h : Presents limiter act waiter presented) : act.asker? = some waiter.asker := by
  cases h <;> rfl

theorem gates (h : Presents limiter act waiter presented) : presented.gates = limiter.gates := by
  cases h <;> rfl

theorem registered (h : Presents limiter act waiter presented) :
    presented.registered = limiter.registered := by
  cases h <;> rfl

theorem permit? (h : Presents limiter act waiter presented) (asker : ι) :
    presented.permit? asker = limiter.permit? asker := by
  cases h <;> rfl

/-- Whoever looks waits, and the others wait as before. -/
theorem waiter? (h : Presents limiter act waiter presented) (hfresh : Fresh limiter act) (asker : ι) :
    presented.waiter? asker =
      if asker = waiter.asker then some waiter else limiter.waiter? asker := by
  cases h with
  | newcomer => exact Limiter.waiter?_join (hfresh _ rfl).1 asker
  | waiter _ found =>
    by_cases hasker : asker = waiter.asker
    · rw [if_pos hasker, hasker, found]
    · rw [if_neg hasker]

/-- Whoever looks has no permit. -/
theorem permit?_eq_none (h : Presents limiter act waiter presented) (hfresh : Fresh limiter act)
    (hapart : ∀ asker, limiter.waiter? asker = none ∨ limiter.permit? asker = none) :
    limiter.permit? waiter.asker = none := by
  cases h with
  | newcomer => exact (hfresh _ rfl).2
  | waiter _ found =>
    refine (hapart waiter.asker).resolve_left fun hnone => ?_
    rw [found] at hnone
    cases hnone

theorem placed (h : Presents limiter act waiter presented) (hfresh : Fresh limiter act)
    (hplaced : limiter.Placed) : presented.Placed := by
  have hwaiter := h.waiter? hfresh
  cases h with
  | waiter => exact hplaced
  | newcomer asker jobType =>
    refine ⟨hplaced.shared, hplaced.registered, fun other w hw => ?_, hplaced.permits⟩
    rw [hwaiter] at hw
    split at hw
    · cases hw
      exact hplaced.gateOf_lt jobType
    · exact hplaced.waiters other w hw

/-- Whoever looks has just come, or has waited. -/
theorem cases_waiter (h : Presents limiter act waiter presented) :
    (act.newcomer? = some waiter.asker ∧ waiter.stage = .token) ∨
      limiter.waiter? waiter.asker = some waiter := by
  cases h with
  | newcomer => exact Or.inl ⟨rfl, rfl⟩
  | waiter _ found => exact Or.inr found

end Presents

/-- A limiter with somebody among those who wait. -/
structure Shown (limiter : Limiter ι κ) (waiter : Waiter ι κ) (presented : Limiter ι κ) : Prop where
  gates : presented.gates = limiter.gates
  registered : presented.registered = limiter.registered
  raised : presented.raised = limiter.raised
  waiters : ∀ asker, presented.waiter? asker =
    if asker = waiter.asker then some waiter else limiter.waiter? asker
  permits : ∀ asker, presented.permit? asker = limiter.permit? asker

theorem Presents.shown {limiter presented : Limiter ι κ} {act : Act ι κ} {waiter : Waiter ι κ}
    (h : Presents limiter act waiter presented) (hfresh : Fresh limiter act) :
    Shown limiter waiter presented where
  gates := h.gates
  registered := h.registered
  raised := by cases h <;> rfl
  waiters := h.waiter? hfresh
  permits := h.permit?

theorem Shown.of_found {limiter : Limiter ι κ} {waiter : Waiter ι κ}
    (found : limiter.waiter? waiter.asker = some waiter) : Shown limiter waiter limiter where
  gates := rfl
  registered := rfl
  raised := rfl
  waiters asker := by
    by_cases hasker : asker = waiter.asker
    · rw [if_pos hasker, hasker, found]
    · rw [if_neg hasker]
  permits _ := rfl

namespace Shown

variable {limiter presented : Limiter ι κ} {waiter : Waiter ι κ} {gate old : Gate ι}

/-- Who was shown waits as the look says, and the others wait as before it was shown. -/
theorem waiter?_settle (h : Shown limiter waiter presented) (next : Next) (asker : ι) :
    (presented.settle waiter gate next).waiter? asker =
      if asker = waiter.asker then next.wait? waiter else limiter.waiter? asker := by
  rw [Limiter.waiter?_settle ((h.waiters _).trans (if_pos rfl))]
  by_cases hasker : asker = waiter.asker
  · rw [if_pos hasker, if_pos hasker]
  · rw [if_neg hasker, if_neg hasker, h.waiters, if_neg hasker]

/-- Who was shown gets its permit if the look says so, and the others keep theirs. -/
theorem permit?_settle (h : Shown limiter waiter presented) (next : Next) (asker : ι) :
    (presented.settle waiter gate next).permit? asker =
      if next = .works ∧ asker = waiter.asker then some ⟨waiter.asker, waiter.jobType, waiter.gate⟩
      else limiter.permit? asker := by
  rw [Limiter.permit?_settle, h.permits]

theorem gates_settle (h : Shown limiter waiter presented) (there : limiter.gates[waiter.gate]? = some old)
    (next : Next) (g : Nat) : (presented.settle waiter gate next).gates[g]? =
      if g = waiter.gate then some gate else limiter.gates[g]? := by
  rw [Limiter.gates_settle (h.gates ▸ there), h.gates]

end Shown

end Askers

/-! ## Desks -/

/-- What an act brings. -/
inductive Reply where
  /-- Nothing is answered to somebody who does not wait. -/
  | looked (answer : Option Answer)
  | abandoned (waited : Bool)
  | released (jobType : Option String)
  | done
  deriving DecidableEq

/-- A limiter and the clock it reads. -/
structure Desk (ι κ : Type) where
  limiter : Limiter ι κ
  now : Nat

variable [DecidableEq ι] [DecidableEq κ]

namespace Desk

def act (desk : Desk ι κ) : Act ι κ → Reply × Desk ι κ
  | .acquire asker jobType cancellation =>
      let (answer, limiter) := desk.limiter.acquire asker jobType cancellation desk.now
      (.looked (some answer), { desk with limiter })
  | .poll asker =>
      let (answer, limiter) := desk.limiter.poll asker desk.now
      (.looked answer, { desk with limiter })
  | .abandon asker =>
      let (waited, limiter) := desk.limiter.abandon asker
      (.abandoned waited, { desk with limiter })
  | .release asker =>
      let (jobType, limiter) := desk.limiter.release asker
      (.released jobType, { desk with limiter })
  | .cancel cancellation => (.done, { desk with limiter := desk.limiter.cancel cancellation })
  | .register jobType profile => (.done, { desk with limiter := desk.limiter.register jobType profile })
  | .pass nanos => (.done, { desk with now := desk.now + nanos })

def after (desk : Desk ι κ) (act : Act ι κ) : Desk ι κ := (desk.act act).2

/-- A desk that has just been opened. -/
def opening (profiles : List (String × Profile)) (fallback : Profile) (now : Nat) : Desk ι κ :=
  ⟨Limiter.ofProfiles profiles fallback, now⟩

/-- The desk behind a run. -/
abbrev afterAll (desk : Desk ι κ) (acts : List (Act ι κ)) : Desk ι κ := Run.final after desk acts

end Desk

/-- An act and the desk it meets. -/
abbrev Visit (ι κ : Type) := Event (Desk ι κ) (Act ι κ)

/-- The visits of a run. -/
abbrev Desk.visits (desk : Desk ι κ) (acts : List (Act ι κ)) : List (Visit ι κ) :=
  Run.history Desk.after desk acts

theorem Desk.visits_snoc (desk : Desk ι κ) (acts : List (Act ι κ)) (act : Act ι κ) :
    desk.visits (acts ++ [act]) = desk.visits acts ++ [⟨desk.afterAll acts, act⟩] :=
  Run.history_append _ _ _

theorem Desk.afterAll_snoc (desk : Desk ι κ) (acts : List (Act ι κ)) (act : Act ι κ) :
    desk.afterAll (acts ++ [act]) = (desk.afterAll acts).after act := Run.final_append _ _ _

namespace Visit

def reply (v : Visit ι κ) : Reply := (v.before.act v.act).1

def after (v : Visit ι κ) : Desk ι κ := v.before.after v.act

end Visit

/-- Whoever asks in a visit has not asked before. -/
def AsksFirst (earlier : List (Visit ι κ)) (v : Visit ι κ) : Prop :=
  ∀ asker, v.act.newcomer? = some asker → ∀ c ∈ earlier, c.act.newcomer? ≠ some asker

theorem AskOnce.split {desk : Desk ι κ} {acts : List (Act ι κ)} (h : AskOnce acts)
    {earlier later : List (Visit ι κ)} {v : Visit ι κ}
    (hsplit : desk.visits acts = earlier ++ v :: later) : AsksFirst earlier v := by
  intro asker hnew c hc hold
  have hacts : (desk.visits acts).map (·.act) = acts := Run.map_act_history desk acts
  rw [hsplit, List.map_append, List.map_cons] at hacts
  rw [AskOnce, ← hacts, List.filterMap_append, List.filterMap_cons_some hnew] at h
  have hmem : asker ∈ (earlier.map (·.act)).filterMap Act.newcomer? :=
    List.mem_filterMap.mpr ⟨c.act, List.mem_map_of_mem hc, hold⟩
  exact (List.nodup_append.mp h).2.2 asker hmem asker List.mem_cons_self rfl

/-- A law of visits and the desk behind them holds after every run in which nobody asks twice, if every
visit keeps it whose asker, if it asks, has not asked before. -/
theorem Desk.invariant {law : List (Visit ι κ) → Desk ι κ → Prop} {start : Desk ι κ}
    (base : law [] start)
    (next : ∀ earlier (v : Visit ι κ), AsksFirst earlier v → law earlier v.before →
      law (earlier ++ [v]) v.after)
    (acts : List (Act ι κ)) (honce : AskOnce acts) :
    law (start.visits acts) (start.afterAll acts) :=
  @Run.invariant_of_past _ _ Desk.after AsksFirst law start base
    (fun earlier desk act hnew h => next earlier ⟨desk, act⟩ hnew h) acts
    fun _ _ _ hsplit => honce.split hsplit

/-! ## What an act can do -/

/-- What an act can make of a desk, and what it brings then. -/
inductive Step (desk : Desk ι κ) : Act ι κ → Reply → Desk ι κ → Prop where
  | looked {act : Act ι κ} {waiter : Waiter ι κ} {limiter : Limiter ι κ} {gate : Gate ι}
      {outcome : Outcome ι} (presents : Presents desk.limiter act waiter limiter)
      (there : desk.limiter.gates[waiter.gate]? = some gate)
      (looks : gate.look waiter.asker waiter.stage
        (decide (waiter.cancellation ∈ desk.limiter.raised)) desk.now = outcome) :
      Step desk act (.looked (some outcome.answer))
        ⟨limiter.settle waiter outcome.gate outcome.next, desk.now⟩
  | abandoned {waiter : Waiter ι κ} {gate : Gate ι}
      (found : desk.limiter.waiter? waiter.asker = some waiter)
      (there : desk.limiter.gates[waiter.gate]? = some gate) :
      Step desk (.abandon waiter.asker) (.abandoned true)
        ⟨desk.limiter.settle waiter (gate.withdraw waiter.asker waiter.stage) .leaves, desk.now⟩
  | released {permit : Permit ι} {gate : Gate ι}
      (found : desk.limiter.permit? permit.asker = some permit)
      (there : desk.limiter.gates[permit.gate]? = some gate) :
      Step desk (.release permit.asker) (.released (some permit.jobType))
        ⟨desk.limiter.handBack permit { gate with slots := gate.slots.release permit.asker }, desk.now⟩
  | polledInVain {asker : ι} (absent : desk.limiter.waiter? asker = none) :
      Step desk (.poll asker) (.looked none) desk
  | abandonedInVain {asker : ι} (absent : desk.limiter.waiter? asker = none) :
      Step desk (.abandon asker) (.abandoned false) desk
  | releasedInVain {asker : ι} (absent : desk.limiter.permit? asker = none) :
      Step desk (.release asker) (.released none) desk
  | cancelled (cancellation : κ) :
      Step desk (.cancel cancellation) .done ⟨desk.limiter.cancel cancellation, desk.now⟩
  | registered (jobType : String) (profile : Profile) :
      Step desk (.register jobType profile) .done ⟨desk.limiter.register jobType profile, desk.now⟩
  | passed (nanos : Nat) : Step desk (.pass nanos) .done ⟨desk.limiter, desk.now + nanos⟩

/-- The list says what an act does. -/
theorem Step.act_eq {desk after : Desk ι κ} {act : Act ι κ} {reply : Reply}
    (h : Step desk act reply after) : desk.act act = (reply, after) := by
  cases h with
  | @looked _ waiter presented gate outcome presents there looks =>
    have hthere : presented.gates[waiter.gate]? = some gate := presents.gates ▸ there
    have hlook := Limiter.look_eq hthere desk.now
    cases presents with
    | newcomer asker jobType cancellation =>
      simp only [Desk.act, Limiter.acquire]
      change (Reply.looked (some ((desk.limiter.join _).look _ _).1),
        Desk.mk ((desk.limiter.join _).look _ _).2 _) = _
      rw [hlook]
      cases looks
      rfl
    | waiter _ found =>
      simp only [Desk.act, Limiter.poll, found]
      rw [hlook]
      cases looks
      rfl
  | abandoned found there =>
    simp only [Desk.act, Limiter.abandon, found]
    rw [Limiter.withdraw_eq there]
  | released found there =>
    rw [Limiter.permit?] at found
    simp only [Desk.act, Limiter.release, found]
    rw [Limiter.updateGate_eq there]
    rfl
  | polledInVain absent => simp only [Desk.act, Limiter.poll, absent]
  | abandonedInVain absent => simp only [Desk.act, Limiter.abandon, absent]
  | releasedInVain absent =>
    rw [Limiter.permit?] at absent
    simp only [Desk.act, Limiter.release, absent]
  | cancelled | registered | passed => rfl

/-- **What an act does** is in the list. -/
theorem Desk.step {desk : Desk ι κ} (h : desk.limiter.Placed) (act : Act ι κ) :
    Step desk act (desk.act act).1 (desk.after act) := by
  suffices hstep : ∃ reply after, Step desk act reply after by
    obtain ⟨reply, after, hstep⟩ := hstep
    rw [Desk.after, hstep.act_eq]
    exact hstep
  cases act with
  | acquire asker jobType cancellation =>
    obtain ⟨gate, there⟩ := Limiter.gate_there (h.gateOf_lt jobType)
    exact ⟨_, _, .looked (.newcomer asker jobType cancellation) there rfl⟩
  | poll asker =>
    cases hfound : desk.limiter.waiter? asker with
    | none => exact ⟨_, _, .polledInVain hfound⟩
    | some w =>
      obtain ⟨gate, there⟩ := Limiter.gate_there (h.waiters asker w hfound)
      obtain rfl := Limiter.waiter?_asker hfound
      exact ⟨_, _, .looked (.waiter w hfound) there rfl⟩
  | abandon asker =>
    cases hfound : desk.limiter.waiter? asker with
    | none => exact ⟨_, _, .abandonedInVain hfound⟩
    | some w =>
      obtain ⟨gate, there⟩ := Limiter.gate_there (h.waiters asker w hfound)
      obtain rfl := Limiter.waiter?_asker hfound
      exact ⟨_, _, .abandoned hfound there⟩
  | release asker =>
    cases hfound : desk.limiter.permit? asker with
    | none => exact ⟨_, _, .releasedInVain hfound⟩
    | some p =>
      obtain ⟨gate, there⟩ := Limiter.gate_there (h.permits asker p hfound)
      obtain rfl := Limiter.permit?_asker hfound
      exact ⟨_, _, .released hfound there⟩
  | cancel cancellation => exact ⟨_, _, .cancelled cancellation⟩
  | register jobType profile => exact ⟨_, _, .registered jobType profile⟩
  | pass nanos => exact ⟨_, _, .passed nanos⟩

/-! ## Those whom an act leaves alone -/

section Step

variable {desk after : Desk ι κ} {act : Act ι κ} {reply : Reply} {other : ι}

/-- **An act moves nobody but its asker.** -/
theorem Step.others (h : Step desk act reply after) (hfresh : Fresh desk.limiter act)
    (hother : act.asker? ≠ some other) :
    after.limiter.waiter? other = desk.limiter.waiter? other ∧
      after.limiter.permit? other = desk.limiter.permit? other := by
  cases h with
  | looked presents there looks =>
    have hne : ∀ {waiter : Waiter ι κ}, act.asker? = some waiter.asker → ¬other = waiter.asker :=
      fun hasker heq => hother (heq ▸ hasker)
    refine ⟨((presents.shown hfresh).waiter?_settle _ other).trans (if_neg (hne presents.asker?)), ?_⟩
    exact ((presents.shown hfresh).permit?_settle _ other).trans (if_neg fun h => hne presents.asker? h.2)
  | @abandoned waiter _ found there =>
    have hne : ¬other = waiter.asker := fun heq => hother (congrArg some heq.symm)
    refine ⟨(Limiter.waiter?_settle found _ other).trans (if_neg hne), ?_⟩
    exact (Limiter.permit?_settle _ other).trans (if_neg fun h => hne h.2)
  | @released permit _ found there =>
    have hne : ¬other = permit.asker := fun heq => hother (congrArg some heq.symm)
    exact ⟨rfl, (Limiter.permit?_handBack permit other).trans (if_neg hne)⟩
  | _ => exact ⟨rfl, rfl⟩

/-- **Whoever waits or works** has stood there before, or asks in this act and is sent to the gate of its
type. -/
theorem Step.stands (h : Step desk act reply after) (hfresh : Fresh desk.limiter act)
    {jobType : String} {gate : Nat} (hstands : after.limiter.Stands other jobType gate) :
    desk.limiter.Stands other jobType gate ∨
      (∃ cancellation, act = .acquire other jobType cancellation) ∧
        desk.limiter.gateOf jobType = gate := by
  by_cases hother : act.asker? = some other
  · cases h with
    | @looked _ waiter _ _ outcome presents =>
      rw [presents.asker?] at hother
      cases hother
      unfold Limiter.Stands at hstands
      simp only [(presents.shown hfresh).waiter?_settle, (presents.shown hfresh).permit?_settle, if_true,
        and_true] at hstands
      -- whatever the look brings, its asker keeps its type and its gate
      have hkept : (waiter.jobType = jobType ∧ waiter.gate = gate) ∨
          ∃ p, desk.limiter.permit? waiter.asker = some p ∧ p.jobType = jobType ∧ p.gate = gate := by
        rcases hstands with ⟨w, hw, htype, hgate⟩ | ⟨p, hp, htype, hgate⟩
        · left
          cases hnext : outcome.next <;> rw [hnext] at hw <;> cases hw <;> exact ⟨htype, hgate⟩
        · split at hp
          · cases hp
            exact Or.inl ⟨htype, hgate⟩
          · exact Or.inr ⟨p, hp, htype, hgate⟩
      rcases hkept with ⟨rfl, rfl⟩ | hworks
      · cases presents with
        | newcomer asker jobType cancellation => exact Or.inr ⟨⟨cancellation, rfl⟩, rfl⟩
        | waiter _ found => exact Or.inl (Or.inl ⟨waiter, found, rfl, rfl⟩)
      · exact Or.inl (Or.inr hworks)
    | abandoned found =>
      cases hother
      unfold Limiter.Stands at hstands
      simp only [Limiter.waiter?_settle found, Limiter.permit?_settle, if_true] at hstands
      refine Or.inl (Or.inr (hstands.resolve_left ?_))
      rintro ⟨w, hw, -⟩
      cases hw
    | released found =>
      cases hother
      unfold Limiter.Stands at hstands
      simp only [Limiter.permit?_handBack, if_true] at hstands
      refine Or.inl (Or.inl (hstands.resolve_right ?_))
      rintro ⟨p, hp, -⟩
      cases hp
    | _ => exact Or.inl hstands
  · obtain ⟨hwaits, hworks⟩ := h.others hfresh hother
    unfold Limiter.Stands at hstands
    rw [hwaits, hworks] at hstands
    exact Or.inl hstands

/-- Nobody waits and works at once. -/
theorem Step.apart (h : Step desk act reply after) (hfresh : Fresh desk.limiter act)
    (hapart : ∀ asker, desk.limiter.waiter? asker = none ∨ desk.limiter.permit? asker = none) :
    after.limiter.waiter? other = none ∨ after.limiter.permit? other = none := by
  by_cases hother : act.asker? = some other
  · cases h with
    | @looked _ waiter _ _ outcome presents =>
      rw [presents.asker?] at hother
      cases hother
      -- whoever gets its permit has stopped waiting, and nobody else gets one
      rw [(presents.shown hfresh).waiter?_settle, (presents.shown hfresh).permit?_settle, if_pos rfl]
      cases outcome.next with
      | leaves | works => exact Or.inl rfl
      | stays | queues =>
        rw [if_neg fun h => nomatch h.1]
        exact Or.inr (presents.permit?_eq_none hfresh hapart)
    | abandoned found =>
      cases hother
      exact Or.inl ((Limiter.waiter?_settle found _ _).trans (if_pos rfl))
    | released found =>
      cases hother
      exact Or.inr ((Limiter.permit?_handBack _ _).trans (if_pos rfl))
    | _ => exact hapart other
  · obtain ⟨hwaits, hworks⟩ := h.others hfresh hother
    rw [hwaits, hworks]
    exact hapart other

/-- Nobody is sent to a gate that is not there. -/
theorem Step.placed (h : Step desk act reply after) (hfresh : Fresh desk.limiter act)
    (hplaced : desk.limiter.Placed) : after.limiter.Placed := by
  cases h with
  | looked presents =>
    exact (presents.placed hfresh hplaced).settle ((presents.waiter? hfresh _).trans (if_pos rfl)) _
  | abandoned found => exact hplaced.settle found .leaves
  | released found => exact hplaced.handBack _
  | registered jobType profile => exact hplaced.register jobType profile
  | polledInVain | abandonedInVain | releasedInVain | passed => exact hplaced
  | cancelled cancellation => exact ⟨hplaced.shared, hplaced.registered, hplaced.waiters, hplaced.permits⟩

end Step

/-! ## What every run keeps -/

/-- Somebody has asked for a type, and was sent to a gate. -/
def AskedAt (visits : List (Visit ι κ)) (asker : ι) (jobType : String) (gate : Nat) : Prop :=
  ∃ v ∈ visits, (∃ cancellation, v.act = .acquire asker jobType cancellation) ∧
    v.before.limiter.gateOf jobType = gate

/-- Everybody is at a gate that is there, nobody waits and works at once, and whoever waits or works has
been sent to its gate when it asked. -/
structure Orderly (visits : List (Visit ι κ)) (desk : Desk ι κ) : Prop where
  placed : desk.limiter.Placed
  apart : ∀ asker, desk.limiter.waiter? asker = none ∨ desk.limiter.permit? asker = none
  asked : ∀ asker jobType gate, desk.limiter.Stands asker jobType gate →
    AskedAt visits asker jobType gate

namespace Orderly

variable {visits : List (Visit ι κ)} {v : Visit ι κ}

omit [DecidableEq κ] in
theorem opening (profiles : List (String × Profile)) (fallback : Profile) (now : Nat) :
    Orderly [] (Desk.opening (ι := ι) (κ := κ) profiles fallback now) := by
  let limiter : Limiter ι κ := .ofProfiles profiles fallback
  have hplaced : limiter.Placed :=
    Limiter.ofProfiles_rule profiles fallback ⟨Nat.zero_lt_one, nofun, nofun, nofun⟩
      fun _ jobType profile h => h.register jobType profile
  have hwaiter : ∀ asker, limiter.waiter? asker = none := fun asker =>
    @Limiter.ofProfiles_rule _ _ (fun limiter => limiter.waiter? asker = none) profiles fallback rfl
      fun _ _ _ h => h
  have hpermit : ∀ asker, limiter.permit? asker = none := fun asker =>
    @Limiter.ofProfiles_rule _ _ (fun limiter => limiter.permit? asker = none) profiles fallback rfl
      fun _ _ _ h => h
  refine ⟨hplaced, fun asker => Or.inl (hwaiter asker), fun asker jobType gate hstands => ?_⟩
  rcases hstands with ⟨w, hw, -⟩ | ⟨p, hp, -⟩
  · exact absurd hw (by rw [Desk.opening, hwaiter]; nofun)
  · exact absurd hp (by rw [Desk.opening, hpermit]; nofun)

omit [DecidableEq κ] in
/-- Who has not asked neither waits nor works. -/
theorem stranger {desk : Desk ι κ} {asker : ι} (h : Orderly visits desk)
    (hnew : ∀ c ∈ visits, c.act.newcomer? ≠ some asker) :
    desk.limiter.waiter? asker = none ∧ desk.limiter.permit? asker = none := by
  have habsent : ∀ jobType gate, ¬desk.limiter.Stands asker jobType gate := by
    intro jobType gate hstands
    obtain ⟨c, hc, ⟨cancellation, hact⟩, -⟩ := h.asked asker jobType gate hstands
    exact hnew c hc (by rw [hact]; rfl)
  refine ⟨Option.eq_none_iff_forall_ne_some.mpr fun w hw => ?_,
    Option.eq_none_iff_forall_ne_some.mpr fun p hp => ?_⟩
  · exact habsent w.jobType w.gate (Or.inl ⟨w, hw, rfl, rfl⟩)
  · exact habsent p.jobType p.gate (Or.inr ⟨p, hp, rfl, rfl⟩)

omit [DecidableEq κ] in
/-- Who has not asked before is new to the limiter. -/
theorem fresh (h : Orderly visits v.before) (hnew : AsksFirst visits v) :
    Fresh v.before.limiter v.act := fun asker hasker => h.stranger (hnew asker hasker)

/-- What a visit to an orderly desk does is in the list. -/
theorem step (h : Orderly visits v.before) : Step v.before v.act v.reply v.after :=
  Desk.step h.placed v.act

/-- **A visit keeps order**, if whoever asks in it has not asked before. -/
theorem next (h : Orderly visits v.before) (hfresh : Fresh v.before.limiter v.act) :
    Orderly (visits ++ [v]) v.after where
  placed := h.step.placed hfresh h.placed
  apart _ := h.step.apart hfresh h.apart
  asked asker jobType gate hstands := by
    rcases h.step.stands hfresh hstands with hold | ⟨hacquire, hgate⟩
    · obtain ⟨c, hc, hasked⟩ := h.asked asker jobType gate hold
      exact ⟨c, List.mem_append_left _ hc, hasked⟩
    · exact ⟨v, by simp, hacquire, hgate⟩

/-- **Every run keeps order.** -/
theorem run (profiles : List (String × Profile)) (fallback : Profile) (now : Nat)
    {acts : List (Act ι κ)} (honce : AskOnce acts) :
    Orderly ((Desk.opening profiles fallback now).visits acts)
      ((Desk.opening profiles fallback now).afterAll acts) :=
  Desk.invariant (.opening profiles fallback now) (fun _ _ hnew h => h.next (h.fresh hnew)) acts honce

/-- Whoever asks at the end of a run is new to the limiter. -/
theorem fresh_run (profiles : List (String × Profile)) (fallback : Profile) (now : Nat)
    {acts : List (Act ι κ)} {act : Act ι κ} (honce : AskOnce (acts ++ [act])) :
    Fresh ((Desk.opening profiles fallback now).afterAll acts).limiter act := by
  have hfirst := honce.of_sublist (List.sublist_append_left acts [act])
  exact (Orderly.run profiles fallback now hfirst).fresh (honce.split (Desk.visits_snoc _ _ _))

end Orderly

/-! ## Laws of a desk in use -/

/-- A law holds at the opening and is kept by every visit to an orderly desk, of somebody who has not asked
before if it asks. -/
structure Lasts (profiles : List (String × Profile)) (fallback : Profile) (now : Nat)
    (law : List (Visit ι κ) → Desk ι κ → Prop) : Prop where
  opening : law [] (Desk.opening profiles fallback now)
  next : ∀ earlier (v : Visit ι κ), Orderly earlier v.before → AsksFirst earlier v →
    law earlier v.before → law (earlier ++ [v]) v.after

namespace Lasts

variable {profiles : List (String × Profile)} {fallback : Profile} {now : Nat}
  {law : List (Visit ι κ) → Desk ι κ → Prop}

/-- **Behind every run** there is order, and the law holds. -/
theorem run (h : Lasts profiles fallback now law) {acts : List (Act ι κ)} (honce : AskOnce acts) :
    Orderly ((Desk.opening profiles fallback now).visits acts)
        ((Desk.opening profiles fallback now).afterAll acts) ∧
      law ((Desk.opening profiles fallback now).visits acts)
        ((Desk.opening profiles fallback now).afterAll acts) := by
  refine @Desk.invariant _ _ _ _ (fun visits desk => Orderly visits desk ∧ law visits desk) _
    ⟨.opening profiles fallback now, h.opening⟩ (fun earlier v hnew hlaw => ?_) acts honce
  exact ⟨hlaw.1.next (hlaw.1.fresh hnew), h.next earlier v hlaw.1 hnew hlaw.2⟩

/-- Every visit of a run meets an orderly desk under the law. -/
theorem meets (h : Lasts profiles fallback now law) {acts : List (Act ι κ)} (honce : AskOnce acts)
    {earlier later : List (Visit ι κ)} {v : Visit ι κ}
    (hsplit : (Desk.opening profiles fallback now).visits acts = earlier ++ v :: later) :
    Orderly earlier v.before ∧ AsksFirst earlier v ∧ law earlier v.before := by
  obtain ⟨before, after, hacts, rfl, hbefore, -⟩ := Run.history_split hsplit
  have hprefix : AskOnce before :=
    honce.of_sublist (hacts ▸ List.sublist_append_left before (v.act :: after))
  have hrun : Orderly ((Desk.opening profiles fallback now).visits before) v.before ∧
      law ((Desk.opening profiles fallback now).visits before) v.before := by
    rw [hbefore]
    exact h.run hprefix
  exact ⟨hrun.1, honce.split hsplit, hrun.2⟩

/-- Every visit of a run leaves the law behind. -/
theorem leaves (h : Lasts profiles fallback now law) {acts : List (Act ι κ)} (honce : AskOnce acts)
    {earlier later : List (Visit ι κ)} {v : Visit ι κ}
    (hsplit : (Desk.opening profiles fallback now).visits acts = earlier ++ v :: later) :
    law (earlier ++ [v]) v.after := by
  obtain ⟨horderly, hnew, hlaw⟩ := h.meets honce hsplit
  exact h.next earlier v horderly hnew hlaw

end Lasts

end DurableJobs.Admission
