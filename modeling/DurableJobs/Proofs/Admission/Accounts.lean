import DurableJobs.Proofs.Admission.Desk
import DurableJobs.Proofs.Admission.Slots

/-!
# Whose slots are in use

A gate is asked for by whoever opens a limiter or registers a type, and it is there for good. Its slots
are `Tidy`: its lists name those who wait for one of its slots and those who work with one. So its slots
can be counted without looking into them, by counting waiters and permits, and they add up to what was
asked for.
-/

set_option autoImplicit false

namespace DurableJobs.Admission

variable {ι κ : Type}

/-! ## The gates there are -/

/-- What is registered. -/
def Act.registration? : Act ι κ → Option (String × Profile)
  | .register jobType profile => some (jobType, profile)
  | _ => none

/-- Everything that is registered up to the end of a run, in order. -/
def registrations (profiles : List (String × Profile)) (acts : List (Act ι κ)) :
    List (String × Profile) :=
  profiles ++ acts.filterMap Act.registration?

/-- The number of the latest registration of a type, counted from one: number zero is the shared gate. -/
def latest? (entries : List (String × Profile)) (jobType : String) : Option Nat :=
  ((entries.map (·.1)).zipIdx 1).reverse.lookup jobType

theorem latest?_snoc (entries : List (String × Profile)) (jobType : String) (profile : Profile)
    (other : String) : latest? (entries ++ [(jobType, profile)]) other =
      if other = jobType then some (entries.length + 1) else latest? entries other := by
  unfold latest?
  rw [List.map_append, List.zipIdx_append, List.reverse_append]
  change List.lookup other ((jobType, 1 + (entries.map (·.1)).length) :: _) = _
  rw [List.lookup_cons, List.length_map, Nat.add_comm]
  by_cases hother : other = jobType
  · rw [if_pos hother, beq_iff_eq.mpr hother]
  · rw [if_neg hother, beq_eq_false_iff_ne.mpr hother]
    rfl

theorem latest?_isSome {entries : List (String × Profile)} {jobType : String}
    (h : jobType ∈ entries.map (·.1)) : (latest? entries jobType).isSome = true := by
  induction entries using List.reverseRecOn with
  | nil => cases h
  | append_singleton entries entry ih =>
    rw [latest?_snoc]
    split
    · rfl
    · rename_i hne
      rw [List.map_append, List.mem_append, List.map_singleton, List.mem_singleton] at h
      exact ih (h.resolve_right hne)

namespace Limiter

variable {limiter : Limiter ι κ} {gate : Gate ι} {fallback : Profile}
  {entries : List (String × Profile)}

/-- The gates are those that were asked for, and the gate of a type is the one of its latest
registration. -/
structure Enrolled (fallback : Profile) (entries : List (String × Profile)) (limiter : Limiter ι κ) :
    Prop where
  profiles : limiter.gates.map (·.profile) = fallback :: entries.map (·.2)
  latest : ∀ jobType, limiter.registered.lookup jobType = latest? entries jobType

namespace Enrolled

theorem length_gates (h : Enrolled fallback entries limiter) :
    limiter.gates.length = entries.length + 1 := by
  have hlength := congrArg List.length h.profiles
  rwa [List.length_map, List.length_cons, List.length_map] at hlength

theorem register (h : Enrolled fallback entries limiter) (jobType : String) (profile : Profile) :
    Enrolled fallback (entries ++ [(jobType, profile)]) (limiter.register jobType profile) where
  profiles := by
    change (limiter.gates ++ [Gate.ofProfile profile]).map Gate.profile = _
    rw [List.map_append, h.profiles, List.map_append]
    rfl
  latest other := by
    rw [lookup_register, latest?_snoc, h.length_gates, h.latest]

theorem ofProfiles (profiles : List (String × Profile)) (fallback : Profile) :
    Enrolled fallback profiles (ofProfiles profiles fallback : Limiter ι κ) := by
  have hrest : ∀ (rest entries : List (String × Profile)) (limiter : Limiter ι κ),
      Enrolled fallback entries limiter → Enrolled fallback (entries ++ rest)
        (rest.foldl (fun limiter p => limiter.register p.1 p.2) limiter) := by
    intro rest
    induction rest with
    | nil =>
      intro entries limiter h
      rwa [List.append_nil]
    | cons entry rest ih =>
      intro entries limiter h
      have hregistered := ih _ _ (h.register entry.1 entry.2)
      rwa [List.append_assoc] at hregistered
  exact hrest profiles [] _ ⟨rfl, fun _ => rfl⟩

/-- A gate that is put back with its profile is the gate that was asked for. -/
theorem of_gates {old : Gate ι} {after : Limiter ι κ} {index : Nat}
    (h : Enrolled fallback entries limiter) (there : limiter.gates[index]? = some old)
    (hprofile : gate.profile = old.profile)
    (hgates : ∀ i, after.gates[i]? = if i = index then some gate else limiter.gates[i]?)
    (hregistered : after.registered = limiter.registered) : Enrolled fallback entries after where
  profiles := by
    rw [← h.profiles]
    refine List.ext_getElem? fun i => ?_
    rw [List.getElem?_map, List.getElem?_map, hgates]
    by_cases hi : i = index
    · rw [if_pos hi, hi, there, Option.map_some, Option.map_some, hprofile]
    · rw [if_neg hi]
  latest jobType := by rw [hregistered, h.latest]

end Enrolled

end Limiter

/-! ## Counting -/

theorem find?_of_mem [DecidableEq ι] {β : Type} {name : β → ι} {entries : List β}
    (honce : (entries.map name).Nodup) {entry : β} (hmem : entry ∈ entries) :
    entries.find? (name · == name entry) = some entry := by
  have hfound : (entries.find? (name · == name entry)).isSome := by
    rw [List.find?_isSome]
    exact ⟨entry, hmem, beq_self_eq_true _⟩
  obtain ⟨found, hfind⟩ := Option.isSome_iff_exists.mp hfound
  have hname : name found = name entry := by simpa using List.find?_some hfind
  rw [hfind, List.inj_on_of_nodup_map honce (List.mem_of_find?_eq_some hfind) hmem hname]

namespace Limiter

variable [DecidableEq ι] {limiter : Limiter ι κ} {waiter : Waiter ι κ} {gate : Gate ι}

/-- Somebody of that name waits for a slot of a gate. -/
def QueuesAt (limiter : Limiter ι κ) (g : Nat) (asker : ι) : Prop :=
  ∃ w, limiter.waiter? asker = some w ∧ w.gate = g ∧ w.stage = .slot

/-- Somebody of that name has a permit of a gate. -/
def WorksAt (limiter : Limiter ι κ) (g : Nat) (asker : ι) : Prop :=
  ∃ p, limiter.permit? asker = some p ∧ p.gate = g

/-- Names are used once, and the slots of every gate name those who queue and work there. -/
structure Counted (limiter : Limiter ι κ) : Prop where
  waitersOnce : (limiter.waiters.map (·.asker)).Nodup
  permitsOnce : (limiter.permits.map (·.asker)).Nodup
  slots : ∀ (g : Nat) (gate : Gate ι), limiter.gates[g]? = some gate →
    gate.slots.Tidy gate.profile.capacity (limiter.QueuesAt g) (limiter.WorksAt g)

/-- How many permits of a gate are out. -/
def heldAt (limiter : Limiter ι κ) (g : Nat) : Nat := (limiter.permits.filter (·.gate = g)).length

/-- A slot has been assigned to a waiter. -/
def hasSlot (limiter : Limiter ι κ) (waiter : Waiter ι κ) : Bool :=
  limiter.gates[waiter.gate]?.any (waiter.asker ∈ ·.slots.assigned)

/-- How many of those who queue at a gate have been given a slot. -/
def assignedAt (limiter : Limiter ι κ) (g : Nat) : Nat :=
  (limiter.waiters.filter fun w => w.gate = g ∧ w.stage = .slot ∧ limiter.hasSlot w).length

namespace Counted

/-- Permits are counted where they are held. -/
theorem heldAt_eq (h : limiter.Counted) {g : Nat} (there : limiter.gates[g]? = some gate) :
    limiter.heldAt g = gate.slots.held.length := by
  have htidy := h.slots g gate there
  have honce : ((limiter.permits.filter (·.gate = g)).map (·.asker)).Nodup :=
    (List.filter_sublist.map _).nodup h.permitsOnce
  have hsame : ((limiter.permits.filter (·.gate = g)).map (·.asker)).Perm gate.slots.held := by
    rw [List.perm_ext_iff_of_nodup honce htidy.workOnce]
    intro asker
    rw [htidy.works, List.mem_map]
    constructor
    · rintro ⟨p, hp, rfl⟩
      obtain ⟨hmem, hgate⟩ := List.mem_filter.mp hp
      exact ⟨p, find?_of_mem h.permitsOnce hmem, of_decide_eq_true hgate⟩
    · rintro ⟨p, hp, hgate⟩
      exact ⟨p, List.mem_filter.mpr ⟨mem_of_permit? hp, decide_eq_true hgate⟩, permit?_asker hp⟩
  rw [heldAt, ← hsame.length_eq, List.length_map]

theorem hasSlot_iff (there : limiter.gates[waiter.gate]? = some gate) :
    limiter.hasSlot waiter = true ↔ waiter.asker ∈ gate.slots.assigned := by
  rw [hasSlot, there, Option.any_some, decide_eq_true_eq]

/-- Assigned slots are counted where they are assigned. -/
theorem assignedAt_eq (h : limiter.Counted) {g : Nat} (there : limiter.gates[g]? = some gate) :
    limiter.assignedAt g = gate.slots.assigned.length := by
  have htidy := h.slots g gate there
  unfold assignedAt
  set given := limiter.waiters.filter fun w => w.gate = g ∧ w.stage = .slot ∧ limiter.hasSlot w
    with hgiven
  have honce : (given.map (·.asker)).Nodup := (List.filter_sublist.map _).nodup h.waitersOnce
  have hsame : (given.map (·.asker)).Perm gate.slots.assigned := by
    rw [List.perm_ext_iff_of_nodup honce (List.nodup_append.mp htidy.waitOnce).2.1]
    intro asker
    rw [List.mem_map]
    constructor
    · rintro ⟨w, hw, rfl⟩
      obtain ⟨-, rfl, -, hslot⟩ := by simpa [hgiven] using hw
      exact (hasSlot_iff there).mp hslot
    · intro hassigned
      obtain ⟨w, hw, rfl, hstage⟩ := (htidy.waits asker).mp (List.mem_append_right _ hassigned)
      obtain rfl := waiter?_asker hw
      have hslot := (hasSlot_iff there).mpr hassigned
      exact ⟨w, by simp [hgiven, mem_of_waiter? hw, hstage, hslot], rfl⟩
  rw [← hsame.length_eq, List.length_map]

/-- **The slots of a gate add up**, and none of them is free while somebody queues without one. -/
theorem balance (h : limiter.Counted) {g : Nat} (there : limiter.gates[g]? = some gate) :
    gate.slots.free + limiter.heldAt g + limiter.assignedAt g = gate.profile.capacity ∧
      ∀ w ∈ limiter.waiters, w.gate = g → w.stage = .slot → limiter.hasSlot w = false →
        gate.slots.free = 0 := by
  have htidy := h.slots g gate there
  refine ⟨by rw [h.heldAt_eq there, h.assignedAt_eq there, htidy.total], ?_⟩
  rintro w hw rfl hstage hslot
  have hwaits : limiter.QueuesAt w.gate w.asker := ⟨w, find?_of_mem h.waitersOnce hw, rfl, hstage⟩
  have hqueue : w.asker ∈ gate.slots.queue := by
    refine (List.mem_append.mp ((htidy.waits _).mpr hwaits)).resolve_right fun hassigned => ?_
    rw [(hasSlot_iff there).mpr hassigned] at hslot
    cases hslot
  rcases htidy.busy with hnone | hfull
  · rw [hnone] at hqueue
    cases hqueue
  · exact hfull

end Counted

end Limiter

/-! ## What a look does to the slots of its gate -/

namespace Gate

variable [DecidableEq ι] {gate : Gate ι} {waits works : ι → Prop} {asker : ι} {capacity : Nat}

theorem profile_withdraw (gate : Gate ι) (asker : ι) (stage : Stage) :
    (gate.withdraw asker stage).profile = gate.profile := by
  cases stage <;> rfl

/-- No look changes what was asked for. -/
theorem Looks.profile {now : Nat} {stage : Stage} {cancelled : Bool} {outcome : Outcome ι}
    (h : gate.Looks asker now stage cancelled outcome) : outcome.gate.profile = gate.profile := by
  cases h with
  | turnedAway => exact gate.profile_withdraw asker stage
  | _ => rfl

/-- Whoever gives up does not wait any more. -/
theorem withdraw_tidy (h : gate.slots.Tidy capacity waits works) {stage : Stage}
    (hwaits : waits asker ↔ stage = .slot) :
    (gate.withdraw asker stage).slots.Tidy capacity (fun a => waits a ∧ a ≠ asker) works := by
  cases stage with
  | token =>
    refine h.congr (fun a => ⟨And.left, fun ha => ⟨ha, ?_⟩⟩) fun _ => Iff.rfl
    rintro rfl
    exact nomatch hwaits.mp ha
  | slot => exact h.withdraw (hwaits.mpr rfl)

/-- **A look keeps the slots tidy**: they name whoever looked as the look says, and the others as before. -/
theorem Looks.tidy {now : Nat} {stage : Stage} {cancelled : Bool} {outcome : Outcome ι}
    (h : gate.Looks asker now stage cancelled outcome) (htidy : gate.slots.Tidy capacity waits works)
    (hwaits : waits asker ↔ stage = .slot) (hworks : ¬works asker) :
    outcome.gate.slots.Tidy capacity
      (fun a => if a = asker then outcome.next = .queues ∨ outcome.next = .stays ∧ stage = .slot
        else waits a)
      fun a => works a ∨ outcome.next = .works ∧ a = asker := by
  have hstays : ∀ a, (if a = asker then stage = .slot else waits a) ↔ waits a := by
    intro a
    by_cases ha : a = asker
    · rw [if_pos ha, ha, hwaits]
    · rw [if_neg ha]
  cases h with
  | turnedAway =>
    refine (withdraw_tidy htidy hwaits).congr (fun a => ?_) fun a => by simp
    by_cases ha : a = asker <;> simp [ha]
  | queued ready full =>
    refine (htidy.queue full fun h => nomatch hwaits.mp h).congr (fun a => ?_) fun a => by simp
    by_cases ha : a = asker <;> simp [ha]
  | entered ready free =>
    refine (htidy.enter free hworks).congr (fun a => ?_) fun a => by simp
    simpa using hstays a
  | collected assigned =>
    refine (htidy.collect assigned hworks).congr (fun a => ?_) fun a => by simp
    by_cases ha : a = asker <;> simp [ha]
  | withoutToken | unassigned => exact htidy.congr (fun a => by simpa using hstays a) fun a => by simp

end Gate

namespace Limiter.Counted

variable [DecidableEq ι] {limiter : Limiter ι κ} {waiter : Waiter ι κ} {gate : Gate ι}

/-- Somebody who waits for a token takes no slot. -/
theorem join (h : limiter.Counted) (hnew : limiter.waiter? waiter.asker = none)
    (htoken : waiter.stage = .token) : (limiter.join waiter).Counted where
  waitersOnce := by
    have hfresh : waiter.asker ∉ limiter.waiters.map (·.asker) := by
      intro hmem
      obtain ⟨w, hw, hname⟩ := List.mem_map.mp hmem
      have hnone := List.find?_eq_none.mp hnew w hw
      simp [hname] at hnone
    change ((limiter.waiters ++ [waiter]).map (·.asker)).Nodup
    rw [List.map_append, List.map_singleton, ← List.concat_eq_append]
    exact h.waitersOnce.concat hfresh
  permitsOnce := h.permitsOnce
  slots g gate there := by
    refine (h.slots g gate there).congr (fun asker => ?_) fun _ => Iff.rfl
    unfold QueuesAt
    rw [waiter?_join hnew]
    by_cases hasker : asker = waiter.asker
    · simp [hasker, hnew, htoken]
    · simp [hasker]

theorem not_mem_permits {asker : ι} (idle : limiter.permit? asker = none) :
    asker ∉ limiter.permits.map (·.asker) := by
  intro hmem
  obtain ⟨p, hp, hname⟩ := List.mem_map.mp hmem
  have hnone := List.find?_eq_none.mp idle p hp
  simp [hname] at hnone

theorem queuesAt_settle (found : limiter.waiter? waiter.asker = some waiter) (next : Next) (g : Nat)
    (asker : ι) : (limiter.settle waiter gate next).QueuesAt g asker ↔
      if asker = waiter.asker then
        waiter.gate = g ∧ (next = .queues ∨ next = .stays ∧ waiter.stage = .slot)
      else limiter.QueuesAt g asker := by
  unfold QueuesAt
  rw [waiter?_settle found]
  by_cases hasker : asker = waiter.asker
  · simp only [hasker, if_true]
    cases next <;> simp [Next.wait?]
  · simp only [hasker, if_false]

theorem worksAt_settle (next : Next) (g : Nat) (asker : ι) :
    (limiter.settle waiter gate next).WorksAt g asker ↔
      if next = .works ∧ asker = waiter.asker then waiter.gate = g else limiter.WorksAt g asker := by
  unfold WorksAt
  rw [permit?_settle]
  split
  · simp
  · rfl

/-- Whoever looks is counted where its look puts it. -/
theorem settle (h : limiter.Counted) (found : limiter.waiter? waiter.asker = some waiter)
    (idle : limiter.permit? waiter.asker = none) (there : limiter.gates[waiter.gate]? = some gate)
    {now : Nat} {cancelled : Bool} {outcome : Outcome ι}
    (hlooks : gate.Looks waiter.asker now waiter.stage cancelled outcome) :
    (limiter.settle waiter outcome.gate outcome.next).Counted := by
  refine ⟨?_, ?_, fun g after hafter => ?_⟩
  · cases outcome.next with
    | stays => exact h.waitersOnce
    | leaves | works => exact (List.filter_sublist.map _).nodup h.waitersOnce
    | queues =>
      have hsame : (limiter.moveToSlot waiter.asker).waiters.map (·.asker) =
          limiter.waiters.map (·.asker) := by
        rw [moveToSlot, List.map_map]
        refine List.map_congr_left fun w _ => ?_
        simp only [Function.comp_apply]
        split <;> rfl
      exact hsame ▸ h.waitersOnce
  · cases outcome.next with
    | works => exact List.nodup_cons.mpr ⟨not_mem_permits idle, h.permitsOnce⟩
    | _ => exact h.permitsOnce
  · have hidle : ∀ g, ¬limiter.WorksAt g waiter.asker := by
      rintro g ⟨p, hp, -⟩
      rw [idle] at hp
      cases hp
    rw [gates_settle there] at hafter
    by_cases hg : g = waiter.gate
    · subst hg
      rw [if_pos rfl] at hafter
      cases hafter
      have hwaits : limiter.QueuesAt waiter.gate waiter.asker ↔ waiter.stage = .slot := by
        simp [QueuesAt, found]
      rw [hlooks.profile]
      refine (hlooks.tidy (h.slots _ _ there) hwaits (hidle _)).congr (fun asker => ?_) fun asker => ?_
      · rw [queuesAt_settle found]
        simp
      · rw [worksAt_settle]
        by_cases hworks : outcome.next = .works ∧ asker = waiter.asker
        · simp [hworks]
        · rw [if_neg hworks, or_iff_left hworks]
    · -- at another gate nobody comes and nobody goes
      rw [if_neg hg] at hafter
      refine (h.slots g after hafter).congr (fun asker => ?_) fun asker => ?_
      · rw [queuesAt_settle found]
        by_cases hasker : asker = waiter.asker
        · simp [hasker, QueuesAt, found, Ne.symm hg]
        · rw [if_neg hasker]
      · rw [worksAt_settle]
        split
        · rename_i hworks
          rw [hworks.2]
          exact iff_of_false (Ne.symm hg) (hidle g)
        · rfl

/-- Whoever gives its permit back is not counted any more. -/
theorem handBack (h : limiter.Counted) {permit : Permit ι}
    (found : limiter.permit? permit.asker = some permit)
    (there : limiter.gates[permit.gate]? = some gate) :
    (limiter.handBack permit { gate with slots := gate.slots.release permit.asker }).Counted := by
  refine ⟨h.waitersOnce, (List.filter_sublist.map _).nodup h.permitsOnce, fun g after hafter => ?_⟩
  have hworks : ∀ (released : Gate ι) (g : Nat) (asker : ι),
      (limiter.handBack permit released).WorksAt g asker ↔
        limiter.WorksAt g asker ∧ asker ≠ permit.asker := by
    intro released g asker
    unfold WorksAt
    rw [permit?_handBack]
    by_cases hasker : asker = permit.asker <;> simp [hasker]
  rw [gates_handBack there] at hafter
  by_cases hg : g = permit.gate
  · subst hg
    rw [if_pos rfl] at hafter
    cases hafter
    exact ((h.slots _ gate there).release ⟨permit, found, rfl⟩).congr (fun _ => Iff.rfl)
      (hworks _ permit.gate)
  · rw [if_neg hg] at hafter
    refine (h.slots g after hafter).congr (fun _ => Iff.rfl) fun asker => ?_
    rw [hworks]
    refine ⟨And.left, fun hold => ⟨hold, ?_⟩⟩
    rintro rfl
    obtain ⟨p, hp, hgate⟩ := hold
    rw [found] at hp
    cases hp
    exact hg hgate.symm

/-- At a new gate nobody waits or works. -/
theorem register (h : limiter.Counted) (hplaced : limiter.Placed) (jobType : String)
    (profile : Profile) : (limiter.register jobType profile).Counted := by
  refine ⟨h.waitersOnce, h.permitsOnce, fun g gate there => ?_⟩
  rw [gates_register] at there
  split at there
  · rename_i hg
    cases there
    refine (Slots.Tidy.ofCapacity profile.concurrency).congr (fun asker => ?_) fun asker => ?_
    · refine iff_false_intro ?_
      rintro ⟨w, hw, hgate, -⟩
      exact absurd (hplaced.waiters asker w hw) (by rw [hgate, hg]; exact Nat.lt_irrefl _)
    · refine iff_false_intro ?_
      rintro ⟨p, hp, hgate⟩
      exact absurd (hplaced.permits asker p hp) (by rw [hgate, hg]; exact Nat.lt_irrefl _)
  · exact h.slots g gate there

theorem ofProfiles (profiles : List (String × Profile)) (fallback : Profile) :
    (ofProfiles profiles fallback : Limiter ι κ).Counted := by
  have hlaw : (Limiter.ofProfiles profiles fallback : Limiter ι κ).Placed ∧
      (Limiter.ofProfiles profiles fallback : Limiter ι κ).Counted := by
    refine @ofProfiles_rule _ _ (fun limiter => limiter.Placed ∧ limiter.Counted) profiles fallback
      ⟨⟨Nat.zero_lt_one, nofun, nofun, nofun⟩, List.nodup_nil, List.nodup_nil, fun g gate there => ?_⟩
      fun limiter jobType profile h => ⟨h.1.register jobType profile, h.2.register h.1 jobType profile⟩
    obtain rfl : Gate.ofProfile fallback = gate := by
      cases g with
      | zero => exact Option.some.inj there
      | succ g => cases there
    exact (Slots.Tidy.ofCapacity fallback.concurrency).congr (fun _ => by simp [QueuesAt, waiter?])
      fun _ => by simp [WorksAt, permit?]
  exact hlaw.2

end Limiter.Counted

/-! ## Along a run -/

section Step

variable [DecidableEq ι] [DecidableEq κ] {desk after : Desk ι κ} {act : Act ι κ} {reply : Reply}

/-- **No act miscounts.** -/
theorem Step.counted (h : Step desk act reply after) (hfresh : Fresh desk.limiter act)
    (hplaced : desk.limiter.Placed)
    (hapart : ∀ asker, desk.limiter.waiter? asker = none ∨ desk.limiter.permit? asker = none)
    (hcounted : desk.limiter.Counted) : after.limiter.Counted := by
  cases h with
  | @looked _ waiter presented gate outcome presents there looks =>
    have hpresented : presented.Counted := by
      cases presents with
      | newcomer asker jobType cancellation => exact hcounted.join (hfresh asker rfl).1 rfl
      | waiter => exact hcounted
    have hidle := presents.permit?_eq_none hfresh hapart
    rw [← presents.permit?] at hidle
    rw [← presents.gates] at there
    exact hpresented.settle ((presents.waiter? hfresh _).trans (if_pos rfl)) hidle there
      (looks ▸ gate.looks _ _ _ _)
  | @abandoned waiter gate found there =>
    have hidle : desk.limiter.permit? waiter.asker = none :=
      (hapart waiter.asker).resolve_left fun hnone => by
        rw [found] at hnone
        cases hnone
    exact hcounted.settle found hidle there (gate.looks waiter.asker waiter.stage true desk.now)
  | released found there => exact hcounted.handBack found there
  | registered jobType profile => exact hcounted.register hplaced jobType profile
  | polledInVain | abandonedInVain | releasedInVain | passed => exact hcounted
  | cancelled => exact ⟨hcounted.waitersOnce, hcounted.permitsOnce, hcounted.slots⟩

/-- No act but a registration changes what was asked for. -/
theorem Step.enrolled (h : Step desk act reply after) {fallback : Profile}
    {entries : List (String × Profile)} (henrolled : desk.limiter.Enrolled fallback entries) :
    after.limiter.Enrolled fallback (entries ++ act.registration?.toList) := by
  cases h with
  | @looked _ waiter presented gate outcome presents there looks =>
    have hnone : act.registration? = none := by
      cases presents <;> rfl
    rw [hnone, Option.toList_none, List.append_nil]
    rw [← presents.gates] at there
    have hlooks : gate.Looks _ _ _ _ outcome := looks ▸ gate.looks _ _ _ _
    have hpresented : presented.Enrolled fallback entries := by
      cases presents with
      | newcomer => exact ⟨henrolled.profiles, henrolled.latest⟩
      | waiter => exact henrolled
    exact hpresented.of_gates there hlooks.profile (Limiter.gates_settle there _)
      (Limiter.registered_settle _)
  | registered jobType profile => exact henrolled.register jobType profile
  | @abandoned waiter gate found there =>
    simp only [Act.registration?, Option.toList_none, List.append_nil]
    exact henrolled.of_gates there (gate.profile_withdraw _ _) (Limiter.gates_settle there _)
      (Limiter.registered_settle _)
  | @released permit gate found there =>
    simp only [Act.registration?, Option.toList_none, List.append_nil]
    have hprofile : (⟨gate.profile, gate.bucket, gate.slots.release permit.asker⟩ : Gate ι).profile =
        gate.profile := rfl
    exact henrolled.of_gates there hprofile (Limiter.gates_handBack there) rfl
  | _ =>
    simp only [Act.registration?, Option.toList_none, List.append_nil]
    exact ⟨henrolled.profiles, henrolled.latest⟩

end Step

/-- The state of a limiter in a run: its gates are those that were asked for, and their slots name those
who queue and work. -/
structure Audited (profiles : List (String × Profile)) (fallback : Profile) [DecidableEq ι]
    (visits : List (Visit ι κ)) (desk : Desk ι κ) : Prop where
  enrolled : desk.limiter.Enrolled fallback (registrations profiles (visits.map (·.act)))
  counted : desk.limiter.Counted

section Run

variable [DecidableEq ι] [DecidableEq κ]

theorem audited (profiles : List (String × Profile)) (fallback : Profile) (now : Nat) :
    Lasts (ι := ι) (κ := κ) profiles fallback now (Audited profiles fallback) where
  opening := by
    refine ⟨?_, .ofProfiles profiles fallback⟩
    rw [List.map_nil, registrations, List.filterMap_nil, List.append_nil]
    exact .ofProfiles profiles fallback
  next earlier v horderly hnew h := by
    have hstep := horderly.step
    refine ⟨?_, hstep.counted (horderly.fresh hnew) horderly.placed horderly.apart h.counted⟩
    have hentries : registrations profiles ((earlier ++ [v]).map (·.act)) =
        registrations profiles (earlier.map (·.act)) ++ v.act.registration?.toList := by
      unfold registrations
      rw [List.map_append, List.filterMap_append, List.append_assoc]
      cases hact : v.act.registration? <;> simp [hact]
    rw [hentries]
    exact hstep.enrolled h.enrolled

end Run

/-! ## What the limiter says of itself -/

/-- What is said of a type is what is known of its gate. -/
theorem Limiter.stats_lookup {limiter : Limiter ι κ}
    (hthere : ∀ entry ∈ limiter.registered, entry.2 < limiter.gates.length) (jobType : String) :
    limiter.stats.lookup jobType = (limiter.registered.lookup jobType).bind fun g =>
      limiter.gates[g]?.map fun gate => ⟨gate.profile.capacity, gate.inUse, gate.profile.rate⟩ := by
  unfold stats
  generalize limiter.registered = entries at hthere ⊢
  induction entries with
  | nil => rfl
  | cons entry rest ih =>
    obtain ⟨name, g⟩ := entry
    obtain ⟨hg, hrest⟩ := List.forall_mem_cons.mp hthere
    obtain ⟨gate, there⟩ := gate_there hg
    simp only at there
    simp only [List.filterMap_cons, there, Option.map_some, List.lookup_cons]
    cases jobType == name with
    | true => rw [Option.bind_some, there, Option.map_some]
    | false => exact ih hrest

section Run

variable [DecidableEq ι] [DecidableEq κ] {desk after : Desk ι κ} {reply : Reply} {visits : List (Visit ι κ)}
  {profiles : List (String × Profile)} {fallback : Profile}

omit [DecidableEq κ] in
/-- What a limiter says of a type is what can be counted at the gate of its latest registration. -/
theorem Audited.stats (h : Audited profiles fallback visits desk) (hplaced : desk.limiter.Placed)
    (jobType : String) :
    let entries := registrations profiles (visits.map (·.act))
    desk.limiter.stats.lookup jobType = (latest? entries jobType).bind fun g =>
      (fallback :: entries.map (·.2))[g]?.map fun profile =>
        ⟨max profile.concurrency 1, desk.limiter.heldAt g + desk.limiter.assignedAt g, profile.rate⟩ := by
  intro entries
  rw [Limiter.stats_lookup hplaced.registered, h.enrolled.latest]
  cases latest? entries jobType with
  | none => rfl
  | some g =>
    rw [Option.bind_some, Option.bind_some, ← h.enrolled.profiles, List.getElem?_map, Option.map_map]
    cases there : desk.limiter.gates[g]? with
    | none => rfl
    | some gate =>
      have hbalance := (h.counted.balance there).1
      have huse : gate.inUse = desk.limiter.heldAt g + desk.limiter.assignedAt g := by
        rw [Gate.inUse, ← hbalance]
        omega
      rw [Option.map_some, Option.map_some, huse]
      rfl

/-- Whoever gives a permit back moves one slot of the gate of the permit. -/
theorem Step.of_release {asker : ι} {permit : Permit ι} (h : Step desk (.release asker) reply after)
    (found : desk.limiter.permit? asker = some permit) :
    ∃ gate, desk.limiter.gates[permit.gate]? = some gate ∧ after.limiter =
      desk.limiter.handBack permit { gate with slots := gate.slots.release permit.asker } := by
  cases h with
  | looked presents => cases presents
  | @released other gate found' there =>
    rw [found'] at found
    cases found
    exact ⟨gate, there, rfl⟩
  | releasedInVain absent =>
    rw [found] at absent
    cases absent

/-- **A permit that is given back** leaves all gates but its own as they are, and there makes one slot
more that is free or assigned. -/
theorem Step.gives_back {asker : ι} {permit : Permit ι} (h : Step desk (.release asker) reply after)
    (found : desk.limiter.permit? asker = some permit) (hbefore : desk.limiter.Counted)
    (hafter : after.limiter.Counted) :
    (∀ g, g ≠ permit.gate → after.limiter.gates[g]? = desk.limiter.gates[g]?) ∧
      ∃ before behind, desk.limiter.gates[permit.gate]? = some before ∧
        after.limiter.gates[permit.gate]? = some behind ∧
        behind.slots.free + after.limiter.assignedAt permit.gate =
          before.slots.free + desk.limiter.assignedAt permit.gate + 1 := by
  obtain ⟨gate, there, hlimiter⟩ := h.of_release found
  obtain rfl := Limiter.permit?_asker found
  have hgates : ∀ g, after.limiter.gates[g]? = if g = permit.gate
      then some { gate with slots := gate.slots.release permit.asker } else desk.limiter.gates[g]? := by
    intro g
    rw [hlimiter, Limiter.gates_handBack there]
  have hthere := (hgates permit.gate).trans (if_pos rfl)
  refine ⟨fun g hg => (hgates g).trans (if_neg hg), gate, _, there, hthere, ?_⟩
  -- both counts are the same capacity, and one slot less is held
  have hold := (hbefore.balance there).1
  have hnew := (hafter.balance hthere).1
  rw [hbefore.heldAt_eq there] at hold
  rw [hafter.heldAt_eq hthere] at hnew
  have hheld := Slots.Tidy.length_erase
    (((hbefore.slots _ gate there).works permit.asker).mpr ⟨permit, found, rfl⟩)
  simp only [Slots.held_release] at hnew ⊢
  omega

end Run

end DurableJobs.Admission
