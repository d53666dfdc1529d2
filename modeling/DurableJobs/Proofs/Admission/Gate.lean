import DurableJobs.Admission.Limiter

/-!
# Looking at a gate

Whatever an asker does concerns one gate, its own. `Gate.look` says what a look does there, without the
limiter around it, and `Limiter.settle` puts the gate back and moves the asker on. `Limiter.look_eq` shows
that this is all that a look is, so what is known of one gate and one asker is known of the limiter.
-/

set_option autoImplicit false

namespace DurableJobs.Admission

variable {ι κ : Type}

/-- What becomes of somebody who has looked. -/
inductive Next where
  | stays
  | leaves
  /-- It has its token, and waits for a slot from now on. -/
  | queues
  | works
  deriving DecidableEq

/-- What is left of a wait. -/
def Next.wait? (waiter : Waiter ι κ) : Next → Option (Waiter ι κ)
  | .stays => some waiter
  | .queues => some { waiter with stage := .slot }
  | .leaves | .works => none

structure Outcome (ι : Type) where
  answer : Answer
  gate : Gate ι
  next : Next

namespace Gate

variable [DecidableEq ι]

/-- Give up what a wait has. -/
def withdraw (gate : Gate ι) (asker : ι) : Stage → Gate ι
  | .token => gate
  | .slot => { gate with slots := gate.slots.withdraw asker }

/-- Ask for a slot. -/
def askSlot (gate : Gate ι) (asker : ι) : Outcome ι :=
  { answer := if gate.slots.free = 0 then .waiting else .granted
    gate := { gate with slots := (gate.slots.request asker).2 }
    next := if gate.slots.free = 0 then .queues else .works }

/-- Look again. -/
def look (gate : Gate ι) (asker : ι) (stage : Stage) (cancelled : Bool) (now : Nat) : Outcome ι :=
  if cancelled then ⟨.denied .cancelled, gate.withdraw asker stage, .leaves⟩
  else
    match stage with
    | .token =>
        if gate.bucket.ready now then { gate with bucket := gate.bucket.take now }.askSlot asker
        else ⟨.waiting, gate, .stays⟩
    | .slot =>
        if asker ∈ gate.slots.assigned then
          ⟨.granted, { gate with slots := (gate.slots.collect asker).2 }, .works⟩
        else ⟨.waiting, gate, .stays⟩

/-- What a look can come to. -/
inductive Looks (gate : Gate ι) (asker : ι) (now : Nat) : Stage → Bool → Outcome ι → Prop where
  | turnedAway (stage : Stage) :
      Looks gate asker now stage true ⟨.denied .cancelled, gate.withdraw asker stage, .leaves⟩
  | withoutToken (empty : gate.bucket.ready now = false) :
      Looks gate asker now .token false ⟨.waiting, gate, .stays⟩
  | queued (ready : gate.bucket.ready now = true) (full : gate.slots.free = 0) :
      Looks gate asker now .token false
        ⟨.waiting, ⟨gate.profile, gate.bucket.take now, (gate.slots.request asker).2⟩, .queues⟩
  | entered (ready : gate.bucket.ready now = true) (free : gate.slots.free ≠ 0) :
      Looks gate asker now .token false
        ⟨.granted, ⟨gate.profile, gate.bucket.take now, (gate.slots.request asker).2⟩, .works⟩
  | collected (assigned : asker ∈ gate.slots.assigned) :
      Looks gate asker now .slot false
        ⟨.granted, { gate with slots := (gate.slots.collect asker).2 }, .works⟩
  | unassigned (queued : asker ∉ gate.slots.assigned) :
      Looks gate asker now .slot false ⟨.waiting, gate, .stays⟩

theorem looks (gate : Gate ι) (asker : ι) (stage : Stage) (cancelled : Bool) (now : Nat) :
    gate.Looks asker now stage cancelled (gate.look asker stage cancelled now) := by
  cases cancelled with
  | true => exact .turnedAway stage
  | false =>
    simp only [look, Bool.false_eq_true, if_false]
    cases stage with
    | token =>
      by_cases hready : gate.bucket.ready now = true
      · simp only [hready, if_true, askSlot]
        by_cases hfull : gate.slots.free = 0
        · simp only [hfull, if_true]
          exact .queued hready hfull
        · simp only [hfull, if_false]
          exact .entered hready hfull
      · simp only [hready, Bool.false_eq_true, if_false]
        exact .withoutToken (Bool.not_eq_true _ ▸ hready)
    | slot =>
      by_cases hassigned : asker ∈ gate.slots.assigned
      · simp only [hassigned, if_true]
        exact .collected hassigned
      · simp only [hassigned, if_false]
        exact .unassigned hassigned

end Gate

namespace Limiter

variable {limiter : Limiter ι κ} {waiter : Waiter ι κ} {gate : Gate ι}

/-- What is done to a gate is done to the one that is there. -/
theorem updateGate_eq {index : Nat} (there : limiter.gates[index]? = some gate)
    (change : Gate ι → Gate ι) :
    limiter.updateGate index change = limiter.updateGate index fun _ => change gate := by
  have hgates : limiter.gates.modify index change = limiter.gates.modify index fun _ => change gate := by
    refine List.ext_getElem? fun i => ?_
    rw [List.getElem?_modify, List.getElem?_modify]
    by_cases hi : index = i
    · subst hi
      simp [there]
    · simp [hi]
  rw [updateGate, updateGate, hgates]

theorem updateGate_self {index : Nat} (there : limiter.gates[index]? = some gate) :
    limiter.updateGate index (fun _ => gate) = limiter := by
  have hid := updateGate_eq there id
  rw [id_eq] at hid
  rw [← hid, updateGate, List.modify_id]

theorem gates_updateGate {index : Nat} {old : Gate ι} (there : limiter.gates[index]? = some old)
    (i : Nat) : (limiter.updateGate index fun _ => gate).gates[i]? =
      if i = index then some gate else limiter.gates[i]? := by
  simp only [updateGate, List.getElem?_modify]
  by_cases hi : i = index
  · subst hi
    simp [there]
  · have hne : index ≠ i := fun h => hi h.symm
    simp [hi, hne]

theorem gate_there {g : Nat} (h : g < limiter.gates.length) : ∃ gate, limiter.gates[g]? = some gate :=
  ⟨limiter.gates[g], List.getElem?_eq_getElem h⟩

/-! ## Registering -/

theorem lookup_filter_ne {β : Type} (entries : List (String × β)) {name other : String}
    (hne : other ≠ name) : (entries.filter (·.1 != name)).lookup other = entries.lookup other := by
  induction entries with
  | nil => rfl
  | cons entry rest ih =>
    obtain ⟨key, value⟩ := entry
    by_cases hkey : key = name
    · subst hkey
      have hother : (other == key) = false := beq_eq_false_iff_ne.mpr hne
      rw [List.filter_cons_of_neg (by simp), ih, List.lookup_cons, hother]
    · rw [List.filter_cons_of_pos (by simpa using hkey), List.lookup_cons, List.lookup_cons, ih]

/-- A registered type has the gate that is made for it, and the others keep theirs. -/
theorem lookup_register (jobType : String) (profile : Profile) (other : String) :
    (limiter.register jobType profile).registered.lookup other =
      if other = jobType then some limiter.gates.length else limiter.registered.lookup other := by
  unfold register
  rw [List.lookup_cons]
  by_cases hother : other = jobType
  · rw [if_pos hother, beq_iff_eq.mpr hother]
  · rw [if_neg hother, beq_eq_false_iff_ne.mpr hother, lookup_filter_ne _ hother]

theorem gateOf_eq {other : Limiter ι κ} (h : other.registered = limiter.registered) (jobType : String) :
    other.gateOf jobType = limiter.gateOf jobType := by
  rw [gateOf, gateOf, h]

theorem gateOf_register (jobType : String) (profile : Profile) (other : String) :
    (limiter.register jobType profile).gateOf other =
      if other = jobType then limiter.gates.length else limiter.gateOf other := by
  unfold gateOf
  rw [lookup_register]
  split <;> rfl

theorem gates_register (jobType : String) (profile : Profile) (i : Nat) :
    (limiter.register jobType profile).gates[i]? =
      if i = limiter.gates.length then some (Gate.ofProfile profile) else limiter.gates[i]? := by
  unfold register
  by_cases hi : i = limiter.gates.length
  · subst hi
    simp
  · rw [if_neg hi]
    rcases Nat.lt_or_gt_of_ne hi with hlt | hgt
    · exact List.getElem?_append_left hlt
    · rw [List.getElem?_eq_none (by simp; omega), List.getElem?_eq_none (by omega)]

/-- What the bare limiter has and registering keeps, every new limiter has. -/
theorem ofProfiles_rule {law : Limiter ι κ → Prop} (profiles : List (String × Profile))
    (fallback : Profile) (bare : law ⟨[Gate.ofProfile fallback], [], [], [], []⟩)
    (next : ∀ limiter jobType profile, law limiter → law (limiter.register jobType profile)) :
    law (ofProfiles profiles fallback) := by
  unfold ofProfiles
  generalize (⟨[Gate.ofProfile fallback], [], [], [], []⟩ : Limiter ι κ) = limiter at bare ⊢
  induction profiles generalizing limiter with
  | nil => exact bare
  | cons entry rest ih => exact ih _ (next limiter entry.1 entry.2 bare)

/-! ## Looking -/

variable [DecidableEq ι]

/-- Wait for a slot from now on. -/
def moveToSlot (limiter : Limiter ι κ) (asker : ι) : Limiter ι κ :=
  { limiter with
    waiters := limiter.waiters.map fun w => if w.asker = asker then { w with stage := .slot } else w }

/-- Put a gate back and move its asker on. -/
def settle (limiter : Limiter ι κ) (waiter : Waiter ι κ) (gate : Gate ι) (next : Next) : Limiter ι κ :=
  let limiter := limiter.updateGate waiter.gate fun _ => gate
  match next with
  | .stays => limiter
  | .leaves => limiter.dropWaiter waiter.asker
  | .queues => limiter.moveToSlot waiter.asker
  | .works => limiter.grant waiter

/-- What was done to a gate before it is put back does not matter. -/
theorem settle_updateGate (change : Gate ι → Gate ι) (next : Next) :
    (limiter.updateGate waiter.gate change).settle waiter gate next = limiter.settle waiter gate next := by
  have hgates : (limiter.updateGate waiter.gate change).updateGate waiter.gate (fun _ => gate) =
      limiter.updateGate waiter.gate fun _ => gate := by
    simp only [updateGate, List.modify_modify_eq]
    rfl
  simp only [settle, hgates]

theorem askSlot_eq (there : limiter.gates[waiter.gate]? = some gate) :
    let outcome := gate.askSlot waiter.asker
    limiter.askSlot waiter = (outcome.answer, limiter.settle waiter outcome.gate outcome.next) := by
  dsimp only
  unfold Limiter.askSlot Gate.askSlot Slots.request
  rw [there]
  dsimp only
  split
  · rw [updateGate_eq there]
    rfl
  · rw [updateGate_eq there]
    rfl

theorem withdraw_eq (there : limiter.gates[waiter.gate]? = some gate) :
    limiter.withdraw waiter =
      limiter.settle waiter (gate.withdraw waiter.asker waiter.stage) .leaves := by
  unfold Limiter.withdraw
  cases waiter.stage with
  | token => rw [settle, Gate.withdraw, updateGate_self there]
  | slot =>
    dsimp only
    rw [updateGate_eq there]
    rfl

/-- **A look is a look at the gate.** -/
theorem look_eq [DecidableEq κ] (there : limiter.gates[waiter.gate]? = some gate) (now : Nat) :
    let outcome :=
      gate.look waiter.asker waiter.stage (decide (waiter.cancellation ∈ limiter.raised)) now
    limiter.look waiter now = (outcome.answer, limiter.settle waiter outcome.gate outcome.next) := by
  dsimp only
  unfold Limiter.look Gate.look
  by_cases hraised : waiter.cancellation ∈ limiter.raised
  · rw [if_pos hraised, if_pos (by simpa using hraised), withdraw_eq there]
  · rw [if_neg hraised, if_neg (by simpa using hraised), there]
    cases waiter.stage with
    | token =>
      by_cases hready : gate.bucket.ready now = true
      · -- the token is taken first, and the slot is asked for at the gate without it
        have htaken : (limiter.updateGate waiter.gate fun gate =>
            { gate with bucket := gate.bucket.take now }).gates[waiter.gate]? =
              some { gate with bucket := gate.bucket.take now } := by
          simp [updateGate, there]
        simp only [hready, if_true]
        rw [askSlot_eq htaken, settle_updateGate]
      · simp only [hready, Bool.false_eq_true, if_false]
        rw [settle, updateGate_self there]
    | slot =>
      unfold Slots.collect
      by_cases hassigned : waiter.asker ∈ gate.slots.assigned
      · simp only [hassigned, if_true]
        rw [updateGate_eq there]
        rfl
      · simp only [hassigned, if_false, Bool.false_eq_true]
        rw [settle, updateGate_self there]

/-! ## Who waits and who works

An asker is looked up by its name. Nothing that one asker does changes what is found under another name. -/

def permit? (limiter : Limiter ι κ) (asker : ι) : Option (Permit ι) :=
  limiter.permits.find? (·.asker == asker)

theorem waiter?_asker {asker : ι} (h : limiter.waiter? asker = some waiter) : waiter.asker = asker := by
  simpa using List.find?_some h

theorem permit?_asker {asker : ι} {permit : Permit ι} (h : limiter.permit? asker = some permit) :
    permit.asker = asker := by
  simpa using List.find?_some h

theorem mem_of_waiter? {asker : ι} (h : limiter.waiter? asker = some waiter) :
    waiter ∈ limiter.waiters := List.mem_of_find?_eq_some h

theorem mem_of_permit? {asker : ι} {permit : Permit ι} (h : limiter.permit? asker = some permit) :
    permit ∈ limiter.permits := List.mem_of_find?_eq_some h

theorem find?_filter_ne {β : Type} (name : β → ι) (entries : List β) (asker other : ι) :
    (entries.filter (name · != asker)).find? (name · == other) =
      if other = asker then none else entries.find? (name · == other) := by
  rw [List.find?_filter]
  by_cases h : other = asker
  · subst h
    rw [if_pos rfl, List.find?_eq_none]
    simp
  · rw [if_neg h]
    congr 1
    funext entry
    by_cases hentry : name entry = other
    · simp [hentry, h]
    · simp [hentry]

@[simp] theorem waiter?_dropWaiter (asker other : ι) :
    (limiter.dropWaiter asker).waiter? other =
      if other = asker then none else limiter.waiter? other :=
  find?_filter_ne Waiter.asker limiter.waiters asker other

@[simp] theorem waiter?_moveToSlot (asker other : ι) :
    (limiter.moveToSlot asker).waiter? other =
      (limiter.waiter? other).map fun w => if other = asker then { w with stage := .slot } else w := by
  have hname : ((fun w : Waiter ι κ => w.asker == other) ∘
      fun w => if w.asker = asker then { w with stage := .slot } else w) = fun w => w.asker == other := by
    funext w
    simp only [Function.comp_apply]
    split <;> rfl
  unfold waiter? moveToSlot
  rw [List.find?_map, hname]
  cases hfound : limiter.waiters.find? (·.asker == other) with
  | none => rfl
  | some w =>
    have hother : w.asker = other := waiter?_asker hfound
    rw [Option.map_some, Option.map_some, hother]

/-- Who has been moved on waits as its move says, and all others wait as before. -/
theorem waiter?_settle (hfound : limiter.waiter? waiter.asker = some waiter) (next : Next) (other : ι) :
    (limiter.settle waiter gate next).waiter? other =
      if other = waiter.asker then next.wait? waiter else limiter.waiter? other := by
  by_cases hother : other = waiter.asker
  · rw [if_pos hother, hother]
    cases next with
    | stays => exact hfound
    | leaves => exact (waiter?_dropWaiter _ _).trans (if_pos rfl)
    | queues =>
      refine (waiter?_moveToSlot _ _).trans ?_
      change (limiter.waiter? waiter.asker).map _ = _
      rw [hfound, Option.map_some, if_pos rfl]
      rfl
    | works => exact (waiter?_dropWaiter _ _).trans (if_pos rfl)
  · rw [if_neg hother]
    cases next with
    | stays => rfl
    | leaves => exact (waiter?_dropWaiter _ _).trans (if_neg hother)
    | queues =>
      refine (waiter?_moveToSlot _ _).trans ?_
      change (limiter.waiter? other).map _ = _
      simp only [hother, if_false, Option.map_id']
    | works => exact (waiter?_dropWaiter _ _).trans (if_neg hother)

/-- Only who works from now on has a permit that it did not have. -/
theorem permit?_settle (next : Next) (other : ι) :
    (limiter.settle waiter gate next).permit? other =
      if next = .works ∧ other = waiter.asker then some ⟨waiter.asker, waiter.jobType, waiter.gate⟩
      else limiter.permit? other := by
  cases next with
  | works =>
    change List.find? _ (_ :: limiter.permits) = _
    by_cases hother : other = waiter.asker
    · rw [if_pos ⟨rfl, hother⟩, hother]
      exact List.find?_cons_of_pos (beq_self_eq_true _)
    · rw [if_neg fun h => hother h.2]
      exact List.find?_cons_of_neg (by simpa using fun h => hother h.symm)
  | _ => rw [if_neg fun h => nomatch h.1]; rfl

/-- The gate is put back, and no other gate is touched. -/
theorem gates_settle {old : Gate ι} (there : limiter.gates[waiter.gate]? = some old) (next : Next)
    (i : Nat) : (limiter.settle waiter gate next).gates[i]? =
      if i = waiter.gate then some gate else limiter.gates[i]? := by
  rw [← gates_updateGate there i]
  cases next <;> rfl

@[simp] theorem length_gates_settle (next : Next) :
    (limiter.settle waiter gate next).gates.length = limiter.gates.length := by
  cases next <;> exact List.length_modify _ _ _

@[simp] theorem registered_settle (next : Next) :
    (limiter.settle waiter gate next).registered = limiter.registered := by
  cases next <;> rfl

@[simp] theorem raised_settle (next : Next) :
    (limiter.settle waiter gate next).raised = limiter.raised := by
  cases next <;> rfl

/-! ## Coming and going -/

/-- Somebody who waits for a token. -/
def join (limiter : Limiter ι κ) (waiter : Waiter ι κ) : Limiter ι κ :=
  { limiter with waiters := limiter.waiters ++ [waiter] }

theorem waiter?_join (hnew : limiter.waiter? waiter.asker = none) (other : ι) :
    (limiter.join waiter).waiter? other =
      if other = waiter.asker then some waiter else limiter.waiter? other := by
  unfold join waiter? at *
  rw [List.find?_append]
  by_cases hother : other = waiter.asker
  · rw [if_pos hother, hother, hnew]
    simp
  · have hne : waiter.asker ≠ other := fun h => hother h.symm
    rw [if_neg hother]
    simp [hne]

/-- Put a gate back and take a permit away. -/
def handBack (limiter : Limiter ι κ) (permit : Permit ι) (gate : Gate ι) : Limiter ι κ :=
  { limiter.updateGate permit.gate fun _ => gate with
    permits := limiter.permits.filter (·.asker != permit.asker) }

theorem gates_handBack {permit : Permit ι} {old : Gate ι} (there : limiter.gates[permit.gate]? = some old)
    (i : Nat) : (limiter.handBack permit gate).gates[i]? =
      if i = permit.gate then some gate else limiter.gates[i]? := gates_updateGate there i

theorem permit?_handBack (permit : Permit ι) (other : ι) :
    (limiter.handBack permit gate).permit? other =
      if other = permit.asker then none else limiter.permit? other :=
  find?_filter_ne Permit.asker limiter.permits permit.asker other

end Limiter

end DurableJobs.Admission
