import Mathlib.Data.List.Basic
import DurableJobs.Worker.Shutdown

/-!
# Every worker is visited

The waits of a shutdown come one after the other, so when a worker is judged depends on all workers before
it. But a wait never ends before it begins, and the first one begins with the cancellation: whoever ends
within the timeout after the cancellation has ended within its own wait, wherever it stands
(`visit_joined`). How a worker ends is looked at by nobody: without that, a shutdown does the same
(`calm_shutdown`).
-/

set_option autoImplicit false

namespace DurableJobs.Worker

/-! ## What comes before a shutdown -/

/-- What is done with a manager before it is shut down: workers are started, whoever shares the
cancellation raises it, and time passes. -/
inductive Act where
  | spawn (name : String) (course : Course)
  | cancel
  | pass (duration : Nat)
  deriving DecidableEq, Repr

/-- The worker that an act starts. -/
def Act.spawned? : Act → Option (String × Course)
  | spawn name course => some (name, course)
  | cancel | pass _ => none

namespace Manager

def act (m : Manager) : Act → Manager
  | .spawn name course => m.spawn name course
  | .cancel => m.cancel
  | .pass duration => m.pass duration

def actAll (m : Manager) (acts : List Act) : Manager := acts.foldl act m

theorem actAll_handles (acts : List Act) (m : Manager) :
    (m.actAll acts).handles.map (fun worker => (worker.name, worker.course)) =
      m.handles.map (fun worker => (worker.name, worker.course)) ++ acts.filterMap Act.spawned? := by
  induction acts generalizing m with
  | nil => exact (List.append_nil _).symm
  | cons act acts ih =>
    show ((m.act act).actAll acts).handles.map _ = _
    rw [ih]
    cases act with
    | spawn => simp [Manager.act, spawn, Act.spawned?]
    | cancel | pass => rfl

theorem getD_raised_le (m : Manager) : m.raised.getD m.clock ≤ m.clock := by
  cases h : m.raised with
  | none => exact Nat.le_refl _
  | some t => exact m.raised_le t h

/-- Only a shutdown is noted. -/
theorem actAll_log (acts : List Act) (m : Manager) : (m.actAll acts).log = m.log := by
  induction acts generalizing m with
  | nil => rfl
  | cons act acts ih =>
    show ((m.act act).actAll acts).log = m.log
    rw [ih]
    cases act <;> rfl

end Manager

/-! ## One visit -/

variable {timeout start : Nat} {end? : Option (Nat × Ending)}

theorem wait_of_end {at_ : Nat} {ending : Ending} (h : at_ ≤ start + timeout) :
    wait timeout start (some (at_, ending)) = .stopped (max start at_) ending :=
  if_pos h

theorem wait_of_late (h : ∀ at_ ending, end? = some (at_, ending) → start + timeout < at_) :
    wait timeout start end? = .aborted (start + timeout) := by
  cases end? with
  | none => rfl
  | some it => exact if_neg (Nat.not_le.mpr (h it.1 it.2 rfl))

/-- An abort is for those that have not ended. -/
theorem late_of_aborted {at_ : Nat} (h : wait timeout start end? = .aborted at_) :
    ∀ t ending, end? = some (t, ending) → start + timeout < t := by
  rintro t ending rfl
  by_contra hle
  rw [wait_of_end (Nat.not_lt.mp hle)] at h
  cases h

theorem wait_le : (wait timeout start end?).time ≤ start + timeout := by
  unfold wait
  split
  · next at_ ending =>
    split
    · next h => exact Nat.max_le.mpr ⟨Nat.le_add_right _ _, h⟩
    · exact Nat.le_refl _
  · exact Nat.le_refl _

/-- A visit that began at a time, of a worker whose cancellation had been raised. -/
def Visit.Of (raised : Option Nat) (timeout : Nat) (visit : Visit) : Prop :=
  visit.outcome = wait timeout visit.start (visit.worker.end? raised)

/-- Each visit begins when the one before it is over. -/
def Consecutive : Nat → List Visit → Nat → Prop
  | start, [], finish => start = finish
  | start, visit :: visits, finish => visit.start = start ∧ Consecutive visit.outcome.time visits finish

namespace Manager

/-- **A round of visits**: everyone is visited once, in order and one after the other, and nothing but the
clock and the log has changed. -/
theorem foldl_visit (timeout : Nat) (workers : List Handle) (m : Manager) :
    ∃ visits : List Visit,
      (workers.foldl (visit timeout) m).log = m.log ++ visits.map .visited ∧
      (workers.foldl (visit timeout) m).raised = m.raised ∧
      visits.map (·.worker) = workers ∧
      Consecutive m.clock visits (workers.foldl (visit timeout) m).clock ∧
      ∀ visit ∈ visits, visit.Of m.raised timeout := by
  induction workers generalizing m with
  | nil => exact ⟨[], (List.append_nil _).symm, rfl, rfl, rfl, List.forall_mem_nil _⟩
  | cons worker workers ih =>
    obtain ⟨visits, hlog, hraised, hworkers, hconsecutive, hvisits⟩ := ih (m.visit timeout worker)
    let first : Visit := ⟨worker, m.clock, wait timeout m.clock (worker.end? m.raised)⟩
    refine ⟨first :: visits, ?_, hraised, ?_, ⟨rfl, hconsecutive⟩, ?_⟩
    · rw [List.foldl_cons, hlog]
      show m.log ++ [.visited first] ++ _ = _
      simp
    · rw [List.map_cons, hworkers]
    · exact List.forall_mem_cons.mpr ⟨rfl, hvisits⟩

end Manager

/-- The visits of a round begin no earlier than the round, and it takes one timeout for each at most. -/
theorem Consecutive.bounds {finish : Nat} {visits : List Visit} {raised : Option Nat}
    (h : Consecutive start visits finish) (hvisits : ∀ visit ∈ visits, visit.Of raised timeout) :
    (∀ visit ∈ visits, start ≤ visit.start) ∧ finish ≤ start + timeout * visits.length := by
  induction visits generalizing start with
  | nil =>
    cases h
    exact ⟨List.forall_mem_nil _, Nat.le_refl _⟩
  | cons first visits ih =>
    obtain ⟨rfl, hrest⟩ := h
    obtain ⟨hfirst, hvisits⟩ := List.forall_mem_cons.mp hvisits
    obtain ⟨hstarts, hfinish⟩ := ih hrest hvisits
    have hlow : first.start ≤ first.outcome.time := by
      rw [hfirst]
      exact start_le_wait _ _ _
    have hhigh : first.outcome.time ≤ first.start + timeout := by
      rw [hfirst]
      exact wait_le
    refine ⟨List.forall_mem_cons.mpr ⟨Nat.le_refl _, ?_⟩, ?_⟩
    · intro visit hvisit
      exact Nat.le_trans hlow (hstarts visit hvisit)
    · rw [List.length_cons, Nat.mul_succ]
      omega

/-- Whoever ends within the timeout after the cancellation has ended within its own wait. -/
theorem visit_joined {raised : Nat} {visit : Visit} (h : visit.Of (some raised) timeout)
    (hstart : raised ≤ visit.start) {at_ : Nat} {ending : Ending}
    (hend : visit.worker.end? (some raised) = some (at_, ending)) (hsoon : at_ ≤ raised + timeout) :
    visit.outcome = .stopped (max visit.start at_) ending := by
  rw [h, hend]
  exact wait_of_end (by omega)

theorem visit_aborted_iff {raised : Option Nat} {visit : Visit} (h : visit.Of raised timeout) :
    (∀ at_ ending, visit.worker.end? raised = some (at_, ending) → visit.start + timeout < at_) ↔
      visit.outcome = .aborted (visit.start + timeout) := by
  rw [h]
  exact ⟨wait_of_late, late_of_aborted⟩

/-! ## Endings do not matter

What is left of a course, an outcome or a log when all endings are taken for the same. -/

def Course.calm : Course → Course
  | .alone after _ => .alone after .finished
  | .ends after _ => .ends after .finished
  | .stuck => .stuck

def Handle.calm (worker : Handle) : Handle := { worker with course := worker.course.calm }

def Outcome.calm : Outcome → Outcome
  | .stopped at_ _ => .stopped at_ .finished
  | .aborted at_ => .aborted at_

def Note.calm : Note → Note
  | .visited visit => .visited ⟨visit.worker.calm, visit.start, visit.outcome.calm⟩
  | .cancelled at_ => .cancelled at_
  | .returned at_ => .returned at_

def Act.calm : Act → Act
  | .spawn name course => .spawn name course.calm
  | .cancel => .cancel
  | .pass duration => .pass duration

def Manager.calm (m : Manager) : Manager :=
  { m with handles := m.handles.map Handle.calm, log := m.log.map Note.calm }

theorem end?_calm (raised : Option Nat) (worker : Handle) :
    worker.calm.end? raised = (worker.end? raised).map fun it => (it.1, .finished) := by
  obtain ⟨name, started, course⟩ := worker
  cases course with
  | alone | stuck => rfl
  | ends => cases raised <;> rfl

theorem wait_calm (timeout start : Nat) (end? : Option (Nat × Ending)) :
    wait timeout start (end?.map fun it => (it.1, .finished)) = (wait timeout start end?).calm := by
  cases end? with
  | none => rfl
  | some it =>
    simp only [Option.map_some, wait]
    split <;> rfl

theorem Outcome.time_calm (outcome : Outcome) : outcome.calm.time = outcome.time := by
  cases outcome <;> rfl

namespace Manager

theorem calm_visit (timeout : Nat) (m : Manager) (worker : Handle) :
    (m.visit timeout worker).calm = m.calm.visit timeout worker.calm := by
  have hwait : wait timeout m.calm.clock (worker.calm.end? m.calm.raised) =
      (wait timeout m.clock (worker.end? m.raised)).calm := by
    rw [end?_calm, wait_calm]
    rfl
  simp only [visit, hwait, Outcome.time_calm]
  simp [calm, Note.calm]

theorem calm_foldl_visit (timeout : Nat) (workers : List Handle) (m : Manager) :
    (workers.foldl (visit timeout) m).calm = (workers.map Handle.calm).foldl (visit timeout) m.calm := by
  induction workers generalizing m with
  | nil => rfl
  | cons worker workers ih =>
    rw [List.foldl_cons, ih, calm_visit]
    rfl

theorem calm_note (m : Manager) (entry : Note) : (m.note entry).calm = m.calm.note entry.calm := by
  simp [calm, note]

theorem calm_shutdown (timeout : Nat) (m : Manager) :
    (m.shutdown timeout).calm = m.calm.shutdown timeout := by
  have hround := calm_foldl_visit timeout m.handles (m.cancel.note (.cancelled m.clock))
  rw [calm_note] at hround
  have hclock := congrArg Manager.clock hround
  show ((m.handles.foldl (visit timeout) (m.cancel.note (.cancelled m.clock))).note _).calm = _
  rw [calm_note, hround]
  exact congrArg (fun clock => Manager.note _ (.returned clock)) hclock

theorem calm_actAll (acts : List Act) (m : Manager) :
    (m.actAll acts).calm = m.calm.actAll (acts.map Act.calm) := by
  induction acts generalizing m with
  | nil => rfl
  | cons act acts ih =>
    show ((m.act act).actAll acts).calm = (m.calm.act act.calm).actAll (acts.map Act.calm)
    rw [ih]
    cases act with
    | spawn => simp [Manager.act, spawn, calm, Act.calm, Handle.calm]
    | cancel | pass => rfl

end Manager

/-- **Every worker is visited.** Whatever workers have been started and whenever, whether or not the
cancellation has been raised before, and for every timeout, a shutdown

* raises the cancellation before it waits for anyone, visits all workers once, in the order in which they
  were started and each when the visit before it is over, and returns;
* stops for a worker that ends while it waits for it, and so for every worker that ends within the
  timeout after the cancellation, wherever it stands; and aborts those that have not ended when their
  wait is over, and no others;
* does the same, to everyone and at the same times, however the workers end: with errors, panics, or
  neither. -/
theorem every_worker_visited (acts : List Act) (timeout : Nat) :
    let m := Manager.new.actAll acts
    let after := m.shutdown timeout
    let raised := m.raised.getD m.clock
    raised ≤ m.clock ∧
    (∃ visits : List Visit,
      after.log = .cancelled m.clock :: (visits.map .visited ++ [.returned after.clock]) ∧
      visits.map (fun visit => (visit.worker.name, visit.worker.course)) = acts.filterMap Act.spawned? ∧
      Consecutive m.clock visits after.clock ∧
      after.clock ≤ m.clock + timeout * visits.length ∧
      ∀ visit ∈ visits,
        (∀ at_ ending, visit.worker.end? (some raised) = some (at_, ending) →
          at_ ≤ visit.start + timeout → visit.outcome = .stopped (max visit.start at_) ending) ∧
        (∀ at_ ending, visit.worker.end? (some raised) = some (at_, ending) →
          at_ ≤ raised + timeout → visit.outcome = .stopped (max visit.start at_) ending) ∧
        ((∀ at_ ending, visit.worker.end? (some raised) = some (at_, ending) →
          visit.start + timeout < at_) ↔ visit.outcome = .aborted (visit.start + timeout))) ∧
    ∀ acts' : List Act, acts'.map Act.calm = acts.map Act.calm →
      ((Manager.new.actAll acts').shutdown timeout).log.map Note.calm = after.log.map Note.calm := by
  intro m after raised
  have hraised : raised ≤ m.clock := m.getD_raised_le
  refine ⟨hraised, ?_, ?_⟩
  · obtain ⟨visits, hlog, -, hworkers, hconsecutive, hvisits⟩ :=
      Manager.foldl_visit timeout m.handles (m.cancel.note (.cancelled m.clock))
    obtain ⟨hstarts, hbound⟩ := hconsecutive.bounds hvisits
    refine ⟨visits, ?_, ?_, hconsecutive, hbound, fun visit hvisit => ⟨?_, ?_, ?_⟩⟩
    · have hafter : after.log = (m.handles.foldl (Manager.visit timeout)
          (m.cancel.note (.cancelled m.clock))).log ++ [.returned after.clock] := rfl
      have hnote : (m.cancel.note (.cancelled m.clock)).log = [.cancelled m.clock] := by
        show m.log ++ [.cancelled m.clock] = _
        rw [Manager.actAll_log]
        rfl
      rw [hafter, hlog, hnote, List.append_assoc]
      rfl
    · have hspawned := Manager.actAll_handles acts Manager.new
      rw [← hworkers, List.map_map] at hspawned
      exact hspawned
    · intro at_ ending hend hin
      rw [hvisits visit hvisit]
      show wait timeout visit.start (visit.worker.end? (some raised)) = _
      rw [hend, wait_of_end hin]
    · intro at_ ending hend hsoon
      exact visit_joined (hvisits visit hvisit) (Nat.le_trans hraised (hstarts visit hvisit)) hend hsoon
    · exact visit_aborted_iff (hvisits visit hvisit)
  · intro acts' hcalm
    have hlog : ∀ acts : List Act, ((Manager.new.actAll acts).shutdown timeout).log.map Note.calm =
        ((Manager.new.actAll (acts.map Act.calm)).shutdown timeout).log := by
      intro acts
      have h := congrArg Manager.log (Manager.calm_shutdown timeout (Manager.new.actAll acts))
      rw [Manager.calm_actAll] at h
      exact h
    rw [hlog acts', hcalm, ← hlog acts]

/-- Three workers: the first one never ends, the second one fails soon after it is cancelled, and the last
one panics by itself, later than the timeout allows after the cancellation. -/
def mixedWorkers : List Act :=
  [.spawn "stuck" .stuck, .pass 2, .spawn "failing" (.ends 3 .failed),
   .spawn "panicking" (.alone 8 .panicked)]

/-- The first one is aborted, and the second one, which has ended by then, is not. The last one is waited
for in its turn. -/
theorem every_worker_visited_mixed :
    ∃ first second third : Visit,
      ((Manager.new.actAll mixedWorkers).shutdown 5).log =
        [.cancelled 2, .visited first, .visited second, .visited third, .returned 10] ∧
      first.outcome = .aborted 7 ∧ second.outcome = .stopped 7 .failed ∧
      third.outcome = .stopped 10 .panicked := by
  let stuck : Visit := ⟨⟨"stuck", 0, .stuck⟩, 2, .aborted 7⟩
  let failing : Visit := ⟨⟨"failing", 2, .ends 3 .failed⟩, 7, .stopped 7 .failed⟩
  let panicking : Visit := ⟨⟨"panicking", 2, .alone 8 .panicked⟩, 7, .stopped 10 .panicked⟩
  have hrun : ((Manager.new.actAll mixedWorkers).shutdown 5).log =
      [.cancelled 2, .visited stuck, .visited failing, .visited panicking, .returned 10] := by decide
  obtain ⟨-, ⟨visits, hlog, -, -, -, hvisits⟩, -⟩ := every_worker_visited mixedWorkers 5
  have hmem : ∀ visit ∈ [stuck, failing, panicking], visit ∈ visits := by
    intro visit hvisit
    have hnote : Note.visited visit ∈ ((Manager.new.actAll mixedWorkers).shutdown 5).log := by
      rw [hrun]
      revert visit
      decide
    rw [hlog] at hnote
    simpa using hnote
  refine ⟨stuck, failing, panicking, hrun, ?_, ?_, ?_⟩
  · exact (hvisits stuck (hmem _ (by decide))).2.2.mp fun _ _ h => by cases h
  · exact (hvisits failing (hmem _ (by decide))).2.1 5 .failed (by decide) (by decide)
  · exact (hvisits panicking (hmem _ (by decide))).1 10 .panicked (by decide) (by decide)

end DurableJobs.Worker
