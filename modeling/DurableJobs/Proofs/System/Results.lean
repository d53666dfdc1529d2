import DurableJobs.Proofs.System.Attempts
import DurableJobs.Proofs.System.Provenance

/-!
# What handlers answer

A handler that is called may answer at once or much later, and its task may be lost before it does. So
calls and answers are not the same, and this file follows both: every answer belongs to a call, one call
has one answer at most, and what is archived later has been answered with a failure that was final
(`Answered`).

Calls stand for themselves in all this as the jobs they were given, which differ in their attempts
(`ToldApart`). Three steps of a task are followed as milestones: it calls, it is answered, it archives.
-/

set_option autoImplicit false

namespace DurableJobs

open Store (Operation Reply)

variable {σ : Type} {history : List (Occurrence σ)} {e : Occurrence σ}

/-! ## Results -/

/-- What a task hears from its handler. -/
structure Result where
  job : Job
  outcome : HandlerOutcome
  /-- The job would not be tried again: its attempts are used up, or it is too old. -/
  final : Bool
  deriving DecidableEq

namespace Result

/-- The handler was done. Failures and panics are the other outcomes. -/
def succeeded (r : Result) : Bool := decide (r.outcome = .done)

/-- The job is given up. -/
def condemns (r : Result) : Bool := !r.succeeded && r.final

/-- The job is put off after a failure that another try may mend. -/
def retries (r : Result) : Bool := r.outcome.failure?.any (·.isRetryable) && !r.final

theorem succeeded_eq (r : Result) : r.succeeded = r.outcome.failure?.isNone := by
  unfold succeeded
  cases r.outcome <;> rfl

end Result

/-- The result that a task hears in a deed. -/
def Processor.result? (p : Processor σ) (deed : Deed σ) (now : Instant) : Option Result :=
  (p.stepping? deed).bind fun task => (p.outcome? task.job task.phase).map fun outcome =>
    ⟨task.job, outcome, p.config.deadLetters.shouldMove task.job now⟩

namespace Occurrence

/-- The result that a task hears in this turn. -/
def result? (e : Occurrence σ) : Option Result :=
  match e.act.action with
  | .act k deed => e.before.processors[k]?.bind (·.result? deed e.now)
  | _ => none

theorem Steps.result? {k n : Nat} {task : Task} {p : Processor σ} (hsteps : e.Steps k n task)
    (hp : e.before.processors[k]? = some p) :
    e.result? = (p.outcome? task.job task.phase).map fun outcome =>
      ⟨task.job, outcome, p.config.deadLetters.shouldMove task.job e.now⟩ := by
  obtain ⟨⟨draw, haction⟩, htask⟩ := hsteps
  have hn : p.task? n = some task := (World.task?_of_processor hp n).symm.trans htask
  simp only [Occurrence.result?, haction, hp, Option.bind_some, Processor.result?,
    Processor.stepping?, hn]

/-- A result is heard by a task in its step. -/
theorem result?_spec {r : Result} (h : e.result? = some r) :
    ∃ k n task p, e.Steps k n task ∧ e.before.processors[k]? = some p ∧ task.job = r.job ∧
      p.outcome? task.job task.phase = some r.outcome := by
  unfold Occurrence.result? at h
  split at h
  · next k deed haction =>
    obtain ⟨p, hp, hresult⟩ := Option.bind_eq_some_iff.mp h
    obtain ⟨task, hstepping, hmap⟩ := Option.bind_eq_some_iff.mp hresult
    obtain ⟨outcome, houtcome, rfl⟩ := Option.map_eq_some_iff.mp hmap
    have hsteps : e.stepping? = some (k, task) := by
      simp only [Occurrence.stepping?, haction, hp, Option.bind_some, hstepping, Option.map_some]
    obtain ⟨n, hsteps⟩ := stepping?_spec hsteps
    exact ⟨k, n, task, p, hsteps, hp, rfl, houtcome⟩
  · cases h

end Occurrence

/-- The results that have been heard in a run, in order. -/
def results (history : List (Occurrence σ)) : List Result := history.filterMap (·.result?)

/-- The jobs of the calls that have been answered. -/
def answeredJobs (history : List (Occurrence σ)) : List Job := (results history).map (·.job)

/-- The jobs of the calls after which the job was given up. -/
def condemnedJobs (history : List (Occurrence σ)) : List Job :=
  ((results history).filter (·.condemns)).map (·.job)

theorem results_snoc (history : List (Occurrence σ)) (e : Occurrence σ) :
    results (history ++ [e]) = results history ++ e.result?.toList :=
  Run.filterMap_snoc _ history e

theorem mem_results_snoc {r : Result} :
    r ∈ results (history ++ [e]) ↔ r ∈ results history ∨ e.result? = some r := by
  rw [results_snoc, List.mem_append, Option.mem_toList]

theorem mem_condemnedJobs {job : Job} :
    job ∈ condemnedJobs history ↔ ∃ r ∈ results history, r.condemns = true ∧ r.job = job := by
  simp only [condemnedJobs, List.mem_map, List.mem_filter, and_assoc]

theorem mem_condemnedJobs_snoc {job : Job} (h : job ∈ condemnedJobs history) :
    job ∈ condemnedJobs (history ++ [e]) := by
  obtain ⟨r, hr, hcondemns⟩ := mem_condemnedJobs.mp h
  exact mem_condemnedJobs.mpr ⟨r, mem_results_snoc.mpr (Or.inl hr), hcondemns⟩

/-! ## Milestones -/

/-- A task that archives is done with its job if the store takes it, and buries it if not. -/
theorem Leads.of_archiving {p : Processor σ} {job : Job} {now : Instant}
    {reply? : Option (Except StoreError Reply)} {message : String} {phase : Phase}
    (h : Leads p job now reply? (.archiving message) phase) :
    (phase = .releasing ∧ ∃ reply, reply? = some (.ok reply)) ∨
      (phase = .burying message ∧ ∃ error, reply? = some (.error error)) := by
  cases h with
  | archived _ reply hreply => exact Or.inl ⟨rfl, reply, hreply⟩
  | unarchived _ error hreply => exact Or.inr ⟨rfl, error, hreply⟩
  | looked _ _ hwaits => rcases hwaits with hwaits | hwaits <;> cases hwaits
  | succeeded _ hears => cases hears
  | condemned _ _ _ hears => cases hears
  | putOff _ _ _ _ hears => cases hears

namespace Milestone

/-- The task has not heard from its handler yet. -/
def beforeAnswer : Phase → Bool
  | .checking | .asking | .queued | .admitted | .running => true
  | _ => false

/-- A task hears from its handler. -/
def answer : Milestone σ where
  passes e task := beforeAnswer task.phase && e.result?.isSome
  ahead := beforeAnswer
  ahead_of_passes _ task h := (Bool.and_eq_true_iff.mp h).1
  ahead_of_leads _ _ _ _ before after h hahead := by
    cases h with
    | missed | called => rfl
    | looked _ _ hwaits => rcases hwaits with rfl | rfl <;> rfl
    | _ => cases hahead
  behind e k n task hsteps hpasses task' hafter := by
    obtain ⟨p, hp, hway⟩ := hsteps.cases
    have hheard := (Bool.and_eq_true_iff.mp hpasses).2
    rw [hsteps.result? hp, Option.isSome_map] at hheard
    obtain ⟨outcome, houtcome⟩ := Option.isSome_iff_exists.mp hheard
    rcases hway with ⟨⟨hrunning, hsilent⟩ | hended, -⟩ | ⟨next, hleads, hnext⟩
    · rw [hrunning, hsilent] at houtcome
      cases houtcome
    · rw [hended] at houtcome
      cases houtcome
    · rw [hnext] at hafter
      generalize task.phase = phase at hleads houtcome
      cases hleads with
      | called hsilent =>
        rw [hsilent] at houtcome
        cases houtcome
      | succeeded | condemned | putOff =>
        cases hafter
        rfl
      | looked _ _ hwaits => rcases hwaits with rfl | rfl <;> cases houtcome
      | _ => cases houtcome

/-- Whoever hears a result has been waiting for it. -/
theorem passing?_answer (e : Occurrence σ) : answer.passing? e = e.result?.map (·.job) := by
  cases hresult : e.result? with
  | none =>
    have hnobody : ∀ step : Nat × Task, (answer (σ := σ)).passes e step.2 = false := fun step => by
      simp only [answer, hresult, Option.isSome_none, Bool.and_false]
    refine Option.map_eq_none_iff.mpr (Option.filter_eq_none_iff.mpr fun step _ => ?_)
    simp [hnobody step]
  | some r =>
    obtain ⟨k, n, task, p, hsteps, -, hjob, houtcome⟩ := Occurrence.result?_spec hresult
    have hwaits : beforeAnswer task.phase = true := by
      generalize task.phase = phase at houtcome
      cases phase <;> first | rfl | cases houtcome
    rw [passing?_of_steps hsteps (Bool.and_eq_true_iff.mpr ⟨hwaits, by rw [hresult]; rfl⟩), hjob]
    rfl

theorem passed_answer (history : List (Occurrence σ)) :
    answer.passed history = answeredJobs history := by
  rw [passed, answeredJobs, results, List.map_filterMap]
  exact List.filterMap_congr fun e _ => passing?_answer e

/-- A task archives its job, and the store takes it. -/
def archive : Milestone σ where
  passes e task := task.phase.condemns && e.reply?.any (·.isOk)
  ahead := Phase.holds
  ahead_of_passes _ task h := by
    have hphase := (Bool.and_eq_true_iff.mp h).1
    generalize task.phase = phase at hphase
    cases phase <;> first | rfl | cases hphase
  ahead_of_leads _ _ _ _ _ _ h := h.holds_before
  behind e k n task hsteps hpasses task' hafter := by
    obtain ⟨hphase, hreply⟩ := Bool.and_eq_true_iff.mp hpasses
    obtain ⟨p, -, ⟨hrests, -⟩ | ⟨next, hleads, hnext⟩⟩ := hsteps.cases
    · rcases hrests with ⟨hrunning, -⟩ | hended
      · rw [hrunning] at hphase
        cases hphase
      · rw [hended] at hphase
        cases hphase
    · rw [hnext] at hafter
      generalize task.phase = phase at hphase hleads
      cases phase <;> cases hphase
      rcases hleads.of_archiving with ⟨rfl, -⟩ | ⟨-, error, hrefused⟩
      · cases hafter
        rfl
      · rw [hrefused] at hreply
        cases hreply

end Milestone

/-- The jobs that their tasks have archived. -/
def archivedJobs (history : List (Occurrence σ)) : List Job := Milestone.archive.passed history

/-! ## Calls, answers and archivings -/

/-- Answers belong to calls, one to one, and what is archived has been answered with a failure that was
final. -/
structure Answered (history : List (Occurrence σ)) (w : World σ) : Prop where
  toldApart : ToldApart history w
  call : Milestone.call.Kept history w
  answer : Milestone.answer.Kept history w
  archive : Milestone.archive.Kept history w
  running : ∀ k n task, w.task? k n = some task → task.phase = .running →
    task.job ∈ calledJobs history
  called : ∀ r ∈ results history, r.job ∈ calledJobs history
  condemned : ∀ k n task, w.task? k n = some task → task.phase.condemns = true →
    task.job ∈ condemnedJobs history
  archived : ∀ job ∈ archivedJobs history, job ∈ condemnedJobs history

theorem Answered.start : Answered [] (World.empty : World σ) where
  toldApart := ToldApart.start
  call := Milestone.Kept.start
  answer := Milestone.Kept.start
  archive := Milestone.Kept.start
  running _ _ _ h := nomatch h
  called _ h := nomatch h
  condemned _ _ _ h := nomatch h
  archived _ h := nomatch h

theorem mem_calledJobs_snoc {job : Job} :
    job ∈ calledJobs (history ++ [e]) ↔
      job ∈ calledJobs history ∨ Milestone.call.passing? e = some job := by
  rw [calledJobs, Milestone.passed_snoc, List.mem_append, Option.mem_toList, ← calledJobs]

theorem Occurrence.Steps.calls {k n : Nat} {task : Task} (hsteps : e.Steps k n task)
    (hphase : task.phase = .admitted) : Milestone.call.passing? e = some task.job :=
  Milestone.passing?_of_steps hsteps (decide_eq_true hphase)

namespace Answered

theorem running_next (h : Answered history e.before) {k n : Nat} {task : Task}
    (hafter : e.after.task? k n = some task) (hphase : task.phase = .running) :
    task.job ∈ calledJobs (history ++ [e]) := by
  have hfate := e.taskFate k n
  rw [hafter] at hfate
  generalize hbefore : e.before.task? k n = task? at hfate
  cases hfate with
  | kept | rested => exact mem_calledJobs_snoc.mpr (Or.inl (h.running k n task hbefore hphase))
  | spawned => cases hphase
  | moved p old phase hsteps hp hleads =>
    dsimp only at hphase ⊢
    subst hphase
    generalize hwas : old.phase = before at hleads
    cases hleads with
    | called => exact mem_calledJobs_snoc.mpr (Or.inr (hsteps.calls hwas))
    | looked _ _ _ hnext => rcases hnext with hnext | hnext | hnext <;> cases hnext

theorem called_next (h : Answered history e.before) {r : Result} (hr : r ∈ results (history ++ [e])) :
    r.job ∈ calledJobs (history ++ [e]) := by
  rcases mem_results_snoc.mp hr with hold | hnew
  · exact mem_calledJobs_snoc.mpr (Or.inl (h.called r hold))
  · -- the handler answers when it is called, or its task has called it before
    obtain ⟨k, n, task, p, hsteps, -, hjob, houtcome⟩ := Occurrence.result?_spec hnew
    rw [← hjob]
    generalize hphase : task.phase = phase at houtcome
    cases phase <;> first | cases houtcome | skip
    · exact mem_calledJobs_snoc.mpr (Or.inr (hsteps.calls hphase))
    · exact mem_calledJobs_snoc.mpr (Or.inl (h.running k n task hsteps.2 hphase))

theorem condemned_next (h : Answered history e.before) {k n : Nat} {task : Task}
    (hafter : e.after.task? k n = some task) (hcondemns : task.phase.condemns = true) :
    task.job ∈ condemnedJobs (history ++ [e]) := by
  have hfate := e.taskFate k n
  rw [hafter] at hfate
  generalize hbefore : e.before.task? k n = task? at hfate
  cases hfate with
  | kept | rested => exact mem_condemnedJobs_snoc (h.condemned k n task hbefore hcondemns)
  | spawned => cases hcondemns
  | moved p old phase hsteps hp hleads =>
    dsimp only at hcondemns ⊢
    have hresult := hsteps.result? hp
    generalize old.phase = before at hleads hresult
    cases hleads with
    | condemned _ outcome failure hears hfails hfinal =>
      rw [hears, Option.map_some] at hresult
      refine mem_condemnedJobs.mpr ⟨_, mem_results_snoc.mpr (Or.inr hresult), ?_, rfl⟩
      rw [Result.condemns, Result.succeeded_eq, hfails, hfinal]
      rfl
    | looked _ _ _ hnext => rcases hnext with rfl | rfl | rfl <;> cases hcondemns
    | _ => cases hcondemns

theorem archived_next (h : Answered history e.before) {job : Job}
    (hjob : job ∈ archivedJobs (history ++ [e])) : job ∈ condemnedJobs (history ++ [e]) := by
  rcases Milestone.mem_passed_snoc hjob with hold | hnew
  · exact mem_condemnedJobs_snoc (h.archived job hold)
  · obtain ⟨k, n, task, hsteps, hpasses, rfl⟩ := Milestone.passing?_spec hnew
    exact mem_condemnedJobs_snoc
      (h.condemned k n task hsteps.2 (Bool.and_eq_true_iff.mp hpasses).1)

theorem next (h : Answered history e.before) : Answered (history ++ [e]) e.after where
  toldApart := h.toldApart.next
  call := h.call.next h.toldApart
  answer := h.answer.next h.toldApart
  archive := h.archive.next h.toldApart
  running _ _ _ := h.running_next
  called _ := h.called_next
  condemned _ _ _ := h.condemned_next
  archived _ := h.archived_next

theorem run (turns : List (Turn σ)) :
    Answered (World.empty.occurrences turns) (World.empty.actAll turns) :=
  Run.invariant start (fun _ w turn _ h => next (e := ⟨w, turn⟩) h) turns fun _ _ => trivial

variable {w : World σ}

/-- As many jobs are among the answered ones as there are calls that have been answered. -/
theorem countP_answered (h : Answered history w) (picks : Job → Bool) :
    (answeredJobs history).countP picks =
      (calledJobs history).countP fun job => picks job && decide (job ∈ answeredJobs history) := by
  have hdistinct : (answeredJobs history).Nodup :=
    Milestone.passed_answer history ▸ h.answer.distinct
  have hperm : (answeredJobs history).Perm
      ((calledJobs history).filter fun job => decide (job ∈ answeredJobs history)) := by
    refine (List.perm_ext_iff_of_nodup hdistinct (h.call.distinct.filter _)).mpr fun job => ?_
    rw [List.mem_filter, decide_eq_true_iff, iff_and_self]
    intro hjob
    obtain ⟨r, hr, rfl⟩ := List.mem_map.mp hjob
    exact h.called r hr
  rw [hperm.countP_eq, List.countP_filter]

/-- No more jobs are archived than are given up. -/
theorem countP_archived_le (h : Answered history w) (picks : Job → Bool) :
    (archivedJobs history).countP picks ≤ (condemnedJobs history).countP picks :=
  (h.archive.distinct.subperm h.archived).countP_le picks

end Answered

end DurableJobs
