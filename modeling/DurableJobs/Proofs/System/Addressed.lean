import DurableJobs.Proofs.Job.Tenant
import DurableJobs.Proofs.Store.Lineage
import DurableJobs.Proofs.System.Announced
import DurableJobs.Proofs.System.Claims

/-!
# Whom a completion is told to

That a job is done is told to one user or to all, and the tenant of the job decides it. The task that tells
has the job from its claim, so the tenant is the one in the row that was claimed (`claimed_of_mem`), and
whether it names a user is a question about its characters (`Names`).
-/

set_option autoImplicit false

namespace DurableJobs

variable {σ : Type} {history : List (Occurrence σ)} {e : Occurrence σ}

/-- A claim has answered the job, with the work of the row that it met. -/
def Claimed (history : List (Occurrence σ)) (job : Job) : Prop :=
  ∃ e ∈ history, e.claimed? = some job ∧
    ∃ row, e.before.tables.job? job.id = some row ∧ row.work = job.work

theorem claimed_of_mem {turns : List (Turn σ)} {job : Job}
    (h : job ∈ claimedJobs (World.empty.occurrences turns)) :
    Claimed (World.empty.occurrences turns) job := by
  obtain ⟨e, he, hclaimed⟩ := List.mem_filterMap.mp h
  obtain ⟨row, hrow, -, -, hread⟩ := Occurrence.claimed?_row (ordered_before he) hclaimed
  -- a claim changes what has become of the row, and not what it asks for
  exact ⟨e, he, hclaimed, row, hrow, (Store.Row.read?_work hread).symm⟩

/-- Tasks work on what has been claimed, so it is such jobs that they tell of, and processors have told what
their tasks told. -/
structure Addressed (history : List (Occurrence σ)) (w : World σ) : Prop where
  apart : ToldApart history w
  announced : ∀ a ∈ announcements history, a.2 ∈ claimedJobs history
  notifications : ∀ k, w.notifications k =
    ((announcements history).filter (·.1 == k)).map fun a => Processor.completion a.2

namespace Addressed

theorem start : Addressed [] (World.empty : World σ) where
  apart := ToldApart.start
  announced _ h := nomatch h
  notifications _ := rfl

theorem announced_next (h : Addressed history e.before) {a : Nat × Job}
    (ha : a ∈ announcements (history ++ [e])) : a.2 ∈ claimedJobs (history ++ [e]) := by
  rw [announcements_snoc, List.mem_append, Option.mem_toList] at ha
  rw [claimedJobs_snoc]
  apply List.mem_append_left
  rcases ha with hold | hnew
  · exact h.announced a hold
  · obtain ⟨n, task, hsteps, -, hjob⟩ := Occurrence.announced?_spec hnew
    rw [← hjob]
    exact h.apart.claimed _ n task hsteps.2

theorem next (h : Addressed history e.before) : Addressed (history ++ [e]) e.after where
  apart := h.apart.next
  announced _ := h.announced_next
  notifications k := notifications_snoc (h.notifications k)

theorem run (turns : List (Turn σ)) :
    Addressed (World.empty.occurrences turns) (World.empty.actAll turns) :=
  Run.invariant start (fun _ w turn _ h => next (e := ⟨w, turn⟩) h) turns fun _ _ => trivial

end Addressed

/-- **Told to whom the tenant names.** Every name can be cut where the number of a user is cut out of it,
and the user of a tenant is the one that its name begins with, if it begins with one. In every run, what a
processor has told is that the jobs are done of which its tasks told, each of them claimed from a row with
its tenant: to the user whom that tenant names, and to all if it names none. -/
theorem completions_addressed (turns : List (Turn σ)) :
    (∀ name : String, (leadingNumber? (Text.trimStart name.toList)).isSome = true) ∧
    (∀ tenantId user, tenantUser? tenantId = some user ↔ Names tenantId user) ∧
    (∀ tenantId, tenantUser? tenantId = none ↔ ∀ user, ¬ Names tenantId user) ∧
    (∀ k, (World.empty.actAll turns).notifications k =
      ((announcements (World.empty.occurrences turns)).filter (·.1 == k)).map fun a =>
        Processor.completion a.2) ∧
    ∀ a ∈ announcements (World.empty.occurrences turns),
      Claimed (World.empty.occurrences turns) a.2 ∧
      (Processor.completion a.2).event = Notification.jobCompleted ∧
      (Processor.completion a.2).data = a.2.jobType ∧
      (∀ user, (Processor.completion a.2).userId = some user ↔ Names a.2.tenantId user) ∧
      ((Processor.completion a.2).userId = none ↔ ∀ user, ¬ Names a.2.tenantId user) := by
  have hall := Addressed.run turns
  refine ⟨fun name => leadingNumber?_isSome _, tenantUser?_iff, tenantUser?_eq_none, hall.notifications,
    fun a ha => ?_⟩
  exact ⟨claimed_of_mem (hall.announced a ha), rfl, rfl, tenantUser?_iff a.2.tenantId,
    tenantUser?_eq_none a.2.tenantId⟩

/-- Three jobs are done one after the other: of a tenant whose name begins with a wide blank and a number, of one
whose number is negative, and of none. -/
def threeTenants : List (Turn Unit) :=
  let worker : Action Unit :=
    .launch ProcessorConfig.standard
      (Registry.empty.register "a" (.immediate fun _ _ s => (.done, s))) .standard ()
  let job (tenantId : Option String) : Action Unit :=
    .ask (.enqueue ⟨"a", [], tenantId, none, none, none⟩ Store.standardMaxAttempts)
  let work (n : Nat) : List (Turn Unit) :=
    .quiet 0 (.act 0 .claim) :: List.replicate 5 (.quiet 0 (.act 0 (.step n 0)))
  [.quiet 0 worker, .quiet 0 (job (some "\u3000+42abc")), .quiet 0 (job (some "-3")), .quiet 0 (job none)] ++
    work 0 ++ work 1 ++ work 2

theorem completions_addressed_threeTenants :
    (announcements (World.empty.occurrences threeTenants)).map (·.2.tenantId) =
      [some "\u3000+42abc", some "-3", none] ∧
    ((World.empty.actAll threeTenants).notifications 0).map (·.userId) = [some 42, none, none] ∧
    NamesUser "\u3000+42abc" 42 ∧ (∀ user, ¬ NamesUser "-3" user) ∧
    ∀ a ∈ announcements (World.empty.occurrences threeTenants), a.2.tenantId = some "\u3000+42abc" →
      (Processor.completion a.2).userId = some 42 := by
  obtain ⟨-, -, hnone, htold, hjobs⟩ := completions_addressed threeTenants
  have hnames : NamesUser "\u3000+42abc" 42 := by
    refine ⟨['\u3000'], ['+'], ['4', '2'], ['a', 'b', 'c'], ?_, List.forall_mem_singleton.mpr ?_,
      Or.inr rfl, ⟨?_, ?_, ?_, ?_, ?_⟩, ?_⟩
    all_goals decide
  have hread : tenantUser? (some "-3") = none := by decide +kernel
  refine ⟨by decide +kernel, ?_, hnames, fun user h => ?_, fun a ha htenant => ?_⟩
  · rw [htold]
    decide +kernel
  · exact (hnone _).mp hread user ⟨_, rfl, h⟩
  · obtain ⟨-, -, -, haddressed, -⟩ := hjobs a ha
    exact (haddressed 42).mpr ⟨_, htenant, hnames⟩

end DurableJobs
