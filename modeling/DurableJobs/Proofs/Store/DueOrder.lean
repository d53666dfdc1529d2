import DurableJobs.Proofs.Store.ClaimOrder

/-!
# Claims in a row

The due rows stand in a queue, by time and then by id (`Tables.dueInOrder`). A claim takes the head of
what is left of it, and writes to that row alone, so the rows that have been taken are a front of the
queue, and the tables are the first ones with those rows replaced (`Tables.taken`). The queue itself is
that of the first tables: none is put in, and none becomes due, while the claims are made.
-/

set_option autoImplicit false

namespace DurableJobs.Store

/-! ## The due rows in order -/

/-- The rows that are due, in the order in which they are claimed. -/
def Tables.dueInOrder (tables : Tables) (now : Instant) : List Row :=
  (tables.jobs.filter fun row => decide (row.Due now)).mergeSort fun a b => decide (¬b.Precedes a)

section DueInOrder

variable {tables : Tables} {now : Instant} {row : Row}

theorem mem_dueInOrder : row ∈ tables.dueInOrder now ↔ row ∈ tables.jobs ∧ row.Due now := by
  rw [Tables.dueInOrder, List.mem_mergeSort, List.mem_filter, decide_eq_true_iff]

theorem Tables.Ordered.nodup (ho : tables.Ordered) : tables.jobs.Nodup :=
  ho.sorted.imp fun hlt heq => by
    rw [heq] at hlt
    omega

theorem Tables.Ordered.nodup_dueInOrder (ho : tables.Ordered) : (tables.dueInOrder now).Nodup :=
  ((List.mergeSort_perm _ _).nodup_iff).mpr (ho.nodup.filter _)

/-- Of two due rows the one that comes first in the queue precedes the other. -/
theorem Tables.Ordered.dueInOrder_sorted (ho : tables.Ordered) :
    (tables.dueInOrder now).Pairwise Row.Precedes := by
  have hsorted : (tables.dueInOrder now).Pairwise fun a b => decide (¬b.Precedes a) = true := by
    refine List.pairwise_mergeSort (fun a b c hab hbc => ?_) (fun a b => ?_) _
    · rw [decide_eq_true_iff, precedes_iff] at *
      omega
    · rw [Bool.or_eq_true_iff, decide_eq_true_iff, decide_eq_true_iff, precedes_iff, precedes_iff]
      omega
  refine (hsorted.and ho.nodup_dueInOrder).imp_of_mem fun {a b} ha hb hab => ?_
  have hid : a.id ≠ b.id := fun hid =>
    hab.2 (ho.eq_of_id (mem_dueInOrder.mp ha).1 (mem_dueInOrder.mp hb).1 hid)
  exact Row.precedes_of_not (Ne.symm hid) (of_decide_eq_true hab.1)

/-- In whatever list the due rows stand in the order of their claims, the next claim takes its head. -/
theorem Tables.candidate?_eq_head? (hnow : now.Dated)
    (hpending : ∀ row ∈ tables.jobs, row.hasStatus .pending = true → row.runAt.Dated) {queue : List Row}
    (hsorted : queue.Pairwise Row.Precedes)
    (hmem : ∀ row, row ∈ queue ↔ row ∈ tables.jobs ∧ row.Due now) : tables.candidate? now = queue.head? := by
  cases hfirst : tables.candidate? now with
  | none =>
    have hnone := (candidate?_eq_none_iff hnow hpending).mp hfirst
    cases queue with
    | nil => rfl
    | cons head queue =>
      obtain ⟨hhead, hdue⟩ := (hmem head).mp List.mem_cons_self
      exact absurd hdue (hnone head hhead)
  | some first =>
    obtain ⟨hjobs, hdue, hleast⟩ := candidate?_first hnow hpending hfirst
    have hqueued := (hmem first).mpr ⟨hjobs, hdue⟩
    cases queue with
    | nil => cases hqueued
    | cons head queue =>
      rcases List.mem_cons.mp hqueued with rfl | hback
      · rfl
      · obtain ⟨hhead, hheadDue⟩ := (hmem head).mp List.mem_cons_self
        exact absurd ((List.pairwise_cons.mp hsorted).1 first hback) (hleast head hhead hheadDue.1)

end DueInOrder

/-! ## Rows that have been taken -/

/-- A row that has been claimed, when, and the job that the claim answered. -/
structure Taking where
  row : Row
  now : Instant
  job : Job
  reads : (row.claimed now).read? = some job

/-- What claims have made of a row. -/
def Row.taken (takings : List Taking) (row : Row) : Row :=
  match takings.find? (·.row == row) with
  | some taking => row.claimed taking.now
  | none => row

/-- What claims have made of the tables. -/
def Tables.taken (tables : Tables) (takings : List Taking) : Tables :=
  { tables with jobs := tables.jobs.map (Row.taken takings) }

section Taken

variable {tables : Tables} {takings : List Taking} {row : Row} {now : Instant}

theorem find?_taking_of_not_mem (h : row ∉ takings.map (·.row)) :
    takings.find? (·.row == row) = none := by
  refine List.find?_eq_none.mpr fun taking hmem heq => h ?_
  rw [← beq_iff_eq.mp heq]
  exact List.mem_map_of_mem hmem

theorem Row.taken_of_not_mem (h : row ∉ takings.map (·.row)) : row.taken takings = row := by
  rw [Row.taken, find?_taking_of_not_mem h]

theorem Row.taken_of_mem (h : row ∈ takings.map (·.row)) :
    ∃ at_, row.taken takings = row.claimed at_ := by
  obtain ⟨taking, hmem, hrow⟩ := List.mem_map.mp h
  cases hfound : takings.find? (·.row == row) with
  | none => exact absurd (beq_iff_eq.mpr hrow) (List.find?_eq_none.mp hfound taking hmem)
  | some first => exact ⟨first.now, by rw [Row.taken, hfound]⟩

theorem Row.taken_id (takings : List Taking) (row : Row) : (row.taken takings).id = row.id := by
  unfold Row.taken
  split <;> rfl

/-- What is pending has not been taken. -/
theorem Tables.mem_taken_pending (hpending : row.hasStatus .pending = true) :
    row ∈ (tables.taken takings).jobs ↔ row ∈ tables.jobs ∧ row ∉ takings.map (·.row) := by
  rw [Tables.taken, List.mem_map]
  constructor
  · rintro ⟨old, hmem, rfl⟩
    by_cases htaken : old ∈ takings.map (·.row)
    · obtain ⟨at_, hold⟩ := Row.taken_of_mem htaken
      have hprocessing : (old.claimed at_).hasStatus .processing = true := beq_self_eq_true _
      rw [hold] at hpending
      exact absurd (Row.hasStatus_unique hpending hprocessing) (by decide)
    · rw [Row.taken_of_not_mem htaken]
      exact ⟨hmem, htaken⟩
  · rintro ⟨hmem, htaken⟩
    exact ⟨row, hmem, Row.taken_of_not_mem htaken⟩

/-- A claim of a row that has not been taken is one more taking. -/
theorem Tables.Ordered.taken_snoc (ho : tables.Ordered) (taking : Taking)
    (hmem : taking.row ∈ tables.jobs) (hnew : taking.row ∉ takings.map (·.row)) :
    ((tables.taken takings).updateJobs (·.id == taking.row.id) (·.claimed taking.now)).2 =
      tables.taken (takings ++ [taking]) := by
  rw [Tables.updateJobs, Tables.taken, Tables.taken]
  refine congrArg (fun jobs => { tables with jobs }) ?_
  rw [List.map_map]
  refine List.map_congr_left fun row hrow => ?_
  rw [Function.comp_apply, Row.taken_id]
  by_cases hid : row.id = taking.row.id
  · obtain rfl := ho.eq_of_id hrow hmem hid
    rw [if_pos (beq_iff_eq.mpr rfl), Row.taken_of_not_mem hnew, Row.taken, List.find?_append,
      find?_taking_of_not_mem hnew, Option.none_or,
      List.find?_cons_of_pos (p := fun t : Taking => t.row == taking.row) (beq_iff_eq.mpr rfl)]
  · have hother : (taking.row == row) = false := beq_eq_false_iff_ne.mpr fun heq => hid (by rw [heq])
    rw [if_neg (by simpa using hid), Row.taken, Row.taken, List.find?_append,
      List.find?_cons_of_neg (by simpa using hother), List.find?_nil, Option.or_none]

/-! ## The next claim -/

/-- What is left of the queue are the rows that have not been taken. -/
theorem Tables.Ordered.mem_rest (ho : tables.Ordered)
    (hrows : takings.map (·.row) = (tables.dueInOrder now).take takings.length) :
    row ∈ (tables.dueInOrder now).drop takings.length ↔
      (row ∈ tables.jobs ∧ row.Due now) ∧ row ∉ takings.map (·.row) := by
  rw [← mem_dueInOrder, hrows]
  constructor
  · intro hback
    exact ⟨List.mem_of_mem_drop hback,
      fun hfront => List.disjoint_take_drop ho.nodup_dueInOrder (Nat.le_refl _) hfront hback⟩
  · rintro ⟨hqueued, huntaken⟩
    rw [← List.take_append_drop takings.length (tables.dueInOrder now), List.mem_append] at hqueued
    exact hqueued.resolve_left huntaken

/-- **The next claim takes the head of what is left of the queue**, if at its time the same rows are due. -/
theorem Tables.Ordered.candidate?_taken (ho : tables.Ordered)
    (hpending : ∀ row ∈ tables.jobs, row.hasStatus .pending = true → row.runAt.Dated)
    (hrows : takings.map (·.row) = (tables.dueInOrder now).take takings.length) {at_ : Instant}
    (hdated : at_.Dated) (hsame : ∀ row ∈ tables.jobs, row.Due at_ ↔ row.Due now) :
    (tables.taken takings).candidate? at_ = (tables.dueInOrder now)[takings.length]? := by
  rw [← List.head?_drop]
  refine candidate?_eq_head? hdated
    (fun row hrow hwaits => hpending row ((mem_taken_pending hwaits).mp hrow).1 hwaits)
    (ho.dueInOrder_sorted.sublist (List.drop_sublist takings.length _)) fun row => ?_
  rw [ho.mem_rest hrows]
  constructor
  · rintro ⟨⟨hjobs, hdue⟩, huntaken⟩
    exact ⟨(mem_taken_pending hdue.1).mpr ⟨hjobs, huntaken⟩, (hsame row hjobs).mpr hdue⟩
  · rintro ⟨hmem, hdue⟩
    obtain ⟨hjobs, huntaken⟩ := (mem_taken_pending hdue.1).mp hmem
    exact ⟨⟨hjobs, (hsame row hjobs).mp hdue⟩, huntaken⟩

end Taken

end DurableJobs.Store
