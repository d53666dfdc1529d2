import DurableJobs.Admission.Slots
import Mathlib.Data.List.Nodup

/-!
# What slots keep

Slots know those who queue, those who have been given a slot and those who work, and nothing else knows
how many there are. So nothing gets lost only if these lists agree with who really waits and who really
works: somebody who is gone and still stands in a list keeps a slot for ever.

`Tidy` says that they agree, with the two groups as predicates, and that a slot is free only when nobody
queues. Each operation is one lemma: what it does to the groups.
-/

set_option autoImplicit false

namespace DurableJobs.Admission

namespace Slots

variable {ι : Type}

/-- Who waits: in the queue, or with a slot that has not been collected. -/
def waiting (slots : Slots ι) : List ι := slots.queue ++ slots.assigned

/-- The slots add up to a capacity, none is free while somebody queues, and the lists name those who wait
and those who work, each once. -/
structure Tidy (slots : Slots ι) (capacity : Nat) (waits works : ι → Prop) : Prop where
  total : slots.free + slots.held.length + slots.assigned.length = capacity
  busy : slots.queue = [] ∨ slots.free = 0
  waitOnce : slots.waiting.Nodup
  workOnce : slots.held.Nodup
  waits : ∀ a, a ∈ slots.waiting ↔ waits a
  works : ∀ a, a ∈ slots.held ↔ works a

variable {slots : Slots ι} {capacity : Nat} {waits works : ι → Prop} {asker : ι}

theorem held_pass (slots : Slots ι) : slots.pass.held = slots.held := by
  unfold pass
  split <;> rfl

theorem held_release [DecidableEq ι] (slots : Slots ι) (asker : ι) :
    (slots.release asker).held = slots.held.erase asker := by
  unfold release
  split
  · exact held_pass _
  · rename_i hnone
    exact (List.erase_of_not_mem hnone).symm

namespace Tidy

theorem congr (h : Tidy slots capacity waits works) {waits' works' : ι → Prop}
    (hwaits : ∀ a, waits' a ↔ waits a) (hworks : ∀ a, works' a ↔ works a) :
    Tidy slots capacity waits' works' where
  total := h.total
  busy := h.busy
  waitOnce := h.waitOnce
  workOnce := h.workOnce
  waits a := (h.waits a).trans (hwaits a).symm
  works a := (h.works a).trans (hworks a).symm

theorem ofCapacity (capacity : Nat) :
    Tidy (Slots.ofCapacity (ι := ι) capacity) (max capacity 1) (fun _ => False) fun _ => False where
  total := rfl
  busy := Or.inl rfl
  waitOnce := List.nodup_nil
  workOnce := List.nodup_nil
  waits a := by simp [waiting, Slots.ofCapacity]
  works a := by simp [Slots.ofCapacity]

/-- A slot that is handed on stays in use if somebody queues for it, and the same people wait. -/
theorem pass (htotal : slots.free + slots.held.length + slots.assigned.length + 1 = capacity)
    (hbusy : slots.queue = [] ∨ slots.free = 0) (hwait : slots.waiting.Nodup)
    (hwork : slots.held.Nodup) (hwaits : ∀ a, a ∈ slots.waiting ↔ waits a)
    (hworks : ∀ a, a ∈ slots.held ↔ works a) : Tidy slots.pass capacity waits works := by
  cases hqueue : slots.queue with
  | nil =>
    simp only [Slots.pass, hqueue]
    refine ⟨?_, Or.inl rfl, ?_, hwork, fun a => ?_, hworks⟩
    · dsimp only
      omega
    · rw [waiting, hqueue] at hwait
      exact hwait
    · rw [← hwaits a, waiting, waiting, hqueue]
  | cons next queue =>
    simp only [Slots.pass, hqueue]
    -- the head of the queue changes its place among those who wait
    have hmoved : (queue ++ (slots.assigned ++ [next])).Perm slots.waiting := by
      rw [waiting, hqueue, ← List.append_assoc]
      exact List.perm_append_singleton next (queue ++ slots.assigned)
    refine ⟨?_, ?_, hmoved.nodup_iff.mpr hwait, hwork, fun a => hmoved.mem_iff.trans (hwaits a), hworks⟩
    · simp only [List.length_append, List.length_singleton]
      omega
    · rw [hqueue] at hbusy
      exact Or.inr (hbusy.resolve_left nofun)

/-- With no slot free, whoever asks queues. -/
theorem queue (h : Tidy slots capacity waits works) (hfull : slots.free = 0) (hnew : ¬waits asker) :
    Tidy (slots.request asker).2 capacity (fun a => waits a ∨ a = asker) works := by
  have hmoved : (slots.queue ++ [asker] ++ slots.assigned).Perm (asker :: slots.waiting) := by
    rw [List.append_assoc, waiting]
    exact List.perm_middle
  have hfresh : asker ∉ slots.waiting := fun hmem => hnew ((h.waits asker).mp hmem)
  rw [Slots.request, if_pos hfull]
  refine ⟨h.total, Or.inr hfull, hmoved.nodup_iff.mpr (List.nodup_cons.mpr ⟨hfresh, h.waitOnce⟩),
    h.workOnce, fun a => ?_, h.works⟩
  change a ∈ slots.queue ++ [asker] ++ slots.assigned ↔ _
  rw [hmoved.mem_iff, List.mem_cons, h.waits, or_comm]

/-- With a slot free, whoever asks works. -/
theorem enter (h : Tidy slots capacity waits works) (hfree : slots.free ≠ 0) (hnew : ¬works asker) :
    Tidy (slots.request asker).2 capacity waits fun a => works a ∨ a = asker := by
  have hfresh : asker ∉ slots.held := fun hmem => hnew ((h.works asker).mp hmem)
  have htotal := h.total
  rw [Slots.request, if_neg hfree]
  refine ⟨?_, Or.inl (h.busy.resolve_right hfree), h.waitOnce, List.nodup_cons.mpr ⟨hfresh, h.workOnce⟩,
    h.waits, fun a => ?_⟩
  · simp only [List.length_cons]
    omega
  · rw [List.mem_cons, h.works, or_comm]

/-- Who has been given a slot stands behind the queue. -/
theorem not_mem_queue (h : Tidy slots capacity waits works) (hassigned : asker ∈ slots.assigned) :
    asker ∉ slots.queue :=
  fun hqueue => (List.nodup_append.mp h.waitOnce).2.2 asker hqueue asker hassigned rfl

variable [DecidableEq ι]

theorem length_erase {names : List ι} (hmem : asker ∈ names) :
    (names.erase asker).length + 1 = names.length := by
  have hpos := List.length_pos_of_mem hmem
  rw [List.length_erase_of_mem hmem]
  omega

theorem mem_waiting_erase (h : Tidy slots capacity waits works) (a : ι) :
    a ∈ slots.waiting.erase asker ↔ waits a ∧ a ≠ asker := by
  rw [h.waitOnce.mem_erase_iff, h.waits, and_comm]

/-- A slot that is collected was in use before. -/
theorem collect (h : Tidy slots capacity waits works) (hassigned : asker ∈ slots.assigned)
    (hnew : ¬works asker) :
    Tidy (slots.collect asker).2 capacity (fun a => waits a ∧ a ≠ asker) fun a => works a ∨ a = asker := by
  have hfresh : asker ∉ slots.held := fun hmem => hnew ((h.works asker).mp hmem)
  have hwaiting : slots.queue ++ slots.assigned.erase asker = slots.waiting.erase asker :=
    (List.erase_append_right _ (h.not_mem_queue hassigned)).symm
  have htotal := h.total
  have hlength := length_erase hassigned
  rw [Slots.collect, if_pos hassigned]
  refine ⟨?_, h.busy, ?_, List.nodup_cons.mpr ⟨hfresh, h.workOnce⟩, fun a => ?_, fun a => ?_⟩
  · simp only [List.length_cons]
    omega
  · rw [waiting, hwaiting]
    exact h.waitOnce.erase asker
  · rw [waiting, hwaiting]
    exact h.mem_waiting_erase a
  · rw [List.mem_cons, h.works, or_comm]

/-- Whoever stops waiting leaves no slot behind: one that was assigned is handed on. -/
theorem withdraw (h : Tidy slots capacity waits works) (hwaits : waits asker) :
    Tidy (slots.withdraw asker) capacity (fun a => waits a ∧ a ≠ asker) works := by
  by_cases hassigned : asker ∈ slots.assigned
  · have hwaiting : slots.queue ++ slots.assigned.erase asker = slots.waiting.erase asker :=
      (List.erase_append_right _ (h.not_mem_queue hassigned)).symm
    have htotal := h.total
    have hlength := length_erase hassigned
    rw [Slots.withdraw, if_pos hassigned]
    refine .pass ?_ h.busy ?_ h.workOnce (fun a => ?_) h.works
    · dsimp only
      omega
    · rw [waiting, hwaiting]
      exact h.waitOnce.erase asker
    · rw [waiting, hwaiting]
      exact h.mem_waiting_erase a
  · have hqueue : asker ∈ slots.queue :=
      (List.mem_append.mp ((h.waits asker).mpr hwaits)).resolve_right hassigned
    have hwaiting : slots.queue.erase asker ++ slots.assigned = slots.waiting.erase asker :=
      (List.erase_append_left _ hqueue).symm
    rw [Slots.withdraw, if_neg hassigned]
    refine ⟨h.total, ?_, ?_, h.workOnce, fun a => ?_, h.works⟩
    · rcases h.busy with hnone | hfull
      · rw [hnone] at hqueue
        cases hqueue
      · exact Or.inr hfull
    · rw [waiting, hwaiting]
      exact h.waitOnce.erase asker
    · rw [waiting, hwaiting]
      exact h.mem_waiting_erase a

/-- Whoever stops working hands its slot on. -/
theorem release (h : Tidy slots capacity waits works) (hworks : works asker) :
    Tidy (slots.release asker) capacity waits fun a => works a ∧ a ≠ asker := by
  have hheld : asker ∈ slots.held := (h.works asker).mpr hworks
  have htotal := h.total
  have hlength := length_erase hheld
  rw [Slots.release, if_pos hheld]
  refine .pass ?_ h.busy h.waitOnce (h.workOnce.erase asker) h.waits fun a => ?_
  · dsimp only
    omega
  · rw [h.workOnce.mem_erase_iff, h.works, and_comm]

end Tidy

end Slots

end DurableJobs.Admission
