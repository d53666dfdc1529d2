import DurableJobs.Proofs.Time.Delay
import DurableJobs.Worker.Reaper

/-!
# Ages

What is older than an age is found by going back from the clock and comparing texts. For times up to the
year 9999 that is the comparison of the times, however far back one goes: a time before the year 0 is
written with a sign and sorts before all of them (`storedBefore_ago_iff`).
-/

set_option autoImplicit false

namespace DurableJobs

open Instant (tenThousand)

namespace Instant

/-- The time so many nanoseconds before another one, whether the calendar goes back that far or not. -/
def ago (now : Instant) (age : Int) : Instant := ofTotalNanos (now.totalNanos - age)

variable {now : Instant} {age : Int}

theorem ago_totalNanos (now : Instant) (age : Int) :
    (now.ago age).totalNanos = now.totalNanos - age := totalNanos_ofTotalNanos _

theorem ago_whole (now : Instant) (age : Int) : (now.ago age).nanos < 1000000000 :=
  ofTotalNanos_whole _

/-- An age of whole seconds goes back by so many. -/
theorem ago_seconds (hwhole : now.nanos < 1000000000) (count : Int) :
    (now.ago (count * 1000000000)).seconds = now.seconds - count := by
  have hback := now.ago_totalNanos (count * 1000000000)
  have hrest := now.ago_whole (count * 1000000000)
  rw [totalNanos, totalNanos] at hback
  omega

theorem addNanos?_neg (now : Instant) (age : Int) :
    now.addNanos? (-age) = if inRange (now.ago age).seconds then some (now.ago age) else none := by
  rw [addNanos?, ← Int.sub_eq_add_neg]
  rfl

end Instant

/-- **What is older than an age**, by the texts and by the times they show. -/
theorem Store.storedBefore_ago {t now : Instant} {age : Int} (ht : t.Dated) (hnow : now.FourDigits)
    (hage : 0 ≤ age) : Store.storedBefore t (now.ago age) = t.shown.before (now.ago age) := by
  have hback := now.ago_totalNanos age
  have hwhole := now.ago_whole age
  have hbefore := hnow.before_tenThousand
  rw [Instant.totalNanos] at hback
  rw [tenThousand] at hbefore
  rw [Bool.eq_iff_iff]
  by_cases hnegative : (now.ago age).seconds < Instant.yearStart 0
  · -- nothing is before a time that comes before all of them, and nothing sorts before its sign
    have hlow := ht.shown.low
    refine iff_of_false (Store.storedBefore_asymm (ht.storedBefore_of_negative hnegative)) ?_
    rw [Instant.before_iff]
    omega
  · have hdated : (now.ago age).Dated := ⟨Int.not_lt.mp hnegative, by omega⟩
    rw [ht.storedBefore_iff hdated, Instant.shown_of_whole hwhole]

theorem Store.storedBefore_ago_iff {t now threshold : Instant} {age : Int} (ht : t.FourDigits)
    (hnow : now.FourDigits) (hage : 0 ≤ age) (h : now.addNanos? (-age) = some threshold) :
    Store.storedBefore t threshold = true ↔ t.totalNanos + age < now.totalNanos := by
  rw [Instant.addNanos?_neg, Option.ite_none_right_eq_some, Option.some.injEq] at h
  rw [← h.2, Store.storedBefore_ago ht.dated hnow hage, Instant.shown_of_whole ht.whole,
    Instant.before_iff_of_whole ht.whole (now.ago_whole age), now.ago_totalNanos]
  omega

/-- The age of the reaper is none below zero. -/
theorem Reaper.age_nonneg (timeout : Span) : 0 ≤ Reaper.age timeout := by
  unfold age Processor.deltaOf?
  split
  · exact Int.natCast_nonneg _
  · decide

end DurableJobs
