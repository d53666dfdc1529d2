import Mathlib.Algebra.Order.Ring.Nat
import DurableJobs.Time.Calendar

/-!
# Days and dates

`Date.ofDays` finds a year by a guess and walks through its months. The guess is right or one off
(`yearOfDays_spec`), and the walk goes forward, so a later day has a later date: the year counts first,
then the month, then the day. Months and days have two digits, which is all that a text of fixed width
needs to be in that order as well. The walk can be walked back, so the date of a day is read as the day
(`toDays?_ofDays`).
-/

set_option autoImplicit false

namespace DurableJobs.Date

/-! ## Years -/

theorem daysBeforeYear_eq (year : Int) :
    daysBeforeYear year = 365 * year + (year + 3) / 4 - (year + 99) / 100 + (year + 399) / 400 := by
  unfold daysBeforeYear
  rw [Int.fdiv_eq_ediv_of_nonneg _ (by decide), Int.fdiv_eq_ediv_of_nonneg _ (by decide),
    Int.fdiv_eq_ediv_of_nonneg _ (by decide)]

/-- A year is as long as its months. -/
theorem daysBeforeYear_succ (year : Int) :
    daysBeforeYear (year + 1) = daysBeforeYear year + if isLeapYear year then 366 else 365 := by
  rw [daysBeforeYear_eq, daysBeforeYear_eq]
  cases h : isLeapYear year <;> simp [isLeapYear] at h <;> simp <;> omega

theorem daysBeforeYear_mono {a b : Int} (h : a ≤ b) : daysBeforeYear a ≤ daysBeforeYear b := by
  rw [daysBeforeYear_eq, daysBeforeYear_eq]
  omega

/-- A day lies in its year. -/
theorem yearOfDays_spec (days : Int) :
    daysBeforeYear (yearOfDays days) ≤ days ∧ days < daysBeforeYear (yearOfDays days + 1) := by
  -- the mean year is 146097 / 400 days, and no year starts two days off its mean start
  have hguess : Int.fdiv (days * 400) 146097 = days * 400 / 146097 :=
    Int.fdiv_eq_ediv_of_nonneg _ (by decide)
  have hlow : daysBeforeYear (days * 400 / 146097 - 1) ≤ days := by
    rw [daysBeforeYear_eq]
    omega
  have hhigh : days < daysBeforeYear (days * 400 / 146097 + 2) := by
    rw [daysBeforeYear_eq]
    omega
  unfold yearOfDays
  rw [hguess]
  generalize days * 400 / 146097 = guess at hlow hhigh
  dsimp only
  split
  · next hearly =>
    rw [Int.sub_add_cancel]
    exact ⟨hlow, hearly⟩
  · next hearly =>
    split
    · next hlate => exact ⟨hlate, by rwa [show guess + 1 + 1 = guess + 2 by omega]⟩
    · next hlate => omega

theorem le_yearOfDays_iff {year days : Int} :
    year ≤ yearOfDays days ↔ daysBeforeYear year ≤ days := by
  obtain ⟨hstart, hend⟩ := yearOfDays_spec days
  refine ⟨fun h => Int.le_trans (daysBeforeYear_mono h) hstart, fun h => ?_⟩
  by_contra hgt
  have := daysBeforeYear_mono (show yearOfDays days + 1 ≤ year by omega)
  omega

theorem yearOfDays_mono {a b : Int} (h : a ≤ b) : yearOfDays a ≤ yearOfDays b :=
  le_yearOfDays_iff.mpr (Int.le_trans (yearOfDays_spec a).1 h)

/-! ## Months -/

theorem le_walkMonths_fst (lengths : List Nat) (month day : Nat) :
    month ≤ (walkMonths lengths month day).1 := by
  induction lengths generalizing month day with
  | nil => exact Nat.le_refl _
  | cons length rest ih =>
    unfold walkMonths
    split
    · exact Nat.le_refl _
    · exact Nat.le_trans (Nat.le_succ _) (ih _ _)

/-- A later day of the year is in a later month, or later in the same one. -/
theorem walkMonths_lt (lengths : List Nat) (month : Nat) {a b : Nat} (h : a < b) :
    (walkMonths lengths month a).1 < (walkMonths lengths month b).1 ∨
      (walkMonths lengths month a).1 = (walkMonths lengths month b).1 ∧
        (walkMonths lengths month a).2 < (walkMonths lengths month b).2 := by
  induction lengths generalizing month a b with
  | nil => exact Or.inr ⟨rfl, Nat.succ_lt_succ h⟩
  | cons length rest ih =>
    unfold walkMonths
    by_cases hb : b < length
    · rw [if_pos hb, if_pos (Nat.lt_trans h hb)]
      exact Or.inr ⟨rfl, Nat.succ_lt_succ h⟩
    · rw [if_neg hb]
      by_cases ha : a < length
      · rw [if_pos ha]
        exact Or.inl (le_walkMonths_fst rest (month + 1) (b - length))
      · rw [if_neg ha]
        exact ih (month + 1) (by omega)

/-- The walk ends in a month and on a day of it from which it can be walked back. -/
theorem walkMonths_back (lengths : List Nat) (month : Nat) {day : Nat} (h : day < lengths.sum) :
    ∃ i length, lengths[i]? = some length ∧ (walkMonths lengths month day).1 = month + i ∧
      0 < (walkMonths lengths month day).2 ∧ (walkMonths lengths month day).2 ≤ length ∧
      (lengths.take i).sum + (walkMonths lengths month day).2 = day + 1 := by
  induction lengths generalizing month day with
  | nil => cases h
  | cons length rest ih =>
    rw [List.sum_cons] at h
    unfold walkMonths
    split
    · refine ⟨0, length, rfl, rfl, Nat.succ_pos _, ?_, Nat.zero_add _⟩
      assumption
    · obtain ⟨i, length', hget, hmonth, hpos, hle, hsum⟩ :=
        ih (month + 1) (show day - length < rest.sum by omega)
      refine ⟨i + 1, length', hget, ?_, hpos, hle, ?_⟩
      · omega
      · rw [List.take_succ_cons, List.sum_cons]
        omega

theorem sum_monthLengths (leap : Bool) :
    (monthLengths leap).sum = if leap then 366 else 365 := by
  cases leap <;> rfl

/-! ## Dates -/

theorem ofDays_year (days : Int) : (ofDays days).year = yearOfDays days := rfl

theorem daysBeforeYear_add_months (year : Int) :
    daysBeforeYear (year + 1) = daysBeforeYear year + ((monthLengths (isLeapYear year)).sum : Nat) := by
  rw [daysBeforeYear_succ, sum_monthLengths]
  split <;> rfl

theorem day_of_year_lt (days : Int) :
    (days - daysBeforeYear (yearOfDays days)).toNat <
      (monthLengths (isLeapYear (yearOfDays days))).sum := by
  obtain ⟨hstart, hend⟩ := yearOfDays_spec days
  rw [daysBeforeYear_add_months] at hend
  omega

/-- **A later day has a later date.** -/
theorem ofDays_lt {a b : Int} (h : a < b) :
    (ofDays a).year < (ofDays b).year ∨
      (ofDays a).year = (ofDays b).year ∧
        ((ofDays a).month < (ofDays b).month ∨
          (ofDays a).month = (ofDays b).month ∧ (ofDays a).day < (ofDays b).day) := by
  rw [ofDays_year, ofDays_year]
  rcases Int.lt_or_eq_of_le (yearOfDays_mono (Int.le_of_lt h)) with hyear | hyear
  · exact Or.inl hyear
  · refine Or.inr ⟨hyear, ?_⟩
    have hstart := (yearOfDays_spec a).1
    have hday : (a - daysBeforeYear (yearOfDays a)).toNat <
        (b - daysBeforeYear (yearOfDays a)).toNat := by omega
    have hwalk := walkMonths_lt (monthLengths (isLeapYear (yearOfDays a))) 1 hday
    unfold ofDays
    rw [← hyear]
    exact hwalk

/-! ## Back to the days -/

theorem toDays?_eq_some {date : Date} {days : Int} :
    date.toDays? = some days ↔
      ∃ length, (monthLengths (isLeapYear date.year))[date.month - 1]? = some length ∧
        0 < date.month ∧ 0 < date.day ∧ date.day ≤ length ∧
        days = daysBeforeYear date.year +
          (((monthLengths (isLeapYear date.year)).take (date.month - 1)).sum + (date.day - 1) : Nat) := by
  rw [toDays?]
  cases hget : (monthLengths (isLeapYear date.year))[date.month - 1]? with
  | none => simp
  | some length =>
    simp only [Option.ite_none_left_eq_some, Option.some.injEq, ← List.sum_eq_foldl,
      exists_eq_left']
    omega

/-- **The date of a day is read as the day.** -/
theorem toDays?_ofDays (days : Int) : (ofDays days).toDays? = some days := by
  obtain ⟨hstart, -⟩ := yearOfDays_spec days
  obtain ⟨i, length, hget, hmonth, hpos, hle, hsum⟩ := walkMonths_back _ 1 (day_of_year_lt days)
  rw [toDays?_eq_some]
  refine ⟨length, ?_⟩
  unfold ofDays
  dsimp only
  rw [hmonth, Nat.add_sub_cancel_left]
  exact ⟨hget, by omega, hpos, hle, by omega⟩

/-- A date that exists is one of the calendar. -/
theorem within_of_toDays? {date : Date} {days : Int} (h : date.toDays? = some days) :
    (1 ≤ date.month ∧ date.month ≤ 12) ∧ 1 ≤ date.day ∧ date.day ≤ 31 := by
  have hlengths : ∀ leap, ∀ length ∈ monthLengths leap, length ≤ 31 := by decide
  have hmonths : ∀ leap, (monthLengths leap).length = 12 := fun _ => rfl
  obtain ⟨length, hget, hmonth, hday, hle, -⟩ := toDays?_eq_some.mp h
  have hi := (List.getElem?_eq_some_iff.mp hget).1
  have hlength := hlengths _ length (List.mem_of_getElem? hget)
  rw [hmonths] at hi
  omega

/-- Months and days are written with two digits. -/
theorem ofDays_lt_hundred (days : Int) : (ofDays days).month < 100 ∧ (ofDays days).day < 100 := by
  have hwithin := within_of_toDays? (toDays?_ofDays days)
  omega

/-- A date that exists lies in its year. -/
theorem yearOfDays_of_toDays? {date : Date} {days : Int} (h : date.toDays? = some days) :
    yearOfDays days = date.year := by
  obtain ⟨length, hget, -, hday, hle, rfl⟩ := toDays?_eq_some.mp h
  have htake : ((monthLengths (isLeapYear date.year)).take (date.month - 1)).sum + length ≤
      (monthLengths (isLeapYear date.year)).sum := by
    obtain ⟨hlt, hlength⟩ := List.getElem?_eq_some_iff.mp hget
    have hsplit := congrArg List.sum
      (List.take_append_drop (date.month - 1) (monthLengths (isLeapYear date.year)))
    rw [List.sum_append, List.drop_eq_getElem_cons hlt, List.sum_cons, hlength] at hsplit
    omega
  have hnext := daysBeforeYear_add_months date.year
  refine Int.le_antisymm (Int.le_of_lt_add_one (Int.not_le.mp ?_)) (le_yearOfDays_iff.mpr (by omega))
  rw [le_yearOfDays_iff]
  omega

end DurableJobs.Date
