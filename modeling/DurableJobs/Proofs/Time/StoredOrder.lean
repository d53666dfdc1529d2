import DurableJobs.Proofs.Time.Calendar
import DurableJobs.Store.Tables

/-!
# Stored times are in order up to the year 9999

The store compares times as texts. Up to the year 9999 all columns have a fixed width, so the texts are
in the order of the times (`storedBefore_iff`); the fraction has not, but a fraction that is longer goes
on with a digit where a shorter one goes on with the sign of the offset, and the sign sorts first. Years
beyond have a sign in front, which sorts before any digit: they come before all others
(`storedBefore_of_beyond`).

A leap second has no second of its own in a count of seconds, but it has one in a text, if it ends its
minute. The order of the texts is the order of what they show (`shown`).
-/

set_option autoImplicit false

namespace DurableJobs

open Rfc3339

/-! ## Texts of fixed width -/

section Texts

variable {a b u v : List Char}

/-- Of texts that begin with texts of one length, the beginnings decide. -/
theorem append_lt_of_lt (hlength : a.length = b.length) (h : a < b) : a ++ u < b ++ v := by
  induction a generalizing b with
  | nil =>
    cases b with
    | nil => cases h
    | cons y b => cases hlength
  | cons x a ih =>
    cases b with
    | nil => cases hlength
    | cons y b =>
      rw [List.cons_append, List.cons_append, List.cons_lt_cons_iff]
      rcases List.cons_lt_cons_iff.mp h with hhead | ⟨rfl, htail⟩
      · exact Or.inl hhead
      · exact Or.inr ⟨rfl, ih (Nat.succ.inj hlength) htail⟩

theorem digitChar_lt {m n : Nat} (h : m < n) (hn : n < 10) : m.digitChar < n.digitChar := by
  have hall : ∀ n < 10, ∀ m < n, m.digitChar < n.digitChar := by decide
  exact hall n hn m h

theorem padded_one {n : Nat} (h : n < 10) : padded 1 n = [n.digitChar] := by
  rw [padded, Nat.toDigits_of_lt_base h]
  rfl

/-- The last digit stands behind all the others. -/
theorem padded_succ {width : Nat} (hwidth : 0 < width) (n : Nat) :
    padded (width + 1) n = padded width (n / 10) ++ [(n % 10).digitChar] := by
  rcases Nat.lt_or_ge n 10 with hn | hn
  · obtain ⟨width, rfl⟩ := Nat.exists_eq_succ_of_ne_zero (Nat.ne_of_gt hwidth)
    rw [padded, padded, Nat.toDigits_of_lt_base hn, Nat.div_eq_of_lt hn, Nat.mod_eq_of_lt hn]
    change List.replicate (width + 1) '0' ++ _ = List.replicate width '0' ++ ['0'] ++ _
    rw [List.replicate_succ']
  · rw [padded, padded, Nat.toDigits_of_base_le (by decide) hn]
    simp only [List.length_append, List.length_singleton, Nat.add_sub_add_right, List.append_assoc]

theorem length_padded {width : Nat} (hwidth : 0 < width) {n : Nat} (hn : n < 10 ^ width) :
    (padded width n).length = width := by
  induction width, hwidth using Nat.le_induction generalizing n with
  | base =>
    rw [padded_one hn]
    rfl
  | succ width hwidth ih =>
    rw [padded_succ hwidth, List.length_append, ih (by rw [Nat.pow_succ] at hn; omega)]
    rfl

/-- Numbers of one width are in the order of their texts. -/
theorem padded_lt {width : Nat} (hwidth : 0 < width) {m n : Nat} (h : m < n) (hn : n < 10 ^ width) :
    padded width m < padded width n := by
  induction width, hwidth using Nat.le_induction generalizing m n with
  | base =>
    rw [padded_one hn, padded_one (Nat.lt_trans h hn)]
    exact List.cons_lt_cons_iff.mpr (Or.inl (digitChar_lt h hn))
  | succ width hwidth ih =>
    have hn' : n / 10 < 10 ^ width := by
      rw [Nat.pow_succ] at hn
      omega
    rw [padded_succ hwidth, padded_succ hwidth]
    rcases Nat.lt_or_ge (m / 10) (n / 10) with hless | hge
    · refine append_lt_of_lt ?_ (ih hless hn')
      rw [length_padded hwidth hn', length_padded hwidth (Nat.lt_trans hless hn')]
    · have heq : m / 10 = n / 10 := by omega
      rw [heq]
      refine List.append_left_lt (List.cons_lt_cons_iff.mpr (Or.inl (digitChar_lt ?_ ?_))) <;> omega

theorem padded_append_lt {width : Nat} (hwidth : 0 < width) {m n : Nat} (h : m < n)
    (hn : n < 10 ^ width) : padded width m ++ u < padded width n ++ v := by
  refine append_lt_of_lt ?_ (padded_lt hwidth h hn)
  rw [length_padded hwidth hn, length_padded hwidth (Nat.lt_trans h hn)]

theorem padded_eq_cons {width : Nat} (hwidth : 0 < width) {n : Nat} (hn : n < 10 ^ width) :
    ∃ digit < 10, ∃ rest, padded width n = digit.digitChar :: rest := by
  induction width, hwidth using Nat.le_induction generalizing n with
  | base => exact ⟨n, hn, [], padded_one hn⟩
  | succ width hwidth ih =>
    rw [Nat.pow_succ] at hn
    obtain ⟨digit, hdigit, rest, hrest⟩ := ih (show n / 10 < 10 ^ width by omega)
    refine ⟨digit, hdigit, rest ++ [(n % 10).digitChar], ?_⟩
    rw [padded_succ hwidth, hrest, List.cons_append]

/-- A sign sorts before digits. -/
theorem sign_lt_padded {sign : Char} (hsign : ∀ digit < 10, sign < digit.digitChar) {width : Nat}
    (hwidth : 0 < width) {n : Nat} (hn : n < 10 ^ width) : sign :: u < padded width n ++ v := by
  obtain ⟨digit, hdigit, rest, hrest⟩ := padded_eq_cons hwidth hn
  rw [hrest]
  exact List.cons_lt_cons_iff.mpr (Or.inl (hsign digit hdigit))

end Texts

/-! ## Fractions -/

/-- The text of the offset that stands behind every stored time. -/
def zeroOffset : List Char := ['+', '0', '0', ':', '0', '0']

/-- Three digits and the rest of a text, for a part of the fraction that is not the last one. -/
theorem padded_add_three {width : Nat} (hwidth : 0 < width) (n : Nat) :
    padded (width + 3) n = padded width (n / 1000) ++ padded 3 (n % 1000) := by
  have hfirst : n / 10 / 10 / 10 = n / 1000 := by omega
  have hleast : padded 1 (n % 1000 / 10 / 10) = [(n / 10 / 10 % 10).digitChar] := by
    rw [padded_one (by omega), show n % 1000 / 10 / 10 = n / 10 / 10 % 10 by omega]
  rw [padded_succ (Nat.add_pos_left hwidth 2), padded_succ (Nat.add_pos_left hwidth 1),
    padded_succ hwidth, hfirst, padded_succ (by decide : 0 < 2), padded_succ (by decide : 0 < 1),
    hleast, show n % 1000 / 10 % 10 = n / 10 % 10 by omega, show n % 1000 % 10 = n % 10 by omega]
  simp only [List.append_assoc]

/-- The digits of a fraction, three at a time, as long as anything is left. -/
def blocks : Nat → Nat → List Char
  | 0, _ => []
  | count + 1, n =>
      if n = 0 then [] else padded 3 (n / 1000 ^ count) ++ blocks count (n % 1000 ^ count)

theorem fractionText_eq (nanos : Nat) :
    fractionText nanos = if nanos = 0 then [] else '.' :: blocks 3 nanos := by
  unfold fractionText
  split
  · rfl
  · next hnanos =>
    have hrest : nanos % 1000000 / 1000 = nanos / 1000 % 1000 := by omega
    have hlast : nanos % 1000000 % 1000 = nanos % 1000 := by omega
    simp only [blocks, Nat.pow_zero, Nat.div_one, Nat.reducePow, if_neg hnanos, hrest,
      hlast]
    by_cases hmillis : nanos % 1000000 = 0
    · rw [if_pos hmillis, if_pos hmillis, List.append_nil]
    · rw [if_neg hmillis, if_neg hmillis]
      by_cases hmicros : nanos % 1000 = 0
      · rw [if_pos hmicros, if_pos hmicros, List.append_nil, padded_add_three (by decide : 0 < 3),
          Nat.div_div_eq_div_mul]
      · rw [if_neg hmicros, if_neg hmicros, List.append_nil, padded_add_three (by decide : 0 < 6),
          padded_add_three (by decide : 0 < 3), Nat.div_div_eq_div_mul, List.append_assoc]

theorem blocks_lt {count m n : Nat} (h : m < n) (hn : n < 1000 ^ count) :
    blocks count m ++ zeroOffset < blocks count n ++ zeroOffset := by
  induction count generalizing m n with
  | zero =>
    rw [Nat.pow_zero] at hn
    omega
  | succ count ih =>
    have hpos : 0 < 1000 ^ count := Nat.pow_pos (by decide)
    have hfirst : n / 1000 ^ count < 1000 := by
      rw [Nat.div_lt_iff_lt_mul hpos, ← Nat.pow_succ']
      exact hn
    have hzero : n ≠ 0 := Nat.ne_of_gt (Nat.zero_lt_of_lt h)
    unfold blocks
    rw [if_neg hzero, List.append_assoc]
    by_cases hm : m = 0
    · rw [if_pos hm]
      exact sign_lt_padded (by decide) (by decide) hfirst
    · rw [if_neg hm, List.append_assoc]
      rcases Nat.lt_or_ge (m / 1000 ^ count) (n / 1000 ^ count) with hless | hge
      · exact padded_append_lt (by decide) hless hfirst
      · have heq : m / 1000 ^ count = n / 1000 ^ count :=
          Nat.le_antisymm (Nat.div_le_div_right (Nat.le_of_lt h)) hge
        rw [heq]
        refine List.append_left_lt (ih ?_ (Nat.mod_lt _ hpos))
        have hm' := Nat.div_add_mod m (1000 ^ count)
        have hn' := Nat.div_add_mod n (1000 ^ count)
        rw [heq] at hm'
        omega

theorem fractionText_lt {m n : Nat} (h : m < n) (hn : n < 1000000000) :
    fractionText m ++ zeroOffset < fractionText n ++ zeroOffset := by
  rw [fractionText_eq, fractionText_eq, if_neg (Nat.ne_of_gt (Nat.zero_lt_of_lt h))]
  split
  · exact List.cons_lt_cons_iff.mpr (Or.inl (by decide))
  · exact List.cons_lt_cons_iff.mpr (Or.inr ⟨rfl, blocks_lt h hn⟩)

/-! ## Stored times -/

namespace Instant

/-- The first second of a year, counted from 1970. -/
def yearStart (year : Int) : Int := (Date.daysBeforeYear year - epochDays) * 86400

/-- A time of a year that is written with four digits. -/
structure Dated (a : Instant) : Prop where
  low : yearStart 0 ≤ a.seconds
  high : a.seconds < yearStart 10000

instance (a : Instant) : Decidable a.Dated :=
  decidable_of_iff (yearStart 0 ≤ a.seconds ∧ a.seconds < yearStart 10000)
    ⟨fun h => ⟨h.1, h.2⟩, fun h => ⟨h.low, h.high⟩⟩

/-- A time of a year that is written with four digits, and no leap second. -/
structure FourDigits (a : Instant) : Prop where
  low : yearStart 0 ≤ a.seconds
  high : a.seconds < yearStart 10000
  whole : a.nanos < 1000000000

theorem FourDigits.dated {a : Instant} (h : a.FourDigits) : a.Dated := ⟨h.low, h.high⟩

/-- The time that is read off a text: a leap second inside a minute is written as the second that follows
it, and only the one at the end of a minute has a second of its own. -/
def shown (a : Instant) : Instant :=
  if 1000000000 ≤ a.nanos ∧ a.seconds % 60 ≠ 59 then
    ⟨a.seconds + 1, a.nanos - 1000000000, by
      have := a.nanos_lt
      omega⟩
  else a

end Instant

theorem Instant.yearStart_le_iff {year : Int} {a : Instant} :
    Instant.yearStart year ≤ a.seconds ↔ year ≤ a.dateAndSecond.1.year := by
  rw [Instant.dateAndSecond, Date.ofDays_year, Date.le_yearOfDays_iff,
    Int.fdiv_eq_ediv_of_nonneg _ (by decide), Instant.yearStart]
  omega

/-- The columns of the time of day, and all behind them. -/
def clockText (second nanos : Nat) : List Char :=
  'T' :: (padded 2 (second / 3600) ++ ':' :: (padded 2 (second / 60 % 60) ++
    ':' :: (padded 2 (second % 60 + nanos / 1000000000) ++
      (fractionText (nanos % 1000000000) ++ zeroOffset))))

theorem stored_eq (a : Instant) :
    stored a = yearText a.dateAndSecond.1.year ++ '-' :: (padded 2 a.dateAndSecond.1.month ++
      '-' :: (padded 2 a.dateAndSecond.1.day ++ clockText a.dateAndSecond.2 a.nanos)) := by
  have hleap : a.nanos / 1000000000 = if 1000000000 ≤ a.nanos then 1 else 0 := by
    have := a.nanos_lt
    split <;> omega
  have hnanos : a.nanos % 1000000000 =
      if 1000000000 ≤ a.nanos then a.nanos - 1000000000 else a.nanos := by
    have := a.nanos_lt
    split <;> omega
  simp [stored, localText, clockText, hleap, hnanos, zeroOffset, List.append_assoc]

section Columns

variable {c : Char} {u v : List Char}

theorem column_lt {m n : Nat} (h : m < n) (hn : n < 100) :
    c :: (padded 2 m ++ u) < c :: (padded 2 n ++ v) :=
  List.cons_lt_cons_iff.mpr (Or.inr ⟨rfl, padded_append_lt (by decide) h hn⟩)

/-- Behind a column that is the same the rest decides. -/
theorem behind_column_lt {m n : Nat} (heq : m = n) (h : u < v) :
    c :: (padded 2 m ++ u) < c :: (padded 2 n ++ v) := by
  rw [heq]
  exact List.cons_lt_cons_iff.mpr (Or.inr ⟨rfl, List.append_left_lt h⟩)

end Columns

theorem clockText_lt {s t m n : Nat} (h : s < t ∨ s = t ∧ m < n) (ht : t < 86400)
    (hn : n < 2000000000) (hm : 1000000000 ≤ m → s % 60 = 59) : clockText s m < clockText t n := by
  rcases Nat.lt_or_ge (s / 3600) (t / 3600) with hhour | hhour
  · exact column_lt hhour (by omega)
  refine behind_column_lt (by omega) ?_
  rcases Nat.lt_or_ge (s / 60 % 60) (t / 60 % 60) with hminute | hminute
  · exact column_lt hminute (by omega)
  refine behind_column_lt (by omega) ?_
  rcases h with hsecond | ⟨rfl, hnanos⟩
  · -- a leap second would be the last of the minute, and none comes behind it
    exact column_lt (by omega) (by omega)
  · rcases Nat.lt_or_ge (m / 1000000000) (n / 1000000000) with hleap | hleap
    · exact column_lt (by omega) (by omega)
    · exact behind_column_lt (by omega) (fractionText_lt (by omega) (Nat.mod_lt _ (by decide)))

theorem Instant.dateAndSecond_eq (a : Instant) :
    a.dateAndSecond =
      (Date.ofDays (a.seconds / 86400 + Instant.epochDays), (a.seconds % 86400).toNat) := by
  rw [Instant.dateAndSecond, Int.fdiv_eq_ediv_of_nonneg _ (by decide),
    Int.fmod_eq_emod_of_nonneg _ (by decide)]

namespace Instant

variable {a b : Instant}

/-- The year of such a time is written with four digits and nothing else. -/
theorem Dated.yearText (h : a.Dated) :
    Rfc3339.yearText a.dateAndSecond.1.year = padded 4 a.dateAndSecond.1.year.toNat ∧
      0 ≤ a.dateAndSecond.1.year ∧ a.dateAndSecond.1.year < 10000 := by
  have hlow := yearStart_le_iff.mp h.low
  have hhigh : a.dateAndSecond.1.year < 10000 := by
    by_contra hge
    exact absurd (yearStart_le_iff.mpr (Int.not_lt.mp hge)) (Int.not_le.mpr h.high)
  refine ⟨?_, hlow, hhigh⟩
  rw [Rfc3339.yearText, if_pos ⟨hlow, by omega⟩]

/-! ### Leap seconds -/

/-- A leap second that is the last of its minute has a second of its own. -/
theorem shown_eq_self (h : 1000000000 ≤ a.nanos → a.seconds % 60 = 59) : a.shown = a :=
  if_neg fun hleap => hleap.2 (h hleap.1)

theorem shown_of_whole (h : a.nanos < 1000000000) : a.shown = a :=
  shown_eq_self fun hleap => absurd hleap (Nat.not_le.mpr h)

/-- A leap second that is shown is the last second of its minute. -/
theorem shown_leap (a : Instant) : 1000000000 ≤ a.shown.nanos → a.shown.seconds % 60 = 59 := by
  have := a.nanos_lt
  unfold shown
  split
  · intro h
    dsimp only at h
    omega
  · omega

/-- A time and what is shown of it lie in one minute, and so in one year. -/
theorem shown_minute (a : Instant) : a.shown.seconds / 60 = a.seconds / 60 := by
  unfold shown
  split
  · dsimp only
    omega
  · rfl

theorem Dated.shown (h : a.Dated) : a.shown.Dated := by
  have hminute := a.shown_minute
  have hlow := h.low
  have hhigh := h.high
  constructor
  all_goals
    rw [yearStart] at *
    omega

/-- What is shown of a time has the text of the time. -/
theorem stored_shown (a : Instant) : stored a.shown = stored a := by
  rw [stored_eq, stored_eq]
  unfold Instant.shown
  split
  · next hleap =>
    have := a.nanos_lt
    have hday : (a.seconds + 1) / 86400 = a.seconds / 86400 := by omega
    obtain ⟨second, hsecond⟩ := Int.eq_ofNat_of_zero_le (Int.emod_nonneg a.seconds (by decide : (86400 : Int) ≠ 0))
    have hnext : (a.seconds + 1) % 86400 = ((second + 1 : Nat) : Int) := by omega
    simp only [dateAndSecond_eq, hday, hnext, hsecond, Int.toNat_natCast, clockText]
    rw [show (second + 1) / 3600 = second / 3600 by omega,
      show (second + 1) / 60 % 60 = second / 60 % 60 by omega,
      show (second + 1) % 60 + (a.nanos - 1000000000) / 1000000000 =
        second % 60 + a.nanos / 1000000000 by omega,
      show (a.nanos - 1000000000) % 1000000000 = a.nanos % 1000000000 by omega]
  · rfl

/-! ### The order -/

theorem before_iff {a b : Instant} :
    a.before b = true ↔ a.seconds < b.seconds ∨ a.seconds = b.seconds ∧ a.nanos < b.nanos := by
  simp [before]

theorem before_trichotomy (a b : Instant) : a.before b = true ∨ a = b ∨ b.before a = true := by
  obtain ⟨seconds, nanos, _⟩ := a
  obtain ⟨seconds', nanos', _⟩ := b
  simp only [before_iff, mk.injEq]
  omega

/-- Without leap seconds the order is that of the nanoseconds. -/
theorem before_iff_of_whole (ha : a.nanos < 1000000000) (hb : b.nanos < 1000000000) :
    a.before b = true ↔ a.totalNanos < b.totalNanos := by
  rw [before_iff, totalNanos, totalNanos]
  omega

/-- An earlier time has an earlier text. -/
theorem Dated.stored_lt (ha : a.Dated) (hb : b.Dated)
    (hleap : 1000000000 ≤ a.nanos → a.seconds % 60 = 59) (h : a.before b = true) :
    stored a < stored b := by
  obtain ⟨hatext, halow, -⟩ := ha.yearText
  obtain ⟨hbtext, hblow, hbhigh⟩ := hb.yearText
  rw [stored_eq, stored_eq, hatext, hbtext]
  rw [before_iff] at h
  obtain ⟨hbmonth, hbday⟩ := Date.ofDays_lt_hundred (b.seconds / 86400 + epochDays)
  simp only [dateAndSecond_eq] at halow hblow hbhigh ⊢
  rcases Int.lt_or_le (a.seconds / 86400) (b.seconds / 86400) with hday | hday
  · -- on an earlier day the date decides
    rcases Date.ofDays_lt (Int.add_lt_add_right hday epochDays) with hyear | ⟨hyear, hrest⟩
    · exact padded_append_lt (by decide) (by omega) (by omega)
    · rw [hyear]
      refine List.append_left_lt ?_
      rcases hrest with hmonth | ⟨hmonth, hdate⟩
      · exact column_lt hmonth hbmonth
      · exact behind_column_lt hmonth (column_lt hdate hbday)
  · have heq : a.seconds / 86400 = b.seconds / 86400 := by omega
    rw [heq]
    refine List.append_left_lt (behind_column_lt rfl (behind_column_lt rfl
      (clockText_lt ?_ ?_ b.nanos_lt ?_)))
    all_goals omega

/-- **Stored times are in order**: up to the year 9999 the texts compare as the times do that are read off
them. -/
theorem Dated.storedBefore_iff (ha : a.Dated) (hb : b.Dated) :
    Store.storedBefore a b = true ↔ a.shown.before b.shown = true := by
  rw [Store.storedBefore, decide_eq_true_iff, ← stored_shown a, ← stored_shown b]
  refine ⟨fun h => ?_, ha.shown.stored_lt hb.shown a.shown_leap⟩
  rcases before_trichotomy a.shown b.shown with hbefore | heq | hafter
  · exact hbefore
  · rw [heq] at h
    exact absurd h (List.lt_irrefl _)
  · exact absurd (hb.shown.stored_lt ha.shown b.shown_leap hafter) (List.lt_asymm h)

/-- Without leap seconds the texts compare as the nanoseconds do. -/
theorem FourDigits.storedBefore_iff (ha : a.FourDigits) (hb : b.FourDigits) :
    Store.storedBefore a b = true ↔ a.totalNanos < b.totalNanos := by
  rw [ha.dated.storedBefore_iff hb.dated, shown_of_whole ha.whole, shown_of_whole hb.whole,
    before_iff_of_whole ha.whole hb.whole]

/-- A year beyond 9999 is written with a sign, and sorts before all that are not. -/
theorem FourDigits.storedBefore_of_beyond (ha : a.FourDigits) (hb : yearStart 10000 ≤ b.seconds) :
    Store.storedBefore b a = true := by
  have hyear := yearStart_le_iff.mp hb
  have hbtext : Rfc3339.yearText b.dateAndSecond.1.year =
      '+' :: padded 4 b.dateAndSecond.1.year.natAbs := by
    rw [Rfc3339.yearText, if_neg (by omega), if_neg (by omega)]
  obtain ⟨hatext, halow, hahigh⟩ := ha.dated.yearText
  rw [Store.storedBefore, decide_eq_true_iff, stored_eq, stored_eq, hatext, hbtext]
  exact sign_lt_padded (by decide) (by decide) (by omega)

/-- A year before 0 is written with a sign, too. -/
theorem Dated.storedBefore_of_negative (ha : a.Dated) (hb : b.seconds < yearStart 0) :
    Store.storedBefore b a = true := by
  have hyear : b.dateAndSecond.1.year < 0 :=
    Int.not_le.mp fun hle => Int.not_le.mpr hb (yearStart_le_iff.mpr hle)
  have hbtext : Rfc3339.yearText b.dateAndSecond.1.year =
      '-' :: padded 4 b.dateAndSecond.1.year.natAbs := by
    rw [Rfc3339.yearText, if_neg (by omega), if_pos hyear]
  obtain ⟨hatext, halow, hahigh⟩ := ha.yearText
  rw [Store.storedBefore, decide_eq_true_iff, stored_eq, stored_eq, hatext, hbtext]
  exact sign_lt_padded (by decide) (by decide) (by omega)

/-- Whatever time it is compared with, a time of a year with four digits is earlier if its text is. -/
theorem Dated.before_of_storedBefore (ha : a.Dated) (hb : b.nanos < 1000000000)
    (h : Store.storedBefore a b = true) : a.shown.before b = true := by
  by_cases hlow : yearStart 0 ≤ b.seconds
  · by_cases hhigh : b.seconds < yearStart 10000
    · rw [← shown_of_whole hb]
      exact (ha.storedBefore_iff ⟨hlow, hhigh⟩).mp h
    · have hshown := ha.shown.high
      rw [before_iff]
      omega
  · have hafter := ha.storedBefore_of_negative (Int.not_le.mp hlow)
    rw [Store.storedBefore, decide_eq_true_iff] at h hafter
    exact absurd hafter (List.lt_asymm h)

end Instant

end DurableJobs
