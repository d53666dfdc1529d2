import DurableJobs.Proofs.Text.Ascii
import DurableJobs.Proofs.Time.Written

/-!
# Stored times by their bytes

A time may come with any offset, and its text has the time of day at that offset. Such texts are not in the
order of the times, so a time is brought to universal time before it is stored (`Timestamp.toUtc`). The store
compares the texts byte by byte, and reads a time back from its text. Up to the year 9999 nothing is lost
either way: the bytes are in the order of the times, two times of one text are one time, and the text is read
as the time it was written for (`stored_texts_keep_times`). Only a leap second that does not end its minute is
lost to the second that follows it, as it is written so (`Instant.shown`).

The columns have a fixed width, so they come down to the order of numbers (`Dated.stored_lt`). Only the fraction
is as long as it has to be (`StoredForm`).
-/

set_option autoImplicit false

namespace DurableJobs

open Rfc3339 Text

/-! ## Times at an offset -/

namespace Timestamp

/-- What is stored of a time is its text at universal time. -/
theorem written_toUtc (t : Timestamp) : t.toUtc.written = stored t.instant := by
  simp only [toUtc, utc, written, stored, Int.add_zero]
  rfl

/-- The bytes of its text. -/
def bytes (t : Timestamp) : List UInt8 := bytesOfString (String.ofList t.written)

/-- At their own offsets texts are not in the order of the times: one o'clock two hours to the east is before
half past midnight. -/
example :
    let east : Timestamp := ⟨⟨-3600, 0, by decide⟩, 7200⟩
    let west : Timestamp := ⟨⟨1800, 0, by decide⟩, 0⟩
    east.instant.before west.instant = true ∧ west.written < east.written := by
  decide

end Timestamp

/-! ## The form of the text -/

/-- The form of a stored time: four digits of the year and two of each other field, no fraction of a second or
one of three, six or nine digits, and the offset of universal time. -/
def StoredForm (cs : List Char) : Prop :=
  ∃ year month day hour minute second fraction : List Char,
    cs = year ++ '-' :: (month ++ '-' :: (day ++ 'T' :: (hour ++ ':' :: (minute ++ ':' :: (second ++
      (fraction ++ "+00:00".toList)))))) ∧
    (IsDigits year ∧ year.length = 4) ∧
    (∀ field ∈ [month, day, hour, minute, second], IsDigits field ∧ field.length = 2) ∧
    (fraction = [] ∨ ∃ digits, fraction = '.' :: digits ∧ IsDigits digits ∧ digits.length ∈ [3, 6, 9])

/-- A number in digits of a column that is wide enough. -/
theorem padded_column {width : Nat} (hwidth : 0 < width) {n : Nat} (hn : n < 10 ^ width) :
    IsDigits (padded width n) ∧ (padded width n).length = width :=
  ⟨isDigits_padded width n, length_padded hwidth hn⟩

theorem fractionText_form {nanos : Nat} (h : nanos < 1000000000) :
    fractionText nanos = [] ∨
      ∃ digits, fractionText nanos = '.' :: digits ∧ IsDigits digits ∧ digits.length ∈ [3, 6, 9] := by
  have hdigits : ∀ width n, 0 < width → n < 10 ^ width → width ∈ [3, 6, 9] →
      ∃ digits, '.' :: padded width n = '.' :: digits ∧ IsDigits digits ∧ digits.length ∈ [3, 6, 9] := by
    intro width n hwidth hn hmem
    obtain ⟨hcolumn, hlength⟩ := padded_column hwidth hn
    exact ⟨_, rfl, hcolumn, by rwa [hlength]⟩
  unfold fractionText
  split
  · exact Or.inl rfl
  · right
    split
    · exact hdigits 3 _ (by decide) (by omega) (by decide)
    · split
      · exact hdigits 6 _ (by decide) (by omega) (by decide)
      · exact hdigits 9 _ (by decide) h (by decide)

namespace Instant

variable {a : Instant}

theorem Dated.storedForm (h : a.Dated) : StoredForm (stored a) := by
  obtain ⟨htext, hlow, hhigh⟩ := h.yearText
  obtain ⟨hmonth, hday⟩ := Date.ofDays_lt_hundred (a.seconds / 86400 + epochDays)
  have hnanos := a.nanos_lt
  rw [stored_eq, htext]
  rw [dateAndSecond_eq] at *
  refine ⟨_, _, _, _, _, _, fractionText (a.nanos % 1000000000), rfl, padded_column (by decide) (by omega),
    ?_, fractionText_form (Nat.mod_lt _ (by decide))⟩
  simp only [List.forall_mem_cons, List.not_mem_nil, false_imp_iff, implies_true, and_true]
  exact ⟨padded_column (by decide) hmonth, padded_column (by decide) hday,
    padded_column (by decide) (by omega), padded_column (by decide) (by omega),
    padded_column (by decide) (by omega)⟩

end Instant

theorem Text.IsDigits.isAscii {cs : List Char} (h : IsDigits cs) : IsAscii cs := fun c hc => by
  have hhigh := (Char.isDigit_iff_toNat.mp (h c hc)).2
  exact Nat.lt_of_le_of_lt hhigh (by decide)

theorem StoredForm.isAscii {cs : List Char} (h : StoredForm cs) : IsAscii cs := by
  obtain ⟨year, month, day, hour, minute, second, fraction, rfl, ⟨hyear, -⟩, hfields, hfraction⟩ := h
  have hfield : ∀ field ∈ [month, day, hour, minute, second], IsAscii field :=
    fun field hmem => (hfields field hmem).1.isAscii
  have hdigits : IsAscii fraction := by
    rcases hfraction with rfl | ⟨digits, rfl, hdigits, -⟩
    · exact .nil
    · exact isAscii_cons.mpr ⟨by decide, hdigits.isAscii⟩
  simp only [List.forall_mem_cons] at hfield
  obtain ⟨hmonth, hday, hhour, hminute, hsecond, -⟩ := hfield
  simp [hyear.isAscii, hmonth, hday, hhour, hminute, hsecond, hdigits]

/-! ## Back to the time -/

namespace Instant

variable {a b : Instant}

/-- A time of the years with four digits can be read, if a leap second ends its minute. -/
theorem Dated.readable (h : a.Dated) (hleap : 1000000000 ≤ a.nanos → a.seconds % 60 = 59) :
    (Timestamp.utc a).Readable := by
  have hlow := yearStart_le_iff.mp h.low
  have hhigh := h.yearText.2.2
  rw [dateAndSecond_eq, Date.ofDays_year] at hlow hhigh
  have hfirst := h.low
  have hlast := h.high
  have hleast : leastSecond ≤ yearStart 0 := by decide
  have hend : yearStart 10000 ≤ endSecond := by decide
  have hyears : leastYear ≤ 0 ∧ (10000 : Int) ≤ greatestYear := by decide
  refine ⟨?_, Nat.zero_lt_succ _, rfl, ?_, ?_, hleap⟩
  · rw [inRange, Bool.and_eq_true_iff, decide_eq_true_iff, decide_eq_true_iff]
    simp only [Timestamp.utc]
    omega
  · simp only [Timestamp.utc, Int.add_zero]
    omega
  · simp only [Timestamp.utc, Int.add_zero]
    omega

/-- A time is read back as what its text shows. -/
theorem Dated.parse_stored (h : a.Dated) : parse (String.ofList (stored a)) = .ok (.utc a.shown) := by
  have hbegins : BeginsOffset zeroOffset := ⟨'+', _, rfl, by simp⟩
  have hscan := scan_localText (h.shown.readable a.shown_leap) hbegins rfl
  simp only [Timestamp.utc, Int.add_zero] at hscan
  rw [← stored_shown, parse, String.toList_ofList]
  exact (congrArg (· >>= _) hscan).trans rfl

theorem Dated.stored_lt_iff (ha : a.Dated) (hb : b.Dated) :
    stored a < stored b ↔ a.shown.before b.shown = true := by
  rw [← ha.storedBefore_iff hb, Store.storedBefore, decide_eq_true_iff]

/-- Of two times that show different things one has an earlier text, so the texts are not the same. -/
theorem Dated.stored_inj (ha : a.Dated) (hb : b.Dated) : stored a = stored b ↔ a.shown = b.shown := by
  refine ⟨fun htext => ?_, fun hshown => by rw [← stored_shown a, hshown, stored_shown]⟩
  rcases before_trichotomy a.shown b.shown with hbefore | heq | hafter
  · have hlt := (ha.stored_lt_iff hb).mpr hbefore
    rw [htext] at hlt
    exact absurd hlt (List.lt_irrefl _)
  · exact heq
  · have hlt := (hb.stored_lt_iff ha).mpr hafter
    rw [htext] at hlt
    exact absurd hlt (List.lt_irrefl _)

end Instant

/-- **Stored texts keep times.** Two times of the years 0000 to 9999, given at any offsets, are brought to
universal time. Their texts are of one form, the bytes of the texts are in the order of the times and are the
same for the same time only, and each text is read as the time it was written for. What counts is what the
text shows: that is the time itself, unless it is a leap second inside a minute, which is written as the second
that follows it. -/
theorem stored_texts_keep_times (a b : Timestamp) (ha : a.instant.Dated) (hb : b.instant.Dated) :
    a.toUtc.written = stored a.instant ∧ StoredForm a.toUtc.written ∧
    (a.toUtc.bytes < b.toUtc.bytes ↔ a.instant.shown.before b.instant.shown = true) ∧
    (a.toUtc.bytes = b.toUtc.bytes ↔ a.instant.shown = b.instant.shown) ∧
    (b.toUtc.bytes < a.toUtc.bytes ↔ b.instant.shown.before a.instant.shown = true) ∧
    parse (String.ofList a.toUtc.written) = .ok (.utc a.instant.shown) ∧
    ((1000000000 ≤ a.instant.nanos → a.instant.seconds % 60 = 59) → a.instant.shown = a.instant) := by
  have hbytes : ∀ t : Timestamp, t.toUtc.bytes = (stored t.instant).flatMap String.utf8EncodeChar :=
    fun t => by rw [Timestamp.bytes, Timestamp.written_toUtc, bytesOfString, String.toList_ofList]
  have hasciia := ha.storedForm.isAscii
  have hasciib := hb.storedForm.isAscii
  simp only [hbytes, hasciia.utf8_lt_iff hasciib, hasciib.utf8_lt_iff hasciia, utf8_inj,
    Timestamp.written_toUtc, true_and]
  exact ⟨ha.storedForm, ha.stored_lt_iff hb, ha.stored_inj hb, hb.stored_lt_iff ha, ha.parse_stored,
    Instant.shown_eq_self⟩

/-- The first half hour of the year 2000 two hours to the east is still the year 1999. A microsecond later the
text has three digits more, where the shorter one goes on with its sign. -/
theorem stored_texts_keep_times_acrossYears :
    let first : Timestamp := ⟨⟨946679400, 100000000, by decide⟩, 7200⟩
    let second : Timestamp := ⟨⟨946679400, 100001000, by decide⟩, -34200⟩
    first.toUtc.written = "1999-12-31T22:30:00.100+00:00".toList ∧
    first.toUtc.bytes < second.toUtc.bytes ∧
    parse (String.ofList first.toUtc.written) = .ok first.toUtc := by
  intro first second
  obtain ⟨-, -, horder, -, -, hread, hshown⟩ :=
    stored_texts_keep_times first second (by decide) (by decide)
  rw [hshown (by decide)] at hread
  exact ⟨by decide, horder.mpr (by decide), hread⟩

end DurableJobs
