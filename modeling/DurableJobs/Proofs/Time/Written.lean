import DurableJobs.Proofs.Text.Reading
import DurableJobs.Proofs.Time.StoredOrder

/-!
# Times read back

A time of a document is written at its own offset, column by column, and each column is read back from its
own text. Which times there are to write is settled by reading (`Timestamp.Readable`): an offset is a number
of minutes, so the seconds of a minute are the same at every offset, and a leap second that was read is the
last second of its minute.
-/

set_option autoImplicit false

namespace DurableJobs

namespace Rfc3339

open DurableJobs.Text

/-! ## Digits -/

section Digits

variable {cs rest : List Char} {limit width n : Nat}

theorem spanDigits_append (hcs : IsDigits cs) (hle : cs.length ≤ limit)
    (hrest : cs.length = limit ∨ NoDigit rest) :
    spanDigits limit (cs ++ rest) = (digitValues cs, rest) := by
  induction cs generalizing limit with
  | nil =>
    cases limit with
    | zero => rfl
    | succ limit =>
      cases rest with
      | nil => rfl
      | cons c rest =>
        have hc : c.isDigit = false := hrest.resolve_left (Nat.succ_ne_zero limit).symm c rfl
        simp [spanDigits, digitIn?_ten, hc, digitValues]
  | cons d cs ih =>
    cases limit with
    | zero => cases hle
    | succ limit =>
      obtain ⟨hd, hcs⟩ := isDigits_cons.mp hcs
      have hspan := ih hcs (Nat.le_of_succ_le_succ hle) (hrest.imp_left Nat.succ.inj)
      rw [List.cons_append, spanDigits, digitIn?_ten, if_pos hd]
      simp only [hspan]
      rfl

theorem isDigits_padded (width n : Nat) : IsDigits (padded width n) := by
  rw [padded, isDigits_append]
  refine ⟨fun c hc => ?_, isDigits_toDigits n⟩
  rw [List.eq_of_mem_replicate hc]
  decide

theorem padded_ne_nil (width n : Nat) : padded width n ≠ [] := by
  simp [padded]

theorem ofDigits_padded (width n : Nat) : ofDigits 10 (digitValues (padded width n)) = n := by
  rw [ofDigits_digitValues, padded, Nat.ofDigitChars_append, Nat.ofDigitChars_replicate_zero,
    Nat.mul_zero, Nat.ofDigitChars_ten_toDigits]

theorem padded_begins (width n : Nat) : ∃ d ds, padded width n = d :: ds ∧ d.isDigit = true :=
  (isDigits_padded width n).begins (padded_ne_nil width n)

theorem trimStart_padded : trimStart (padded width n ++ rest) = padded width n ++ rest := by
  obtain ⟨d, ds, htext, hd⟩ := padded_begins width n
  rw [htext, List.cons_append, trimStart_cons (isBlank_of_isDigit hd)]

theorem number_padded (hle : (padded width n).length ≤ limit)
    (hrest : (padded width n).length = limit ∨ NoDigit rest) (hn : fitsSigned 64 n = true) :
    number limit (padded width n ++ rest) = .ok (n, rest) := by
  have hspan := spanDigits_append (isDigits_padded width n) hle hrest
  have hvalue := ofDigits_padded width n
  obtain ⟨d, ds, htext, -⟩ := padded_begins width n
  rw [htext] at hspan hvalue ⊢
  rw [List.cons_append] at hspan ⊢
  rw [number, hspan]
  · change (if fitsSigned 64 (ofDigits 10 (digitValues (d :: ds)) : Nat) then _ else _) = _
    rw [hvalue, if_pos hn]
  · exact List.cons_ne_nil _ _

end Digits

/-! ## Columns -/

section Columns

variable {rest : List Char} {n : Nat}

theorem fitsSigned_small (h : n < 2147483648) : fitsSigned 64 n = true := by
  have hlow : leastSigned 64 = -9223372036854775808 := by decide
  have hhigh : greatestSigned 64 = 9223372036854775807 := by decide
  rw [fitsSigned_iff, hlow, hhigh]
  omega

theorem field_padded {low high : Nat} (hlow : low ≤ n) (hhigh : n ≤ high) (hn : n < 100) :
    field low high (padded 2 n ++ rest) = .ok (n, rest) := by
  have hlength := length_padded (by decide : 0 < 2) hn
  rw [field, trimStart_padded, number_padded (Nat.le_of_eq hlength) (Or.inl hlength)
    (fitsSigned_small (by omega)), ok_bind]
  exact if_pos ⟨hlow, hhigh⟩

theorem separator_cons {c : Char} (hc : isBlank c = false) : separator c (c :: rest) = .ok rest := by
  rw [separator, trimStart_cons hc]
  exact if_pos rfl

/-- A year is read back from its text, with or without a sign. -/
theorem year_yearText {y : Int} (hlow : Instant.leastYear ≤ y) (hhigh : y ≤ Instant.greatestYear) :
    year (yearText y ++ '-' :: rest) = .ok (y, '-' :: rest) := by
  have hleast : Instant.leastYear = -262143 := rfl
  have hgreatest : Instant.greatestYear = 262142 := rfl
  have hfits : fitsSigned 32 y = true := by
    have hlow : leastSigned 32 = -2147483648 := by decide
    have hhigh : greatestSigned 32 = 2147483647 := by decide
    rw [fitsSigned_iff, hlow, hhigh]
    omega
  have hdash : NoDigit ('-' :: rest) := by
    intro c hc
    cases hc
    decide
  have hsigned : ∀ n : Nat, n < 2147483648 →
      number (padded 4 n ++ '-' :: rest).length (padded 4 n ++ '-' :: rest) = .ok (n, '-' :: rest) :=
    fun n hn => number_padded (by simp) (Or.inr hdash) (fitsSigned_small hn)
  rw [yearText]
  split
  · next hfour =>
    obtain ⟨n, rfl⟩ := Int.eq_ofNat_of_zero_le hfour.1
    have hlength := @length_padded 4 (by decide) n (by omega)
    have hread := @number_padded ('-' :: rest) 4 4 n (Nat.le_of_eq hlength) (Or.inl hlength)
      (fitsSigned_small (by omega))
    obtain ⟨d, ds, htext, hd⟩ := padded_begins 4 n
    rw [Int.toNat_natCast]
    have hunsigned : ∀ sign : Char, sign.isDigit = false → ∀ more,
        trimStart (padded 4 n ++ '-' :: rest) ≠ sign :: more := by
      intro sign hsign more heq
      rw [trimStart_padded, htext, List.cons_append] at heq
      rw [(List.cons.inj heq).1, hsign] at hd
      cases hd
    rw [year]
    split
    · next heq => exact absurd heq (hunsigned '-' (by decide) _)
    · next heq => exact absurd heq (hunsigned '+' (by decide) _)
    · rw [trimStart_padded, hread]
      exact if_pos hfits
  · next hfour =>
    split
    · next hneg =>
      obtain ⟨n, rfl⟩ := Int.exists_eq_neg_ofNat (Int.le_of_lt hneg)
      rw [Int.natAbs_neg, Int.natAbs_natCast, List.cons_append, year, trimStart_cons (by decide)]
      simp only [hsigned n (by omega)]
      exact if_pos hfits
    · next hpos =>
      obtain ⟨n, rfl⟩ := Int.eq_ofNat_of_zero_le (Int.not_lt.mp hpos)
      rw [Int.natAbs_natCast, List.cons_append, year, trimStart_cons (by decide)]
      simp only [hsigned n (by omega)]
      exact if_pos hfits

/-- What stands behind the fraction of a second. -/
def BeginsOffset (rest : List Char) : Prop := ∃ c cs, rest = c :: cs ∧ (c = 'Z' ∨ c = '+' ∨ c = '-')

theorem BeginsOffset.noDigit (h : BeginsOffset rest) : NoDigit rest := by
  obtain ⟨c, cs, rfl, hc⟩ := h
  intro c' hc'
  cases hc'
  rcases hc with rfl | rfl | rfl <;> decide

theorem BeginsOffset.trimStart (h : BeginsOffset rest) : trimStart rest = rest := by
  obtain ⟨c, cs, rfl, hc⟩ := h
  apply trimStart_cons
  rcases hc with rfl | rfl | rfl <;> decide

theorem dropWhile_digits (h : NoDigit rest) :
    rest.dropWhile (fun c => (digitIn? 10 c).isSome) = rest := by
  cases rest with
  | nil => rfl
  | cons c rest =>
    have hc : c.isDigit = false := h c rfl
    simp [digitIn?_ten, hc]

/-- A fraction of so many digits is read in nanoseconds. -/
theorem fraction_padded {width : Nat} (hwidth : 0 < width) (hnine : width ≤ 9) (hn : n < 10 ^ width)
    (h : BeginsOffset rest) :
    fraction ('.' :: padded width n ++ rest) = .ok (n * 10 ^ (9 - width), rest) := by
  have hlength := length_padded hwidth hn
  have hspan := @spanDigits_append (padded width n) rest 9 (isDigits_padded width n) (by omega)
    (Or.inr h.noDigit)
  have hvalue := ofDigits_padded width n
  have hcount : (digitValues (padded width n)).length = width := by
    rw [digitValues, List.length_map, hlength]
  obtain ⟨d, ds, htext, -⟩ := padded_begins width n
  rw [htext] at hspan hvalue hcount ⊢
  rw [List.cons_append] at hspan ⊢
  rw [List.cons_append, fraction, hspan]
  · change Except.ok
      (ofDigits 10 (digitValues (d :: ds)) * 10 ^ (9 - (digitValues (d :: ds)).length), _) = _
    rw [hvalue, hcount, dropWhile_digits h.noDigit]
  · exact List.cons_ne_nil _ _

/-- The fraction of a second is read back from its text. -/
theorem fraction_fractionText (hn : n < 1000000000) (h : BeginsOffset rest) :
    fraction (fractionText n ++ rest) = .ok (n, rest) := by
  have hread : ∀ width m, 0 < width → width ≤ 9 → m < 10 ^ width → n = m * 10 ^ (9 - width) →
      fraction ('.' :: padded width m ++ rest) = .ok (n, rest) := by
    intro width m hwidth hnine hm heq
    rw [heq]
    exact fraction_padded hwidth hnine hm h
  rw [fractionText]
  split
  · next hzero =>
    obtain ⟨c, cs, rfl, hc⟩ := h
    rw [hzero, List.nil_append, fraction]
    intro more heq
    rw [(List.cons.inj heq).1] at hc
    simp at hc
  · split
    · exact hread 3 _ (by decide) (by decide) (by omega) (by omega)
    · split
      · exact hread 6 _ (by decide) (by decide) (by omega) (by omega)
      · exact hread 9 n (by decide) (by decide) hn (by omega)

theorem pair_padded (hn : n < 100) : pair (padded 2 n ++ rest) = .ok (n / 10, n % 10, rest) := by
  have hdigit : ∀ m < 10, digitIn? 10 m.digitChar = some m := by decide
  rw [padded_succ (by decide), padded_one (by omega)]
  simp only [List.cons_append, List.nil_append, pair, hdigit (n / 10) (by omega),
    hdigit (n % 10) (by omega)]

theorem offsetText_begins (o : Int) : BeginsOffset (offsetText o) := by
  unfold offsetText
  split
  · exact ⟨'Z', [], rfl, Or.inl rfl⟩
  · refine ⟨_, _, rfl, ?_⟩
    split <;> simp

theorem offset_sign {sign : Char} (hsign : sign = '+' ∨ sign = '-') (cs : List Char) :
    offset (sign :: cs) = (offsetBody cs).map fun (n, rest) =>
      (if sign = '-' then -(n : Int) else n, rest) := by
  rcases hsign with rfl | rfl <;> simp [offset]

/-- An offset of whole minutes is read back from its text. -/
theorem offset_offsetText {o : Int} (hday : o.natAbs < 86400) (hminutes : o % 60 = 0) :
    offset (offsetText o) = .ok (o, []) := by
  have hbody : offsetBody (padded 2 (o.natAbs / 60 / 60) ++ ':' :: padded 2 (o.natAbs / 60 % 60)) =
      .ok (o.natAbs, []) := by
    have hminute := @pair_padded [] (o.natAbs / 60 % 60) (by omega)
    obtain ⟨d, ds, htext, hd⟩ := padded_begins 2 (o.natAbs / 60 % 60)
    have hskip : (':' :: padded 2 (o.natAbs / 60 % 60)).dropWhile (fun c => c == ':' || isBlank c) =
        padded 2 (o.natAbs / 60 % 60) := by
      have hcolon : (d == ':') = false := by
        rw [beq_eq_false_iff_ne]
        rintro rfl
        cases hd
      rw [htext]
      simp [hcolon, isBlank_of_isDigit hd]
    rw [List.append_nil] at hminute
    rw [offsetBody, pair_padded (by omega)]
    simp only [ok_bind, hskip, hminute]
    rw [if_neg (by omega)]
    congr 2
    omega
  unfold offsetText
  split
  · next hzero =>
    rw [hzero]
    rfl
  · split
    · next hneg =>
      have hback : -(o.natAbs : Int) = o := by omega
      rw [List.cons_append, offset_sign (Or.inr rfl), hbody]
      change Except.ok (-(o.natAbs : Int), []) = _
      rw [hback]
    · next hpos =>
      have hback : (o.natAbs : Int) = o := by omega
      rw [List.cons_append, offset_sign (Or.inl rfl), hbody]
      change Except.ok ((o.natAbs : Int), []) = _
      rw [hback]

end Columns

/-! ## Times -/

end Rfc3339

/-- A time as it is read: in the calendar at its own offset, which is one of whole minutes, and with a leap
second at the end of a minute only. -/
structure Timestamp.Readable (t : Timestamp) : Prop where
  inRange : Instant.inRange t.instant.seconds = true
  day : t.offset.natAbs < 86400
  minutes : t.offset % 60 = 0
  low : Instant.leastYear ≤
    Date.yearOfDays ((t.instant.seconds + t.offset) / 86400 + Instant.epochDays)
  high : Date.yearOfDays ((t.instant.seconds + t.offset) / 86400 + Instant.epochDays) ≤
    Instant.greatestYear
  leap : 1000000000 ≤ t.instant.nanos → t.instant.seconds % 60 = 59

namespace Rfc3339

open DurableJobs.Text

/-- The text of a time of day, column by column, with what stands behind it. -/
theorem localText_append (at_ : Instant) (rest : List Char) :
    localText at_ ++ rest =
      yearText at_.dateAndSecond.1.year ++ '-' :: (padded 2 at_.dateAndSecond.1.month ++
        '-' :: (padded 2 at_.dateAndSecond.1.day ++ 'T' :: (padded 2 (at_.dateAndSecond.2 / 3600) ++
          ':' :: (padded 2 (at_.dateAndSecond.2 / 60 % 60) ++
            ':' :: (padded 2 (at_.dateAndSecond.2 % 60 + at_.nanos / 1000000000) ++
              (fractionText (at_.nanos % 1000000000) ++ rest)))))) := by
  have hleap : at_.nanos / 1000000000 = if 1000000000 ≤ at_.nanos then 1 else 0 := by
    have := at_.nanos_lt
    split <;> omega
  have hnanos : at_.nanos % 1000000000 =
      if 1000000000 ≤ at_.nanos then at_.nanos - 1000000000 else at_.nanos := by
    have := at_.nanos_lt
    split <;> omega
  simp [localText, hleap, hnanos, List.append_assoc]

/-- Columns are read as the time they make up, at the offset that is read behind them. -/
theorem scan_columns {y days seconds o : Int} {mo d h mi s n nanos : Nat} {zone : List Char}
    (hnanos : nanos < 2000000000) (hlow : Instant.leastYear ≤ y) (hhigh : y ≤ Instant.greatestYear)
    (hdate : (Date.mk y mo d).toDays? = some days) (hh : h ≤ 23) (hmi : mi ≤ 59) (hs : s ≤ 60)
    (hn : n < 1000000000) (hday : o.natAbs < 86400) (hbegins : BeginsOffset zone)
    (hzone : offset zone = .ok (o, []))
    (hseconds : (days - Instant.epochDays) * 86400 + (h * 3600 + mi * 60 + (min s 59 : Nat)) - o = seconds)
    (hleap : n + (if s = 60 then 1000000000 else 0) = nanos) (hrange : Instant.inRange seconds = true) :
    scan (yearText y ++ '-' :: (padded 2 mo ++ '-' :: (padded 2 d ++ 'T' :: (padded 2 h ++
      ':' :: (padded 2 mi ++ ':' :: (padded 2 s ++ (fractionText n ++ zone))))))) =
      .ok (⟨⟨seconds, nanos, hnanos⟩, o⟩, []) := by
  obtain ⟨⟨hmo, hmo'⟩, hd, hd'⟩ := Date.within_of_toDays? hdate
  have hyear : ¬ (y < Instant.leastYear ∨ Instant.greatestYear < y ∨ 86400 ≤ o.natAbs) := by omega
  subst hseconds hleap
  rw [scan, year_yearText hlow hhigh, ok_bind]
  simp only [separator_cons (show isBlank '-' = false by decide),
    separator_cons (show isBlank ':' = false by decide), field_padded hmo hmo' (by omega),
    field_padded hd hd' (by omega), field_padded (Nat.zero_le h) hh (by omega),
    field_padded (Nat.zero_le mi) hmi (by omega), field_padded (Nat.zero_le s) hs (by omega), ok_bind,
    true_or, if_true, fraction_fractionText hn hbegins, hbegins.trimStart, hzone, hdate, if_neg hyear,
    dif_pos hnanos, if_pos hrange]

/-- The text of a time of day is read back as the time, with whatever text of its offset behind it. -/
theorem scan_localText {t : Timestamp} (h : t.Readable) {zone : List Char} (hbegins : BeginsOffset zone)
    (hzone : offset zone = .ok (t.offset, [])) :
    scan (localText ⟨t.instant.seconds + t.offset, t.instant.nanos, t.instant.nanos_lt⟩ ++ zone) =
      .ok (t, []) := by
  obtain ⟨⟨seconds, nanos, hnanos⟩, o⟩ := t
  obtain ⟨hrange, hday, hminutes, hlow, hhigh, hleap⟩ := h
  dsimp only at *
  rw [localText_append, Instant.dateAndSecond_eq]
  dsimp only
  generalize hdays : (seconds + o) / 86400 + Instant.epochDays = days at *
  obtain ⟨second, hsecond⟩ := Int.eq_ofNat_of_zero_le
    (Int.emod_nonneg (seconds + o) (by decide : (86400 : Int) ≠ 0))
  rw [hsecond, Int.toNat_natCast]
  have hclock : 1000000000 ≤ nanos → second % 60 = 59 := by omega
  refine scan_columns hnanos hlow hhigh (Date.toDays?_ofDays days) ?_ ?_ ?_ ?_ hday hbegins hzone ?_ ?_
    hrange
  · omega
  · omega
  · omega
  · omega
  · omega
  · split <;> omega

/-- **A time that was read is read back from its text.** -/
theorem scan_document {t : Timestamp} (h : t.Readable) : scan (document t) = .ok (t, []) :=
  scan_localText h (offsetText_begins t.offset) (offset_offsetText h.day h.minutes)

/-! ## What is read -/

section Inversion

variable {cs rest : List Char} {n : Nat}

theorem field_within {low high : Nat} (h : field low high cs = .ok (n, rest)) : low ≤ n ∧ n ≤ high := by
  obtain ⟨⟨m, rest'⟩, -, h⟩ := bind_eq_ok.mp h
  dsimp only at h
  split at h
  · next hwithin =>
    cases h
    exact hwithin
  · cases h

theorem spanDigits_digits (limit : Nat) (cs : List Char) :
    (spanDigits limit cs).1.length ≤ limit ∧ ∀ d ∈ (spanDigits limit cs).1, d < 10 := by
  induction limit generalizing cs with
  | zero => simp [spanDigits]
  | succ limit ih =>
    cases cs with
    | nil => simp [spanDigits]
    | cons c cs =>
      rw [spanDigits]
      cases hdigit : digitIn? 10 c with
      | none => simp
      | some d =>
        obtain ⟨hlength, hall⟩ := ih cs
        have hd : d < 10 := by
          rw [digitIn?] at hdigit
          exact of_decide_eq_true (Option.filter_eq_some_iff.mp hdigit).2
        refine ⟨Nat.succ_le_succ hlength, fun d' hd' => ?_⟩
        rcases List.mem_cons.mp hd' with rfl | hd'
        · exact hd
        · exact hall d' hd'

theorem fraction_lt (h : fraction cs = .ok (n, rest)) : n < 1000000000 := by
  unfold fraction at h
  split at h
  · next more =>
    split at h
    · cases h
    · obtain ⟨hlength, hall⟩ := spanDigits_digits 9 more
      split at h
      · cases h
      · next ds _ _ hspan =>
        cases h
        rw [hspan] at hlength hall
        calc ofDigits 10 ds * 10 ^ (9 - ds.length) < 10 ^ ds.length * 10 ^ (9 - ds.length) :=
              Nat.mul_lt_mul_of_pos_right (ofDigits_lt hall) (Nat.pow_pos (by decide))
          _ = 1000000000 := by rw [← Nat.pow_add, Nat.add_sub_cancel' hlength]
  · cases h
    decide

theorem offset_minutes {o : Int} (h : offset cs = .ok (o, rest)) : o % 60 = 0 := by
  have hbody : ∀ {cs n rest}, offsetBody cs = .ok (n, rest) → n % 60 = 0 := by
    intro cs n rest h
    obtain ⟨⟨h₁, h₂, cs₁⟩, -, h⟩ := bind_eq_ok.mp h
    obtain ⟨⟨m₁, m₂, cs₂⟩, -, h⟩ := bind_eq_ok.mp h
    dsimp only at h
    split at h
    · cases h
    · cases h
      omega
  unfold offset at h
  split at h
  · cases h
  · split at h
    · cases h
      rfl
    · split at h
      · cases h
        rfl
      · split at h
        · obtain ⟨⟨m, rest'⟩, hm, heq⟩ := map_eq_ok.mp h
          cases heq
          have := hbody hm
          omega
        · split at h
          · obtain ⟨⟨m, rest'⟩, hm, heq⟩ := map_eq_ok.mp h
            cases heq
            have := hbody hm
            omega
          · cases h

end Inversion

/-- **A time that is read can be read back.** -/
theorem readable_of_scan {cs rest : List Char} {t : Timestamp} (h : scan cs = .ok (t, rest)) :
    t.Readable := by
  obtain ⟨⟨y, cs₁⟩, -, h⟩ := bind_eq_ok.mp h
  obtain ⟨cs₂, -, h⟩ := bind_eq_ok.mp h
  obtain ⟨⟨mo, cs₃⟩, -, h⟩ := bind_eq_ok.mp h
  obtain ⟨cs₄, -, h⟩ := bind_eq_ok.mp h
  obtain ⟨⟨d, cs₅⟩, -, h⟩ := bind_eq_ok.mp h
  dsimp only at h
  split at h
  · cases h
  split at h
  · rw [ok_bind] at h
    obtain ⟨⟨hour, cs₇⟩, hhour, h⟩ := bind_eq_ok.mp h
    obtain ⟨cs₈, -, h⟩ := bind_eq_ok.mp h
    obtain ⟨⟨minute, cs₉⟩, hminute, h⟩ := bind_eq_ok.mp h
    obtain ⟨cs₁₀, -, h⟩ := bind_eq_ok.mp h
    obtain ⟨⟨second, cs₁₁⟩, hsecond, h⟩ := bind_eq_ok.mp h
    obtain ⟨⟨n, cs₁₂⟩, hn, h⟩ := bind_eq_ok.mp h
    obtain ⟨⟨o, cs₁₃⟩, ho, h⟩ := bind_eq_ok.mp h
    have hhours := field_within hhour
    have hminutes := field_within hminute
    have hseconds := field_within hsecond
    have hfraction := fraction_lt hn
    have hoffset := offset_minutes ho
    dsimp only at h
    split at h
    · cases h
    · next days hdate =>
      have hyear := Date.yearOfDays_of_toDays? hdate
      generalize hnanos : n + (if second = 60 then 1000000000 else 0) = nanos at h
      generalize hat : (days - Instant.epochDays) * 86400 +
        ((hour * 3600 + minute * 60 + (min second 59 : Nat) : Int)) - o = seconds at h
      split at h
      · cases h
      · next hwithin =>
        split at h
        · next hlt =>
          split at h
          · next hrange =>
            cases h
            have hday : (seconds + o) / 86400 + Instant.epochDays = days := by omega
            rw [← hday] at hyear
            refine ⟨hrange, ?_, hoffset, ?_, ?_, ?_⟩
            all_goals dsimp only at hyear ⊢
            · omega
            · omega
            · omega
            · split at hnanos <;> omega
          · cases h
        · cases h
  · cases h

theorem parse_document {t : Timestamp} (h : t.Readable) :
    parse (String.ofList (document t)) = .ok t := by
  rw [parse, String.toList_ofList, scan_document h]
  rfl

theorem readable_of_parse {s : String} {t : Timestamp} (h : parse s = .ok t) : t.Readable := by
  obtain ⟨⟨t', rest⟩, hscan, h⟩ := bind_eq_ok.mp h
  dsimp only at h
  split at h
  · cases h
    exact readable_of_scan hscan
  · cases h

end Rfc3339

end DurableJobs
