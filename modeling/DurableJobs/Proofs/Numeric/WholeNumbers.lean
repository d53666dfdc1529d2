import Mathlib.Algebra.Order.Ring.Nat
import DurableJobs.Time.Span

/-!
# Whole numbers as binary64 numbers

A whole number of seconds that is written in a text is read as a binary64 number before it becomes a span.
Up to `2^53` nothing is lost that way. Beyond, the lowest bits that do not fit a significand are rounded
away, so the span is that of another number, the nearest one that fits (`nearest`); and a number so large
that it has no span has none after rounding either.

Rounding is done on quotients of natural numbers, so this is arithmetic with powers of two, and the one
thing to find out is the exponent (`exponentOfRatio_one`).
-/

set_option autoImplicit false

namespace DurableJobs

namespace Binary64

/-! ## The nearest number -/

/-- How many bits of a whole number stand below its 53 highest ones. -/
def excess (n : Nat) : Nat := n.log2 - 52

/-- The number nearest to a whole number among those with 53 bits before the zeros, a half to the even
one. -/
def nearest (n : Nat) : Nat :=
  roundHalfEven (n / 2 ^ excess n) (n % 2 ^ excess n) (2 ^ excess n) * 2 ^ excess n

theorem roundHalfEven_exact (q : Nat) {d : Nat} (hd : 0 < d) : roundHalfEven q 0 d = q := by
  rw [roundHalfEven, if_neg (by omega), if_pos (by omega)]

/-- A rounded quotient is the quotient or the one behind it. -/
theorem roundHalfEven_cases (q r d : Nat) :
    (roundHalfEven q r d = q ∧ 2 * r ≤ d) ∨ (roundHalfEven q r d = q + 1 ∧ d ≤ 2 * r) := by
  unfold roundHalfEven
  split
  · exact Or.inr ⟨rfl, by omega⟩
  · split
    · exact Or.inl ⟨rfl, by omega⟩
    · split
      · exact Or.inl ⟨rfl, by omega⟩
      · exact Or.inr ⟨rfl, by omega⟩

theorem excess_eq_zero {n : Nat} (h : n < 2 ^ 53) : excess n = 0 := by
  rcases Nat.eq_zero_or_pos n with rfl | hpos
  · rfl
  · have := (Nat.log2_lt (by omega)).mpr h
    rw [excess]
    omega

/-- Whole numbers up to `2^53` are kept. -/
theorem nearest_of_le {n : Nat} (h : n ≤ 2 ^ 53) : nearest n = n := by
  rcases Nat.lt_or_eq_of_le h with hlt | rfl
  · rw [nearest, excess_eq_zero hlt, Nat.pow_zero, Nat.div_one, Nat.mod_one,
      roundHalfEven_exact n (by omega), Nat.mul_one]
  · decide

/-- The nearest number is half a unit of its last place away at most. -/
theorem nearest_error (n : Nat) :
    2 * (nearest n - n) ≤ 2 ^ excess n ∧ 2 * (n - nearest n) ≤ 2 ^ excess n := by
  have hdivision := Nat.div_add_mod n (2 ^ excess n)
  have hremainder := Nat.mod_lt n (Nat.two_pow_pos (excess n))
  rw [Nat.mul_comm] at hdivision
  unfold nearest
  generalize 2 ^ excess n = d at *
  generalize n / d = q at *
  generalize n % d = r at *
  rcases roundHalfEven_cases q r d with ⟨hround, hhalf⟩ | ⟨hround, hhalf⟩
  · rw [hround]
    omega
  · rw [hround, Nat.add_mul, Nat.one_mul]
    omega

/-- Rounding does not fall below a power of two that the number reaches. -/
theorem two_pow_le_nearest {n k : Nat} (h : 2 ^ k ≤ n) : 2 ^ k ≤ nearest n := by
  have hn : n ≠ 0 := by
    have := Nat.two_pow_pos k
    omega
  have hk : k ≤ n.log2 := (Nat.le_log2 hn).mpr h
  rcases Nat.lt_or_ge n (2 ^ 53) with hsmall | hlarge
  · rw [nearest_of_le (by omega)]
    exact h
  · have hlog : 53 ≤ n.log2 := (Nat.le_log2 hn).mpr hlarge
    have hsplit : 2 ^ n.log2 = 2 ^ 52 * 2 ^ excess n := by
      rw [← Nat.pow_add, excess]
      congr 1
      omega
    have hquotient : 2 ^ 52 ≤ n / 2 ^ excess n := by
      rw [Nat.le_div_iff_mul_le (Nat.two_pow_pos _), ← hsplit]
      exact Nat.log2_self_le hn
    have hround : n / 2 ^ excess n ≤
        roundHalfEven (n / 2 ^ excess n) (n % 2 ^ excess n) (2 ^ excess n) := by
      rcases roundHalfEven_cases (n / 2 ^ excess n) (n % 2 ^ excess n) (2 ^ excess n)
        with ⟨heq, -⟩ | ⟨heq, -⟩
      · exact Nat.le_of_eq heq.symm
      · exact heq ▸ Nat.le_succ _
    calc 2 ^ k ≤ 2 ^ n.log2 := Nat.pow_le_pow_right (by decide) hk
      _ = 2 ^ 52 * 2 ^ excess n := hsplit
      _ ≤ nearest n := Nat.mul_le_mul_right _ (Nat.le_trans hquotient hround)

/-! ## Rounding a whole number -/

theorem scaledQuotient_down (n e : Nat) : scaledQuotient n 1 e = (n / 2 ^ e, n % 2 ^ e, 2 ^ e) := by
  simp [scaledQuotient]

theorem scaledQuotient_up (n : Nat) {k : Nat} (hk : 0 < k) :
    scaledQuotient n 1 (-(k : Int)) = (n * 2 ^ k, 0, 1) := by
  have hneg : ¬ (0 : Int) ≤ -(k : Int) := by omega
  rw [scaledQuotient, if_neg hneg]
  simp [Nat.mod_one]

/-- The exponent of a whole number puts its highest bit on the 53rd place. -/
theorem exponentOfRatio_one {n : Nat} (hn : n ≠ 0) : exponentOfRatio n 1 = (n.log2 : Int) - 52 := by
  have hguess : max leastExponent ((n.log2 : Int) - (Nat.log2 1 : Int) - 53) = (n.log2 : Int) - 53 := by
    have hone : Nat.log2 1 = 0 := by decide
    rw [hone, leastExponent]
    omega
  have hlow := Nat.log2_self_le hn
  -- one place lower the significand would have 54 bits
  have hlong : Nat.pow 2 53 ≤ (scaledQuotient n 1 ((n.log2 : Int) - 53)).1 := by
    change 2 ^ 53 ≤ _
    rcases Nat.lt_or_ge n.log2 53 with hshort | hlog
    · have hexponent : (n.log2 : Int) - 53 = -((53 - n.log2 : Nat) : Int) := by omega
      rw [hexponent, scaledQuotient_up n (by omega)]
      calc 2 ^ 53 = 2 ^ n.log2 * 2 ^ (53 - n.log2) := by
            rw [← Nat.pow_add]
            congr 1
            omega
        _ ≤ n * 2 ^ (53 - n.log2) := Nat.mul_le_mul_right _ hlow
    · have hexponent : (n.log2 : Int) - 53 = ((n.log2 - 53 : Nat) : Int) := by omega
      rw [hexponent, scaledQuotient_down, Nat.le_div_iff_mul_le (Nat.two_pow_pos _), ← Nat.pow_add]
      refine Nat.le_trans (Nat.le_of_eq ?_) hlow
      congr 1
      omega
  unfold exponentOfRatio
  dsimp only
  rw [hguess, if_pos hlong]
  omega

theorem scaledNat?_finite (m e scale : Nat) :
    (finite false m e).scaledNat? scale = some (m * 2 ^ e * scale) := by
  simp [scaledNat?, ratio, Nat.mod_one, roundHalfEven_exact]

theorem scaledNat?_zero (e : Int) (scale : Nat) : (finite false 0 e).scaledNat? scale = some 0 := by
  by_cases h : 0 ≤ e <;>
    simp [scaledNat?, ratio, h, roundHalfEven_exact]

/-- A number that is not zero is read by rounding its quotient, which may carry. -/
theorem ofNat_eq {n : Nat} (hn : n ≠ 0) {e : Int} {q r d : Nat} (he : (n.log2 : Int) - 52 = e)
    (hquotient : scaledQuotient n 1 e = (q, r, d)) :
    ofNat n =
      if roundHalfEven q r d = 2 ^ 53 then
        if greatestExponent < e + 1 then infinite false else finite false (2 ^ 52) (e + 1)
      else if greatestExponent < e then infinite false
      else finite false (roundHalfEven q r d) e := by
  rw [ofNat, ofRatio, if_neg (by omega)]
  dsimp only
  rw [exponentOfRatio_one hn, he, hquotient]
  dsimp only
  by_cases hcarry : roundHalfEven q r d = Nat.pow 2 53
  · have hpower : roundHalfEven q r d = 2 ^ 53 := hcarry
    rw [if_pos hcarry, if_pos hpower]
    rfl
  · have hpower : ¬ roundHalfEven q r d = 2 ^ 53 := hcarry
    rw [if_neg hcarry, if_neg hpower]

/-- A short number is read as it stands. -/
theorem ofNat_of_short {n : Nat} (hn : n ≠ 0) (hshort : n.log2 < 52) :
    ofNat n = finite false (n * 2 ^ (52 - n.log2)) (-((52 - n.log2 : Nat) : Int)) := by
  have hlt : n * 2 ^ (52 - n.log2) < 2 ^ 53 := by
    calc n * 2 ^ (52 - n.log2) < 2 ^ (n.log2 + 1) * 2 ^ (52 - n.log2) :=
          Nat.mul_lt_mul_of_pos_right Nat.lt_log2_self (Nat.two_pow_pos _)
      _ = 2 ^ 53 := by
          rw [← Nat.pow_add]
          congr 1
          omega
  have hfinite : ¬ greatestExponent < -((52 - n.log2 : Nat) : Int) := by
    rw [greatestExponent]
    omega
  rw [ofNat_eq hn (by omega) (scaledQuotient_up (k := 52 - n.log2) n (by omega)),
    roundHalfEven_exact _ Nat.one_pos, if_neg (by omega), if_neg hfinite]

/-- A whole number is read as the nearest one, and so is any multiple that is taken of it. What is too
large to be read has no span. -/
theorem ofNat_scaledNat? (n scale : Nat) :
    (ofNat n).scaledNat? scale = some (nearest n * scale) ∨
      (ofNat n).scaledNat? scale = none ∧ 2 ^ 64 ≤ nearest n := by
  rcases Nat.eq_zero_or_pos n with rfl | hpos
  · refine Or.inl ?_
    rw [nearest_of_le (Nat.zero_le _), Nat.zero_mul]
    exact scaledNat?_zero leastExponent scale
  have hn : n ≠ 0 := by omega
  rcases Nat.lt_or_ge n.log2 52 with hshort | hlong
  · refine Or.inl ?_
    have hscaled : n * 2 ^ (52 - n.log2) * scale = n * scale * 2 ^ (52 - n.log2) :=
      Nat.mul_right_comm ..
    have hneg : ¬ (0 : Int) ≤ -((52 - n.log2 : Nat) : Int) := by omega
    have hsmall : n < 2 ^ 53 := (Nat.log2_lt hn).mp (by omega)
    rw [ofNat_of_short hn hshort, scaledNat?, ratio, if_neg hneg, nearest_of_le (by omega)]
    simp [hscaled, roundHalfEven_exact]
  · have hexponent : (n.log2 : Int) - 52 = ((excess n : Nat) : Int) := by
      rw [excess]
      omega
    have hhuge : greatestExponent < ((excess n : Nat) : Int) + 1 → 2 ^ 64 ≤ nearest n := by
      intro hgreat
      refine two_pow_le_nearest (Nat.le_trans (Nat.pow_le_pow_right (by decide) ?_)
        (Nat.log2_self_le hn))
      rw [greatestExponent] at hgreat
      omega
    rw [ofNat_eq hn hexponent (scaledQuotient_down n (excess n))]
    split
    · next hcarry =>
      -- a carry makes the next power of two
      have hnearest : nearest n = 2 ^ 52 * 2 ^ (excess n + 1) := by
        rw [nearest, hcarry, Nat.pow_succ 2 (excess n)]
        omega
      split
      · next hgreat => exact Or.inr ⟨rfl, hhuge hgreat⟩
      · exact Or.inl ((scaledNat?_finite _ (excess n + 1) scale).trans (by rw [hnearest]))
    · split
      · next hgreat => exact Or.inr ⟨rfl, hhuge (by omega)⟩
      · exact Or.inl (scaledNat?_finite _ (excess n) scale)

end Binary64

/-! ## Spans of whole seconds -/

/-- So many seconds are the span of the nearest number of them, if that has one. -/
theorem Span.ofFloatSeconds?_ofNat (n : Nat) :
    ofFloatSeconds? (Binary64.ofNat n) = ofNanos? (Binary64.nearest n * 1000000000) := by
  rw [ofFloatSeconds?]
  rcases Binary64.ofNat_scaledNat? n 1000000000 with hread | ⟨hread, hlarge⟩
  · rw [hread, Option.bind_some]
  · rw [hread, Option.bind_none, ofNanos?, dif_neg (by omega)]

end DurableJobs
