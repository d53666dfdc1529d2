import DurableJobs.Idna.Punycode
import DurableJobs.Proofs.Text.Ascii
import DurableJobs.Proofs.Text.Pieces

/-!
# What Punycode writes is read again

The writer goes through the label once for each code point beyond ASCII, in ascending order, and counts the
places it passes; where it meets the code point it writes the count. The reader holds, at that moment, the
characters of the label that are smaller, or equal and further to the front: the label as far as it has been
written. The count is the way from the place of its last insertion to the next one, in steps through all places of
all code points, so the reader goes the same way (`Midway`). Behind the last code point nothing is missing,
and the label is read (`decode?_encode`).
-/

set_option autoImplicit false

namespace DurableJobs.Idna.Punycode

open DurableJobs.Text

/-! ## Numbers -/

theorem digitValue?_digitChar {d : Nat} (h : d < 36) : digitValue? (digitChar d) = some d := by
  have hall : ∀ e < 36, digitValue? (digitChar e) = some e := by decide
  exact hall d h

/-- A number is read back, and what stands behind it is left. -/
theorem number?_digitsOf (bias place n weight sum : Nat) (rest : List Char) :
    number? bias place weight sum (digitsOf bias place n ++ rest) = some (sum + n * weight, rest) := by
  have hpos := threshold_pos bias place
  have hle := threshold_le bias place
  fun_induction digitsOf bias place n generalizing weight sum with
  | case1 place n t hn =>
    rw [List.singleton_append, number?, digitValue?_digitChar (by omega)]
    exact if_pos hn
  | case2 place n t hn ih =>
    have hmod : (n - t) % (36 - t) < 36 - t := Nat.mod_lt _ (by omega)
    have hsplit : n = t + (n - t) % (36 - t) + (n - t) / (36 - t) * (36 - t) := by
      have := Nat.mod_add_div' (n - t) (36 - t)
      omega
    rw [List.cons_append, number?, digitValue?_digitChar (by omega)]
    refine (if_neg (show ¬ t + (n - t) % (36 - t) < t by omega)).trans ?_
    rw [ih _ _ (threshold_pos _ _) (threshold_le _ _)]
    refine congrArg (fun total => some (total, rest)) ?_
    generalize (n - t) % (36 - t) = low at *
    generalize (n - t) / (36 - t) = high at *
    rw [hsplit, Nat.add_assoc, Nat.add_mul (t + low), Nat.mul_comm weight (36 - t), Nat.mul_assoc]

theorem digitsOf_ne_nil (bias place n : Nat) : digitsOf bias place n ≠ [] := by
  rw [digitsOf]
  split <;> exact List.cons_ne_nil _ _

theorem mem_digitsOf {bias place n : Nat} {c : Char} (h : c ∈ digitsOf bias place n) :
    ∃ d < 36, c = digitChar d := by
  have hpos := threshold_pos bias place
  have hle := threshold_le bias place
  fun_induction digitsOf bias place n with
  | case1 place n t hn => exact ⟨n, by omega, List.mem_singleton.mp h⟩
  | case2 place n t hn ih =>
    have hmod : (n - t) % (36 - t) < 36 - t := Nat.mod_lt _ (by omega)
    obtain rfl | h := List.mem_cons.mp h
    · exact ⟨_, by omega, rfl⟩
    · exact ih h (threshold_pos _ _) (threshold_le _ _)

/-- A number puts one character in: `gap` code points on, at `place`. -/
theorem insertAll?_digitsOf {bias point index delta gap place : Nat} {label rest : List Char} {c : Char}
    (hway : index + delta = gap * (label.length + 1) + place) (hplace : place ≤ label.length)
    (hc : c.toNat = point + gap) :
    insertAll? bias point index label (digitsOf bias 36 delta ++ rest) =
      insertAll? (adapt delta (label.length + 1) (index == 0)) c.toNat (place + 1) (label.insertIdx place c) rest := by
  have hread := number?_digitsOf bias 36 delta 1 index rest
  rw [Nat.mul_one, hway] at hread
  obtain ⟨d, digits, hdigits⟩ := List.exists_cons_of_ne_nil (digitsOf_ne_nil bias 36 delta)
  rw [hdigits, List.cons_append] at hread ⊢
  rw [insertAll?]
  split
  next hnone => rw [hread] at hnone; cases hnone
  next n behind hsome =>
    rw [hread, Option.some.injEq, Prod.mk.injEq] at hsome
    obtain ⟨rfl, rfl⟩ := hsome
    have hdiv : (gap * (label.length + 1) + place) / (label.length + 1) = gap := by
      rw [Nat.mul_comm, Nat.mul_add_div (by omega), Nat.div_eq_of_lt (by omega), Nat.add_zero]
    have hmod : (gap * (label.length + 1) + place) % (label.length + 1) = place := by
      rw [Nat.mul_comm, Nat.mul_add_mod, Nat.mod_eq_of_lt (by omega)]
    have hdelta : gap * (label.length + 1) + place - index = delta := by omega
    simp only [hdiv, hmod, hdelta, ← hc, Char.ofNat_toNat]
    exact if_pos c.valid

/-! ## Halfway through a label -/

/-- The characters up to a code point, and those below it. -/
def upTo (point : Nat) (label : List Char) : List Char := label.filter fun c => c.toNat ≤ point

def below (point : Nat) (label : List Char) : List Char := label.filter fun c => c.toNat < point

/-- The writer stands at a place of the code point `at_`, and reading what it has written makes `read`: the way
from the reader's last insertion to here is what it has counted. -/
def Midway (basic read : List Char) (at_ place : Nat) (w : Writing) : Prop :=
  ∃ point index, point ≤ at_ ∧
    w.delta + index + point * (read.length + 1) = at_ * (read.length + 1) + place ∧
    w.taken = read.length ∧ w.first = (index == 0) ∧
    ∀ rest, insertAll? 72 0x80 0 basic (w.written.reverse ++ rest) = insertAll? w.bias point index read rest

theorem insertIdx_length_append (front back : List Char) (c : Char) :
    (front ++ back).insertIdx front.length c = front ++ c :: back := by
  induction front with
  | nil => rfl
  | cons d front ih => rw [List.cons_append, List.length_cons, List.insertIdx_succ_cons, ih, List.cons_append]

section Pass

variable {basic front back : List Char} {c : Char} {point : Nat} {w : Writing}

theorem upTo_concat : upTo point (front ++ [c]) = upTo point front ++ if c.toNat ≤ point then [c] else [] := by
  rw [upTo, List.filter_append, ← upTo, List.filter_cons, List.filter_nil]
  simp only [decide_eq_true_eq]

theorem below_cons : below point (c :: back) = if c.toNat < point then c :: below point back else below point back := by
  rw [below, List.filter_cons, ← below]
  simp only [decide_eq_true_eq]

/-- A character that the reader has already is passed by a step. -/
theorem Midway.step (h : Midway basic (front ++ c :: back) point front.length w) :
    Midway basic (front ++ [c] ++ back) point (front ++ [c]).length { w with delta := w.delta + 1 } := by
  obtain ⟨last, index, hlast, hway, htaken, hfirst, hreads⟩ := h
  rw [List.append_assoc, List.singleton_append]
  refine ⟨last, index, hlast, ?_, htaken, hfirst, hreads⟩
  rw [show (front ++ [c]).length = front.length + 1 from List.length_append]
  dsimp only
  omega

/-- A character of the code point at hand is written, and read at its place. -/
theorem Midway.write (h : Midway basic (front ++ back) point front.length w) (hc : c.toNat = point) :
    Midway basic (front ++ [c] ++ back) point (front ++ [c]).length
      { written := (digitsOf w.bias 36 w.delta).reverse ++ w.written
        delta := 0
        bias := adapt w.delta (w.taken + 1) w.first
        taken := w.taken + 1
        first := false } := by
  obtain ⟨last, index, hlast, hway, htaken, hfirst, hreads⟩ := h
  obtain ⟨gap, hgap⟩ := Nat.exists_eq_add_of_le hlast
  have hnext : index + w.delta = gap * ((front ++ back).length + 1) + front.length := by
    rw [hgap, Nat.add_mul] at hway
    omega
  have hinsert : (front ++ back).insertIdx front.length c = front ++ [c] ++ back := by
    rw [insertIdx_length_append, List.append_assoc, List.singleton_append]
  refine ⟨point, front.length + 1, Nat.le_refl _, ?_, ?_, rfl, fun rest => ?_⟩
  · simp only [List.length_append, List.length_singleton]
    omega
  · simp only [htaken, List.length_append, List.length_singleton]
    omega
  · simp only [List.reverse_append, List.reverse_reverse, List.append_assoc] at hreads ⊢
    rw [hreads, insertAll?_digitsOf (c := c) hnext (by simp) (by omega), hinsert, htaken, hfirst, hc]
    simp only [List.append_assoc]

/-- One character is passed; if it is the code point at hand it is written. -/
theorem Midway.pass (h : Midway basic (upTo point front ++ below point (c :: back)) point (upTo point front).length w) :
    Midway basic (upTo point (front ++ [c]) ++ below point back) point (upTo point (front ++ [c])).length
      (w.pass point c) := by
  rw [below_cons] at h
  rw [upTo_concat, Writing.pass]
  rcases Nat.lt_trichotomy c.toNat point with hlt | heq | hgt
  · rw [if_pos hlt] at h
    rw [if_pos (Nat.le_of_lt hlt), if_pos hlt]
    exact h.step
  · rw [if_neg (by omega)] at h
    rw [if_pos (by omega), if_neg (by omega), if_pos heq]
    exact h.write heq
  · rw [if_neg (by omega)] at h
    rw [if_neg (by omega), if_neg (by omega), if_neg (by omega), List.append_nil]
    exact h

/-- The whole label is passed. -/
theorem Midway.passAll (h : Midway basic (upTo point front ++ below point back) point (upTo point front).length w) :
    Midway basic (upTo point (front ++ back)) point (upTo point (front ++ back)).length
      (back.foldl (Writing.pass point) w) := by
  induction back generalizing front w with
  | nil => simpa [below] using h
  | cons c back ih =>
    have hpassed := ih h.pass
    rwa [List.append_assoc, List.singleton_append] at hpassed

end Pass

/-! ## Whole labels -/

section Points

variable {basic read label : List Char} {points : List Nat} {next point : Nat} {w : Writing}

/-- Code points are skipped by as many rounds through the label. -/
theorem Midway.skip (h : Midway basic read next 0 w) (hpoint : next ≤ point) :
    Midway basic read point 0 { w with delta := w.delta + (point - next) * (w.taken + 1) } := by
  obtain ⟨last, index, hlast, hway, htaken, hfirst, hreads⟩ := h
  refine ⟨last, index, by omega, ?_, htaken, hfirst, hreads⟩
  obtain ⟨gap, rfl⟩ := Nat.exists_eq_add_of_le hpoint
  simp only [htaken, Nat.add_sub_cancel_left, Nat.add_mul] at hway ⊢
  omega

/-- The place behind the label is the one in front of it for the next code point. -/
theorem Midway.turn (h : Midway basic read point read.length w) :
    Midway basic read (point + 1) 0 { w with delta := w.delta + 1 } := by
  obtain ⟨last, index, hlast, hway, htaken, hfirst, hreads⟩ := h
  refine ⟨last, index, by omega, ?_, htaken, hfirst, hreads⟩
  rw [Nat.succ_mul]
  dsimp only
  omega

/-- Nothing is between two code points of which the second is the next that the label has. -/
theorem below_next (hpoint : next ≤ point) (hhead : ∀ other ∈ points, point < other)
    (hall : ∀ c ∈ label, c.toNat < next ∨ c.toNat ∈ point :: points) : below next label = below point label := by
  refine List.filter_congr fun c hc => ?_
  rw [decide_eq_decide]
  refine ⟨fun hlt => by omega, fun hlt => (hall c hc).resolve_right fun hmem => ?_⟩
  obtain heq | hmem := List.mem_cons.mp hmem
  · omega
  · have := hhead _ hmem
    omega

/-- The code points that are written are ascending and none of the label's is left out, so behind the last one the
label has been read. -/
theorem Midway.writePoints (h : Midway basic (below next label) next 0 w) (hsorted : points.Pairwise (· < ·))
    (hnext : ∀ point ∈ points, next ≤ point) (hall : ∀ c ∈ label, c.toNat < next ∨ c.toNat ∈ points) :
    insertAll? 72 0x80 0 basic (writePoints label points next w).written.reverse = some label := by
  induction points generalizing next w with
  | nil =>
    obtain ⟨last, index, -, -, -, -, hreads⟩ := h
    have hlabel : below next label = label :=
      List.filter_eq_self.mpr fun c hc => by simpa using hall c hc
    rw [hlabel] at hreads
    simpa only [Punycode.writePoints, List.append_nil, insertAll?] using hreads []
  | cons point points ih =>
    obtain ⟨hhead, hsorted⟩ := List.pairwise_cons.mp hsorted
    have hpoint : next ≤ point := hnext point List.mem_cons_self
    have hkept : upTo point label = below (point + 1) label :=
      List.filter_congr fun c _ => by rw [decide_eq_decide, Nat.lt_succ_iff]
    rw [below_next hpoint hhead hall] at h
    have hpassed : Midway basic (upTo point ([] ++ label)) point (upTo point ([] ++ label)).length _ :=
      Midway.passAll (h.skip hpoint)
    rw [List.nil_append, hkept] at hpassed
    refine ih hpassed.turn hsorted hhead fun c hc => ?_
    obtain hlt | hmem := hall c hc
    · exact .inl (by omega)
    · obtain heq | hmem := List.mem_cons.mp hmem
      · exact .inl (by omega)
      · exact .inr hmem

end Points

theorem mem_writePoints {label : List Char} {points : List Nat} {next : Nat} {w : Writing} {c : Char}
    (h : c ∈ (writePoints label points next w).written) : c ∈ w.written ∨ ∃ d < 36, c = digitChar d := by
  have hpass (point : Nat) (d : Char) (w : Writing) (h : c ∈ (w.pass point d).written) :
      c ∈ w.written ∨ ∃ d < 36, c = digitChar d := by
    rw [Writing.pass] at h
    split at h
    · exact .inl h
    · split at h
      · exact (List.mem_append.mp h).elim (fun h => .inr (mem_digitsOf (List.mem_reverse.mp h))) .inl
      · exact .inl h
  have hfold (point : Nat) (back : List Char) (w : Writing) (h : c ∈ (back.foldl (Writing.pass point) w).written) :
      c ∈ w.written ∨ ∃ d < 36, c = digitChar d := by
    induction back generalizing w with
    | nil => exact .inl h
    | cons d back ih => exact (ih _ h).elim (hpass point d w) .inr
  induction points generalizing next w with
  | nil => exact .inl h
  | cons point points ih => exact (ih h).elim (hfold point label _) .inr

theorem pairwise_lt_eraseDups {points : List Nat} (h : points.Pairwise (· ≤ ·)) : points.eraseDups.Pairwise (· < ·) := by
  induction hn : points.length using Nat.strongRecOn generalizing points with
  | ind n ih =>
    cases points with
    | nil => exact List.Pairwise.nil
    | cons point points =>
      obtain ⟨hhead, htail⟩ := List.pairwise_cons.mp h
      rw [List.eraseDups_cons, List.pairwise_cons]
      have hlength : (points.filter fun b => !b == point).length ≤ points.length := List.length_filter_le _ _
      rw [List.length_cons] at hn
      refine ⟨fun other hother => ?_, ih _ (by omega) (htail.filter _) rfl⟩
      rw [List.mem_eraseDups, List.mem_filter, Bool.not_eq_true', beq_eq_false_iff_ne] at hother
      have := hhead other hother.1
      omega

theorem pairwise_distinctPoints (points : List Nat) : (distinctPoints points).Pairwise (· < ·) := by
  have htrans (a b c : Nat) (hab : decide (a ≤ b) = true) (hbc : decide (b ≤ c) = true) : decide (a ≤ c) = true := by
    rw [decide_eq_true_iff] at *
    omega
  have htotal (a b : Nat) : (decide (a ≤ b) || decide (b ≤ a)) = true := by
    rw [Bool.or_eq_true, decide_eq_true_iff, decide_eq_true_iff]
    omega
  exact pairwise_lt_eraseDups ((List.pairwise_mergeSort htrans htotal points).imp of_decide_eq_true)

theorem mem_distinctPoints {points : List Nat} {point : Nat} : point ∈ distinctPoints points ↔ point ∈ points := by
  rw [distinctPoints, List.mem_eraseDups, List.mem_mergeSort]

theorem digitChar_ne_hyphen {d : Nat} (h : d < 36) : digitChar d ≠ '-' := by
  have hall : ∀ e < 36, digitChar e ≠ '-' := by decide
  exact hall d h

/-- What is read of a written label is the label. -/
theorem decode?_encode (label : List Char) : decode? (encode label) = some label := by
  have hread : insertAll? 72 0x80 0 (label.filter isAscii)
      (writePoints label (distinctPoints ((label.filter fun c => !isAscii c).map Char.toNat)) 0x80
        ⟨[], 0, 72, (label.filter isAscii).length, true⟩).written.reverse = some label := by
    refine Midway.writePoints ⟨0x80, 0, Nat.le_refl _, by dsimp only [below]; omega, rfl, rfl, fun rest => rfl⟩
      (pairwise_distinctPoints _) (fun point hpoint => ?_) fun c hc => ?_
    · rw [mem_distinctPoints, List.mem_map] at hpoint
      obtain ⟨c, hc, rfl⟩ := hpoint
      simpa [isAscii] using (List.mem_filter.mp hc).2
    · rw [mem_distinctPoints, List.mem_map]
      by_cases hascii : c.toNat < 0x80
      · exact .inl hascii
      · exact .inr ⟨c, List.mem_filter.mpr ⟨hc, by simpa [isAscii] using hascii⟩, rfl⟩
  have hhyphen : '-' ∉ (writePoints label (distinctPoints ((label.filter fun c => !isAscii c).map Char.toNat)) 0x80
        ⟨[], 0, 72, (label.filter isAscii).length, true⟩).written.reverse := by
    intro h
    obtain h | ⟨d, hd, h⟩ := mem_writePoints (List.mem_reverse.mp h)
    · exact List.not_mem_nil h
    · exact digitChar_ne_hyphen hd h.symm
  have hascii : (label.filter isAscii).all isAscii = true := List.all_eq_true.mpr fun c hc => (List.mem_filter.mp hc).2
  rw [encode]
  generalize (writePoints _ _ _ _).written.reverse = numbers at *
  generalize label.filter isAscii = basic at *
  rw [decode?]
  cases basic with
  | nil =>
    simp only [List.isEmpty_nil, if_pos, List.nil_append, cutAtLast?_of_not_mem hhyphen]
    exact hread
  | cons b basic =>
    simp only [List.isEmpty_cons, Bool.false_eq_true, if_false, List.append_assoc, List.singleton_append,
      cutAtLast?_append hhyphen]
    rw [if_pos hascii]
    exact hread

theorem mem_encode {label : List Char} {c : Char} (h : c ∈ encode label) :
    c ∈ label ∧ isAscii c = true ∨ c = '-' ∨ ∃ d < 36, c = digitChar d := by
  rw [encode, List.mem_append, List.mem_append, List.mem_reverse] at h
  obtain (h | h) | h := h
  · exact .inl (List.mem_filter.mp h)
  · split at h
    · exact absurd h List.not_mem_nil
    · exact .inr (.inl (List.mem_singleton.mp h))
  · exact .inr (.inr ((mem_writePoints h).resolve_left List.not_mem_nil))

/-! ## Reading -/

/-- Nothing ASCII is put in by a number. -/
theorem ascii_of_mem_insertAll? {bias point index : Nat} {label cs read : List Char} {c : Char}
    (h : insertAll? bias point index label cs = some read) (hpoint : 0x80 ≤ point) (hc : c ∈ read)
    (hascii : isAscii c = true) : c ∈ label := by
  fun_induction insertAll? bias point index label cs with
  | case1 => cases h; exact hc
  | case2 => cases h
  | case3 bias point index label d cs n rest hnumber count next place hvalid ih =>
    have hinserted := ih h (Nat.le_add_right_of_le hpoint)
    have hplace : place ≤ label.length := Nat.le_of_lt_succ (Nat.mod_lt _ (Nat.succ_pos _))
    obtain heq | hmem := (List.mem_insertIdx hplace).mp hinserted
    · rw [heq, isAscii, decide_eq_true_iff, toNat_ofNat hvalid] at hascii
      exact absurd (Nat.le_add_right_of_le hpoint) (Nat.not_le_of_lt hascii)
    · exact hmem
  | case4 => cases h

/-- The ASCII characters of a label that is read stood in its text. -/
theorem ascii_of_mem_decode? {cs read : List Char} {c : Char} (h : decode? cs = some read) (hc : c ∈ read)
    (hascii : isAscii c = true) : c ∈ cs := by
  rw [decode?] at h
  split at h
  split at h
  next basic numbers hcut _ =>
    have hmem := ascii_of_mem_insertAll? h (Nat.le_refl _) hc hascii
    split at hcut
    next b rest behind hlast =>
      obtain ⟨rfl, rfl⟩ := Prod.mk.inj hcut
      exact mem_of_mem_cutAtLast? hlast hmem
    next =>
      obtain ⟨rfl, rfl⟩ := Prod.mk.inj hcut
      exact absurd hmem List.not_mem_nil
  next => cases h

end DurableJobs.Idna.Punycode
