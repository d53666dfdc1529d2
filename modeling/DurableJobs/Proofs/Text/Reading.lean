import DurableJobs.Text.Blank
import DurableJobs.Text.Digits

/-!
# What readers have in common

A reader goes on step by step until one fails, so a reader that answers has had an answer at every step.

A number is written in base ten with digits, and its digits are read as the number. What reads a number
cuts the digits off first, so both halves are stated about the list of characters.
-/

set_option autoImplicit false

namespace DurableJobs.Text

/-! ## Steps -/

section Steps

variable {ε α β : Type}

@[simp]
theorem ok_bind (a : α) (f : α → Except ε β) : (Except.ok a >>= f) = f a := rfl

theorem bind_eq_ok {x : Except ε α} {f : α → Except ε β} {b : β} :
    x >>= f = .ok b ↔ ∃ a, x = .ok a ∧ f a = .ok b := by
  cases x with
  | error e => exact iff_of_false (fun h => by cases h) (fun ⟨_, h, _⟩ => by cases h)
  | ok a => exact ⟨fun h => ⟨a, rfl, h⟩, fun ⟨_, h, hf⟩ => by cases h; exact hf⟩

theorem map_eq_ok {x : Except ε α} {f : α → β} {b : β} :
    x.map f = .ok b ↔ ∃ a, x = .ok a ∧ f a = b := by
  cases x with
  | error e => exact iff_of_false (fun h => by cases h) (fun ⟨_, h, _⟩ => by cases h)
  | ok a =>
    constructor
    · intro h
      cases h
      exact ⟨a, rfl, rfl⟩
    · rintro ⟨_, h, rfl⟩
      cases h
      rfl

theorem map_eq_error {x : Except ε α} {f : α → β} {e : ε} : x.map f = .error e ↔ x = .error e := by
  cases x with
  | error e' => exact ⟨fun h => by cases h; rfl, fun h => by cases h; rfl⟩
  | ok a => exact iff_of_false (fun h => by cases h) (fun h => by cases h)

theorem toOption_eq_some {x : Except ε α} {a : α} : x.toOption = some a ↔ x = .ok a := by
  cases x with
  | error e => exact iff_of_false (fun h => by cases h) (fun h => by cases h)
  | ok b =>
    constructor
    all_goals
      intro h
      cases h
      rfl

end Steps

/-! ## Digits -/

/-- A text of decimal digits. -/
def IsDigits (cs : List Char) : Prop := ∀ c ∈ cs, c.isDigit = true

/-- What the digits of such a text stand for. -/
def digitValues (cs : List Char) : List Nat := cs.map fun c => c.toNat - '0'.toNat

/-- No digit stands in front. -/
def NoDigit (rest : List Char) : Prop := ∀ c ∈ rest.head?, c.isDigit = false

instance (cs : List Char) : Decidable (IsDigits cs) :=
  decidable_of_iff (cs.all Char.isDigit = true) List.all_eq_true

instance (rest : List Char) : Decidable (NoDigit rest) :=
  decidable_of_iff ((rest.head?.all fun c => !c.isDigit) = true) <| by
    simp [NoDigit, Option.all_eq_true]

variable {c : Char} {cs ds rest : List Char}

@[simp]
theorem IsDigits.nil : IsDigits [] := by
  simp [IsDigits]

@[simp]
theorem isDigits_cons : IsDigits (c :: cs) ↔ c.isDigit = true ∧ IsDigits cs := by
  simp [IsDigits]

@[simp]
theorem isDigits_append : IsDigits (cs ++ ds) ↔ IsDigits cs ∧ IsDigits ds := by
  simp [IsDigits, or_imp, forall_and]

theorem isDigits_toDigits (n : Nat) : IsDigits (Nat.toDigits 10 n) :=
  fun _ hc => Nat.isDigit_of_mem_toDigits (by decide) (by decide) hc

theorem digitIn?_ten (c : Char) :
    digitIn? 10 c = if c.isDigit then some (c.toNat - '0'.toNat) else none := by
  have hrange : c.isDigit = true ↔ '0' ≤ c ∧ c ≤ '9' := by
    simp only [Char.isDigit_iff_toNat, Char.le_def, UInt32.le_iff_toNat_le]
    rfl
  by_cases h : c.isDigit = true
  · have hsmall : c.toNat - '0'.toNat < 10 := by
      have := (Char.isDigit_iff_toNat.mp h).2
      simp only [Char.reduceToNat] at this ⊢
      omega
    rw [digitIn?, hexValue?, if_pos (hrange.mp h), if_pos h, Option.filter_some, if_pos]
    exact decide_eq_true hsmall
  · rw [digitIn?, hexValue?, if_neg (fun hc => h (hrange.mpr hc)), if_neg h]
    -- a letter stands for ten at least
    split
    · simp
    · split <;> simp

theorem IsDigits.mapM_digitIn? (h : IsDigits cs) : cs.mapM (digitIn? 10) = some (digitValues cs) := by
  induction cs with
  | nil => rfl
  | cons c cs ih =>
    obtain ⟨hc, hcs⟩ := isDigits_cons.mp h
    rw [List.mapM_cons, digitIn?_ten, if_pos hc, ih hcs]
    rfl

/-- So many digits write a number below that power of their base. -/
theorem ofDigits_lt {base : Nat} {ds : List Nat} (h : ∀ d ∈ ds, d < base) :
    ofDigits base ds < Nat.pow base ds.length := by
  have hfrom : ∀ n, ds.foldl (fun n d => n * base + d) n < (n + 1) * Nat.pow base ds.length := by
    induction ds with
    | nil => exact fun n => Nat.lt_of_lt_of_eq n.lt_succ_self (Nat.mul_one _).symm
    | cons d ds ih =>
      intro n
      have hd := h d List.mem_cons_self
      calc ds.foldl (fun n d => n * base + d) (n * base + d)
          < (n * base + d + 1) * Nat.pow base ds.length := ih (fun d hd => h d (List.mem_cons_of_mem _ hd)) _
        _ ≤ (n + 1) * base * Nat.pow base ds.length :=
            Nat.mul_le_mul_right _ (by rw [Nat.succ_mul]; omega)
        _ = (n + 1) * Nat.pow base (d :: ds).length := by
            rw [List.length_cons, Nat.mul_assoc, Nat.mul_comm base]
            rfl
  have hzero := hfrom 0
  rwa [Nat.zero_add, Nat.one_mul] at hzero

theorem ofDigits_digitValues (cs : List Char) :
    ofDigits 10 (digitValues cs) = Nat.ofDigitChars 10 cs 0 := by
  rw [ofDigits, digitValues, List.foldl_map, Nat.ofDigitChars_eq_foldl]
  simp only [Nat.mul_comm]

/-- Digits are read as the number that they write, if there are any. -/
theorem IsDigits.numberIn? (h : IsDigits cs) :
    numberIn? 10 cs = if cs.isEmpty then none else some (Nat.ofDigitChars 10 cs 0) := by
  rw [Text.numberIn?, h.mapM_digitIn?, Option.map_some, ofDigits_digitValues]

/-- Digits begin with a digit. -/
theorem IsDigits.begins (h : IsDigits cs) (hne : cs ≠ []) :
    ∃ d ds, cs = d :: ds ∧ d.isDigit = true := by
  cases cs with
  | nil => exact absurd rfl hne
  | cons d ds => exact ⟨d, ds, rfl, (isDigits_cons.mp h).1⟩

/-- The digits in front of a text, and what follows them. -/
theorem isDigits_takeWhile (cs : List Char) : IsDigits (cs.takeWhile Char.isDigit) := by
  intro c hc
  exact List.all_eq_true.mp (List.all_takeWhile (p := Char.isDigit)) c hc

theorem noDigit_dropWhile (cs : List Char) : NoDigit (cs.dropWhile Char.isDigit) := by
  intro c hc
  have hfirst := List.head?_dropWhile_not Char.isDigit cs
  rw [Option.mem_def.mp hc] at hfirst
  simpa using hfirst

theorem IsDigits.takeWhile_append (h : IsDigits ds) (hrest : NoDigit rest) :
    (ds ++ rest).takeWhile Char.isDigit = ds := by
  have hnone : rest.takeWhile Char.isDigit = [] := by
    cases rest with
    | nil => rfl
    | cons c rest =>
      rw [List.takeWhile_cons, hrest c rfl]
      rfl
  rw [List.takeWhile_append_of_pos h, hnone, List.append_nil]

/-- The digits of a number are read as the number. -/
theorem ofDigits_toDigits (n : Nat) : ofDigits 10 (digitValues (Nat.toDigits 10 n)) = n := by
  rw [ofDigits_digitValues, Nat.ofDigitChars_ten_toDigits]

theorem toDigits_eq_cons {n : Nat} (hn : n ≠ 0) :
    ∃ c cs, Nat.toDigits 10 n = c :: cs ∧ c ≠ '0' := by
  induction n using Nat.strongRecOn with
  | ind n ih =>
    rcases Nat.lt_or_ge n 10 with hsmall | hlarge
    · refine ⟨n.digitChar, [], Nat.toDigits_of_lt_base hsmall, ?_⟩
      rwa [Ne, Nat.digitChar_eq_zero]
    · obtain ⟨c, cs, heq, hc⟩ := ih (n / 10) (by omega) (by omega)
      refine ⟨c, cs ++ [(n % 10).digitChar], ?_, hc⟩
      rw [Nat.toDigits_of_base_le (by decide) hlarge, heq, List.cons_append]

/-- Only zero is written with a zero in front, and with nothing behind it. -/
theorem eq_nil_of_toDigits {n : Nat} (h : Nat.toDigits 10 n = '0' :: cs) : cs = [] := by
  by_cases hn : n = 0
  · rw [hn, Nat.toDigits_zero] at h
    exact (List.cons.inj h).2.symm
  · obtain ⟨c, ds, heq, hc⟩ := toDigits_eq_cons hn
    rw [h] at heq
    exact absurd (List.cons.inj heq).1.symm hc

/-! ## Blanks -/

theorem isBlank_of_isDigit (h : c.isDigit = true) : isBlank c = false := by
  obtain ⟨hlow, hhigh⟩ := Char.isDigit_iff_toNat.mp h
  simp only [Char.reduceToNat] at hlow hhigh
  simp [isBlank, inRanges, blankRanges]
  omega

theorem trimStart_cons (h : isBlank c = false) : trimStart (c :: cs) = c :: cs := by
  simp [trimStart, h]

end DurableJobs.Text
