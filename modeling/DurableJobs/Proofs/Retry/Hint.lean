import DurableJobs.Proofs.Numeric.WholeNumbers
import DurableJobs.Proofs.Text.Reading
import DurableJobs.Retry.Hint

/-!
# Reading a hint back

A hint on when to come back is written into a message by one part of the program and found there by
another, next to text that somebody else wrote. What is found is decided by the first place at which a hint
stands. So a message is cut in three: what stands in front of the hint, where no hint can begin whatever
follows (`silent`), the hint itself, which ends at a bracket, and the rest, which is never looked at.

That no hint begins in a text is a matter of its letters alone: at every place the word that a hint begins
with clashes with them before the text is over.
-/

set_option autoImplicit false

namespace DurableJobs.Retry

open DurableJobs.Text

/-! ## Text without a hint -/

/-- A word and a text differ, without regard to case, at a place that both have. -/
def clashes : List Char → List Char → Bool
  | letter :: letters, c :: cs => !sameLetter letter c || clashes letters cs
  | _, _ => false

/-- No hint begins in a text, whatever stands behind it. -/
def silent : List Char → Bool
  | [] => true
  | c :: cs => clashes "retry".toList (c :: cs) && silent cs

theorem stripWord_of_clashes {word front : List Char} (h : clashes word front = true)
    (rest : List Char) : stripWord word (front ++ rest) = none := by
  induction word generalizing front with
  | nil => exact nomatch h
  | cons letter letters ih =>
    cases front with
    | nil => exact nomatch h
    | cons c cs =>
      rw [clashes, Bool.or_eq_true, Bool.not_eq_true'] at h
      rw [List.cons_append, stripWord]
      split
      · next hsame => exact ih (h.resolve_left (by simp [hsame]))
      · rfl

theorem stripWord_append {word front rest : List Char} (h : stripWord word front = some rest)
    (tail : List Char) : stripWord word (front ++ tail) = some (rest ++ tail) := by
  induction word generalizing front with
  | nil =>
    cases h
    rfl
  | cons letter letters ih =>
    cases front with
    | nil => exact nomatch h
    | cons c cs =>
      rw [stripWord] at h
      rw [List.cons_append, stripWord]
      split at h
      · next hsame => rw [if_pos hsame, ih h]
      · cases h

/-- A text in which no hint begins can be left out. -/
theorem firstHint_of_silent {front : List Char} (h : silent front = true) (rest : List Char) :
    firstHint (front ++ rest) = firstHint rest := by
  induction front with
  | nil => rfl
  | cons c cs ih =>
    obtain ⟨hclash, hsilent⟩ := Bool.and_eq_true_iff.mp h
    have hnone : hintAt (c :: cs ++ rest) = none := by
      rw [hintAt, stripWord_of_clashes hclash]
      rfl
    rw [List.cons_append] at hnone ⊢
    rw [firstHint, hnone]
    exact ih hsilent

/-! ## A hint of whole seconds -/

/-- The digits of a decimal number. -/
def AllDigits (cs : List Char) : Prop := cs ≠ [] ∧ ∀ c ∈ cs, c.isDigit = true

-- run on the list, since there is also a search through every character
instance (cs : List Char) : Decidable (AllDigits cs) :=
  decidable_of_iff (cs.isEmpty = false ∧ cs.all Char.isDigit = true) (by simp [AllDigits])

theorem isWordChar_of_isDigit {c : Char} (h : c.isDigit = true) : isWordChar c = true :=
  (inRanges_iff wordRanges c.toNat).mpr ⟨(48, 57), by decide, Char.isDigit_iff_toNat.mp h⟩

theorem isAnyDigit_of_isDigit {c : Char} (h : c.isDigit = true) : isAnyDigit c = true :=
  (inRanges_iff digitRanges c.toNat).mpr ⟨(48, 57), by decide, Char.isDigit_iff_toNat.mp h⟩

/-- Digits write a number. -/
theorem AllDigits.number {cs : List Char} (h : AllDigits cs) : ∃ n, numberIn? 10 cs = some n := by
  obtain ⟨hne, hall⟩ := h
  rw [numberIn?, if_neg (by simp [hne]), IsDigits.mapM_digitIn? hall]
  exact ⟨_, rfl⟩

/-- What a hint ends with: the end of the message, or a bracket. -/
def Closed (rest : List Char) : Prop := rest = [] ∨ ∃ after, rest = ')' :: after

theorem Closed.takeNumber {digits rest : List Char} (h : Closed rest) (hdigits : AllDigits digits) :
    takeNumber (digits ++ rest) = some (digits, [], rest) := by
  obtain ⟨hne, hall⟩ := hdigits
  have hclass : ∀ c ∈ digits, isAnyDigit c = true := fun c hc => isAnyDigit_of_isDigit (hall c hc)
  have hstops : rest.takeWhile isAnyDigit = [] ∧ rest.dropWhile isAnyDigit = rest := by
    rcases h with rfl | ⟨after, rfl⟩
    · exact ⟨rfl, rfl⟩
    · have hbracket : isAnyDigit ')' = false := by decide
      exact ⟨List.takeWhile_cons_of_neg (by simp [hbracket]),
        List.dropWhile_cons_of_neg (by simp [hbracket])⟩
  unfold Retry.takeNumber
  rw [List.takeWhile_append_of_pos hclass, List.dropWhile_append_of_pos hclass, hstops.1, hstops.2,
    List.append_nil]
  dsimp only
  rw [if_neg (by simp [hne])]
  rcases h with rfl | ⟨after, rfl⟩ <;> rfl

/-- A hint without a unit counts in seconds. -/
theorem Closed.seconds {rest : List Char} (h : Closed rest) :
    HintUnit.ofText (trimStart rest) = .seconds := by
  rcases h with rfl | ⟨after, rfl⟩
  · rfl
  · have hbracket : isBlank ')' = false := by decide
    rw [trimStart, List.dropWhile_cons_of_neg (by simp [hbracket])]
    cases after <;> rfl

theorem ofDecimal_whole (n : Nat) : Binary64.ofDecimal false n 0 = Binary64.ofNat n := by
  rcases Nat.eq_zero_or_pos n with rfl | hpos
  · rfl
  · have hwidth : ¬ (0 : Int) + (((Nat.log2 n / 3 : Nat) : Int) + 2) < -340 := by omega
    rw [Binary64.ofDecimal, if_neg (by omega), if_neg (by decide), if_neg hwidth,
      if_pos (Int.le_refl 0)]
    simp [Binary64.ofNat]

/-- What stands behind the two words of a hint. -/
def hintBehind (cs : List Char) : Option (Option Span) :=
  (takeNumber (skipNonWord 3 cs)).map fun (whole, fraction, rest) =>
    (numberIn? 10 (whole ++ fraction)).bind fun digits =>
      Span.ofFloatSeconds? ((HintUnit.ofText (trimStart rest)).toSeconds
        (Binary64.ofDecimal false digits (-(fraction.length : Int))))

/-- A hint is two words with a mark between them, and what stands behind. -/
theorem hintAt_eq (cs : List Char) : hintAt cs =
    (stripWord "retry".toList cs).bind fun
      | [] => none
      | c :: middle =>
          if c = '-' ∨ c = '_' ∨ c = ' ' then (stripWord "after".toList middle).bind hintBehind
          else none := by
  unfold hintAt hintBehind
  cases stripWord "retry".toList cs with
  | none => rfl
  | some behind =>
    cases behind with
    | nil => rfl
    | cons c middle =>
      simp only [Option.bind_eq_bind, Option.bind_some]
      split
      · cases stripWord "after".toList middle with
        | none => rfl
        | some tail => rw [Option.bind_some, Option.bind_some]; cases takeNumber (skipNonWord 3 tail) <;> rfl
      · rfl

theorem hintAt_of_words {cs middle tail : List Char}
    (hretry : stripWord "retry".toList cs = some ('-' :: middle))
    (hafter : stripWord "after".toList middle = some tail) : hintAt cs = hintBehind tail := by
  rw [hintAt_eq, hretry, Option.bind_some]
  dsimp only
  rw [if_pos (Or.inl rfl), hafter, Option.bind_some]

/-- **A hint is read back**: where one stands, its digits decide, and nothing behind its end. -/
theorem hintAt_header {digits rest : List Char} (hdigits : AllDigits digits) (hrest : Closed rest)
    {n : Nat} (hn : numberIn? 10 digits = some n) :
    hintAt ("retry-after: ".toList ++ (digits ++ rest)) =
      some (Span.ofNanos? (Binary64.nearest n * 1000000000)) := by
  have hretry : stripWord "retry".toList "retry-after: ".toList = some "-after: ".toList := by decide
  have hafter : stripWord "after".toList "after: ".toList = some ": ".toList := by decide
  have hskip : skipNonWord 3 (": ".toList ++ (digits ++ rest)) = digits ++ rest := by
    obtain ⟨hne, hall⟩ := hdigits
    obtain ⟨d, ds, rfl⟩ := List.exists_cons_of_ne_nil hne
    have hcolon : isWordChar ':' = false := by decide +kernel
    have hblank : isWordChar ' ' = false := by decide +kernel
    have hdigit : isWordChar d = true := isWordChar_of_isDigit (hall d List.mem_cons_self)
    simp [skipNonWord, hcolon, hblank, hdigit]
  rw [hintAt_of_words (stripWord_append hretry _) (stripWord_append hafter _), hintBehind, hskip,
    hrest.takeNumber hdigits, Option.map_some]
  dsimp only
  rw [List.append_nil, hn, Option.bind_some, hrest.seconds, HintUnit.toSeconds, List.length_nil]
  exact congrArg some ((congrArg Span.ofFloatSeconds? (ofDecimal_whole n)).trans
    (Span.ofFloatSeconds?_ofNat n))

theorem firstHint_of_hintAt {cs : List Char} {hint : Option Span} (h : hintAt cs = some hint) :
    firstHint cs = some hint := by
  cases cs with
  | nil => exact nomatch h
  | cons c cs => rw [firstHint, h]

/-- A hint in a message is the one that is found if none begins in front of it. -/
theorem hint?_of_header {message : String} {front digits rest : List Char}
    (hmessage : message.toList = front ++ ("retry-after: ".toList ++ (digits ++ rest)))
    (hfront : silent front = true)
    (hdigits : AllDigits digits) (hrest : Closed rest) {n : Nat} (hn : numberIn? 10 digits = some n) :
    hint? message = Span.ofNanos? (Binary64.nearest n * 1000000000) := by
  rw [hint?, hmessage, firstHint_of_silent hfront, firstHint_of_hintAt (hintAt_header hdigits hrest hn),
    Option.join_some]

/-- A hint that stands alone. -/
theorem hint?_bare {v : String} (hdigits : AllDigits v.toList) {n : Nat}
    (hn : numberIn? 10 v.toList = some n) :
    hint? ("retry-after: " ++ v) = Span.ofNanos? (Binary64.nearest n * 1000000000) := by
  have hmessage : ("retry-after: " ++ v).toList =
      [] ++ ("retry-after: ".toList ++ (v.toList ++ [])) := by
    rw [String.toList_append, List.append_nil, List.nil_append]
  exact hint?_of_header hmessage rfl hdigits (Or.inl rfl) hn

/-! ## Marks -/

/-- A message with a mark in it has the mark, whatever stands around it. -/
theorem hasMark_of_occurs {marks : List String} {message : String} {before after : List Char}
    (mark : String) (hmark : mark ∈ marks) (hlower : mark.toList.flatMap lower = mark.toList)
    (hmessage : message.toList = before ++ (mark.toList ++ after)) : hasMark marks message = true := by
  refine (List.any_eq_true).mpr ⟨mark, hmark, ?_⟩
  rw [hmessage, List.flatMap_append, List.flatMap_append, hlower, occursIn_iff]
  exact List.infix_append' _ _ _

/-- The code of too many requests marks a rate limit, and a failure that will pass. -/
theorem marks_of_code {message : String} {before after : List Char}
    (hmessage : message.toList = before ++ ("429".toList ++ after)) :
    isRetryable message = true ∧ isRateLimit message = true :=
  ⟨hasMark_of_occurs "429" (by decide) (by decide) hmessage,
    hasMark_of_occurs "429" (by decide) (by decide) hmessage⟩

end DurableJobs.Retry
