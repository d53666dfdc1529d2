import Mathlib.Data.List.Infix
import DurableJobs.Failure
import DurableJobs.Proofs.Retry.Hint
import DurableJobs.Text.Lower

/-!
# What a message says, in any part and in any case

A message is read as one text: the links of a chain of errors, joined by text of their own, in lower case.
So three things might hide a mark that a part of it shows. The part may come to stand next to something, a
letter may be written large, and the small form of a letter may depend on the letters around it. None does.
A mark is a run of ASCII characters, which are lowered one by one, and what a letter outside ASCII becomes
is outside ASCII too, but for two that have one form everywhere (`lower_masked`).

Hints are looked for in the message as it stands, by patterns that do not tell cases apart. They are shown to
find in a message what they find in its lower-case form (`firstHint_toLower`).
-/

set_option autoImplicit false

namespace DurableJobs.Retry

open DurableJobs.Text

variable {marks : List String} {cs : List Char}

/-! ## Parts of a message -/

theorem hasMark_iff {message : String} : hasMark marks message = true ↔
    ∃ mark ∈ marks, mark.toList <:+: message.toList.flatMap lower := by
  simp only [hasMark, List.any_eq_true, occursIn_iff]

/-- A mark of a part is a mark of the whole. -/
theorem hasMark_mono {part whole : String} (h : part.toList <:+: whole.toList)
    (hmark : hasMark marks part = true) : hasMark marks whole = true := by
  obtain ⟨mark, hmem, hoccurs⟩ := hasMark_iff.mp hmark
  exact hasMark_iff.mpr ⟨mark, hmem, hoccurs.trans (h.flatMap lower)⟩

/-- Every link of a chain is a part of its text. -/
theorem infix_chainText {chain : List String} {link : String} (h : link ∈ chain) :
    link.toList <:+: (Failure.chainText chain).toList := by
  delta Failure.chainText
  induction chain with
  | nil => exact nomatch h
  | cons first rest ih =>
    cases rest with
    | nil =>
      rw [List.mem_singleton.mp h, String.intercalate_singleton]
    | cons second rest =>
      rw [String.intercalate_cons_cons, String.toList_append, String.toList_append]
      -- the first link stands in front of what joins it to the others
      rcases List.mem_cons.mp h with rfl | hrest
      · rw [List.append_assoc]
        exact (List.prefix_append _ _).isInfix
      · exact (ih hrest).trans (List.suffix_append _ _).isInfix

/-! ## Large and small letters -/

/-- Only the large letters of ASCII have another small form here. -/
theorem toLower_cases (c : Char) :
    c.toLower = c ∨ ∃ n < 26, c = Char.ofNat (n + 65) ∧ c.toLower = Char.ofNat (n + 97) := by
  by_cases hlarge : c.val ≥ 'A'.val ∧ c.val ≤ 'Z'.val
  · obtain ⟨hfirst, hlast⟩ := hlarge
    rw [ge_iff_le, UInt32.le_iff_toNat_le] at hfirst
    rw [UInt32.le_iff_toNat_le] at hlast
    have hleast : 65 ≤ c.toNat := hfirst
    have hmost : c.toNat ≤ 90 := hlast
    have hletter : c = Char.ofNat (c.toNat - 65 + 65) := by
      rw [Nat.sub_add_cancel hleast, Char.ofNat_toNat]
    have hsmall : ∀ n < 26, (Char.ofNat (n + 65)).toLower = Char.ofNat (n + 97) := by decide
    refine Or.inr ⟨c.toNat - 65, by omega, hletter, ?_⟩
    rw [← hsmall _ (by omega), ← hletter]
  · exact Or.inl (dif_neg hlarge)

/-- What is the same for each letter in both of its forms does not tell cases apart. -/
theorem caseless {α : Type} {f : Char → α}
    (h : ∀ n < 26, f (Char.ofNat (n + 97)) = f (Char.ofNat (n + 65))) (c : Char) :
    f c.toLower = f c := by
  rcases toLower_cases c with hsame | ⟨n, hn, hlarge, hsmall⟩
  · rw [hsame]
  · rw [hsmall, h n hn, ← hlarge]

theorem lower_toLower (c : Char) : lower c.toLower = lower c := caseless (by decide) c

theorem isWordChar_toLower (c : Char) : isWordChar c.toLower = isWordChar c :=
  caseless (by decide +kernel) c

theorem isAnyDigit_toLower (c : Char) : isAnyDigit c.toLower = isAnyDigit c :=
  caseless (by decide +kernel) c

theorem isBlank_toLower (c : Char) : isBlank c.toLower = isBlank c := caseless (by decide) c

theorem sameLetter_toLower (letter c : Char) : sameLetter letter c.toLower = sameLetter letter c := by
  have hlong : (c.toLower == '\u017f') = (c == '\u017f') := caseless (f := (· == '\u017f')) (by decide) c
  rw [sameLetter, sameLetter, caseless (f := Char.toLower) (by decide), hlong]

/-- A digit is no letter. -/
theorem toLower_of_isAnyDigit {c : Char} (h : isAnyDigit c = true) : c.toLower = c := by
  have hletters : ∀ n < 26, isAnyDigit (Char.ofNat (n + 65)) = false := by decide +kernel
  refine (toLower_cases c).resolve_right ?_
  rintro ⟨n, hn, rfl, -⟩
  rw [hletters n hn] at h
  cases h

/-- Two messages are the same but for the case of their ASCII letters. -/
def SameButCase (a b : String) : Prop := a.toList.map Char.toLower = b.toList.map Char.toLower

theorem lowered_toLower (cs : List Char) : (cs.map Char.toLower).flatMap lower = cs.flatMap lower := by
  rw [List.flatMap_map, show (fun c => lower c.toLower) = lower from funext lower_toLower]

theorem SameButCase.hasMark {a b : String} (h : SameButCase a b) :
    Retry.hasMark marks a = Retry.hasMark marks b := by
  have hlowered : a.toList.flatMap lower = b.toList.flatMap lower := by
    rw [← lowered_toLower, h, lowered_toLower]
  unfold Retry.hasMark
  rw [hlowered]

/-! ## Hints in lower case -/

theorem stripWord_toLower (word cs : List Char) :
    stripWord word (cs.map Char.toLower) = (stripWord word cs).map (List.map Char.toLower) := by
  induction word generalizing cs with
  | nil => rfl
  | cons letter letters ih =>
    cases cs with
    | nil => rfl
    | cons c cs =>
      rw [List.map_cons, stripWord, stripWord, sameLetter_toLower]
      split
      · exact ih cs
      · rfl

theorem skipNonWord_toLower (limit : Nat) (cs : List Char) :
    skipNonWord limit (cs.map Char.toLower) = (skipNonWord limit cs).map Char.toLower := by
  induction limit generalizing cs with
  | zero => rfl
  | succ limit ih =>
    cases cs with
    | nil => rfl
    | cons c cs =>
      rw [List.map_cons, skipNonWord, skipNonWord, isWordChar_toLower]
      split
      · rfl
      · exact ih cs

theorem dropWhile_toLower {p : Char → Bool} (hp : ∀ c, p c.toLower = p c) (cs : List Char) :
    (cs.map Char.toLower).dropWhile p = (cs.dropWhile p).map Char.toLower := by
  rw [List.dropWhile_map, show p ∘ Char.toLower = p from funext hp]

theorem takeDigits_toLower (cs : List Char) :
    (cs.map Char.toLower).takeWhile isAnyDigit = cs.takeWhile isAnyDigit := by
  induction cs with
  | nil => rfl
  | cons c cs ih =>
    rw [List.map_cons, List.takeWhile_cons, List.takeWhile_cons, isAnyDigit_toLower]
    split
    · next hdigit => rw [toLower_of_isAnyDigit hdigit, ih]
    · rfl

theorem takeNumber_toLower (cs : List Char) :
    takeNumber (cs.map Char.toLower) =
      (takeNumber cs).map fun (whole, fraction, rest) => (whole, fraction, rest.map Char.toLower) := by
  unfold takeNumber
  rw [takeDigits_toLower, dropWhile_toLower isAnyDigit_toLower]
  dsimp only
  split
  · rfl
  · cases cs.dropWhile isAnyDigit with
    | nil => rfl
    | cons c rest =>
      by_cases hpoint : c = '.'
      · subst hpoint
        show (if ((rest.map Char.toLower).takeWhile isAnyDigit).isEmpty = true then _ else _) =
          Option.map _ (if (rest.takeWhile isAnyDigit).isEmpty = true then _ else _)
        rw [takeDigits_toLower, dropWhile_toLower isAnyDigit_toLower]
        split <;> rfl
      · have hother : c.toLower ≠ '.' := by
          have hsame : (c.toLower == '.') = (c == '.') := caseless (f := (· == '.')) (by decide) c
          rwa [Ne, ← beq_iff_eq, hsame, beq_iff_eq]
        rw [List.map_cons]
        simp [hpoint, hother]

theorem unit_toLower (cs : List Char) : HintUnit.ofText (cs.map Char.toLower) = HintUnit.ofText cs := by
  match cs with
  | [] => rfl
  | [c] => exact caseless (f := HintUnit.ofText.single) (by decide) c
  | c :: d :: rest =>
    have hminute : (c.toLower == 'm' || c.toLower == 'M') = (c == 'm' || c == 'M') :=
      caseless (f := fun c => c == 'm' || c == 'M') (by decide) c
    have hsecond : (d.toLower == 's' || d.toLower == 'S') = (d == 's' || d == 'S') :=
      caseless (f := fun d => d == 's' || d == 'S') (by decide) d
    have hlong : (d.toLower == '\u017f') = (d == '\u017f') :=
      caseless (f := (· == '\u017f')) (by decide) d
    have hsingle : HintUnit.ofText.single c.toLower = HintUnit.ofText.single c :=
      caseless (by decide) c
    rw [List.map_cons, List.map_cons, HintUnit.ofText, HintUnit.ofText, hminute, hsecond, hlong, hsingle]

theorem hintBehind_toLower (cs : List Char) : hintBehind (cs.map Char.toLower) = hintBehind cs := by
  rw [hintBehind, hintBehind, skipNonWord_toLower, takeNumber_toLower, Option.map_map]
  congr 1
  funext read
  obtain ⟨whole, fraction, rest⟩ := read
  dsimp only [Function.comp_apply]
  rw [trimStart, dropWhile_toLower isBlank_toLower, unit_toLower, ← trimStart]

theorem hintAt_toLower (cs : List Char) : hintAt (cs.map Char.toLower) = hintAt cs := by
  rw [hintAt_eq, hintAt_eq, stripWord_toLower]
  cases stripWord "retry".toList cs with
  | none => rfl
  | some behind =>
    cases behind with
    | nil => rfl
    | cons c middle =>
      have hbetween : (c.toLower = '-' ∨ c.toLower = '_' ∨ c.toLower = ' ') =
          (c = '-' ∨ c = '_' ∨ c = ' ') :=
        propext (decide_eq_decide.mp (caseless (f := fun c => decide (c = '-' ∨ c = '_' ∨ c = ' '))
          (by decide) c))
      simp only [Option.map_some, Option.bind_some, List.map_cons, hbetween, stripWord_toLower]
      cases stripWord "after".toList middle with
      | none => rfl
      | some tail => simp only [Option.map_some, Option.bind_some, hintBehind_toLower]

/-- A message holds the hint that its lower-case form holds. -/
theorem firstHint_toLower (cs : List Char) : firstHint (cs.map Char.toLower) = firstHint cs := by
  induction cs with
  | nil => rfl
  | cons c cs ih =>
    have hhere := hintAt_toLower (c :: cs)
    rw [List.map_cons] at hhere ⊢
    rw [firstHint, firstHint, hhere, ih]

theorem SameButCase.hint? {a b : String} (h : SameButCase a b) : Retry.hint? a = Retry.hint? b := by
  have hfirst : firstHint a.toList = firstHint b.toList := by
    rw [← firstHint_toLower, h, firstHint_toLower]
  rw [Retry.hint?, Retry.hint?, hfirst]

/-! ## Lower case over all of Unicode -/

/-- A text in lower case: of every character its small form. A capital sigma has another one at the end
of a word, and either may stand for it here, wherever a word is said to end. -/
inductive Lowered : List Char → List Char → Prop where
  | nil : Lowered [] []
  | cons (c : Char) {cs lowered : List Char} (rest : Lowered cs lowered) :
      Lowered (c :: cs) (lowerOf c ++ lowered)
  | finalSigma {cs lowered : List Char} (rest : Lowered cs lowered) :
      Lowered ('\u03a3' :: cs) ('\u03c2' :: lowered)

/-- A character of ASCII, and one mask for all others. -/
def masked (c : Char) : Char := if c.toNat < 128 then c else '\u0080'

theorem masked_of_lt {c : Char} (h : c.toNat < 128) : masked c = c := if_pos h

theorem masked_of_le {c : Char} (h : 128 ≤ c.toNat) : masked c = '\u0080' := if_neg (Nat.not_lt.mpr h)

theorem lt_of_masked {c : Char} (h : (masked c).toNat < 128) : c.toNat < 128 := by
  by_contra hbeyond
  rw [masked_of_le (Nat.not_lt.mp hbeyond)] at h
  exact absurd h (by decide)

/-- A text of ASCII characters occurs where it occurs among those of the other text. -/
theorem infix_masked {mark : List Char} (hmark : ∀ c ∈ mark, c.toNat < 128) (cs : List Char) :
    mark <:+: cs.map masked ↔ mark <:+: cs := by
  constructor
  · intro h
    obtain ⟨part, hpart, hmap⟩ := List.infix_map_iff.mp h
    have hsame : part.map masked = part := by
      refine (List.map_congr_left fun c hc => ?_).trans (List.map_id part)
      refine masked_of_lt (lt_of_masked (hmark _ ?_))
      rw [hmap]
      exact List.mem_map_of_mem hc
    rwa [hmap, hsame]
  · intro h
    have hsame : mark.map masked = mark :=
      (List.map_congr_left fun c hc => masked_of_lt (hmark c hc)).trans (List.map_id mark)
    rw [← hsame]
    exact h.map masked

/-- A run of capital letters, the Kelvin sign apart, has its small letters within ASCII if it is there
itself, and outside of it otherwise. -/
theorem capitalRuns_apart : ∀ run ∈ capitalRuns,
    run.2.1 < 128 ∨ (run.1 = 8490 ∧ run.2.1 = 8490) ∨
      (128 ≤ (run.1 : Int) + run.2.2.2 ∧ (run.2.1 : Int) + run.2.2.2 < 55296) ∨
      (57344 ≤ (run.1 : Int) + run.2.2.2 ∧ (run.2.1 : Int) + run.2.2.2 < 1114112) := by
  decide +kernel

/-- Outside ASCII, two characters alone have a small form with an ASCII letter in it. -/
theorem lowerOf_outside {c : Char} (h : 128 ≤ c.toNat) (hdotted : c ≠ '\u0130')
    (hkelvin : c ≠ '\u212a') : ∃ small, lowerOf c = [small] ∧ 128 ≤ small.toNat := by
  rw [lowerOf, if_neg (Nat.not_lt.mpr h), if_neg hdotted]
  dsimp only
  split
  · next first last step distance hfound =>
    have hwithin := List.find?_some hfound
    simp only [Bool.and_eq_true, decide_eq_true_eq] at hwithin
    -- the run that holds the Kelvin sign holds nothing else
    have hkelvinPoint : c.toNat ≠ 8490 := by
      intro hpoint
      exact hkelvin ((Char.ofNat_toNat c).symm.trans (congrArg Char.ofNat hpoint))
    have hapart := capitalRuns_apart _ (List.mem_of_find?_eq_some hfound)
    dsimp only at hapart
    have hvalid : ((c.toNat : Int) + distance).toNat.isValidChar := by
      rw [Nat.isValidChar]
      omega
    have hpoint : (Char.ofNat ((c.toNat : Int) + distance).toNat).toNat =
        ((c.toNat : Int) + distance).toNat := by
      rw [Char.ofNat, dif_pos hvalid]
      rfl
    refine ⟨_, rfl, ?_⟩
    rw [hpoint]
    omega
  · exact ⟨c, rfl, h⟩

/-- The small forms that marks are looked for in are those of Unicode, as far as they are ASCII. -/
theorem lower_masked (c : Char) : (lower c).map masked = (lowerOf c).map masked := by
  rcases Nat.lt_or_ge c.toNat 128 with hwithin | houtside
  · have hkelvin : c ≠ '\u212a' := by
      rintro rfl
      exact absurd hwithin (by decide)
    have hdotted : c ≠ '\u0130' := by
      rintro rfl
      exact absurd hwithin (by decide)
    rw [lower, if_neg hkelvin, if_neg hdotted, lowerOf, if_pos hwithin]
  · by_cases hkelvin : c = '\u212a'
    · subst hkelvin
      decide +kernel
    · by_cases hdotted : c = '\u0130'
      · subst hdotted
        decide
      · obtain ⟨small, hsmall, hbeyond⟩ := lowerOf_outside houtside hdotted hkelvin
        have hsame : c.toLower = c := by
          refine (toLower_cases c).resolve_right ?_
          rintro ⟨n, hn, rfl, -⟩
          have hletters : ∀ n < 26, (Char.ofNat (n + 65)).toNat < 128 := by decide
          exact absurd (hletters n hn) (Nat.not_lt.mpr houtside)
        rw [lower, if_neg hkelvin, if_neg hdotted, hsmall, hsame, List.map_singleton,
          List.map_singleton, masked_of_le houtside, masked_of_le hbeyond]

theorem Lowered.masked {lowered : List Char} (h : Lowered cs lowered) :
    (cs.flatMap lower).map Retry.masked = lowered.map Retry.masked := by
  induction h with
  | nil => rfl
  | cons c rest ih =>
    rw [List.flatMap_cons, List.map_append, List.map_append, lower_masked, ih]
  | finalSigma rest ih =>
    rw [List.flatMap_cons, List.map_append, ih]
    rfl

/-- **Marks are found in lower case**, in whatever form a capital sigma is written. -/
theorem Lowered.hasMark_iff {message : String} {lowered : List Char}
    (h : Lowered message.toList lowered) (hmarks : ∀ mark ∈ marks, ∀ c ∈ mark.toList, c.toNat < 128) :
    hasMark marks message = true ↔ ∃ mark ∈ marks, mark.toList <:+: lowered := by
  rw [Retry.hasMark_iff]
  refine exists_congr fun mark => and_congr_right fun hmark => ?_
  rw [← infix_masked (hmarks mark hmark), h.masked, infix_masked (hmarks mark hmark)]

theorem ascii_of_all {marks : List String}
    (h : (marks.all fun mark => mark.toList.all fun c => c.toNat < 128) = true) :
    ∀ mark ∈ marks, ∀ c ∈ mark.toList, c.toNat < 128 := by
  intro mark hmark c hc
  exact of_decide_eq_true (List.all_eq_true.mp (List.all_eq_true.mp h mark hmark) c hc)

theorem retryableMarks_ascii : ∀ mark ∈ retryableMarks, ∀ c ∈ mark.toList, c.toNat < 128 :=
  ascii_of_all (by decide +kernel)

theorem rateLimitMarks_ascii : ∀ mark ∈ rateLimitMarks, ∀ c ∈ mark.toList, c.toNat < 128 :=
  ascii_of_all (by decide +kernel)

end DurableJobs.Retry
