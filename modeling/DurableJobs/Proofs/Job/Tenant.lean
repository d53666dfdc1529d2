import DurableJobs.Job
import DurableJobs.Proofs.Text.Reading

/-!
# The user of a tenant

The name of a tenant may begin with the number of a user (`NamesUser`). The number is cut out of the name
at offsets that count bytes, so it has to be seen that characters end there: a sign is one byte, and what is
counted behind it are whole characters (`leadingNumber?_append`).

What has been cut out is a sign and digits. A user that is named is read (`NamesUser.leadingInteger?`), and
a user that is read is named (`namesUser_of_leadingInteger?`).
-/

set_option autoImplicit false

namespace DurableJobs

open Text

/-- Decimal digits, one at least, that write a positive number of 64 bits. -/
structure WritesUser (digits : List Char) (user : Int) : Prop where
  nonempty : digits ≠ []
  decimal : IsDigits digits
  value : user = Nat.ofDigitChars 10 digits 0
  positive : 1 ≤ user
  fits : user ≤ 9223372036854775807

/-- A name begins with the number of a user: blanks, a plus sign perhaps, and the digits up to the first
character that is none. -/
inductive NamesUser (name : String) (user : Int) : Prop where
  | intro (blanks sign digits rest : List Char)
      (shape : name.toList = blanks ++ (sign ++ (digits ++ rest)))
      (blank : ∀ c ∈ blanks, isBlank c = true)
      (plus : sign = [] ∨ sign = ['+'])
      (writes : WritesUser digits user)
      (ended : NoDigit rest)

/-- A tenant has a name, and the name begins with the number of a user. -/
def Names (tenantId : Option String) (user : Int) : Prop :=
  ∃ name, tenantId = some name ∧ NamesUser name user

variable {cs ds sign unsigned : List Char} {user : Int}

/-! ## Where the name is cut -/

/-- Behind its sign a text is cut in front of the first character that is no digit. -/
theorem leadingNumber?_append
    (hsign : (if (sign ++ unsigned).head?.any isSign then 1 else 0) = byteLength sign) :
    leadingNumber? (sign ++ unsigned) = some (sign ++ unsigned.takeWhile Char.isDigit) := by
  have hrest : byteLength (sign ++ unsigned) - byteLength sign = byteLength unsigned := by
    rw [byteLength_append, Nat.add_sub_cancel_left]
  have hdigits : (offsetOf? (fun c => !c.isDigit) unsigned).getD (byteLength unsigned) =
      byteLength (unsigned.takeWhile Char.isDigit) := by
    rw [offsetOf?_getD]
    simp only [Bool.not_not]
  -- the second offset counts whole characters too, so the text comes apart there
  have hcut := cutAtByte?_append (sign ++ unsigned.takeWhile Char.isDigit)
    (unsigned.dropWhile Char.isDigit)
  rw [List.append_assoc, List.takeWhile_append_dropWhile, byteLength_append] at hcut
  rw [leadingNumber?, hsign, cutAtByte?_append]
  simp only [Option.bind_eq_bind, Option.bind_some, hrest, hdigits, hcut]
  rfl

theorem leadingNumber?_unsigned (h : unsigned.head?.any isSign = false) :
    leadingNumber? unsigned = some (unsigned.takeWhile Char.isDigit) := by
  have hsign : (if ([] ++ unsigned).head?.any isSign then 1 else 0) = byteLength [] := by
    rw [List.nil_append, h]
    rfl
  exact leadingNumber?_append hsign

theorem leadingNumber?_cons {c : Char} (h : c = '+' ∨ c = '-') :
    leadingNumber? (c :: unsigned) = some (c :: unsigned.takeWhile Char.isDigit) := by
  have hsign : (if ([c] ++ unsigned).head?.any isSign then 1 else 0) = byteLength [c] := by
    rcases h with rfl | rfl <;> rfl
  exact leadingNumber?_append hsign

/-- A text begins with a sign or with none. -/
theorem sign_cases (cs : List Char) :
    cs.head?.any isSign = false ∨ ∃ c unsigned, cs = c :: unsigned ∧ (c = '+' ∨ c = '-') := by
  cases cs with
  | nil => exact Or.inl rfl
  | cons c unsigned =>
    cases h : isSign c with
    | false => exact Or.inl h
    | true =>
      refine Or.inr ⟨c, unsigned, rfl, ?_⟩
      simpa [isSign] using h

/-- Every text can be cut where it is cut. -/
theorem leadingNumber?_isSome (cs : List Char) : (leadingNumber? cs).isSome = true := by
  rcases sign_cases cs with h | ⟨c, unsigned, rfl, h⟩
  · rw [leadingNumber?_unsigned h]
    rfl
  · rw [leadingNumber?_cons h]
    rfl

/-! ## What is read -/

/-- A plus sign in front of digits says nothing. -/
theorem int64?_digits (hsign : sign = [] ∨ sign = ['+']) (h : IsDigits ds) :
    int64? (sign ++ ds) = ((numberIn? 10 ds).map Int.ofNat).bind (signed? 64) := by
  rcases hsign with rfl | rfl
  · rw [List.nil_append, int64?, signedDigits?]
    · rintro _ rfl
      exact absurd (isDigits_cons.mp h).1 (by decide)
    · rintro _ rfl
      exact absurd (isDigits_cons.mp h).1 (by decide)
  · rfl

/-- Behind a minus sign there is no positive number. -/
theorem int64?_minus {n : Int} (h : int64? ('-' :: ds) = some n) : n ≤ 0 := by
  rw [int64?, signedDigits?, Option.bind_eq_some_iff] at h
  obtain ⟨m, hm, hfits⟩ := h
  obtain ⟨k, -, rfl⟩ := Option.map_eq_some_iff.mp hm
  unfold signed? at hfits
  split at hfits
  · cases hfits
    omega
  · cases hfits

theorem signed?_natural (n : Nat) :
    signed? 64 n = if n ≤ 9223372036854775807 then some (n : Int) else none := by
  have hlow : leastSigned 64 = -9223372036854775808 := rfl
  have hhigh : greatestSigned 64 = 9223372036854775807 := rfl
  have hfits : fitsSigned 64 n = true ↔ n ≤ 9223372036854775807 := by
    rw [fitsSigned_iff, hlow, hhigh]
    omega
  simp only [signed?, hfits]

/-- Digits are read as a number of 64 bits exactly when there are some and they write such a number. -/
theorem digits_read_iff (h : IsDigits ds) :
    ((numberIn? 10 ds).map Int.ofNat).bind (signed? 64) = some user ↔
      ds ≠ [] ∧ user = Nat.ofDigitChars 10 ds 0 ∧ user ≤ 9223372036854775807 := by
  rw [h.numberIn?]
  cases ds with
  | nil => simp
  | cons d ds =>
    simp only [List.isEmpty_cons, Bool.false_eq_true, if_false, Option.map_some, Option.bind_some,
      Int.ofNat_eq_natCast, signed?_natural]
    split
    · next hfits =>
      constructor
      · rintro ⟨⟩
        exact ⟨List.cons_ne_nil d ds, rfl, by omega⟩
      · rintro ⟨-, rfl, -⟩
        rfl
    · next hlarge =>
      refine iff_of_false (fun h => nomatch h) ?_
      rintro ⟨-, rfl, hfits⟩
      omega

/-! ## Users that are named -/

/-- Behind the blanks comes what is read. -/
theorem trimStart_front {blanks rest : List Char} (hblanks : ∀ c ∈ blanks, isBlank c = true)
    (hsign : sign = [] ∨ sign = ['+']) (h : WritesUser ds user) :
    trimStart (blanks ++ (sign ++ (ds ++ rest))) = sign ++ (ds ++ rest) := by
  rw [trimStart, List.dropWhile_append_of_pos hblanks]
  rcases hsign with rfl | rfl
  · obtain ⟨d, ds, rfl, hd⟩ := h.decimal.begins h.nonempty
    exact trimStart_cons (isBlank_of_isDigit hd)
  · exact trimStart_cons (by decide)

/-- The digits are all that is cut out behind the sign. -/
theorem leadingNumber?_front {rest : List Char} (hsign : sign = [] ∨ sign = ['+'])
    (h : WritesUser ds user) (hrest : NoDigit rest) :
    leadingNumber? (sign ++ (ds ++ rest)) = some (sign ++ ds) := by
  have hdigits := h.decimal.takeWhile_append hrest
  rcases hsign with rfl | rfl
  · have hnone : (ds ++ rest).head?.any isSign = false := by
      obtain ⟨d, ds, rfl, hd⟩ := h.decimal.begins h.nonempty
      refine Bool.eq_false_iff.mpr fun hs => ?_
      have hsign : d = '+' ∨ d = '-' := by simpa [isSign] using hs
      rcases hsign with rfl | rfl <;> cases hd
    rw [List.nil_append, leadingNumber?_unsigned hnone, hdigits, List.nil_append]
  · rw [List.singleton_append, leadingNumber?_cons (Or.inl rfl), hdigits, List.singleton_append]

/-- A user that is named is read. -/
theorem NamesUser.leadingInteger? {name : String} (h : NamesUser name user) :
    leadingInteger? name.toList = some user ∧ 0 < user := by
  obtain ⟨blanks, sign, digits, rest, shape, blank, plus, writes, ended⟩ := h
  rw [DurableJobs.leadingInteger?, shape, trimStart_front blank plus writes,
    leadingNumber?_front plus writes ended, Option.bind_some, int64?_digits plus writes.decimal]
  exact ⟨(digits_read_iff writes.decimal).mpr ⟨writes.nonempty, writes.value, writes.fits⟩,
    writes.positive⟩

/-- A positive number that is read is the number of a user, whatever stands in the name. -/
theorem namesUser_of_leadingInteger? {name : String} (h : leadingInteger? name.toList = some user)
    (hpositive : 0 < user) : NamesUser name user := by
  rw [leadingInteger?] at h
  -- with a plus sign or with none, what has been cut out is digits behind it
  have named : ∀ sign unsigned, trimStart name.toList = sign ++ unsigned → sign = [] ∨ sign = ['+'] →
      leadingNumber? (sign ++ unsigned) = some (sign ++ unsigned.takeWhile Char.isDigit) →
      NamesUser name user := by
    intro sign unsigned htrim hsign hcut
    have hdigits := isDigits_takeWhile unsigned
    rw [htrim, hcut, Option.bind_some, int64?_digits hsign hdigits, digits_read_iff hdigits] at h
    obtain ⟨hsome, hvalue, hfits⟩ := h
    refine ⟨name.toList.takeWhile isBlank, sign, _, unsigned.dropWhile Char.isDigit, ?_, ?_, hsign,
      ⟨hsome, hdigits, hvalue, hpositive, hfits⟩, noDigit_dropWhile unsigned⟩
    · rw [List.takeWhile_append_dropWhile, ← htrim, trimStart, List.takeWhile_append_dropWhile]
    · exact List.all_eq_true.mp List.all_takeWhile
  rcases sign_cases (trimStart name.toList) with hnone | ⟨c, unsigned, htrim, rfl | rfl⟩
  · exact named [] _ rfl (Or.inl rfl) (leadingNumber?_unsigned hnone)
  · exact named ['+'] unsigned htrim (Or.inr rfl) (leadingNumber?_cons (Or.inl rfl))
  · -- behind a minus sign nothing positive is read
    rw [htrim, leadingNumber?_cons (Or.inr rfl), Option.bind_some] at h
    exact absurd (int64?_minus h) (Int.not_le.mpr hpositive)

/-- The user of a tenant is the user that the tenant names. -/
theorem tenantUser?_iff (tenantId : Option String) (user : Int) :
    tenantUser? tenantId = some user ↔ Names tenantId user := by
  rw [tenantUser?, Option.filter_eq_some_iff, Option.bind_eq_some_iff]
  constructor
  · rintro ⟨⟨name, hname, hread⟩, hpositive⟩
    exact ⟨name, hname, namesUser_of_leadingInteger? hread (of_decide_eq_true hpositive)⟩
  · rintro ⟨name, hname, hnames⟩
    obtain ⟨hread, hpositive⟩ := hnames.leadingInteger?
    exact ⟨⟨name, hname, hread⟩, decide_eq_true hpositive⟩

theorem tenantUser?_eq_none (tenantId : Option String) :
    tenantUser? tenantId = none ↔ ∀ user, ¬ Names tenantId user := by
  rw [Option.eq_none_iff_forall_ne_some]
  simp only [ne_eq, tenantUser?_iff]

end DurableJobs
