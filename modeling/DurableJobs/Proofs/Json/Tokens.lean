import DurableJobs.Json.Codec
import DurableJobs.Proofs.Text.Reading

/-!
# Tokens read back

A written text stands somewhere in a document, with more behind it. Reading it back is a matter of what
is left afterwards and not of the line and the column, so a place is a cursor that stands `At` a text, and
what may follow a value is what `Ends` it: a number would run on into a digit.
-/

set_option autoImplicit false

namespace DurableJobs.Json

open DurableJobs.Text

/-- The cursor stands in front of a text that `rest` follows. -/
def Cursor.At (c : Cursor) (text : List Char) (rest : List Symbol) : Prop :=
  c.rest = text.map some ++ rest

/-- What may follow a value. -/
def Ends (rest : List Symbol) : Prop := ∀ s ∈ rest.head?, s ∈ [some ',', some ']', some '\x7d']

section Places

variable {c : Cursor} {ch : Char} {text more : List Char} {rest : List Symbol}

theorem Cursor.At.peek (h : c.At (ch :: text) rest) : c.peek = some (some ch) := by
  rw [Cursor.At] at h
  rw [Cursor.peek, h]
  rfl

theorem Cursor.At.skip (h : c.At (ch :: text) rest) : c.skip.At text rest := by
  obtain ⟨symbols, line, column⟩ := c
  simp only [Cursor.At, List.map_cons, List.cons_append] at h
  subst h
  by_cases hch : ch = '\n'
  · subst hch
    rfl
  · simp [Cursor.At, Cursor.skip, hch]

theorem Cursor.at_append : c.At (text ++ more) rest ↔ c.At text (more.map some ++ rest) := by
  rw [Cursor.At, Cursor.At, List.map_append, List.append_assoc]

theorem Cursor.skipSpace_of_not_space {c : Cursor} (h : ∀ s ∈ c.peek, isSpace s = false) :
    c.skipSpace = c := by
  obtain ⟨symbols, line, column⟩ := c
  cases symbols with
  | nil => rfl
  | cons s rest =>
    have hs : isSpace s = false := h s rfl
    have hline : (s == some '\n') = false := by
      rw [isSpace] at hs
      simp only [Bool.or_eq_false_iff] at hs
      exact hs.1.1.2
    simp [Cursor.skipSpace, skipSpaceFrom, hs, hline]

/-- No blank stands in front of a text that does not begin with one. -/
theorem Cursor.At.skipSpace (h : c.At (ch :: text) rest) (hch : isSpace (some ch) = false) :
    c.skipSpace = c := by
  apply Cursor.skipSpace_of_not_space
  intro s hs
  rw [h.peek] at hs
  cases hs
  exact hch

theorem Cursor.At.toValue (h : c.At (ch :: text) rest) (hch : isSpace (some ch) = false) :
    toValue c = .ok c := by
  rw [Json.toValue, h.skipSpace hch, h.peek]
  rfl

theorem Cursor.at_nil : c.At [] rest ↔ c.rest = rest := Iff.rfl

/-- The letters of a word are stepped over. -/
theorem readIdent_of_at {letters : List Char} (h : c.At (letters ++ text) rest) :
    ∃ c', readIdent letters c = .ok c' ∧ c'.At text rest := by
  induction letters generalizing c with
  | nil => exact ⟨c, rfl, h⟩
  | cons letter letters ih =>
    rw [readIdent, h.peek]
    simp only [if_true]
    exact ih h.skip

end Places

/-! ## Strings -/

section Strings

variable {c : Cursor} {ch : Char} {text : List Char} {rest : List Symbol}

theorem hexValue?_hexDigit {n : Nat} (h : n < 16) : hexValue? (hexDigit n) = some n := by
  have hall : ∀ n < 16, hexValue? (hexDigit n) = some n := by decide
  exact hall n h

/-- One step through a string in which nothing is broken. -/
theorem readStringFrom_step (h : c.peek = some (some ch)) (fuel : Nat) (read : List Char) :
    readStringFrom false (fuel + 1) read none c =
      if ch = '"' then .ok (String.ofList read.reverse, c.skip)
      else if ch = '\\' then
        readEscape false c.skip >>= fun (escaped, c) =>
          readStringFrom false fuel (escaped :: read) none c
      else if ch.toNat < 32 then c.failNext .controlCharacter
      else readStringFrom false fuel (ch :: read) none c.skip := by
  simp only [readStringFrom, h]

/-- An escape is read as its character. -/
theorem readStringFrom_escape {c' : Cursor} (h : c.At ('\\' :: text) rest)
    (hread : readEscape false c.skip = .ok (ch, c')) (fuel : Nat) (read : List Char) :
    readStringFrom false (fuel + 1) read none c = readStringFrom false fuel (ch :: read) none c' := by
  rw [readStringFrom_step h.peek, if_neg (by decide), if_pos rfl, hread]
  rfl

/-- The escape of a control character by its number. -/
theorem readEscape_control (hch : ch.toNat < 32)
    (h : c.At ('u' :: '0' :: '0' :: hexDigit (ch.toNat / 16) :: hexDigit (ch.toNat % 16) :: text) rest) :
    ∃ c', readEscape false c = .ok (ch, c') ∧ c'.At text rest := by
  have hzero : hexValue? '0' = some 0 := by decide
  have hrest := h.skip
  rw [Cursor.At] at hrest
  refine ⟨⟨c.skip.rest.drop 4, c.skip.line, c.skip.column + 4⟩, ?_, ?_⟩
  · have hdigits : (c.skip.rest.take 4).filterMap (fun s => s.bind hexValue?) =
        [0, 0, ch.toNat / 16, ch.toNat % 16] := by
      rw [hrest]
      simp [hzero, hexValue?_hexDigit (show ch.toNat / 16 < 16 by omega),
        hexValue?_hexDigit (show ch.toNat % 16 < 16 by omega)]
    have hvalue : ofDigits 16 [0, 0, ch.toNat / 16, ch.toNat % 16] = ch.toNat := by
      simp only [ofDigits, List.foldl_cons, List.foldl_nil]
      omega
    have hhex : readHex c.skip =
        .ok (ch.toNat, ⟨c.skip.rest.drop 4, c.skip.line, c.skip.column + 4⟩) := by
      rw [readHex]
      simp only [hdigits, hvalue]
      rfl
    rw [readEscape, h.peek]
    simp only [hhex, bind, Except.bind, Bool.false_eq_true, if_false, Char.ofNat_toNat]
    rw [if_neg (by omega), if_neg (by omega)]
  · rw [Cursor.At, hrest]
    rfl

/-- A character of a string is read back from its escape. -/
theorem readStringFrom_escapeChar (h : c.At (escapeChar ch ++ text) rest) :
    ∃ c', c'.At text rest ∧ ∀ fuel read,
      readStringFrom false (fuel + 1) read none c = readStringFrom false fuel (ch :: read) none c' := by
  have hshort : ∀ letter, escapeChar ch = ['\\', letter] →
      (∀ c : Cursor, c.peek = some (some letter) → readEscape false c = .ok (ch, c.skip)) →
      ∃ c', c'.At text rest ∧ ∀ fuel read,
        readStringFrom false (fuel + 1) read none c =
          readStringFrom false fuel (ch :: read) none c' := by
    intro letter hescape hread
    rw [hescape] at h
    exact ⟨_, h.skip.skip, readStringFrom_escape h (hread _ h.skip.peek)⟩
  by_cases hquote : ch = '"'
  · subst hquote
    exact hshort '"' rfl fun c hc => by simp [readEscape, hc]
  by_cases hbackslash : ch = '\\'
  · subst hbackslash
    exact hshort '\\' rfl fun c hc => by simp [readEscape, hc]
  by_cases hb : ch = '\x08'
  · subst hb
    exact hshort 'b' rfl fun c hc => by simp [readEscape, hc]
  by_cases hf : ch = '\x0c'
  · subst hf
    exact hshort 'f' rfl fun c hc => by simp [readEscape, hc]
  by_cases hn : ch = '\n'
  · subst hn
    exact hshort 'n' rfl fun c hc => by simp [readEscape, hc]
  by_cases hr : ch = '\r'
  · subst hr
    exact hshort 'r' rfl fun c hc => by simp [readEscape, hc]
  by_cases ht : ch = '\t'
  · subst ht
    exact hshort 't' rfl fun c hc => by simp [readEscape, hc]
  rw [escapeChar, if_neg hquote, if_neg hbackslash, if_neg hb, if_neg hf, if_neg hn, if_neg hr,
    if_neg ht] at h
  by_cases hcontrol : ch.toNat < 32
  · rw [if_pos hcontrol] at h
    obtain ⟨c', hread, hat⟩ := readEscape_control hcontrol h.skip
    exact ⟨c', hat, readStringFrom_escape h hread⟩
  · rw [if_neg hcontrol] at h
    refine ⟨c.skip, h.skip, fun fuel read => ?_⟩
    rw [readStringFrom_step h.peek, if_neg hquote, if_neg hbackslash, if_neg hcontrol]

/-- The body of a string is read back, by recursion on the string. -/
theorem readStringFrom_escaped {s : List Char} {fuel : Nat} (hfuel : s.length < fuel) {read : List Char}
    (h : c.At (s.flatMap escapeChar ++ '"' :: text) rest) :
    ∃ c', readStringFrom false fuel read none c = .ok (String.ofList (read.reverse ++ s), c') ∧
      c'.At text rest := by
  induction s generalizing fuel read c with
  | nil =>
    obtain ⟨fuel, rfl⟩ := Nat.exists_eq_add_of_lt hfuel
    rw [List.flatMap_nil, List.nil_append] at h
    refine ⟨c.skip, ?_, h.skip⟩
    rw [readStringFrom_step h.peek, if_pos rfl, List.append_nil]
  | cons ch s ih =>
    obtain ⟨fuel, rfl⟩ := Nat.exists_eq_add_of_lt hfuel
    rw [List.flatMap_cons, List.append_assoc] at h
    obtain ⟨c', hat, hread⟩ := readStringFrom_escapeChar h
    rw [hread, List.append_cons, ← List.reverse_cons]
    exact ih (by rw [List.length_cons]; omega) hat

theorem length_le_flatMap_escapeChar (s : List Char) : s.length ≤ (s.flatMap escapeChar).length := by
  have hone : ∀ ch, 1 ≤ (escapeChar ch).length := by
    intro ch
    unfold escapeChar
    repeat' split
    all_goals simp
  induction s with
  | nil => exact Nat.le_refl _
  | cons ch s ih =>
    have := hone ch
    rw [List.flatMap_cons, List.length_cons, List.length_append]
    omega

theorem toList_stringText (s : String) :
    (stringText s).toList = '"' :: (s.toList.flatMap escapeChar ++ ['"']) := by
  rw [stringText, String.toList_ofList]

/-- A string is read back from its text. -/
theorem readString_stringText {s : String} (h : c.At ((stringText s).toList ++ text) rest) :
    ∃ c', readString c.skip = .ok (s, c') ∧ c'.At text rest := by
  rw [toList_stringText, List.cons_append, List.append_assoc] at h
  have hbody := h.skip
  have hlength : s.toList.length < c.skip.rest.length + 1 := by
    have := length_le_flatMap_escapeChar s.toList
    rw [Cursor.At] at hbody
    rw [hbody, List.length_append, List.length_map, List.length_append]
    omega
  obtain ⟨c', hread, hat⟩ := readStringFrom_escaped hlength hbody
  refine ⟨c', ?_, hat⟩
  rw [readString, hread, List.reverse_nil, List.nil_append, String.ofList_toList]

end Strings

/-! ## Numbers -/

section Numbers

variable {c : Cursor} {digits : List Char} {rest : List Symbol}

theorem Ends.digitOf? (h : Ends rest) : digitOf? rest.head? = none := by
  cases rest with
  | nil => rfl
  | cons s rest =>
    have hall : ∀ s ∈ [some ',', some ']', some '\x7d'], Json.digitOf? (some s) = none := by decide
    exact hall s (h s rfl)

theorem spanDigits_append (hdigits : IsDigits digits) (hrest : digitOf? rest.head? = none) :
    spanDigits (digits.map some ++ rest) = (digitValues digits, rest) := by
  induction digits with
  | nil =>
    cases rest with
    | nil => rfl
    | cons s rest =>
      rw [List.head?_cons] at hrest
      simp [spanDigits, hrest, digitValues]
  | cons d digits ih =>
    obtain ⟨hd, hdigits⟩ := isDigits_cons.mp hdigits
    have hdigit : digitOf? (some (some d)) = some (d.toNat - '0'.toNat) := by
      rw [Json.digitOf?, digitIn?_ten, if_pos hd]
    simp only [List.map_cons, List.cons_append, spanDigits, hdigit, ih hdigits]
    rfl

/-- Digits that write a number of 64 bits are taken to the last. -/
theorem takeSignificand_of_le {ds : List Nat} {significand taken : Nat}
    (h : ds.foldl (fun n d => n * 10 + d) significand ≤ greatestUnsigned 64) :
    takeSignificand significand taken ds =
      (ds.foldl (fun n d => n * 10 + d) significand, taken + ds.length, 0) := by
  have hgrows : ∀ (ds : List Nat) (n : Nat), n ≤ ds.foldl (fun n d => n * 10 + d) n := by
    intro ds
    induction ds with
    | nil => exact fun n => Nat.le_refl n
    | cons d ds ih => exact fun n => Nat.le_trans (by omega) (ih (n * 10 + d))
  induction ds generalizing significand taken with
  | nil => rfl
  | cons d ds ih =>
    rw [List.foldl_cons] at h
    rw [takeSignificand, if_pos (Nat.le_trans (hgrows ds _) h), ih h, List.foldl_cons,
      List.length_cons]
    congr 2
    omega

/-- The digits at a cursor are cut off where the value ends. -/
theorem digits_of_at (h : c.At digits rest) (hdigits : IsDigits digits) (hrest : Ends rest) :
    c.digits = (digitValues digits, ⟨rest, c.line, c.column + digits.length⟩) := by
  rw [Cursor.At] at h
  rw [Cursor.digits, h, spanDigits_append hdigits hrest.digitOf?]
  dsimp only
  rw [digitValues, List.length_map]

/-- What ends a value goes on with neither a point nor an exponent. -/
theorem Ends.whole (h : Ends rest) :
    rest.head? ≠ some (some '.') ∧ startsExponent rest.head? = false := by
  cases rest with
  | nil => exact ⟨by simp, rfl⟩
  | cons s rest =>
    have hall : ∀ s ∈ [some ',', some ']', some '\x7d'],
        some s ≠ some (some '.') ∧ startsExponent (some s) = false := by decide
    exact hall s (h s rfl)

/-- The digits of a number are read as the number, and a sign in front of them as its sign. -/
theorem readNumber_toDigits (positive : Bool) {n : Nat} (h : c.At (Nat.toDigits 10 n) rest)
    (hrest : Ends rest) (hn : n ≤ greatestUnsigned 64)
    (hsign : positive = false → n ≠ 0 ∧ fitsSigned 64 (-n) = true) :
    ∃ c', readNumber positive c = .ok (.whole (if positive then n else -n), c') ∧ c'.rest = rest := by
  obtain ⟨hpoint, hexponent⟩ := hrest.whole
  obtain ⟨d, ds, htext, hd⟩ := (isDigits_toDigits n).begins Nat.toDigits_ne_nil
  have hfirst : digitOf? c.peek = some (d.toNat - '0'.toNat) := by
    rw [htext] at h
    rw [h.peek, Json.digitOf?, digitIn?_ten, if_pos hd]
  have hspan := digits_of_at h (isDigits_toDigits n) hrest
  have hlead : ¬ (d.toNat - '0'.toNat = 0 ∧ 1 < (digitValues (Nat.toDigits 10 n)).length) := by
    rintro ⟨hzero, hlong⟩
    have hd0 : d = '0' := by
      have := (Char.isDigit_iff_toNat.mp hd).1
      exact Char.toNat_inj.mp (by omega)
    rw [hd0] at htext
    rw [digitValues, List.length_map, htext, eq_nil_of_toDigits htext] at hlong
    exact absurd hlong (by decide)
  have htake : takeSignificand 0 0 (digitValues (Nat.toDigits 10 n)) =
      (n, 0 + (digitValues (Nat.toDigits 10 n)).length, 0) := by
    have hvalue := ofDigits_toDigits n
    rw [ofDigits] at hvalue
    rw [takeSignificand_of_le (Nat.le_trans (Nat.le_of_eq hvalue) hn), hvalue]
  refine ⟨⟨rest, c.line, c.column + (Nat.toDigits 10 n).length⟩, ?_, rfl⟩
  rw [htext] at h
  rw [readNumber, hfirst, h.peek]
  simp only [hspan, if_neg hlead, htake, Cursor.peek, if_neg hpoint, hexponent, Bool.false_eq_true,
    if_false, Nat.lt_irrefl]
  cases positive with
  | true => rfl
  | false =>
    obtain ⟨hzero, hfits⟩ := hsign rfl
    simp [hzero, hfits]

end Numbers

end DurableJobs.Json
