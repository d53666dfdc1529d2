import DurableJobs.Proofs.Json.Tokens

/-!
# Faithful codecs

A codec is `Faithful` if whatever it yields is read back from the text that is written for it. What it can
yield is part of that: a number comes out of a document only if it has its width, so the width is known
when the number is written. Codecs are put together from codecs, and so is their faithfulness.
-/

set_option autoImplicit false

namespace DurableJobs.Json

open DurableJobs.Text

variable {α β : Type}

/-- The text is read as `a`, wherever it stands. -/
def Reads (read : Reader α) (text : String) (a : α) : Prop :=
  ∀ (c : Cursor) (rest : List Symbol), c.At text.toList rest → Ends rest →
    ∃ c', read c = .ok (a, c') ∧ c'.rest = rest

namespace Codec

/-- The codec has read the value, or takes it where nothing stands. -/
def Yields (codec : Codec α) (a : α) : Prop :=
  (∃ c c', codec.read c = .ok (a, c')) ∨ codec.absent = some a

/-- Whatever the codec yields is read back from its text. -/
def Faithful (codec : Codec α) : Prop :=
  ∀ a, codec.Yields a → Reads codec.read (codec.write a) a

/-- No text of the codec begins as a blank, a null or the end of a list does. -/
def Plain (codec : Codec α) : Prop :=
  ∀ a, ∃ ch text, (codec.write a).toList = ch :: text ∧
    isSpace (some ch) = false ∧ ch ≠ 'n' ∧ ch ≠ ']'

end Codec

/-! ## Documents -/

theorem endDocument_of_rest {a : α} {c : Cursor} (h : c.rest = []) : endDocument (a, c) = .ok a := by
  have hpeek : c.peek = none := by
    rw [Cursor.peek, h]
    rfl
  have hskip : c.skipSpace = c := Cursor.skipSpace_of_not_space (by simp [hpeek])
  rw [endDocument]
  simp only [hskip, h, List.isEmpty_nil, if_true]

theorem Reads.decode {codec : Codec α} {text : String} {a : α} (h : Reads codec.read text a) :
    codec.decode (symbolsOfString text) = .ok a := by
  have hat : (Cursor.ofSymbols (symbolsOfString text)).At text.toList [] :=
    (List.append_nil _).symm
  obtain ⟨c', hread, hrest⟩ := h _ _ hat (by simp [Ends])
  rw [Codec.decode, hread]
  exact endDocument_of_rest hrest

theorem Codec.Yields.of_decode {codec : Codec α} {document : List Symbol} {a : α}
    (h : codec.decode document = .ok a) : codec.Yields a := by
  obtain ⟨⟨b, c'⟩, hread, hend⟩ := bind_eq_ok.mp h
  rw [endDocument] at hend
  split at hend
  · cases hend
    exact Or.inl ⟨_, c', hread⟩
  · cases hend

/-- **A document that was read is read back from its own text.** -/
theorem Codec.Faithful.decode_write {codec : Codec α} (h : codec.Faithful) {document : List Symbol}
    {a : α} (hread : codec.decode document = .ok a) :
    codec.decode (symbolsOfString (codec.write a)) = .ok a :=
  (h a (.of_decode hread)).decode

/-! ## Strings -/

/-- What is refused gives no value. -/
theorem refuse_ne_ok {expected : String} {c : Cursor} {a : α} : refuse expected c ≠ .ok a := by
  have hmismatch : ∀ found (c : Cursor), c.mismatch (.invalidType found expected) ≠ .ok a := by
    intro found c h
    cases h
  unfold refuse
  split
  · exact fun h => by cases h
  · split
    all_goals try split
    all_goals simp only [ne_eq, bind_eq_ok, not_exists, not_and]
    all_goals first
      | exact hmismatch _ _
      | exact fun _ _ => hmismatch _ _
      | exact fun h => by cases h

theorem readText_stringText {expected : String} {decode : String → Except Mismatch α} {s : String}
    {a : α} (h : decode s = .ok a) : Reads (readText expected decode) (stringText s) a := by
  intro c rest hat _
  have hquote := hat
  rw [toList_stringText] at hquote
  rw [← List.append_nil (stringText s).toList] at hat
  obtain ⟨c', hread, hat'⟩ := readString_stringText hat
  refine ⟨c', ?_, Cursor.at_nil.mp hat'⟩
  rw [readText, hquote.toValue (by decide)]
  simp only [bind, Except.bind, hquote.peek, if_true, hread, h]

/-- A value that was read from a string is what a string stands for. -/
theorem decode_of_readText {expected : String} {decode : String → Except Mismatch α} {c c' : Cursor}
    {a : α} (h : readText expected decode c = .ok (a, c')) : ∃ s, decode s = .ok a := by
  obtain ⟨c, -, h⟩ := bind_eq_ok.mp h
  split at h
  · obtain ⟨⟨s, c₁⟩, -, h⟩ := bind_eq_ok.mp h
    dsimp only at h
    cases hdecode : decode s with
    | error m =>
      rw [hdecode] at h
      cases h
    | ok b =>
      rw [hdecode] at h
      cases h
      exact ⟨s, hdecode⟩
  · exact absurd h refuse_ne_ok

theorem text_faithful : text.Faithful := fun _ _ => readText_stringText rfl

theorem stringText_plain (s : String) : ∃ ch text, (stringText s).toList = ch :: text ∧
    isSpace (some ch) = false ∧ ch ≠ 'n' ∧ ch ≠ ']' :=
  ⟨_, _, toList_stringText s, by decide, by decide, by decide⟩

theorem text_plain : text.Plain := stringText_plain

/-! ## Whole numbers -/

theorem toList_toString_ofNat (n : Nat) : (toString (n : Int)).toList = Nat.toDigits 10 n := by
  rw [Int.toString_eq_repr, Int.repr_eq_if, if_pos (Int.natCast_nonneg n), Int.toNat_natCast,
    Nat.toList_repr]

theorem toList_toString_neg {n : Nat} (hn : n ≠ 0) :
    (toString (-(n : Int))).toList = '-' :: Nat.toDigits 10 n := by
  rw [Int.toString_eq_repr, Int.repr_eq_if, if_neg (by omega), Int.neg_neg, Int.toNat_natCast,
    String.toList_append, Nat.toList_repr]
  rfl

theorem plain_of_isDigit {d : Char} (h : d.isDigit = true) :
    isSpace (some d) = false ∧ d ≠ 'n' ∧ d ≠ ']' ∧ d ≠ '-' := by
  have hne : ∀ ch : Char, ch.isDigit = false → d ≠ ch := by
    rintro ch hch rfl
    rw [h] at hch
    cases hch
  refine ⟨?_, hne 'n' (by decide), hne ']' (by decide), hne '-' (by decide)⟩
  simp [isSpace, hne ' ' (by decide), hne '\n' (by decide), hne '\t' (by decide),
    hne '\r' (by decide)]

section Integers

variable {expected : String} {low high : Int}

theorem integer_plain : (integer expected low high).Plain := by
  intro n
  change ∃ ch text, (toString n).toList = ch :: text ∧ _
  rcases Int.lt_or_le n 0 with hneg | hnonneg
  · obtain ⟨m, rfl⟩ := Int.exists_eq_neg_ofNat (Int.le_of_lt hneg)
    exact ⟨'-', _, toList_toString_neg (by omega), by decide, by decide, by decide⟩
  · obtain ⟨m, rfl⟩ := Int.eq_ofNat_of_zero_le hnonneg
    obtain ⟨d, digits, htext, hd⟩ := (isDigits_toDigits m).begins Nat.toDigits_ne_nil
    obtain ⟨hspace, hnull, hclose, -⟩ := plain_of_isDigit hd
    exact ⟨d, digits, (toList_toString_ofNat m).trans htext, hspace, hnull, hclose⟩

/-- Take a number if it has the width. -/
def judged (expected : String) (low high : Int) : Number × Cursor → Except Error (Int × Cursor)
  | (.whole n, c) =>
      if low ≤ n ∧ n ≤ high then .ok (n, c)
      else c.mismatch (.invalidValue (.number (.whole n)) expected)
  | (.fraction x, c) => c.mismatch (.invalidType (.number (.fraction x)) expected)

theorem judged_eq_ok {result : Number × Cursor} {n : Int} {c : Cursor} :
    judged expected low high result = .ok (n, c) ↔ result = (.whole n, c) ∧ low ≤ n ∧ n ≤ high := by
  obtain ⟨number, c⟩ := result
  cases number with
  | whole m =>
    rw [judged]
    split
    · next hwidth =>
      constructor
      · intro h
        cases h
        exact ⟨rfl, hwidth⟩
      · rintro ⟨h, -⟩
        cases h
        rfl
    · next hwidth =>
      refine iff_of_false (fun h => by cases h) ?_
      rintro ⟨h, hwidth'⟩
      cases h
      exact hwidth hwidth'
  | fraction x => exact iff_of_false (fun h => by cases h) (fun h => by cases h.1)

theorem integer_read (c : Cursor) :
    (integer expected low high).read c =
      toValue c >>= fun c =>
        if c.peek = some (some '-') then readNumber false c.skip >>= judged expected low high
        else if (digitOf? c.peek).isSome then readNumber true c >>= judged expected low high
        else refuse expected c := by
  unfold integer
  dsimp only
  congr 1
  funext c
  congr 1
  · congr 1
    funext ⟨number, c⟩
    cases number <;> rfl
  · congr 2
    funext ⟨number, c⟩
    cases number <;> rfl

/-- A number that was read has the width. -/
theorem integer_yields {n : Int} (h : (integer expected low high).Yields n) : low ≤ n ∧ n ≤ high := by
  rcases h with ⟨c, c', hread⟩ | habsent
  · rw [integer_read] at hread
    obtain ⟨c, -, hread⟩ := bind_eq_ok.mp hread
    split at hread
    · obtain ⟨result, -, hjudge⟩ := bind_eq_ok.mp hread
      exact (judged_eq_ok.mp hjudge).2
    · split at hread
      · obtain ⟨result, -, hjudge⟩ := bind_eq_ok.mp hread
        exact (judged_eq_ok.mp hjudge).2
      · exact absurd hread refuse_ne_ok
  · cases habsent

theorem integer_faithful (hlow : leastSigned 64 ≤ low) (hhigh : high ≤ greatestUnsigned 64) :
    (integer expected low high).Faithful := by
  intro n hyields c rest hat hrest
  change c.At (toString n).toList rest at hat
  have hwidth := integer_yields hyields
  rw [integer_read]
  rcases Int.lt_or_le n 0 with hneg | hnonneg
  · obtain ⟨m, rfl⟩ := Int.exists_eq_neg_ofNat (Int.le_of_lt hneg)
    have hgreatest : (greatestSigned 64 : Int) = 9223372036854775807 := by decide
    have hleast : leastSigned 64 = -9223372036854775808 := by decide
    have hunsigned : greatestUnsigned 64 = 18446744073709551615 := by decide
    rw [toList_toString_neg (by omega)] at hat
    obtain ⟨c', hread, hrest'⟩ := readNumber_toDigits false hat.skip hrest (by omega)
      (fun _ => ⟨by omega, by rw [fitsSigned_iff]; omega⟩)
    refine ⟨c', ?_, hrest'⟩
    rw [hat.toValue (by decide), ok_bind, if_pos hat.peek, hread, ok_bind, judged_eq_ok]
    exact ⟨rfl, hwidth⟩
  · obtain ⟨m, rfl⟩ := Int.eq_ofNat_of_zero_le hnonneg
    rw [toList_toString_ofNat] at hat
    obtain ⟨d, digits, htext, hd⟩ := (isDigits_toDigits m).begins Nat.toDigits_ne_nil
    obtain ⟨hspace, -, -, hsign⟩ := plain_of_isDigit hd
    obtain ⟨c', hread, hrest'⟩ := readNumber_toDigits true hat hrest (by omega) (by simp)
    rw [htext] at hat
    have hdigit : (digitOf? c.peek).isSome = true := by
      rw [hat.peek, digitOf?, digitIn?_ten, if_pos hd]
      rfl
    refine ⟨c', ?_, hrest'⟩
    rw [hat.toValue hspace, ok_bind, if_neg (by simp [hat.peek, hsign]), if_pos hdigit, hread, ok_bind,
      judged_eq_ok]
    exact ⟨rfl, hwidth⟩

end Integers

theorem int64_faithful : int64.Faithful := integer_faithful (Int.le_refl _) (by decide)

theorem int32_faithful : int32.Faithful := integer_faithful (by decide) (by decide)

/-! ## Other forms of a type -/

section Forms

variable {codec : Codec α} {there : α → β} {back : β → α}

theorem Codec.Yields.of_imap {b : β} (h : (codec.imap there back).Yields b) :
    ∃ a, codec.Yields a ∧ there a = b := by
  rcases h with ⟨c, c', hread⟩ | habsent
  · obtain ⟨⟨a, c''⟩, hread, heq⟩ := map_eq_ok.mp hread
    cases heq
    exact ⟨a, Or.inl ⟨c, c', hread⟩, rfl⟩
  · obtain ⟨a, habsent, heq⟩ := Option.map_eq_some_iff.mp habsent
    exact ⟨a, Or.inr habsent, heq⟩

theorem Reads.imap {text : String} {a : α} (h : Reads codec.read text a) :
    Reads (codec.imap there back).read text (there a) := by
  intro c rest hat hrest
  obtain ⟨c', hread, hrest'⟩ := h c rest hat hrest
  refine ⟨c', ?_, hrest'⟩
  change (codec.read c).map _ = _
  rw [hread]
  rfl

/-- A type that is written as another is read back if it comes back from the values of the other. -/
theorem Codec.Faithful.imap (h : codec.Faithful) (hback : ∀ a, codec.Yields a → back (there a) = a) :
    (codec.imap there back).Faithful := by
  intro b hb
  obtain ⟨a, ha, rfl⟩ := hb.of_imap
  change Reads _ (codec.write (back (there a))) _
  rw [hback a ha]
  exact (h a ha).imap

theorem Codec.Plain.imap (h : codec.Plain) : (codec.imap there back).Plain := fun b => h (back b)

end Forms

theorem byte_faithful : byte.Faithful := by
  refine (integer_faithful (by decide) (by decide)).imap fun n hn => ?_
  have hwidth := integer_yields hn
  obtain ⟨m, rfl⟩ := Int.eq_ofNat_of_zero_le hwidth.1
  rw [Int.toNat_natCast, UInt8.toNat_ofNat_of_lt']
  change m < 256
  omega

theorem byte_plain : byte.Plain := integer_plain.imap

theorem count64_faithful : count64.Faithful := by
  refine (integer_faithful (by decide) (Int.le_refl _)).imap fun n hn => ?_
  exact Int.toNat_of_nonneg (integer_yields hn).1

/-! ## Values that may be null -/

section Optional

variable {codec : Codec α}

theorem Codec.Yields.of_optional {a : α} (h : (optional codec).Yields (some a)) : codec.Yields a := by
  rcases h with ⟨c, c', hread⟩ | habsent
  · change (if _ then _ else _) = _ at hread
    split at hread
    · obtain ⟨c'', -, heq⟩ := map_eq_ok.mp hread
      cases heq
    · obtain ⟨⟨b, c''⟩, hread, heq⟩ := map_eq_ok.mp hread
      cases heq
      exact Or.inl ⟨_, c', hread⟩
  · cases habsent

theorem optional_faithful (h : codec.Faithful) (hplain : codec.Plain) : (optional codec).Faithful := by
  intro value hvalue c rest hat hrest
  cases value with
  | none =>
    have htext : "null".toList = 'n' :: (['u', 'l', 'l'] ++ []) := by decide
    have hnull : c.At ('n' :: (['u', 'l', 'l'] ++ [])) rest := htext ▸ hat
    obtain ⟨c', hread, hat'⟩ := readIdent_of_at hnull.skip
    refine ⟨c', ?_, Cursor.at_nil.mp hat'⟩
    change (if c.skipSpace.peek = _ then _ else _) = _
    rw [hnull.skipSpace (by decide), if_pos hnull.peek, hread]
    rfl
  | some a =>
    change c.At (codec.write a).toList rest at hat
    obtain ⟨c', hread, hrest'⟩ := h a hvalue.of_optional c rest hat hrest
    obtain ⟨ch, text, htext, hspace, hnull, -⟩ := hplain a
    rw [htext] at hat
    refine ⟨c', ?_, hrest'⟩
    change (if c.skipSpace.peek = _ then _ else _) = _
    rw [hat.skipSpace hspace, if_neg (by simp [hat.peek, hnull]), hread]
    rfl

end Optional

/-! ## Choices -/

theorem choice_faithful {choices : List (String × α)} {name : α → String}
    (h : ∀ a, choose choices (name a) = .ok a) : (choice choices name).Faithful := by
  intro a _ c rest hat hrest
  have hquote : c.At (stringText (name a)).toList rest := hat
  rw [toList_stringText] at hquote
  obtain ⟨c', hread, hrest'⟩ :=
    @readText_stringText α "variant identifier" (choose choices) (name a) a (h a) c rest hat hrest
  refine ⟨c', ?_, hrest'⟩
  change (toValue c >>= fun c => _) = _
  rw [hquote.toValue (by decide), ok_bind]
  simp only [hquote.peek]
  exact hread

/-! ## Lists -/

section Separators

variable {c : Cursor} {ch : Char} {text : List Char} {rest : List Symbol} {first : Bool}

/-- What stands between an item and the one before. -/
def separator (first : Bool) : List Char := if first then [] else [',']

/-- Items with what stands between them. -/
def itemsText : Bool → List String → List Char
  | _, [] => []
  | first, item :: items => separator first ++ item.toList ++ itemsText false items

theorem toList_intercalate (items : List String) :
    (",".intercalate items).toList = itemsText true items := by
  cases items with
  | nil => rfl
  | cons item items =>
    induction items generalizing item with
    | nil => simp [itemsText, separator]
    | cons next items ih =>
      rw [String.intercalate_cons_cons, String.toList_append, String.toList_append, ih]
      simp [itemsText, separator]

theorem toList_arrayText (items : List String) :
    (arrayText items).toList = '[' :: (itemsText true items ++ [']']) := by
  rw [arrayText, String.toList_append, String.toList_append, toList_intercalate]
  rfl

theorem length_le_itemsText {items : List String} (h : ∀ item ∈ items, item.toList ≠ []) :
    items.length ≤ (itemsText first items).length := by
  induction items generalizing first with
  | nil => exact Nat.le_refl _
  | cons item items ih =>
    have hitem := List.length_pos_iff.mpr (h item List.mem_cons_self)
    have hitems := @ih false fun item hmem => h item (List.mem_cons_of_mem _ hmem)
    rw [itemsText, List.length_cons, List.length_append, List.length_append]
    omega

/-- A reader has enough fuel for the items in front of it. -/
theorem length_lt_of_at {bracket close : Char} {items : List String}
    (hitems : ∀ item ∈ items, item.toList ≠ [])
    (h : c.At (bracket :: (itemsText true items ++ [close])) rest) : items.length < c.rest.length + 1 := by
  have hle := @length_le_itemsText true items hitems
  rw [Cursor.At] at h
  simp only [h, List.length_append, List.length_map, List.length_cons]
  omega

/-- An item ends where the next one is told from it, or the bracket closes. -/
theorem ends_itemsText {close : Char} (hclose : close = ']' ∨ close = '\x7d') (items : List String) :
    Ends ((itemsText false items ++ [close]).map some ++ rest) := by
  intro s hs
  cases items with
  | nil => rcases hclose with rfl | rfl <;> cases hs <;> simp
  | cons item items =>
    cases hs
    simp

theorem nextElement_item (h : c.At (separator first ++ ch :: text) rest)
    (hspace : isSpace (some ch) = false) (hclose : ch ≠ ']') :
    ∃ c', nextElement first c = .ok (.element c') ∧ c'.At (ch :: text) rest := by
  cases first with
  | true =>
    have hat : c.At (ch :: text) rest := h
    refine ⟨c, ?_, hat⟩
    rw [nextElement, hat.skipSpace hspace, hat.peek]
    simp [hclose]
  | false =>
    have hat : c.At (',' :: ch :: text) rest := h
    refine ⟨c.skip, ?_, hat.skip⟩
    rw [nextElement, hat.skipSpace (by decide), hat.peek]
    simp [hat.skip.skipSpace hspace, hat.skip.peek, hclose]

theorem nextElement_close (h : c.At (']' :: text) rest) : nextElement first c = .ok (.close c) := by
  rw [nextElement, h.skipSpace (by decide), h.peek]
  rfl

theorem endList_of_at (h : c.At (']' :: text) rest) : endList c = (c.skip, none) := by
  rw [endList, h.skipSpace (by decide), h.peek]
  rfl

end Separators

section Lists

variable {codec : Codec α}

/-- The items of a list are read back one after the other. -/
theorem readItems_of_at (hplain : codec.Plain) {items : List α}
    (hitems : ∀ a ∈ items, Reads codec.read (codec.write a) a) {fuel : Nat}
    (hfuel : items.length < fuel) {first : Bool} {read : List α} {c : Cursor} {rest : List Symbol}
    (h : c.At (itemsText first (items.map codec.write) ++ [']']) rest) :
    ∃ c', readItems codec.read fuel first read c = .ok (read.reverse ++ items, c') ∧
      c'.At [']'] rest := by
  induction items generalizing fuel first read c with
  | nil =>
    obtain ⟨fuel, rfl⟩ := Nat.exists_eq_add_of_lt hfuel
    refine ⟨c, ?_, h⟩
    rw [readItems, nextElement_close h, List.append_nil]
    rfl
  | cons a items ih =>
    obtain ⟨fuel, rfl⟩ := Nat.exists_eq_add_of_lt hfuel
    obtain ⟨ch, text, htext, hspace, -, hclose⟩ := hplain a
    rw [List.map_cons, itemsText, htext, List.append_assoc, List.append_assoc, List.cons_append] at h
    obtain ⟨c', hnext, hat⟩ := nextElement_item h hspace hclose
    rw [← List.cons_append, ← htext, Cursor.at_append] at hat
    obtain ⟨c'', hread, hrest⟩ :=
      hitems a List.mem_cons_self c' _ hat (ends_itemsText (Or.inl rfl) _)
    rw [readItems, hnext, ok_bind]
    simp only [hread, ok_bind]
    rw [List.append_cons, ← List.reverse_cons]
    exact ih (fun b hb => hitems b (List.mem_cons_of_mem _ hb)) (by rw [List.length_cons]; omega) hrest

/-- The items of a list that was read were read. -/
theorem readItems_yields {fuel : Nat} {first : Bool} {read items : List α} {c c' : Cursor}
    (hread : ∀ a ∈ read, codec.Yields a)
    (h : readItems codec.read fuel first read c = .ok (items, c')) : ∀ a ∈ items, codec.Yields a := by
  induction fuel generalizing first read c with
  | zero => cases h
  | succ fuel ih =>
    rw [readItems] at h
    obtain ⟨ahead, -, h⟩ := bind_eq_ok.mp h
    cases ahead with
    | close c =>
      cases h
      simpa using hread
    | element c =>
      obtain ⟨⟨a, c''⟩, ha, h⟩ := bind_eq_ok.mp h
      refine ih ?_ h
      intro b hb
      rcases List.mem_cons.mp hb with rfl | hb
      · exact Or.inl ⟨c, c'', ha⟩
      · exact hread b hb

theorem closing_eq_ok {close : Cursor → Cursor × Option Error} {result : α × Cursor} {a : α} {c : Cursor}
    (h : closing close result = .ok (a, c)) : result.1 = a := by
  unfold closing at h
  split at h
  · cases h
    rfl
  · cases h

theorem Codec.Yields.of_listOf {items : List α} (h : (listOf codec).Yields items) :
    ∀ a ∈ items, codec.Yields a := by
  rcases h with ⟨c, c', hread⟩ | habsent
  · obtain ⟨c, -, hread⟩ := bind_eq_ok.mp hread
    split at hread
    · obtain ⟨⟨items', c''⟩, hitems, hclose⟩ := bind_eq_ok.mp hread
      rw [← closing_eq_ok hclose]
      exact readItems_yields (by simp) hitems
    · exact absurd hread refuse_ne_ok
  · cases habsent

theorem listOf_faithful (h : codec.Faithful) (hplain : codec.Plain) : (listOf codec).Faithful := by
  intro items hyields c rest hat hrest
  have hopen : c.At (arrayText (items.map codec.write)).toList rest := hat
  rw [toList_arrayText] at hopen
  have hitems : ∀ a ∈ items, Reads codec.read (codec.write a) a :=
    fun a ha => h a (hyields.of_listOf a ha)
  have hlength : items.length < c.rest.length + 1 := by
    rw [← List.length_map (f := codec.write)]
    refine length_lt_of_at (fun item hitem => ?_) hopen
    obtain ⟨a, -, rfl⟩ := List.mem_map.mp hitem
    obtain ⟨ch, text, htext, -⟩ := hplain a
    rw [htext]
    exact List.cons_ne_nil _ _
  obtain ⟨c', hread, hclose⟩ := readItems_of_at hplain hitems hlength hopen.skip
  refine ⟨c'.skip, ?_, Cursor.at_nil.mp hclose.skip⟩
  change (toValue c >>= fun c => _) = _
  rw [hopen.toValue (by decide), ok_bind, if_pos hopen.peek, hread, ok_bind, closing]
  simp only [endList_of_at hclose]
  rfl

end Lists

end DurableJobs.Json
