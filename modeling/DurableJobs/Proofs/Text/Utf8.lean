import DurableJobs.Text.Utf8

/-!
# Text that went through its bytes

A character is written in one to four bytes by its number, and the number is what the reader of bytes puts together
again: each of the four lengths holds just the numbers that it is the shortest for. So the first character of a
text's bytes is the first character of the text (`firstChar?_utf8EncodeChar`), and reading the bytes gives the text
back (`symbolsOfBytes_utf8`, `readable_utf8`), which is known by them therefore (`utf8_inj`).
-/

set_option autoImplicit false

namespace DurableJobs.Text

/-! ## Bytes by their numbers -/

section Numbers

variable {n m : Nat}

theorem toNat_byte (h : n < 256) : (UInt8.ofNat n).toNat = n := by
  rw [UInt8.toNat_ofNat', Nat.mod_eq_of_lt h]

theorem byte_lt (hn : n < 256) (hm : m < 256) : UInt8.ofNat n < UInt8.ofNat m ↔ n < m := by
  rw [UInt8.lt_iff_toNat_lt, toNat_byte hn, toNat_byte hm]

theorem byte_le (hn : n < 256) (hm : m < 256) : UInt8.ofNat n ≤ UInt8.ofNat m ↔ n ≤ m := by
  rw [UInt8.le_iff_toNat_le, toNat_byte hn, toNat_byte hm]

theorem byte_inj (hn : n < 256) (hm : m < 256) : UInt8.ofNat n = UInt8.ofNat m ↔ n = m := by
  rw [← UInt8.toNat_inj, toNat_byte hn, toNat_byte hm]

theorem isTail_byte (h : n < 64) : isTail (UInt8.ofNat (n + 128)) = true := by
  rw [isTail, Bool.and_eq_true, decide_eq_true_eq, decide_eq_true_eq]
  exact ⟨(byte_le (n := 128) (by omega) (by omega)).mpr (by omega),
    (byte_lt (m := 192) (by omega) (by omega)).mpr (by omega)⟩

theorem tailBits_byte (h : n < 64) : tailBits (UInt8.ofNat (n + 128)) = n := by
  rw [tailBits, toNat_byte (by omega)]
  omega

/-- Whether a byte lies in a range, by numbers. -/
theorem between_byte {l : Nat} (hl : l < 256) (hn : n < 256) (hm : m < 256) :
    (decide (UInt8.ofNat l ≤ UInt8.ofNat n) && decide (UInt8.ofNat n < UInt8.ofNat m)) = true ↔ l ≤ n ∧ n < m := by
  rw [Bool.and_eq_true, decide_eq_true_eq, decide_eq_true_eq, byte_le hl hn, byte_lt hn hm]

end Numbers

/-! ## Characters by their lengths -/

section Lengths

variable {a b c d : Nat} (rest : List UInt8)

theorem firstChar?_one (ha : a < 128) : firstChar? (UInt8.ofNat a :: rest) = (charOf? a).map (·, 0) := by
  unfold firstChar?
  refine (if_pos ((byte_lt (m := 128) (by omega) (by omega)).mpr ha)).trans ?_
  rw [toNat_byte (by omega)]

theorem firstChar?_two (ha : 2 ≤ a ∧ a < 32) (hb : b < 64) :
    firstChar? (UInt8.ofNat (a + 192) :: UInt8.ofNat (b + 128) :: rest) = (charOf? (a * 64 + b)).map (·, 1) := by
  have hfirst : a + 192 < 256 := by omega
  unfold firstChar?
  refine (if_neg fun h => ?_).trans ((if_pos ?_).trans ?_)
  · exact absurd ((byte_lt (m := 128) hfirst (by omega)).mp h) (by omega)
  · exact (between_byte (l := 0xC2) (m := 0xE0) (by omega) hfirst (by omega)).mpr (by omega)
  dsimp only
  rw [isTail_byte hb, if_pos rfl, tailBits_byte hb, toNat_byte hfirst, show (a + 192) % 32 = a by omega]

theorem firstChar?_three (ha : a < 16) (hb : b < 64) (hc : c < 64) (hshort : a ≠ 0 ∨ 32 ≤ b) :
    firstChar? (UInt8.ofNat (a + 224) :: UInt8.ofNat (b + 128) :: UInt8.ofNat (c + 128) :: rest) =
      (charOf? (a * 4096 + b * 64 + c)).map (·, 2) := by
  have hfirst : a + 224 < 256 := by omega
  have hspelling : (UInt8.ofNat (a + 224) == 0xE0 && decide (UInt8.ofNat (b + 128) < 0xA0)) = false := by
    rw [Bool.and_eq_false_imp, beq_iff_eq, decide_eq_false_iff_not]
    intro h hlow
    have ha := (byte_inj (m := 224) hfirst (by omega)).mp h
    have hb := (byte_lt (m := 160) (by omega) (by omega)).mp hlow
    omega
  unfold firstChar?
  refine (if_neg fun h => ?_).trans ((if_neg fun h => ?_).trans ((if_pos ?_).trans ?_))
  · exact absurd ((byte_lt (m := 128) hfirst (by omega)).mp h) (by omega)
  · exact absurd ((between_byte (l := 0xC2) (m := 0xE0) (by omega) hfirst (by omega)).mp h) (by omega)
  · exact (between_byte (l := 0xE0) (m := 0xF0) (by omega) hfirst (by omega)).mpr (by omega)
  dsimp only
  rw [hspelling, isTail_byte hb, isTail_byte hc, if_pos (by decide), tailBits_byte hb, tailBits_byte hc, toNat_byte hfirst,
    show (a + 224) % 16 = a by omega]

theorem firstChar?_four (ha : a < 5) (hb : b < 64) (hc : c < 64) (hd : d < 64) (hshort : a ≠ 0 ∨ 16 ≤ b) :
    firstChar? (UInt8.ofNat (a + 240) :: UInt8.ofNat (b + 128) :: UInt8.ofNat (c + 128) :: UInt8.ofNat (d + 128) ::
        rest) =
      (charOf? (a * 262144 + b * 4096 + c * 64 + d)).map (·, 3) := by
  have hfirst : a + 240 < 256 := by omega
  have hspelling : (UInt8.ofNat (a + 240) == 0xF0 && decide (UInt8.ofNat (b + 128) < 0x90)) = false := by
    rw [Bool.and_eq_false_imp, beq_iff_eq, decide_eq_false_iff_not]
    intro h hlow
    have ha := (byte_inj (m := 240) hfirst (by omega)).mp h
    have hb := (byte_lt (m := 144) (by omega) (by omega)).mp hlow
    omega
  unfold firstChar?
  refine (if_neg fun h => ?_).trans ((if_neg fun h => ?_).trans ((if_neg fun h => ?_).trans ((if_pos ?_).trans ?_)))
  · exact absurd ((byte_lt (m := 128) hfirst (by omega)).mp h) (by omega)
  · exact absurd ((between_byte (l := 0xC2) (m := 0xE0) (by omega) hfirst (by omega)).mp h) (by omega)
  · exact absurd ((between_byte (l := 0xE0) (m := 0xF0) (by omega) hfirst (by omega)).mp h) (by omega)
  · exact (between_byte (l := 0xF0) (m := 0xF5) (by omega) hfirst (by omega)).mpr (by omega)
  dsimp only
  rw [hspelling, isTail_byte hb, isTail_byte hc, isTail_byte hd, if_pos (by decide), tailBits_byte hb, tailBits_byte hc,
    tailBits_byte hd, toNat_byte hfirst, show (a + 240) % 8 = a by omega]

end Lengths

/-! ## Texts -/

theorem charOf?_toNat (c : Char) : charOf? c.toNat = some c := dif_pos c.valid

/-- The first character of a text's bytes is the first of the text, and the rest is left. -/
theorem firstChar?_utf8EncodeChar (c : Char) (rest : List UInt8) :
    ∃ first tail, String.utf8EncodeChar c = first :: tail ∧
      firstChar? (first :: (tail ++ rest)) = some (c, tail.length) := by
  have hvalid : c.toNat < 0x110000 := by
    obtain h | h := c.valid
    · exact Nat.lt_trans h (by decide)
    · exact h.2
  have hchar {n : Nat} (h : n = c.toNat) (more : Nat) : (charOf? n).map (·, more) = some (c, more) := by
    rw [h, charOf?_toNat, Option.map_some]
  rw [String.utf8EncodeChar, show c.val.toNat = c.toNat from rfl]
  split
  next => exact ⟨_, [], rfl, (firstChar?_one rest (by omega)).trans (hchar rfl 0)⟩
  split
  next => exact ⟨_, [_], rfl, (firstChar?_two rest (by omega) (by omega)).trans (hchar (by omega) 1)⟩
  split
  next =>
    exact ⟨_, [_, _], rfl, (firstChar?_three rest (by omega) (by omega) (by omega) (by omega)).trans
      (hchar (by omega) 2)⟩
  next =>
    exact ⟨_, [_, _, _], rfl,
      (firstChar?_four rest (by omega) (by omega) (by omega) (by omega) (by omega)).trans (hchar (by omega) 3)⟩

/-- The bytes of a text are read as the text, character by character. -/
theorem symbolsOfBytes_utf8 (cs : List Char) : symbolsOfBytes (cs.flatMap String.utf8EncodeChar) = cs.map some := by
  induction cs with
  | nil => rw [List.flatMap_nil, symbolsOfBytes, List.map_nil]
  | cons c cs ih =>
    obtain ⟨first, tail, hbytes, hfirst⟩ := firstChar?_utf8EncodeChar c (cs.flatMap String.utf8EncodeChar)
    rw [List.flatMap_cons, hbytes, List.cons_append, symbolsOfBytes, hfirst]
    dsimp only
    rw [List.drop_left, ih, List.map_cons]

/-- In the bytes of a text nothing has to be replaced. -/
theorem readable_utf8 (cs : List Char) : readable (cs.flatMap String.utf8EncodeChar) = cs := by
  induction cs with
  | nil => rw [List.flatMap_nil, readable]
  | cons c cs ih =>
    obtain ⟨first, tail, hbytes, hfirst⟩ := firstChar?_utf8EncodeChar c (cs.flatMap String.utf8EncodeChar)
    rw [List.flatMap_cons, hbytes, List.cons_append, readable, hfirst]
    dsimp only
    rw [List.drop_left, ih]

theorem readable_bytesOfString (s : String) : readable (bytesOfString s) = s.toList :=
  readable_utf8 s.toList

/-- A text is known by its bytes. -/
theorem utf8_inj {cs ds : List Char} :
    cs.flatMap String.utf8EncodeChar = ds.flatMap String.utf8EncodeChar ↔ cs = ds := by
  refine ⟨fun h => ?_, congrArg _⟩
  rw [← readable_utf8 cs, h, readable_utf8]

end DurableJobs.Text
