import DurableJobs.Proofs.Text.Utf8

/-!
# ASCII texts

A character below 128 is one byte, the byte of its number. So an ASCII text has as many bytes as characters
(`IsAscii.utf8`), and the bytes of two such texts are in the order of the texts (`IsAscii.utf8_lt_iff`).
-/

set_option autoImplicit false

namespace DurableJobs.Text

/-- A text of characters below 128. -/
def IsAscii (cs : List Char) : Prop := ∀ c ∈ cs, c.toNat < 0x80

theorem toNat_ofNat {n : Nat} (h : n.isValidChar) : (Char.ofNat n).toNat = n := by
  rw [Char.ofNat, dif_pos h]
  rfl

/-- What holds of the first 128 characters one by one holds of them all. -/
theorem forall_ascii {p : Char → Prop} (h : ∀ n < 0x80, p (Char.ofNat n)) {c : Char} (hc : c.toNat < 0x80) :
    p c := by
  have hp := h c.toNat hc
  rwa [Char.ofNat_toNat] at hp

/-- What holds of the characters of a text one by one holds of all in it. -/
theorem forall_of_all {p : Char → Prop} [DecidablePred p] {cs : List Char}
    (h : cs.all (fun c => decide (p c)) = true) : ∀ c ∈ cs, p c :=
  fun c hc => of_decide_eq_true (List.all_eq_true.mp h c hc)

section Bytes

variable {c d : Char} {cs ds : List Char}

@[simp]
theorem IsAscii.nil : IsAscii [] := by
  simp [IsAscii]

@[simp]
theorem isAscii_cons : IsAscii (c :: cs) ↔ c.toNat < 0x80 ∧ IsAscii cs := by
  simp [IsAscii]

@[simp]
theorem isAscii_append : IsAscii (cs ++ ds) ↔ IsAscii cs ∧ IsAscii ds := by
  simp [IsAscii, or_imp, forall_and]

/-- The byte of a character below 256. -/
def byteOf (c : Char) : UInt8 := UInt8.ofNat c.toNat

theorem byteOf_toNat (hc : c.toNat < 0x80) : (byteOf c).toNat = c.toNat := by
  rw [byteOf, toNat_byte (by omega)]

theorem ofNat_byteOf (hc : c.toNat < 0x80) : Char.ofNat (byteOf c).toNat = c := by
  rw [byteOf_toNat hc, Char.ofNat_toNat]

theorem utf8_of_ascii (hc : c.toNat < 0x80) : String.utf8EncodeChar c = [byteOf c] := by
  rw [String.utf8EncodeChar]
  exact if_pos (show c.toNat ≤ 127 by omega)

theorem IsAscii.utf8 (h : IsAscii cs) : cs.flatMap String.utf8EncodeChar = cs.map byteOf := by
  induction cs with
  | nil => rfl
  | cons c cs ih =>
    obtain ⟨hc, hcs⟩ := isAscii_cons.mp h
    rw [List.flatMap_cons, utf8_of_ascii hc, ih hcs, List.singleton_append, List.map_cons]

theorem byteOf_lt_iff (hc : c.toNat < 0x80) (hd : d.toNat < 0x80) : byteOf c < byteOf d ↔ c < d := by
  rw [UInt8.lt_iff_toNat_lt, byteOf_toNat hc, byteOf_toNat hd, Char.lt_def, UInt32.lt_iff_toNat_lt]
  rfl

theorem byteOf_inj (hc : c.toNat < 0x80) (hd : d.toNat < 0x80) : byteOf c = byteOf d ↔ c = d := by
  rw [← UInt8.toNat_inj, byteOf_toNat hc, byteOf_toNat hd, Char.toNat_inj]

/-- The bytes of two ASCII texts compare as the texts do. -/
theorem IsAscii.utf8_lt_iff (hcs : IsAscii cs) (hds : IsAscii ds) :
    cs.flatMap String.utf8EncodeChar < ds.flatMap String.utf8EncodeChar ↔ cs < ds := by
  rw [hcs.utf8, hds.utf8]
  induction cs generalizing ds with
  | nil => cases ds <;> simp
  | cons c cs ih =>
    cases ds with
    | nil => simp
    | cons d ds =>
      obtain ⟨hc, hcs⟩ := isAscii_cons.mp hcs
      obtain ⟨hd, hds⟩ := isAscii_cons.mp hds
      rw [List.map_cons, List.map_cons, List.cons_lt_cons_iff, List.cons_lt_cons_iff,
        byteOf_lt_iff hc hd, byteOf_inj hc hd, ih hcs hds]

end Bytes

end DurableJobs.Text
