import DurableJobs.Proofs.Text.Ascii
import DurableJobs.Url.Percent

/-!
# Percent encoding, there and back

An encoded text holds ASCII characters that may stand for themselves, percent signs and upper-case digits
(`mem_percentEncode`). None of the sets has percent signs or digits in it, so encoding does not change what has
been encoded (`Lasting.kept`, `Kept.percentEncode`); and the two digits behind a percent sign are decoded to the byte
they write (`percentDecode_percentByte`).
-/

set_option autoImplicit false

namespace DurableJobs.Url

open DurableJobs.Text

/-! ## Digits -/

theorem upperHex_ascii {d : Nat} (h : d < 16) :
    (upperHex d).toNat < 0x80 ∧ (upperHex d).isAlphanum = true ∧ hexValue? (upperHex d) = some d := by
  have hall : ∀ e < 16, (upperHex e).toNat < 0x80 ∧ (upperHex e).isAlphanum = true ∧
      hexValue? (upperHex e) = some e := by decide
  exact hall d h

theorem mem_percentByte {b : UInt8} {c : Char} (h : c ∈ percentByte b) : c = '%' ∨ ∃ d < 16, c = upperHex d := by
  have hb := b.toNat_lt
  rw [percentByte, List.mem_cons, List.mem_cons, List.mem_singleton] at h
  obtain rfl | rfl | rfl := h
  · exact .inl rfl
  · exact .inr ⟨_, by omega, rfl⟩
  · exact .inr ⟨_, by omega, rfl⟩

/-! ## Encoding -/

section Encoding

variable {set : EncodeSet} {cs : List Char} {c : Char}

theorem mem_percentEncode (h : c ∈ percentEncode set cs) :
    (c ∈ cs ∧ c.toNat < 0x80 ∧ set c = false) ∨ c = '%' ∨ ∃ d < 16, c = upperHex d := by
  obtain ⟨d, hd, hc⟩ := List.mem_flatMap.mp h
  rw [percentChar] at hc
  split at hc
  next hkept =>
    rw [List.mem_singleton] at hc
    subst hc
    exact .inl ⟨hd, hkept.1, by simpa using hkept.2⟩
  next =>
    obtain ⟨b, -, hb⟩ := List.mem_flatMap.mp hc
    exact .inr (mem_percentByte hb)

/-- Nothing of the text has to be encoded. -/
def Kept (set : EncodeSet) (cs : List Char) : Prop := ∀ c ∈ cs, c.toNat < 0x80 ∧ set c = false

instance : Decidable (Kept set cs) := List.decidableBAll _ _

theorem kept_nil : Kept set [] := fun _ h => absurd h List.not_mem_nil

/-- What holds of the ASCII characters outside a set one by one holds of all in such a text. -/
theorem Kept.all {p : Char → Prop} (h : Kept set cs)
    (hset : ∀ n < 0x80, set (Char.ofNat n) = false → p (Char.ofNat n)) : ∀ c ∈ cs, p c :=
  fun c hc => forall_ascii (p := fun c => set c = false → p c) hset (h c hc).1 (h c hc).2

/-- Text that need not be encoded is not. -/
theorem Kept.percentEncode (h : Kept set cs) : percentEncode set cs = cs := by
  induction cs with
  | nil => rfl
  | cons c cs ih =>
    obtain ⟨hc, hcs⟩ := List.forall_mem_cons.mp h
    rw [Url.percentEncode, List.flatMap_cons, percentChar, if_pos ⟨hc.1, by rw [hc.2]; rfl⟩]
    exact congrArg (c :: ·) (ih hcs)

/-- A set that encoded text may hold. -/
def Lasting (set : EncodeSet) : Prop := set '%' = false ∧ ∀ d < 16, set (upperHex d) = false

instance (set : EncodeSet) : Decidable (Lasting set) :=
  inferInstanceAs (Decidable (_ ∧ _))

/-- Encoded text need not be encoded again. -/
theorem Lasting.kept (hset : Lasting set) : Kept set (percentEncode set cs) := by
  intro c h
  obtain ⟨-, hkept⟩ | rfl | ⟨d, hd, rfl⟩ := mem_percentEncode h
  · exact hkept
  · exact ⟨by decide, hset.1⟩
  · exact ⟨(upperHex_ascii hd).1, hset.2 d hd⟩

end Encoding

/-! ## Decoding -/

/-- A byte that is no percent sign stands for itself. -/
theorem percentDecode_cons {b : UInt8} (h : b ≠ 0x25) (rest : List UInt8) :
    percentDecode (b :: rest) = b :: percentDecode rest := by
  match rest with
  | [] => rfl
  | [_] => rfl
  | c :: d :: rest => rw [percentDecode, if_neg h]

theorem percentDecode_of_not_mem {bytes : List UInt8} (h : 0x25 ∉ bytes) : percentDecode bytes = bytes := by
  induction bytes with
  | nil => rfl
  | cons b bytes ih =>
    rw [percentDecode_cons fun heq => h (heq ▸ List.mem_cons_self), ih fun hmem => h (List.mem_cons_of_mem _ hmem)]

/-- A byte is decoded from the text that writes it. -/
theorem percentDecode_percentByte (b : UInt8) (rest : List UInt8) :
    percentDecode ((percentByte b).map byteOf ++ rest) = b :: percentDecode rest := by
  have hb := b.toNat_lt
  obtain ⟨hhigh, -, hhighValue⟩ := upperHex_ascii (d := b.toNat / 16) (by omega)
  obtain ⟨hlow, -, hlowValue⟩ := upperHex_ascii (d := b.toNat % 16) (by omega)
  simp only [percentByte, List.map_cons, List.map_nil, List.cons_append, List.nil_append]
  rw [percentDecode, if_pos (by decide), ofNat_byteOf hhigh, ofNat_byteOf hlow, hhighValue, hlowValue]
  dsimp only
  rw [show b.toNat / 16 * 16 + b.toNat % 16 = b.toNat by omega, UInt8.ofNat_toNat]

end DurableJobs.Url
