import DurableJobs.Proofs.Text.Pieces
import DurableJobs.Proofs.Url.Percent
import DurableJobs.Url.Form

/-!
# Query pairs are read as they were written

An encoded name or value is ASCII and holds none of the characters that a query is cut at (`formByte_plain`), and
it decodes to the bytes it stands for, whatever they are (`formDecode_formEncode`). So a pair that is put
behind the pairs of a query, be they what they may, is the last of the pairs that are read
(`formPairs_appendPair`).
-/

set_option autoImplicit false

namespace DurableJobs.Url

open DurableJobs.Text

/-! ## Names and values -/

/-- What an encoded byte may be made of: nothing that ends a name, a pair or a query. -/
theorem formByte_plain (b : UInt8) {c : Char} (h : c ∈ formByte b) :
    c.toNat < 0x80 ∧ c ≠ '&' ∧ c ≠ '=' ∧ c ≠ '#' ∧ c ≠ '?' := by
  have hall : ∀ n < 256, (formByte (UInt8.ofNat n)).all
      (fun c => decide (c.toNat < 0x80 ∧ c ≠ '&' ∧ c ≠ '=' ∧ c ≠ '#' ∧ c ≠ '?')) = true := by decide +kernel
  have hb := hall b.toNat b.toNat_lt
  rw [UInt8.ofNat_toNat] at hb
  exact forall_of_all hb c h

theorem mem_formEncode {s : String} {c : Char} (h : c ∈ formEncode s) :
    c.toNat < 0x80 ∧ c ≠ '&' ∧ c ≠ '=' ∧ c ≠ '#' ∧ c ≠ '?' := by
  obtain ⟨b, -, hb⟩ := List.mem_flatMap.mp h
  exact formByte_plain b hb

theorem formSafe_ne {b : UInt8} (h : formSafe b = true) : b.toNat < 0x80 ∧ b ≠ 0x2B ∧ b ≠ 0x25 := by
  have hall : ∀ n < 256, formSafe (UInt8.ofNat n) = true →
      (UInt8.ofNat n).toNat < 0x80 ∧ UInt8.ofNat n ≠ 0x2B ∧ UInt8.ofNat n ≠ 0x25 := by decide +kernel
  have hb := hall b.toNat b.toNat_lt
  rw [UInt8.ofNat_toNat] at hb
  exact hb h

/-- Plus signs are blanks before anything is decoded. -/
def plusToBlank (b : UInt8) : UInt8 := if b = 0x2B then 0x20 else b

theorem plusToBlank_upperHex {d : Nat} (h : d < 16) : plusToBlank (byteOf (upperHex d)) = byteOf (upperHex d) := by
  have hall : ∀ e < 16, plusToBlank (byteOf (upperHex e)) = byteOf (upperHex e) := by decide
  exact hall d h

/-- An encoded byte is decoded, and the rest after it. -/
theorem percentDecode_formByte (b : UInt8) (rest : List UInt8) :
    percentDecode (((formByte b).map byteOf).map plusToBlank ++ rest) = b :: percentDecode rest := by
  rw [formByte]
  split
  next hsafe =>
    obtain ⟨hascii, hplus, hpercent⟩ := formSafe_ne hsafe
    have hbyte : byteOf (Char.ofNat b.toNat) = b := by
      rw [byteOf, toNat_ofNat (.inl (by omega)), UInt8.ofNat_toNat]
    rw [List.map_singleton, List.map_singleton, hbyte, plusToBlank, if_neg hplus, List.singleton_append,
      percentDecode_cons hpercent]
  next =>
    split
    next hblank =>
      rw [hblank]
      exact percentDecode_cons (by decide) rest
    next =>
      have hb := b.toNat_lt
      have hplain : ((percentByte b).map byteOf).map plusToBlank = (percentByte b).map byteOf := by
        simp only [percentByte, List.map_cons, List.map_nil, plusToBlank_upperHex (d := b.toNat / 16) (by omega),
          plusToBlank_upperHex (d := b.toNat % 16) (by omega)]
        rfl
      rw [hplain, percentDecode_percentByte]

/-- An encoded text is decoded to its bytes. -/
theorem formDecode_formEncode (s : String) : formDecode (formEncode s) = bytesOfString s := by
  have hascii : IsAscii (formEncode s) := fun c hc => (mem_formEncode hc).1
  rw [formDecode, hascii.utf8]
  change percentDecode (((formBytes (bytesOfString s)).map byteOf).map plusToBlank) = bytesOfString s
  induction bytesOfString s with
  | nil => rfl
  | cons b bytes ih =>
    rw [formBytes, List.flatMap_cons, List.map_append, List.map_append, percentDecode_formByte]
    exact congrArg (b :: ·) ih

/-! ## Pairs -/

section Pairs

variable (name value : String)

theorem equals_not_mem_formEncode (s : String) : '=' ∉ formEncode s := fun h => (mem_formEncode h).2.2.1 rfl

theorem mem_formPair {name value : String} {c : Char} (h : c ∈ formPair name value) :
    c.toNat < 0x80 ∧ c ≠ '&' ∧ c ≠ '#' ∧ c ≠ '?' := by
  rw [formPair, List.mem_append, List.mem_cons] at h
  obtain h | rfl | h := h
  · have := mem_formEncode h
    exact ⟨this.1, this.2.1, this.2.2.2⟩
  · decide
  · have := mem_formEncode h
    exact ⟨this.1, this.2.1, this.2.2.2⟩

theorem formPair_ne_nil : formPair name value ≠ [] := by
  rw [formPair]
  exact List.append_ne_nil_of_right_ne_nil _ (List.cons_ne_nil _ _)

/-- The parts of a query with a pair put behind end with the pair. -/
theorem splitOn_appendPair (query : Option (List Char)) :
    ∃ before, splitOn '&' (appendPair query name value) = before ++ [formPair name value] := by
  have hpair : splitOn '&' (formPair name value) = [formPair name value] :=
    splitOn_of_not_mem fun h => (mem_formPair h).2.1 rfl
  unfold appendPair
  split
  · exact ⟨[], hpair⟩
  · exact ⟨[], hpair⟩
  next pairs _ => exact ⟨splitOn '&' pairs, by rw [splitOn_append_cons, hpair]⟩

/-- The pair that is put behind a query is the last that is read of it. -/
theorem formPairs_appendPair (query : Option (List Char)) :
    (formPairs (appendPair query name value)).getLast? = some (bytesOfString name, bytesOfString value) := by
  obtain ⟨before, hsplit⟩ := splitOn_appendPair name value query
  have hkept : [formPair name value].filter (fun part => !part.isEmpty) = [formPair name value] := by
    simp [formPair_ne_nil]
  rw [formPairs, hsplit, List.filter_append, hkept, List.map_append, List.map_singleton, List.getLast?_append,
    List.getLast?_singleton, Option.some_or]
  rw [formPair, takeWhile_ne_append (equals_not_mem_formEncode name),
    dropWhile_ne_append (equals_not_mem_formEncode name), List.drop_succ_cons, List.drop_zero,
    formDecode_formEncode, formDecode_formEncode]

/-- No pair puts a number sign into a query. -/
theorem hash_not_mem_appendPair {query : Option (List Char)} {name value : String}
    (h : ∀ q, query = some q → '#' ∉ q) : '#' ∉ appendPair query name value := by
  have hpair : '#' ∉ formPair name value := fun hmem => (mem_formPair hmem).2.2.1 rfl
  unfold appendPair
  split
  · exact hpair
  · exact hpair
  next pairs _ =>
    rw [List.mem_append, List.mem_cons, not_or, not_or]
    exact ⟨h pairs rfl, by decide, hpair⟩

end Pairs

end DurableJobs.Url
