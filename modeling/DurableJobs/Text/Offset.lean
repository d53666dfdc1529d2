/-!
# Offsets in bytes

Where a text is cut at an offset that counts its bytes. An offset may lie inside a character, and there a
text cannot be cut.
-/

set_option autoImplicit false

namespace DurableJobs.Text

/-- How many bytes a text takes. -/
def byteLength : List Char → Nat
  | [] => 0
  | c :: cs => c.utf8Size + byteLength cs

/-- What stands before and behind an offset, if a character ends there. -/
def cutAtByte? : Nat → List Char → Option (List Char × List Char)
  | 0, cs => some ([], cs)
  | _ + 1, [] => none
  | offset + 1, c :: cs =>
      if c.utf8Size ≤ offset + 1 then
        (cutAtByte? (offset + 1 - c.utf8Size) cs).map fun cut => (c :: cut.1, cut.2)
      else none

/-- The offset of the first character of a class. -/
def offsetOf? (inClass : Char → Bool) : List Char → Option Nat
  | [] => none
  | c :: cs => if inClass c then some 0 else (offsetOf? inClass cs).map (c.utf8Size + ·)

variable {c : Char} {cs : List Char}

@[simp]
theorem byteLength_nil : byteLength [] = 0 := rfl

@[simp]
theorem byteLength_cons : byteLength (c :: cs) = c.utf8Size + byteLength cs := rfl

@[simp]
theorem byteLength_append (front back : List Char) :
    byteLength (front ++ back) = byteLength front + byteLength back := by
  induction front with
  | nil => exact (Nat.zero_add _).symm
  | cons c front ih => rw [List.cons_append, byteLength_cons, byteLength_cons, ih, Nat.add_assoc]

/-- Behind whole characters a text can be cut. -/
theorem cutAtByte?_append (front back : List Char) :
    cutAtByte? (byteLength front) (front ++ back) = some (front, back) := by
  induction front with
  | nil => rw [byteLength_nil, List.nil_append, cutAtByte?]
  | cons c front ih =>
    obtain ⟨size, hsize⟩ : ∃ size, c.utf8Size = size + 1 :=
      ⟨c.utf8Size - 1, (Nat.sub_add_cancel c.utf8Size_pos).symm⟩
    have hrest : size + byteLength front + 1 - (size + 1) = byteLength front := by omega
    rw [byteLength_cons, hsize, Nat.add_right_comm, List.cons_append, cutAtByte?, hsize,
      if_pos (by omega), hrest, ih]
    rfl

/-- The first character of a class stands behind all that are in front of it, or there is none. -/
theorem offsetOf?_getD (inClass : Char → Bool) (cs : List Char) :
    (offsetOf? inClass cs).getD (byteLength cs) = byteLength (cs.takeWhile fun c => !inClass c) := by
  induction cs with
  | nil => rfl
  | cons c cs ih =>
    rw [offsetOf?, List.takeWhile_cons]
    cases inClass c with
    | true => rfl
    | false =>
      rw [if_neg Bool.false_ne_true, Bool.not_false, if_pos rfl, byteLength_cons, byteLength_cons, ← ih]
      cases offsetOf? inClass cs <;> rfl

end DurableJobs.Text
