import DurableJobs.Proofs.Text.Pieces
import DurableJobs.Proofs.Text.Reading
import DurableJobs.Url.Address

/-!
# Internet addresses are read from their texts

The canonical text of an address is read as the address: of version 4, because its four numbers are written in
decimal and without zeros in front, which would make them octal (`lenientV4?_v4Text`); of version 6, because the
one `::` it may have stands for a run of zeros that the pieces at its sides leave room for (`v6?_v6Text`). What
is read is in the range of its version, so it has such a text.
-/

set_option autoImplicit false

namespace DurableJobs.Address

open DurableJobs.Text

/-! ## Numbers -/

theorem numberIn?_toDigits_ten (n : Nat) : numberIn? 10 (Nat.toDigits 10 n) = some n := by
  rw [(isDigits_toDigits n).numberIn?, if_neg (by simp [Nat.toDigits_ne_nil]), Nat.ofDigitChars_ten_toDigits]

theorem digitIn?_lt {base d : Nat} {c : Char} (h : digitIn? base c = some d) : d < base := by
  rw [digitIn?, Option.filter_eq_some_iff] at h
  exact of_decide_eq_true h.2

/-- A number is below the power of its base that its length allows. -/
theorem numberIn?_lt {base n : Nat} {cs : List Char} (h : numberIn? base cs = some n) : n < Nat.pow base cs.length := by
  rw [numberIn?] at h
  split at h
  · cases h
  · rw [Option.map_eq_some_iff] at h
    obtain ⟨ds, hds, rfl⟩ := h
    have hall := mapM_eq_some.mp hds
    rw [hall.length_eq]
    refine ofDigits_lt fun d hd => ?_
    obtain ⟨c, -, hc⟩ := exists_of_mem_forall₂ hall hd
    exact digitIn?_lt hc

/-! ## Version 4 -/

/-- The four bytes of a value, the highest first. -/
def v4Bytes (value : Nat) : List Nat :=
  [value / Nat.pow 256 3 % 256, value / Nat.pow 256 2 % 256, value / Nat.pow 256 1 % 256, value / Nat.pow 256 0 % 256]

theorem v4Text_eq (value : Nat) : v4Text value = ['.'].intercalate ((v4Bytes value).map (Nat.toDigits 10)) := by
  simp [v4Text, v4Bytes, List.intercalate_cons_cons]

theorem dot_not_mem_toDigits (n : Nat) : '.' ∉ Nat.toDigits 10 n :=
  fun h => absurd (isDigits_toDigits n '.' h) (by decide)

theorem dottedParts_v4Text (value : Nat) : dottedParts (v4Text value) = (v4Bytes value).map (Nat.toDigits 10) := by
  have hsplit : splitOn '.' (v4Text value) = (v4Bytes value).map (Nat.toDigits 10) := by
    rw [v4Text_eq, splitOn_intercalate (by simp [v4Bytes])]
    intro part hpart
    obtain ⟨n, -, rfl⟩ := List.mem_map.mp hpart
    exact dot_not_mem_toDigits n
  rw [dottedParts, hsplit]
  exact if_neg (by simp [v4Bytes, Nat.toDigits_ne_nil])

theorem lenientNumber?_toDigits (n : Nat) : lenientNumber? (Nat.toDigits 10 n) = some n := by
  unfold lenientNumber?
  split
  next x rest heq => exact absurd (eq_nil_of_toDigits heq) (List.cons_ne_nil _ _)
  next => exact numberIn?_toDigits_ten n

theorem endsInNumber_v4Text (value : Nat) : endsInNumber (v4Text value) = true := by
  rw [endsInNumber, dottedParts_v4Text]
  simp [v4Bytes, lenientNumber?_toDigits]

theorem lenientV4?_v4Text {value : Nat} (h : value < Nat.pow 256 4) : lenientV4? (v4Text value) = some value := by
  have hnumbers : ((v4Bytes value).map (Nat.toDigits 10)).mapM lenientNumber? = some (v4Bytes value) := by
    rw [mapM_eq_some, List.forall₂_map_left_iff, List.forall₂_same]
    exact fun n _ => lenientNumber?_toDigits n
  rw [lenientV4?, dottedParts_v4Text, hnumbers]
  have hvalue : value < 4294967296 := h
  simp [v4Bytes, ofDigits]
  omega

/-- An address that is read is one of 32 bits. -/
theorem lenientV4?_lt {cs : List Char} {value : Nat} (h : lenientV4? cs = some value) : value < Nat.pow 256 4 := by
  rw [lenientV4?] at h
  dsimp only at h
  split at h
  · cases h
  next hcount =>
    obtain ⟨numbers, hnumbers, h⟩ := Option.bind_eq_some_iff.mp h
    obtain ⟨last, hlast, h⟩ := Option.bind_eq_some_iff.mp h
    split at h
    next hsmall =>
      cases h
      have hlength := (mapM_eq_some.mp hnumbers).length_eq
      have hfirst := ofDigits_lt fun d hd => of_decide_eq_true (List.all_eq_true.mp hsmall.1 d hd)
      have hle : numbers.dropLast.length ≤ 4 := by
        rw [List.length_dropLast]
        omega
      generalize numbers.dropLast = first at *
      calc ofDigits 256 first * Nat.pow 256 (4 - first.length) + last
          < ofDigits 256 first * Nat.pow 256 (4 - first.length) + Nat.pow 256 (4 - first.length) :=
            Nat.add_lt_add_left hsmall.2 _
        _ = (ofDigits 256 first + 1) * Nat.pow 256 (4 - first.length) := (Nat.succ_mul _ _).symm
        _ ≤ Nat.pow 256 first.length * Nat.pow 256 (4 - first.length) := Nat.mul_le_mul_right _ hfirst
        _ = Nat.pow 256 4 := (Nat.pow_add 256 _ _).symm.trans (congrArg _ (Nat.add_sub_cancel' hle))
    next => cases h

theorem mem_v4Text {value : Nat} {c : Char} (h : c ∈ v4Text value) : c.isDigit = true ∨ c = '.' := by
  rw [v4Text_eq] at h
  obtain rfl | ⟨part, hpart, hc⟩ := mem_intercalate h
  · exact .inr rfl
  · obtain ⟨n, -, rfl⟩ := List.mem_map.mp hpart
    exact .inl (isDigits_toDigits n c hc)

/-! ## Version 6 -/

theorem digitIn?_digitChar {d : Nat} (h : d < 16) : digitIn? 16 (Nat.digitChar d) = some d := by
  have hall : ∀ e < 16, digitIn? 16 (Nat.digitChar e) = some e := by decide
  exact hall d h

/-- The digits of a piece, as characters and as numbers. -/
theorem pieceText_digits (n : Nat) : ∃ ds, (pieceText n).mapM (digitIn? 16) = some ds ∧ ofDigits 16 ds = n := by
  induction n using Nat.strongRecOn with
  | ind n ih =>
    rw [pieceText, Nat.toDigits_eq_if (by decide)]
    split
    next hsmall =>
      refine ⟨[n], ?_, by simp [ofDigits]⟩
      rw [mapM_eq_some]
      exact .cons (digitIn?_digitChar hsmall) .nil
    next hlarge =>
      obtain ⟨ds, hds, hvalue⟩ := ih (n / 16) (by omega)
      refine ⟨ds ++ [n % 16], ?_, ?_⟩
      · rw [List.mapM_append, show Nat.toDigits 16 (n / 16) = pieceText (n / 16) from rfl, hds, List.mapM_cons,
          digitIn?_digitChar (Nat.mod_lt _ (by decide))]
        rfl
      · rw [ofDigits, List.foldl_append, ← ofDigits, hvalue, List.foldl_cons, List.foldl_nil]
        omega

theorem mem_pieceText {n : Nat} {c : Char} (h : c ∈ pieceText n) : ∃ d < 16, c = Nat.digitChar d := by
  induction n using Nat.strongRecOn with
  | ind n ih =>
    rw [pieceText, Nat.toDigits_eq_if (by decide)] at h
    split at h
    next hsmall => exact ⟨n, hsmall, List.mem_singleton.mp h⟩
    next hlarge =>
      obtain h | h := List.mem_append.mp h
      · exact ih (n / 16) (by omega) h
      · exact ⟨n % 16, Nat.mod_lt _ (by decide), List.mem_singleton.mp h⟩

theorem digitChar_plain {d : Nat} (h : d < 16) :
    Nat.digitChar d ≠ ':' ∧ Nat.digitChar d ≠ '.' ∧ (Nat.digitChar d).isAlphanum = true := by
  have hall : ∀ e < 16, Nat.digitChar e ≠ ':' ∧ Nat.digitChar e ≠ '.' ∧ (Nat.digitChar e).isAlphanum = true := by
    decide
  exact hall d h

theorem colon_not_mem_pieceText (n : Nat) : ':' ∉ pieceText n := by
  intro h
  obtain ⟨d, hd, heq⟩ := mem_pieceText h
  exact (digitChar_plain hd).1 heq.symm

theorem pieceOfText?_pieceText {n : Nat} (h : n < 65536) : pieceOfText? (pieceText n) = some n := by
  obtain ⟨ds, hds, hvalue⟩ := pieceText_digits n
  have hlength : ¬ 4 < (pieceText n).length := by
    rw [pieceText, Nat.not_lt, Nat.length_toDigits_le_iff (by decide) (by decide)]
    exact h
  have hne : (pieceText n).isEmpty = false := by
    rw [List.isEmpty_eq_false_iff]
    exact Nat.toDigits_ne_nil
  rw [pieceOfText?, if_neg hlength, numberIn?, hne, hds, Option.map_some, hvalue]
  rfl

/-- The pieces of a text that the canonical text has between its colons. -/
theorem piecesOfTexts?_pieceText (dotted : Bool) {pieces : List Nat} (h : ∀ piece ∈ pieces, piece < 65536) :
    piecesOfTexts? dotted (pieces.map pieceText) = some pieces := by
  have hdot (n : Nat) : (pieceText n).contains '.' = false := by
    rw [List.contains_eq_mem, decide_eq_false_iff_not]
    intro hmem
    obtain ⟨d, hd, heq⟩ := mem_pieceText hmem
    exact (digitChar_plain hd).2.1 heq.symm
  induction pieces with
  | nil => rfl
  | cons piece pieces ih =>
    obtain ⟨hpiece, hrest⟩ := List.forall_mem_cons.mp h
    cases pieces with
    | nil =>
      rw [List.map_cons, List.map_nil, piecesOfTexts?, hdot, pieceOfText?_pieceText hpiece]
      simp
    | cons next pieces =>
      rw [List.map_cons, piecesOfTexts?, pieceOfText?_pieceText hpiece, ih hrest]
      · rfl
      · exact List.cons_ne_nil _ _

theorem splitOn_piecesText {pieces : List Nat} (hne : pieces ≠ []) :
    splitOn ':' (piecesText pieces) = pieces.map pieceText := by
  rw [piecesText, splitOn_intercalate (by simpa using hne)]
  intro part hpart
  obtain ⟨n, -, rfl⟩ := List.mem_map.mp hpart
  exact colon_not_mem_pieceText n

theorem piecesText_cons_cons (piece next : Nat) (pieces : List Nat) :
    piecesText (piece :: next :: pieces) = pieceText piece ++ ':' :: piecesText (next :: pieces) := by
  rw [piecesText, List.map_cons, List.map_cons, List.intercalate_cons_cons, List.append_assoc]
  rfl

/-- The text of pieces begins with a digit of the first. -/
theorem piecesText_begins (piece : Nat) (pieces : List Nat) :
    ∃ c text, piecesText (piece :: pieces) = c :: text ∧ c ≠ ':' := by
  obtain ⟨c, word, hword⟩ := List.exists_cons_of_ne_nil (show pieceText piece ≠ [] from Nat.toDigits_ne_nil)
  have hc : c ≠ ':' := fun heq =>
    colon_not_mem_pieceText piece (by rw [hword, heq]; exact List.mem_cons_self)
  cases pieces with
  | nil => exact ⟨c, word, by rw [piecesText, List.map_cons, List.map_nil, List.intercalate_singleton, hword], hc⟩
  | cons next pieces => exact ⟨c, _, by rw [piecesText_cons_cons, hword, List.cons_append], hc⟩

theorem sideOfText?_piecesText (dotted : Bool) {pieces : List Nat} (h : ∀ piece ∈ pieces, piece < 65536) :
    sideOfText? dotted (piecesText pieces) = some pieces := by
  rw [sideOfText?]
  cases pieces with
  | nil => rfl
  | cons piece pieces =>
    obtain ⟨c, text, heq, -⟩ := piecesText_begins piece pieces
    rw [if_neg (by rw [heq]; exact Bool.false_ne_true), splitOn_piecesText (List.cons_ne_nil _ _),
      piecesOfTexts?_pieceText dotted h]

theorem mem_piecesText {pieces : List Nat} {c : Char} (h : c ∈ piecesText pieces) :
    c.isAlphanum = true ∨ c = ':' := by
  obtain rfl | ⟨part, hpart, hc⟩ := mem_intercalate h
  · exact .inr rfl
  · obtain ⟨n, -, rfl⟩ := List.mem_map.mp hpart
    obtain ⟨d, hd, rfl⟩ := mem_pieceText hc
    exact .inl (digitChar_plain hd).2.2

/-! ### The gap -/

theorem splitAtGap?_cons {c : Char} {rest : List Char} (h : c = ':' → rest.head? ≠ some ':') :
    splitAtGap? (c :: rest) = (splitAtGap? rest).map fun (front, back) => (c :: front, back) := by
  rw [splitAtGap?]
  rintro behind rfl rfl
  exact h rfl rfl

/-- What holds no colon is passed on the way to the gap. -/
theorem splitAtGap?_append {word rest : List Char} (h : ':' ∉ word) :
    splitAtGap? (word ++ rest) = (splitAtGap? rest).map fun (front, back) => (word ++ front, back) := by
  induction word with
  | nil =>
    rw [List.nil_append]
    cases splitAtGap? rest <;> rfl
  | cons c word ih =>
    have hc : c ≠ ':' := fun heq => h (heq ▸ List.mem_cons_self)
    rw [List.cons_append, splitAtGap?_cons fun heq => absurd heq hc,
      ih fun hmem => h (List.mem_cons_of_mem _ hmem), Option.map_map]
    rfl

/-- There is no gap between pieces. -/
theorem splitAtGap?_piecesText (pieces : List Nat) (rest : List Char) :
    splitAtGap? (piecesText pieces ++ rest) =
      (splitAtGap? rest).map fun (front, back) => (piecesText pieces ++ front, back) := by
  induction pieces with
  | nil => cases h : splitAtGap? rest <;> simp [piecesText, h]
  | cons piece pieces ih =>
    cases pieces with
    | nil =>
      rw [piecesText, List.map_cons, List.map_nil, List.intercalate_singleton]
      exact splitAtGap?_append (colon_not_mem_pieceText piece)
    | cons next pieces =>
      obtain ⟨c, text, heq, hc⟩ := piecesText_begins next pieces
      have hhead : (piecesText (next :: pieces) ++ rest).head? ≠ some ':' := by
        rw [heq]
        exact fun h => hc (Option.some.inj h)
      rw [piecesText_cons_cons, List.append_assoc, splitAtGap?_append (colon_not_mem_pieceText piece),
        List.cons_append, splitAtGap?_cons fun _ => hhead, ih, Option.map_map, Option.map_map]
      simp only [Function.comp_def, List.append_assoc, List.cons_append]

theorem zerosAhead_spec (pieces : List Nat) :
    ∃ back, pieces = List.replicate (zerosAhead pieces) 0 ++ back := by
  have hzeros : pieces.takeWhile (· == 0) = List.replicate (zerosAhead pieces) 0 :=
    List.eq_replicate_iff.mpr ⟨rfl, fun _ hpiece => by simpa using List.mem_takeWhile_imp hpiece⟩
  exact ⟨pieces.dropWhile (· == 0), by rw [← hzeros, List.takeWhile_append_dropWhile]⟩

/-- The longest run of zeros is a run of zeros. -/
theorem longestRun_spec (at_ : Nat) (pieces : List Nat) (h : 0 < (longestRun at_ pieces).2) :
    ∃ front back, pieces = front ++ List.replicate (longestRun at_ pieces).2 0 ++ back ∧
      (longestRun at_ pieces).1 = at_ + front.length := by
  induction pieces generalizing at_ with
  | nil => exact absurd h (Nat.lt_irrefl 0)
  | cons piece pieces ih =>
    rw [longestRun] at h ⊢
    split at h
    next hhere =>
      obtain ⟨back, hback⟩ := zerosAhead_spec (piece :: pieces)
      exact ⟨[], back, by rw [if_pos hhere]; exact hback, by rw [if_pos hhere]; rfl⟩
    next hlater =>
      obtain ⟨front, back, hpieces, hstart⟩ := ih (at_ + 1) h
      refine ⟨piece :: front, back, ?_, ?_⟩
      · rw [if_neg hlater, List.cons_append, List.cons_append, ← hpieces]
      · rw [if_neg hlater, hstart, List.length_cons]
        omega

/-- Pieces at the sides of a gap are read with as many zeros between them as are missing. -/
theorem v6?_gap {front back : List Nat} {run : Nat} (hfront : ∀ piece ∈ front, piece < 65536)
    (hback : ∀ piece ∈ back, piece < 65536) (hcount : front.length + run + back.length = 8) (hrun : 0 < run) :
    v6? (piecesText front ++ ':' :: ':' :: piecesText back) = some (front ++ List.replicate run 0 ++ back) := by
  rw [v6?, splitAtGap?_piecesText, splitAtGap?, Option.map_some]
  dsimp only
  rw [List.append_nil, sideOfText?_piecesText false hfront, sideOfText?_piecesText true hback]
  dsimp only [Option.bind_eq_bind, Option.bind_some]
  rw [if_pos (by omega), show 8 - front.length - back.length = run by omega]

/-- Eight pieces are read from their canonical text. -/
theorem v6?_v6Text {pieces : List Nat} (hlength : pieces.length = 8) (h : ∀ piece ∈ pieces, piece < 65536) :
    v6? (v6Text pieces) = some pieces := by
  rw [v6Text]
  dsimp only
  split
  next =>
    have hne : pieces ≠ [] := fun hnil => by rw [hnil] at hlength; cases hlength
    have hgap := splitAtGap?_piecesText pieces []
    rw [List.append_nil] at hgap
    rw [v6?, hgap, splitAtGap?, Option.map_none]
    dsimp only
    rw [splitOn_piecesText hne, piecesOfTexts?_pieceText true h, Option.filter_some, hlength]
    rfl
  next hrun =>
    obtain ⟨front, back, hpieces, hstart⟩ := longestRun_spec 0 pieces (by omega)
    generalize (longestRun 0 pieces).1 = start at *
    generalize (longestRun 0 pieces).2 = run at *
    rw [Nat.zero_add] at hstart
    subst hstart
    subst hpieces
    have htake : (front ++ List.replicate run 0 ++ back).take front.length = front := by
      rw [List.append_assoc, List.take_left]
    have hdrop : (front ++ List.replicate run 0 ++ back).drop (front.length + run) = back :=
      List.drop_left' (by simp)
    simp only [List.length_append, List.length_replicate, List.forall_mem_append] at hlength h
    obtain ⟨⟨hfront, -⟩, hback⟩ := h
    rw [htake, hdrop, List.append_assoc]
    exact v6?_gap hfront hback hlength (by omega)

/-! ### What is read -/

theorem pieceOfText?_lt {cs : List Char} {piece : Nat} (h : pieceOfText? cs = some piece) : piece < 65536 := by
  rw [pieceOfText?] at h
  split at h
  · cases h
  · calc piece < Nat.pow 16 cs.length := numberIn?_lt h
      _ ≤ Nat.pow 16 4 := Nat.pow_le_pow_right (by decide) (by omega)

theorem strictV4?_lt {cs : List Char} {bytes : List Nat} (h : strictV4? cs = some bytes) :
    ofDigits 256 bytes < Nat.pow 256 4 := by
  rw [strictV4?] at h
  split at h
  next hcount =>
    have hall := mapM_eq_some.mp h
    rw [← hcount, hall.length_eq]
    refine ofDigits_lt fun b hb => ?_
    obtain ⟨part, -, hpart⟩ := exists_of_mem_forall₂ hall hb
    rw [byteOfText?] at hpart
    split at hpart
    · cases hpart
    · exact of_decide_eq_true (Option.filter_eq_some_iff.mp hpart).2
  · cases h

theorem piecesOfTexts?_lt {dotted : Bool} {parts : List (List Char)} {pieces : List Nat}
    (h : piecesOfTexts? dotted parts = some pieces) : ∀ piece ∈ pieces, piece < 65536 := by
  fun_induction piecesOfTexts? dotted parts generalizing pieces with
  | case1 =>
    cases h
    exact fun _ hmem => absurd hmem List.not_mem_nil
  | case2 part hdotted =>
    obtain ⟨bytes, hbytes, rfl⟩ := Option.map_eq_some_iff.mp h
    have hlt : ofDigits 256 bytes < 4294967296 := strictV4?_lt hbytes
    simp only [List.forall_mem_cons]
    exact ⟨by omega, by omega, fun _ hmem => absurd hmem List.not_mem_nil⟩
  | case3 part hdotted =>
    obtain ⟨piece, hpiece, rfl⟩ := Option.map_eq_some_iff.mp h
    rw [List.forall_mem_singleton]
    exact pieceOfText?_lt hpiece
  | case4 part parts hne ih =>
    obtain ⟨piece, hpiece, h⟩ := Option.bind_eq_some_iff.mp h
    obtain ⟨rest, hrest, h⟩ := Option.bind_eq_some_iff.mp h
    cases h
    exact List.forall_mem_cons.mpr ⟨pieceOfText?_lt hpiece, ih hrest⟩

theorem sideOfText?_lt {dotted : Bool} {cs : List Char} {pieces : List Nat}
    (h : sideOfText? dotted cs = some pieces) : ∀ piece ∈ pieces, piece < 65536 := by
  rw [sideOfText?] at h
  split at h
  · cases h
    exact fun _ hmem => absurd hmem List.not_mem_nil
  · exact piecesOfTexts?_lt h

/-- An address that is read has eight pieces of 16 bits. -/
theorem v6?_bounds {cs : List Char} {pieces : List Nat} (h : v6? cs = some pieces) :
    pieces.length = 8 ∧ ∀ piece ∈ pieces, piece < 65536 := by
  rw [v6?] at h
  split at h
  next =>
    obtain ⟨hpieces, hlength⟩ := Option.filter_eq_some_iff.mp h
    exact ⟨eq_of_beq hlength, piecesOfTexts?_lt hpieces⟩
  next front back _ =>
    obtain ⟨fronts, hfronts, h⟩ := Option.bind_eq_some_iff.mp h
    obtain ⟨backs, hbacks, h⟩ := Option.bind_eq_some_iff.mp h
    split at h
    next hcount =>
      cases h
      refine ⟨by simp only [List.length_append, List.length_replicate]; omega, fun piece hmem => ?_⟩
      rw [List.mem_append, List.mem_append] at hmem
      obtain (hmem | hmem) | hmem := hmem
      · exact sideOfText?_lt hfronts piece hmem
      · rw [List.eq_of_mem_replicate hmem]
        decide
      · exact sideOfText?_lt hbacks piece hmem
    next => cases h

theorem mem_v6Text {pieces : List Nat} {c : Char} (h : c ∈ v6Text pieces) : c.isAlphanum = true ∨ c = ':' := by
  rw [v6Text] at h
  dsimp only at h
  split at h
  · exact mem_piecesText h
  · rw [List.mem_append, List.mem_append] at h
    obtain (h | h) | h := h
    · exact mem_piecesText h
    · exact .inr (by simpa using h)
    · exact mem_piecesText h

end DurableJobs.Address
