import DurableJobs.Idna.Domain
import DurableJobs.Proofs.Idna.Punycode

/-!
# The ASCII form of a domain name is final

What a domain name becomes is ASCII in lower case, so it is mapped to itself and has nothing to compose. Its coded
labels decode to the labels they were made of (`decode?_encode`), which are coded the same way again; and no
other label looks like a coded one. So a name that has been brought into its ASCII form, and is brought into it
once more, stays what it is (`toAscii?_settled`).
-/

set_option autoImplicit false

namespace DurableJobs.Idna

open DurableJobs.Text

/-! ## Lower case -/

/-- An ASCII text in lower case. -/
def Settled (cs : List Char) : Prop := ∀ c ∈ cs, c.toNat < 0x80 ∧ c.toLower = c

theorem toLower_ascii {c : Char} (h : c.toNat < 0x80) : c.toLower.toNat < 0x80 ∧ c.toLower.toLower = c.toLower :=
  forall_ascii (p := fun c => c.toLower.toNat < 0x80 ∧ c.toLower.toLower = c.toLower) (by decide) h

theorem toLower_eq_dot (c : Char) : c.toLower = '.' ↔ c = '.' := by
  by_cases h : c.toNat < 0x80
  · exact forall_ascii (p := fun c => c.toLower = '.' ↔ c = '.') (by decide) h
  · have hupper : c.toLower = c := by
      refine dif_neg fun hcapital => ?_
      have hle : c.val.toNat ≤ 90 := UInt32.le_iff_toNat_le.mp hcapital.2
      rw [show c.val.toNat = c.toNat from rfl] at hle
      omega
    rw [hupper]

theorem Settled.map_toLower {cs : List Char} (h : Settled cs) : cs.map Char.toLower = cs :=
  (List.map_congr_left fun c hc => (h c hc).2).trans (List.map_id _)

theorem Settled.isAscii {cs : List Char} (h : Settled cs) : cs.all Punycode.isAscii = true :=
  List.all_eq_true.mpr fun c hc => decide_eq_true (h c hc).1

theorem settled_map_toLower {cs : List Char} (h : cs.all Punycode.isAscii = true) : Settled (cs.map Char.toLower) := by
  intro c hc
  obtain ⟨d, hd, rfl⟩ := List.mem_map.mp hc
  exact toLower_ascii (of_decide_eq_true (List.all_eq_true.mp h d hd))

/-! ## Mapping and composing -/

theorem mapChar?_ascii {c : Char} (h : c.toNat < 0x80) : mapChar? c = some [c.toLower] := by
  rw [mapChar?]
  exact if_pos h

/-- An ASCII character that may stand in a label is in lower case. -/
theorem toLower_of_staysAsItIs {c : Char} (h : staysAsItIs c = true) (hascii : c.toNat < 0x80) : c.toLower = c := by
  rw [staysAsItIs, mapChar?_ascii hascii, beq_iff_eq] at h
  simpa using h

theorem Settled.mapChars? {cs : List Char} (h : Settled cs) : Idna.mapChars? cs = some cs := by
  have hall : cs.mapM mapChar? = some (cs.map fun c => [c]) := by
    rw [mapM_eq_some, List.forall₂_map_right_iff, List.forall₂_same]
    intro c hc
    rw [mapChar?_ascii (h c hc).1, (h c hc).2]
  rw [Idna.mapChars?, hall, Option.map_some]
  rw [← List.flatMap_def, List.flatMap_singleton']

theorem Settled.composed {cs : List Char} (h : Settled cs) : Idna.composed cs = cs := by
  rw [Idna.composed, if_pos]
  exact List.all_eq_true.mpr fun c hc => decide_eq_true (h c hc).1

/-! ## Labels -/

section Labels

variable {part label written again : List Char}

theorem isPrefixOf_append (front back : List Char) : front.isPrefixOf (front ++ back) = true :=
  List.isPrefixOf_iff_prefix.mpr (List.prefix_append front back)

/-- What a label is read as: itself, if it is not in the coded form, else what its code stands for, which is
not all ASCII. -/
theorem readLabel?_eq_some (h : readLabel? part = some label) :
    codedMark.isPrefixOf part = false ∧ label = part ∨
      label.all Punycode.isAscii = false ∧ Punycode.decode? (part.drop codedMark.length) = some label := by
  rw [readLabel?] at h
  split at h
  · dsimp only at h
    split at h
    · obtain ⟨read, hread, h⟩ := Option.bind_eq_some_iff.mp h
      split at h
      · cases h
      next hnot =>
        cases h
        rw [not_or, Bool.not_eq_true] at hnot
        exact .inr ⟨hnot.1, hread⟩
    · cases h
  next hnot =>
    cases h
    exact .inl ⟨Bool.eq_false_iff.mpr hnot, rfl⟩

/-- A label that is written and read again is the same label. -/
theorem readLabel?_written (h : readLabel? part = some label) (hwritten : writeLabel? label = some written)
    (hagain : readLabel? written = some again) : again = label := by
  rw [writeLabel?] at hwritten
  split at hwritten
  next hascii =>
    cases hwritten
    obtain ⟨hmark, rfl⟩ | ⟨hbeyond, -⟩ := readLabel?_eq_some h
    · rw [readLabel?, hmark] at hagain
      simpa using hagain.symm
    · rw [hascii] at hbeyond
      cases hbeyond
  next =>
    split at hwritten
    · cases hwritten
      obtain ⟨hmark, -⟩ | ⟨-, hdecoded⟩ := readLabel?_eq_some hagain
      · rw [isPrefixOf_append] at hmark
        cases hmark
      · rw [List.drop_left, Punycode.decode?_encode] at hdecoded
        exact (Option.some.inj hdecoded).symm
    · cases hwritten

theorem digitChar_settled {d : Nat} (h : d < 36) :
    (Punycode.digitChar d).toNat < 0x80 ∧ (Punycode.digitChar d).toLower = Punycode.digitChar d ∧
      Punycode.digitChar d ≠ '.' := by
  have hall : ∀ e < 36, (Punycode.digitChar e).toNat < 0x80 ∧
      (Punycode.digitChar e).toLower = Punycode.digitChar e ∧ Punycode.digitChar e ≠ '.' := by decide
  exact hall d h

/-- The characters of a written label: those of the label, and others that are settled and no points. -/
theorem mem_written {c : Char} (hwritten : writeLabel? label = some written) (hc : c ∈ written) :
    c.toNat < 0x80 ∧ (c ∈ label ∨ c.toLower = c ∧ c ≠ '.') := by
  rw [writeLabel?] at hwritten
  split at hwritten
  next hascii =>
    cases hwritten
    exact ⟨of_decide_eq_true (List.all_eq_true.mp hascii c hc), .inl hc⟩
  next =>
    split at hwritten
    · cases hwritten
      obtain hmark | hcode := List.mem_append.mp hc
      · have hall : ∀ c ∈ codedMark, c.toNat < 0x80 ∧ c.toLower = c ∧ c ≠ '.' := forall_of_all (by decide)
        exact ⟨(hall c hmark).1, .inr (hall c hmark).2⟩
      · obtain ⟨hmem, hascii⟩ | rfl | ⟨d, hd, rfl⟩ := Punycode.mem_encode hcode
        · exact ⟨of_decide_eq_true hascii, .inl hmem⟩
        · exact ⟨by decide, .inr (by decide)⟩
        · exact ⟨(digitChar_settled hd).1, .inr (digitChar_settled hd).2⟩
    · cases hwritten

theorem settled_written (hproper : isProper label = true) (hwritten : writeLabel? label = some written) :
    Settled written := by
  intro c hc
  obtain ⟨hascii, hmem | hlower⟩ := mem_written hwritten hc
  · rw [isProper, Bool.and_eq_true, Bool.and_eq_true] at hproper
    exact ⟨hascii, toLower_of_staysAsItIs (List.all_eq_true.mp hproper.1.1 c hmem) hascii⟩
  · exact ⟨hascii, hlower.1⟩

/-- No point gets into a label. -/
theorem dot_not_mem_written (hpart : '.' ∉ part) (h : readLabel? part = some label)
    (hwritten : writeLabel? label = some written) : '.' ∉ written := by
  intro hdot
  obtain ⟨-, hmem | hne⟩ := mem_written hwritten hdot
  · obtain ⟨-, rfl⟩ | ⟨-, hdecoded⟩ := readLabel?_eq_some h
    · exact hpart hmem
    · exact hpart (List.mem_of_mem_drop (Punycode.ascii_of_mem_decode? hdecoded hmem (by decide)))
  · exact hne.2 rfl

end Labels

/-! ## Names -/

section Names

variable {cs name again : List Char}

/-- The labels a name is cut into, what they are read as, and what is written for each. -/
structure Coded (cs name : List Char) (parts labels written : List (List Char)) : Prop where
  mapped : ∃ mapped, mapChars? cs = some mapped ∧ parts = splitOn '.' (composed mapped)
  read : List.Forall₂ (fun part label => readLabel? part = some label) parts labels
  proper : ∀ label ∈ labels, isProper label = true
  write : List.Forall₂ (fun label written => writeLabel? label = some written) labels written
  name : name = ['.'].intercalate written

theorem codedForm?_eq_some (h : codedForm? cs = some name) : ∃ parts labels written, Coded cs name parts labels written := by
  rw [codedForm?] at h
  simp only [Option.bind_eq_bind, Option.bind_eq_some_iff] at h
  obtain ⟨mapped, hmapped, labels, hlabels, h⟩ := h
  split at h
  next hproper =>
    rw [Option.map_eq_some_iff] at h
    obtain ⟨written, hwritten, rfl⟩ := h
    exact ⟨_, labels, written, ⟨mapped, hmapped, rfl⟩, mapM_eq_some.mp hlabels, List.all_eq_true.mp hproper.1,
      mapM_eq_some.mp hwritten, rfl⟩
  next => cases h

variable {parts labels written : List (List Char)}

theorem Coded.settled (h : Coded cs name parts labels written) : Settled name := by
  intro c hc
  rw [h.name] at hc
  obtain rfl | ⟨part, hpart, hc⟩ := mem_intercalate hc
  · decide
  · obtain ⟨label, hlabel, hwritten⟩ := exists_of_mem_forall₂ h.write hpart
    exact settled_written (h.proper label hlabel) hwritten c hc

/-- The parts of a coded name are its written labels. -/
theorem Coded.splitOn_name (h : Coded cs name parts labels written) : splitOn '.' name = written := by
  obtain ⟨mapped, -, hparts⟩ := h.mapped
  have hne : written ≠ [] := by
    rw [← List.length_pos_iff, ← h.write.length_eq, ← h.read.length_eq, List.length_pos_iff, hparts]
    exact splitOn_ne_nil _ _
  rw [h.name, splitOn_intercalate hne]
  intro part hpart
  obtain ⟨label, hlabel, hwritten⟩ := exists_of_mem_forall₂ h.write hpart
  obtain ⟨source, hsource, hread⟩ := exists_of_mem_forall₂ h.read hlabel
  rw [hparts] at hsource
  exact dot_not_mem_written (not_mem_of_mem_splitOn hsource) hread hwritten

theorem labels_again {again : List (List Char)} (hread : List.Forall₂ (fun part label => readLabel? part = some label) parts labels)
    (hwrite : List.Forall₂ (fun label written => writeLabel? label = some written) labels written)
    (hagain : List.Forall₂ (fun part label => readLabel? part = some label) written again) : again = labels := by
  induction hread generalizing written again with
  | nil =>
    cases hwrite
    cases hagain
    rfl
  | cons hpart _ ih =>
    obtain _ | ⟨hwritten, hwrite⟩ := hwrite
    obtain _ | ⟨hlabel, hagain⟩ := hagain
    rw [readLabel?_written hpart hwritten hlabel, ih hwrite hagain]

/-- The ASCII form of a name is settled. -/
theorem settled_of_toAscii? (h : toAscii? cs = some name) : Settled name := by
  rw [toAscii?] at h
  split at h
  next hplain =>
    cases h
    rw [isPlain, Bool.and_eq_true] at hplain
    exact settled_map_toLower hplain.1
  next =>
    obtain ⟨parts, labels, written, hcoded⟩ := codedForm?_eq_some h
    exact hcoded.settled

theorem isPlain_map_toLower (h : isPlain cs = true) : isPlain (cs.map Char.toLower) = true := by
  rw [isPlain, Bool.and_eq_true] at h ⊢
  have hsettled := settled_map_toLower h.1
  refine ⟨hsettled.isAscii, ?_⟩
  rw [splitOn_map toLower_eq_dot, List.all_map, List.all_eq_true]
  intro label hlabel
  have hlower : (label.map Char.toLower).map Char.toLower = label.map Char.toLower := by
    refine Settled.map_toLower (settled_map_toLower (List.all_eq_true.mpr fun c hc => ?_))
    exact List.all_eq_true.mp h.1 c (mem_of_mem_splitOn hlabel hc)
  rw [Function.comp_apply, hlower]
  exact List.all_eq_true.mp h.2 label hlabel

/-- An ASCII form that has one is its own. -/
theorem toAscii?_settled (h : toAscii? cs = some name) (hagain : toAscii? name = some again) : again = name := by
  have hsettled := settled_of_toAscii? h
  rw [toAscii?] at hagain
  split at hagain
  next =>
    cases hagain
    exact hsettled.map_toLower
  next hplain =>
    obtain ⟨parts', labels', written', hcoded'⟩ := codedForm?_eq_some hagain
    rw [toAscii?] at h
    split at h
    next hfirst =>
      cases h
      exact absurd (isPlain_map_toLower hfirst) hplain
    next =>
      obtain ⟨parts, labels, written, hcoded⟩ := codedForm?_eq_some h
      obtain ⟨mapped, hmapped, hparts⟩ := hcoded'.mapped
      rw [hsettled.mapChars?, Option.some.injEq] at hmapped
      rw [← hmapped, hsettled.composed, hcoded.splitOn_name] at hparts
      subst hparts
      have hlabels := labels_again hcoded.read hcoded.write hcoded'.read
      subst hlabels
      have hwritten := mapM_eq_some.mpr hcoded'.write
      rw [mapM_eq_some.mpr hcoded.write, Option.some.injEq] at hwritten
      rw [hcoded'.name, hcoded.name, hwritten]

end Names

end DurableJobs.Idna
