import DurableJobs.Proofs.Idna.Domain
import DurableJobs.Proofs.Url.Address
import DurableJobs.Proofs.Url.Percent
import DurableJobs.Url.Parser

/-!
# The host of a web scheme, read again

The text of a host that has been read is ASCII, holds nothing that ends a host and nothing to decode, and is in
its final form already: a domain name because its ASCII form is, an address because its text is canonical. So if
that text is read as a host once more, it is the same host (`specialHost_again`), and the reader of an authority
takes just this text for it (`spanHost_text`).
-/

set_option autoImplicit false

namespace DurableJobs.Url

open DurableJobs.Text DurableJobs.Address

/-! ## Characters -/

/-- A character that an authority may hold: no blank and nothing that ends an authority or cuts off its user. -/
def Bare (c : Char) : Prop :=
  0x20 < c.toNat ∧ c.toNat < 0x80 ∧ c ≠ '/' ∧ c ≠ '\\' ∧ c ≠ '?' ∧ c ≠ '#' ∧ c ≠ '@'

instance (c : Char) : Decidable (Bare c) := inferInstanceAs (Decidable (_ ∧ _))

/-- A character that a host takes wherever it stands: no colon and no bracket. -/
def Inner (c : Char) : Prop := c ≠ ':' ∧ c ≠ '[' ∧ c ≠ ']'

instance (c : Char) : Decidable (Inner c) := inferInstanceAs (Decidable (_ ∧ _))

theorem bare_of_not_forbidden {c : Char} (hascii : c.toNat < 0x80) (h : forbiddenInDomain c = false) :
    Bare c ∧ Inner c ∧ c ≠ '%' :=
  forall_ascii (p := fun c => forbiddenInDomain c = false → Bare c ∧ Inner c ∧ c ≠ '%') (by decide +kernel) hascii h

theorem bare_of_isAlphanum {c : Char} (h : c.isAlphanum = true) : Bare c ∧ Inner c ∧ c ≠ '%' := by
  have hascii : c.toNat < 0x80 := by
    have hrange : (decide (c.val ≥ 65 ∧ c.val ≤ 90) || decide (c.val ≥ 97) && decide (c.val ≤ 122) ||
        decide (c.val ≥ 48) && decide (c.val ≤ 57)) = true := h
    rw [Bool.or_eq_true, Bool.or_eq_true, Bool.and_eq_true, Bool.and_eq_true, decide_eq_true_eq, decide_eq_true_eq,
      decide_eq_true_eq, decide_eq_true_eq, decide_eq_true_eq] at hrange
    obtain (⟨-, hlast⟩ | ⟨-, hlast⟩) | ⟨-, hlast⟩ := hrange
    all_goals exact Nat.lt_of_le_of_lt (UInt32.le_iff_toNat_le.mp hlast) (by decide)
  exact forall_ascii (p := fun c => c.isAlphanum = true → Bare c ∧ Inner c ∧ c ≠ '%') (by decide +kernel) hascii h

/-! ## Names -/

section Names

variable {cs name again : List Char}

/-- An ASCII text without percent signs has nothing to decode. -/
theorem decodedChars?_ascii (hascii : IsAscii cs) (hpercent : '%' ∉ cs) : decodedChars? cs = some cs := by
  have hbytes : (0x25 : UInt8) ∉ cs.map byteOf := by
    intro h
    obtain ⟨c, hc, hbyte⟩ := List.mem_map.mp h
    rw [show (0x25 : UInt8) = byteOf '%' from rfl, byteOf_inj (hascii c hc) (by decide)] at hbyte
    exact hpercent (hbyte ▸ hc)
  rw [decodedChars?, hascii.utf8, percentDecode_of_not_mem hbytes, ← hascii.utf8, symbolsOfBytes_utf8, mapM_eq_some,
    List.forall₂_map_left_iff, List.forall₂_same]
  exact fun c _ => rfl

theorem asciiDomain_eq_ok :
    asciiDomain cs = .ok name ↔
      (decodedChars? cs).bind Idna.toAscii? = some name ∧ name.any forbiddenInDomain = false ∧ name ≠ [] := by
  rw [asciiDomain]
  split
  next hnone => simp [hnone]
  next found hfound =>
    rw [hfound]
    split
    next hforbidden =>
      refine iff_of_false (fun h => by cases h) fun ⟨h, hname, _⟩ => ?_
      cases h
      rw [hforbidden] at hname
      cases hname
    next hforbidden =>
      rw [Bool.not_eq_true] at hforbidden
      split
      next hempty =>
        refine iff_of_false (fun h => by cases h) fun ⟨h, _, hname⟩ => hname ?_
        cases h
        exact List.isEmpty_iff.mp hempty
      next hempty =>
        constructor
        · intro h
          cases h
          exact ⟨rfl, hforbidden, fun hnil => hempty (List.isEmpty_iff.mpr hnil)⟩
        · rintro ⟨h, -, -⟩
          cases h
          rfl

/-- A domain in its ASCII form: settled, and of characters that a domain may hold. -/
theorem settled_of_asciiDomain (h : asciiDomain cs = .ok name) :
    Idna.Settled name ∧ (∀ c ∈ name, Bare c ∧ Inner c ∧ c ≠ '%') ∧ name ≠ [] := by
  obtain ⟨hascii, hallowed, hne⟩ := asciiDomain_eq_ok.mp h
  obtain ⟨decoded, -, hascii⟩ := Option.bind_eq_some_iff.mp hascii
  have hsettled := Idna.settled_of_toAscii? hascii
  refine ⟨hsettled, fun c hc => bare_of_not_forbidden (hsettled c hc).1 ?_, hne⟩
  rw [List.any_eq_false] at hallowed
  exact Bool.not_eq_true _ ▸ hallowed c hc

/-- What is read of an ASCII form without percent signs is its ASCII form. -/
theorem toAscii?_of_asciiDomain (hsettled : Idna.Settled cs) (hpercent : '%' ∉ cs) (h : asciiDomain cs = .ok name) :
    Idna.toAscii? cs = some name := by
  obtain ⟨hascii, -, -⟩ := asciiDomain_eq_ok.mp h
  rwa [decodedChars?_ascii (fun c hc => (hsettled c hc).1) hpercent, Option.bind_some] at hascii

theorem asciiDomain_again (h : asciiDomain cs = .ok name) (hagain : asciiDomain name = .ok again) :
    again = name := by
  obtain ⟨hsettled, hchars, -⟩ := settled_of_asciiDomain h
  obtain ⟨hascii, -, -⟩ := asciiDomain_eq_ok.mp h
  obtain ⟨decoded, -, hascii⟩ := Option.bind_eq_some_iff.mp hascii
  exact Idna.toAscii?_settled hascii
    (toAscii?_of_asciiDomain hsettled (fun hmem => (hchars '%' hmem).2.2 rfl) hagain)

end Names

/-! ## Hosts -/

section Hosts

variable {cs : List Char} {host again : Host}

/-- A host is an address of either version or a name. -/
theorem specialHost_cases (h : specialHost cs = .ok host) :
    (∃ pieces, host = .v6 pieces ∧ pieces.length = 8 ∧ ∀ piece ∈ pieces, piece < 65536) ∨
      (∃ value, host = .v4 value ∧ value < Nat.pow 256 4) ∨
        ∃ source name, host = .domain name ∧ asciiDomain source = .ok name ∧ endsInNumber name = false := by
  unfold specialHost at h
  split at h
  next rest =>
    rw [bracketed] at h
    split at h
    · split at h
      next pieces hpieces =>
        cases h
        exact .inl ⟨pieces, rfl, v6?_bounds hpieces⟩
      next => cases h
    · cases h
  next =>
    obtain ⟨name, hname, h⟩ := bind_eq_ok.mp h
    split at h
    next =>
      split at h
      next value hvalue =>
        cases h
        exact .inr (.inl ⟨value, rfl, lenientV4?_lt hvalue⟩)
      next => cases h
    next hnumber =>
      cases h
      exact .inr (.inr ⟨cs, name, rfl, hname, Bool.not_eq_true _ ▸ hnumber⟩)

/-- The reader of a name that does not start with a bracket. -/
theorem specialHost_of_not_bracket {name : List Char} (h : '[' ∉ name) :
    specialHost name = asciiDomain name >>= fun name =>
      if endsInNumber name then
        match lenientV4? name with
        | some value => .ok (.v4 value)
        | none => .error .invalidV4
      else .ok (.domain name) := by
  unfold specialHost
  split
  next => exact absurd List.mem_cons_self h
  next => rfl

theorem settled_v4Text (value : Nat) : Idna.Settled (v4Text value) := by
  intro c hc
  obtain hdigit | rfl := mem_v4Text hc
  · obtain ⟨hbare, -, -⟩ := bare_of_isAlphanum (by rw [Char.isAlphanum, hdigit, Bool.or_true])
    exact ⟨hbare.2.1, forall_ascii (p := fun c => c.isDigit = true → c.toLower = c) (by decide) hbare.2.1 hdigit⟩
  · decide

/-- The text of an address of version 4 is its own ASCII form. -/
theorem toAscii?_v4Text (value : Nat) : Idna.toAscii? (v4Text value) = some (v4Text value) := by
  have hsettled := settled_v4Text value
  have hplain : Idna.isPlain (v4Text value) = true := by
    rw [Idna.isPlain, hsettled.isAscii, Bool.true_and, List.all_eq_true]
    intro label hlabel
    have hlower : label.map Char.toLower = label :=
      Idna.Settled.map_toLower fun c hc => hsettled c (mem_of_mem_splitOn hlabel hc)
    rw [hlower, Bool.not_eq_true', Bool.eq_false_iff, Ne, List.isPrefixOf_iff_prefix]
    intro hmark
    -- the mark begins with a letter
    obtain hdigit | hdot := mem_v4Text (mem_of_mem_splitOn hlabel (hmark.mem List.mem_cons_self))
    · cases hdigit
    · cases hdot
  rw [Idna.toAscii?, if_pos hplain, hsettled.map_toLower]

theorem not_bracket_of_mem_v4Text {value : Nat} : '[' ∉ v4Text value := by
  intro h
  obtain hdigit | hdot := mem_v4Text h
  · cases hdigit
  · cases hdot

/-- If the text of a host is read as a host, it is that host. -/
theorem specialHost_again (h : specialHost cs = .ok host) (hagain : specialHost host.text = .ok again) :
    again = host := by
  obtain ⟨pieces, rfl, hlength, hsmall⟩ | ⟨value, rfl, hvalue⟩ | ⟨source, name, rfl, hname, hnumber⟩ :=
    specialHost_cases h
  · rw [Host.text, List.cons_append, specialHost, bracketed, List.getLast?_concat, if_pos rfl, List.dropLast_concat,
      v6?_v6Text hlength hsmall] at hagain
    exact (Except.ok.inj hagain).symm
  · rw [Host.text, specialHost_of_not_bracket not_bracket_of_mem_v4Text] at hagain
    obtain ⟨name, hname, hagain⟩ := bind_eq_ok.mp hagain
    have hpercent : '%' ∉ v4Text value := fun hmem => by
      obtain hdigit | hdot := mem_v4Text hmem
      · cases hdigit
      · cases hdot
    have hsame := toAscii?_of_asciiDomain (settled_v4Text value) hpercent hname
    rw [toAscii?_v4Text, Option.some.injEq] at hsame
    rw [← hsame, if_pos (endsInNumber_v4Text value), lenientV4?_v4Text hvalue] at hagain
    exact (Except.ok.inj hagain).symm
  · obtain ⟨-, hchars, -⟩ := settled_of_asciiDomain hname
    rw [Host.text, specialHost_of_not_bracket fun hmem => (hchars '[' hmem).2.1.2.1 rfl] at hagain
    obtain ⟨name', hname', hagain⟩ := bind_eq_ok.mp hagain
    rw [asciiDomain_again hname hname', hnumber, if_neg Bool.false_ne_true] at hagain
    exact (Except.ok.inj hagain).symm

/-- The text of a host: characters between brackets, or characters without any. -/
theorem specialHost_text (h : specialHost cs = .ok host) :
    host.text ≠ [] ∧ (∀ c ∈ host.text, Bare c) ∧
      ((∀ c ∈ host.text, Inner c) ∨
        ∃ inside, host.text = '[' :: inside ++ [']'] ∧ ∀ c ∈ inside, c ≠ '[' ∧ c ≠ ']') := by
  obtain ⟨pieces, rfl, -, -⟩ | ⟨value, rfl, -⟩ | ⟨source, name, rfl, hname, -⟩ := specialHost_cases h
  · refine ⟨List.cons_ne_nil _ _, fun c hc => ?_, .inr ⟨v6Text pieces, rfl, fun c hc => ?_⟩⟩
    · rw [Host.text, List.mem_append, List.mem_cons, List.mem_singleton] at hc
      obtain (rfl | hc) | rfl := hc
      · decide
      · obtain halnum | rfl := mem_v6Text hc
        · exact (bare_of_isAlphanum halnum).1
        · decide
      · decide
    · obtain halnum | rfl := mem_v6Text hc
      · exact (bare_of_isAlphanum halnum).2.1.2
      · decide
  · have hchars (c : Char) (hc : c ∈ v4Text value) : Bare c ∧ Inner c := by
      obtain hdigit | rfl := mem_v4Text hc
      · have halnum := bare_of_isAlphanum (c := c) (by rw [Char.isAlphanum, hdigit, Bool.or_true])
        exact ⟨halnum.1, halnum.2.1⟩
      · decide
    refine ⟨fun hnil => ?_, fun c hc => (hchars c hc).1, .inl fun c hc => (hchars c hc).2⟩
    have hnumber := endsInNumber_v4Text value
    rw [show v4Text value = [] from hnil] at hnumber
    exact absurd hnumber (by decide)
  · obtain ⟨-, hchars, hne⟩ := settled_of_asciiDomain hname
    exact ⟨hne, fun c hc => (hchars c hc).1, .inl fun c hc => (hchars c hc).2.1⟩

/-! ### In an authority -/

theorem spanHost_inner {text rest : List Char} (h : ∀ c ∈ text, Inner c) :
    spanHost false (text ++ rest) = (text ++ (spanHost false rest).1, (spanHost false rest).2) := by
  induction text with
  | nil => rfl
  | cons c text ih =>
    obtain ⟨hc, htext⟩ := List.forall_mem_cons.mp h
    rw [List.cons_append, spanHost, if_neg fun hcolon => hc.1 hcolon.1, if_neg hc.2.1, if_neg hc.2.2]
    dsimp only
    rw [ih htext]
    rfl

theorem spanHost_inside {text rest : List Char} (h : ∀ c ∈ text, c ≠ '[' ∧ c ≠ ']') :
    spanHost true (text ++ rest) = (text ++ (spanHost true rest).1, (spanHost true rest).2) := by
  induction text with
  | nil => rfl
  | cons c text ih =>
    obtain ⟨hc, htext⟩ := List.forall_mem_cons.mp h
    rw [List.cons_append, spanHost, if_neg fun hcolon => absurd hcolon.2 (by decide), if_neg hc.1, if_neg hc.2]
    dsimp only
    rw [ih htext]
    rfl

/-- A host is taken up to what follows it. -/
theorem spanHost_text (h : specialHost cs = .ok host) {rest : List Char} (hrest : rest = [] ∨ rest.head? = some ':') :
    spanHost false (host.text ++ rest) = (host.text, rest) := by
  have hend : spanHost false rest = ([], rest) := by
    obtain rfl | hcolon := hrest
    · rfl
    · obtain ⟨c, tail, rfl⟩ := List.exists_cons_of_ne_nil fun hnil : rest = [] => by rw [hnil] at hcolon; cases hcolon
      cases hcolon
      rfl
  obtain ⟨-, -, hinner | ⟨inside, htext, hinside⟩⟩ := specialHost_text h
  · rw [spanHost_inner hinner, hend, List.append_nil]
  · have hclose : spanHost true (']' :: rest) = ([']'], rest) := by
      rw [spanHost]
      simp [hend]
    rw [htext, List.cons_append, List.cons_append, List.append_assoc, List.singleton_append, spanHost]
    simp [spanHost_inside hinside, hclose]

end Hosts

end DurableJobs.Url
