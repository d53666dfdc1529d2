import Mathlib.Data.List.Forall2
import Mathlib.Data.List.TakeWhile
import DurableJobs.Text.Split

/-!
# Texts in pieces

What is cut at a separator is a text up to the separator and the text behind it, and the first of the two
does not hold it. So a text that was put together from pieces without the separator is cut into just
these pieces again (`cutAt_append`, `cutAtLast?_append`, `splitOn_intercalate`).
-/

set_option autoImplicit false

namespace DurableJobs.Text

variable {separator : Char} {cs front back : List Char}

/-! ## Two pieces -/

theorem all_ne_of_not_mem (h : separator ∉ front) : ∀ c ∈ front, (c != separator) = true := by
  intro c hc
  rw [bne_iff_ne]
  exact fun heq => h (heq ▸ hc)

theorem takeWhile_ne_append (h : separator ∉ front) :
    (front ++ separator :: back).takeWhile (· != separator) = front := by
  rw [List.takeWhile_append_of_pos (all_ne_of_not_mem h), List.takeWhile_cons_of_neg (by simp), List.append_nil]

theorem dropWhile_ne_append (h : separator ∉ front) :
    (front ++ separator :: back).dropWhile (· != separator) = separator :: back := by
  rw [List.dropWhile_append_of_pos (all_ne_of_not_mem h), List.dropWhile_cons_of_neg (by simp)]

theorem cutAt_append (h : separator ∉ front) : cutAt separator (front ++ separator :: back) = (front, some back) := by
  rw [cutAt, dropWhile_ne_append h, takeWhile_ne_append h]

theorem cutAt_of_not_mem (h : separator ∉ cs) : cutAt separator cs = (cs, none) := by
  rw [cutAt, List.dropWhile_eq_nil_iff.mpr (all_ne_of_not_mem h)]

/-- A text is cut at the first separator, or there is none. -/
theorem cutAt_cases (separator : Char) (cs : List Char) :
    (∃ front back, cs = front ++ separator :: back ∧ separator ∉ front ∧
      cutAt separator cs = (front, some back)) ∨
    separator ∉ cs ∧ cutAt separator cs = (cs, none) := by
  by_cases h : separator ∈ cs
  · obtain ⟨front, back, rfl, hfront⟩ := List.eq_append_cons_of_mem h
    exact .inl ⟨front, back, rfl, hfront, cutAt_append hfront⟩
  · exact .inr ⟨h, cutAt_of_not_mem h⟩

theorem not_mem_cutAt_fst : separator ∉ (cutAt separator cs).1 := by
  obtain ⟨front, back, -, hfront, hcut⟩ | ⟨h, hcut⟩ := cutAt_cases separator cs
  · rwa [hcut]
  · rwa [hcut]

theorem mem_of_mem_cutAt_fst {other c : Char} (h : c ∈ (cutAt other cs).1) : c ∈ cs := by
  obtain ⟨front, back, rfl, -, hcut⟩ | ⟨-, hcut⟩ := cutAt_cases other cs
  · rw [hcut] at h
    exact List.mem_append_left _ h
  · rwa [hcut] at h

theorem cutAtLast?_append (h : separator ∉ back) :
    cutAtLast? separator (front ++ separator :: back) = some (front, back) := by
  have hreverse : (front ++ separator :: back).reverse = back.reverse ++ separator :: front.reverse := by simp
  rw [cutAtLast?, hreverse, cutAt_append (by simpa using h)]
  simp only [List.reverse_reverse]

theorem cutAtLast?_of_not_mem (h : separator ∉ cs) : cutAtLast? separator cs = none := by
  rw [cutAtLast?, cutAt_of_not_mem (by simpa using h)]

theorem mem_of_mem_cutAtLast? {c : Char} (h : cutAtLast? separator cs = some (front, back)) (hc : c ∈ front) :
    c ∈ cs := by
  obtain ⟨tail, head, hreverse, -, hcut⟩ | ⟨-, hcut⟩ := cutAt_cases separator cs.reverse
  · rw [cutAtLast?, hcut] at h
    cases h
    rw [← List.mem_reverse, hreverse]
    exact List.mem_append_right _ (List.mem_cons_of_mem _ (List.mem_reverse.mp hc))
  · rw [cutAtLast?, hcut] at h
    cases h

/-! ## Many pieces -/

theorem splitOn_ne_nil (separator : Char) (cs : List Char) : splitOn separator cs ≠ [] := by
  induction cs with
  | nil => exact List.cons_ne_nil _ _
  | cons c cs ih =>
    rw [splitOn]
    split
    · exact List.cons_ne_nil _ _
    · split <;> exact List.cons_ne_nil _ _

/-- A character that is no separator goes to the first piece. -/
theorem splitOn_cons_of_ne {c : Char} (hc : c ≠ separator) (text : List Char) :
    ∃ part parts, splitOn separator text = part :: parts ∧ splitOn separator (c :: text) = (c :: part) :: parts := by
  obtain ⟨part, parts, hparts⟩ := List.exists_cons_of_ne_nil (splitOn_ne_nil separator text)
  refine ⟨part, parts, hparts, ?_⟩
  rw [splitOn, if_neg hc, hparts]

theorem splitOn_append_cons (separator : Char) (front back : List Char) :
    splitOn separator (front ++ separator :: back) = splitOn separator front ++ splitOn separator back := by
  induction front with
  | nil =>
    rw [List.nil_append, splitOn.eq_2, if_pos rfl]
    rfl
  | cons c front ih =>
    by_cases hc : c = separator
    · rw [List.cons_append, splitOn, if_pos hc, ih, splitOn, if_pos hc]
      rfl
    · obtain ⟨part, parts, hparts, hcons⟩ := splitOn_cons_of_ne hc front
      rw [List.cons_append, splitOn, if_neg hc, ih, hcons, hparts]
      rfl

theorem splitOn_of_not_mem (h : separator ∉ cs) : splitOn separator cs = [cs] := by
  induction cs with
  | nil => rfl
  | cons c cs ih =>
    have hne : c ≠ separator := fun heq => h (heq ▸ List.mem_cons_self)
    rw [splitOn, if_neg hne, ih fun hmem => h (List.mem_cons_of_mem _ hmem)]

theorem splitOn_append (h : separator ∉ front) :
    splitOn separator (front ++ separator :: back) = front :: splitOn separator back := by
  rw [splitOn_append_cons, splitOn_of_not_mem h]
  rfl

/-- Pieces without the separator, joined by it, are the pieces of their text. -/
theorem splitOn_intercalate {parts : List (List Char)} (hne : parts ≠ [])
    (hparts : ∀ part ∈ parts, separator ∉ part) : splitOn separator ([separator].intercalate parts) = parts := by
  induction parts with
  | nil => exact absurd rfl hne
  | cons part parts ih =>
    obtain ⟨hpart, hrest⟩ := List.forall_mem_cons.mp hparts
    cases parts with
    | nil => rw [List.intercalate_singleton, splitOn_of_not_mem hpart]
    | cons next parts =>
      rw [List.intercalate_cons_cons, List.append_assoc, List.singleton_append, splitOn_append hpart,
        ih (List.cons_ne_nil _ _) hrest]

theorem not_mem_of_mem_splitOn {part : List Char} (h : part ∈ splitOn separator cs) : separator ∉ part := by
  induction cs generalizing part with
  | nil =>
    rw [splitOn, List.mem_singleton] at h
    rw [h]
    exact List.not_mem_nil
  | cons c cs ih =>
    by_cases hc : c = separator
    · rw [splitOn, if_pos hc, List.mem_cons] at h
      obtain rfl | h := h
      · exact List.not_mem_nil
      · exact ih h
    · obtain ⟨first, parts, hparts, hcons⟩ := splitOn_cons_of_ne hc cs
      rw [hcons, List.mem_cons] at h
      obtain rfl | h := h
      · rw [List.mem_cons, not_or]
        exact ⟨Ne.symm hc, ih (hparts ▸ List.mem_cons_self)⟩
      · exact ih (hparts ▸ List.mem_cons_of_mem _ h)

/-- A piece holds characters of the text only. -/
theorem mem_of_mem_splitOn {part : List Char} {c : Char} (h : part ∈ splitOn separator cs) (hc : c ∈ part) :
    c ∈ cs := by
  induction cs generalizing part with
  | nil =>
    rw [splitOn, List.mem_singleton] at h
    rw [h] at hc
    exact absurd hc List.not_mem_nil
  | cons d cs ih =>
    by_cases hd : d = separator
    · rw [splitOn, if_pos hd, List.mem_cons] at h
      obtain rfl | h := h
      · exact absurd hc List.not_mem_nil
      · exact List.mem_cons_of_mem _ (ih h hc)
    · obtain ⟨first, parts, hparts, hcons⟩ := splitOn_cons_of_ne hd cs
      rw [hcons, List.mem_cons] at h
      obtain rfl | h := h
      · obtain rfl | hc := List.mem_cons.mp hc
        · exact List.mem_cons_self
        · exact List.mem_cons_of_mem _ (ih (hparts ▸ List.mem_cons_self) hc)
      · exact List.mem_cons_of_mem _ (ih (hparts ▸ List.mem_cons_of_mem _ h) hc)

theorem splitOn_map {f : Char → Char} (hf : ∀ c, f c = separator ↔ c = separator) :
    splitOn separator (cs.map f) = (splitOn separator cs).map (List.map f) := by
  induction cs with
  | nil => rfl
  | cons c cs ih =>
    by_cases hc : c = separator
    · rw [List.map_cons, splitOn, if_pos ((hf c).mpr hc), ih, splitOn, if_pos hc]
      rfl
    · obtain ⟨part, parts, hparts, hcons⟩ := splitOn_cons_of_ne hc cs
      rw [List.map_cons, splitOn, if_neg (mt (hf c).mp hc), ih, hcons, hparts]
      rfl

/-- A joined text holds the separator and what its pieces hold. -/
theorem mem_intercalate {c : Char} {parts : List (List Char)} (h : c ∈ [separator].intercalate parts) :
    c = separator ∨ ∃ part ∈ parts, c ∈ part := by
  induction parts with
  | nil => exact absurd h List.not_mem_nil
  | cons part parts ih =>
    cases parts with
    | nil => exact .inr ⟨part, List.mem_cons_self, by rwa [List.intercalate_singleton] at h⟩
    | cons next parts =>
      rw [List.intercalate_cons_cons, List.mem_append, List.mem_append, List.mem_singleton] at h
      obtain (h | h) | h := h
      · exact .inr ⟨part, List.mem_cons_self, h⟩
      · exact .inl h
      · exact (ih h).imp_right fun ⟨other, hmem, hc⟩ => ⟨other, List.mem_cons_of_mem _ hmem, hc⟩

/-! ## Piece by piece -/

/-- All of a list is read if each of it is. -/
theorem mapM_eq_some {α β : Type} {f : α → Option β} {as : List α} {bs : List β} :
    as.mapM f = some bs ↔ List.Forall₂ (fun a b => f a = some b) as bs := by
  induction as generalizing bs with
  | nil => cases bs <;> simp
  | cons a as ih =>
    rw [List.mapM_cons, Option.bind_eq_bind, Option.bind_eq_some_iff]
    constructor
    · rintro ⟨b, hb, h⟩
      rw [Option.bind_eq_bind, Option.bind_eq_some_iff] at h
      obtain ⟨rest, hrest, h⟩ := h
      cases h
      exact .cons hb (ih.mp hrest)
    · rintro (_ | ⟨hb, hrest⟩)
      exact ⟨_, hb, by rw [ih.mpr hrest]; rfl⟩

theorem exists_of_mem_forall₂ {α β : Type} {r : α → β → Prop} {as : List α} {bs : List β}
    (h : List.Forall₂ r as bs) {b : β} (hb : b ∈ bs) : ∃ a ∈ as, r a b := by
  induction h with
  | nil => exact absurd hb List.not_mem_nil
  | cons hr _ ih =>
    obtain rfl | hb := List.mem_cons.mp hb
    · exact ⟨_, List.mem_cons_self, hr⟩
    · exact (ih hb).imp fun a ha => ⟨List.mem_cons_of_mem _ ha.1, ha.2⟩

end DurableJobs.Text
