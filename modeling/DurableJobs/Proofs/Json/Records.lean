import DurableJobs.Json.Record
import DurableJobs.Proofs.Json.Codecs

/-!
# Faithful maps and records

An object is read member by member, and both a map and a record are written as one. A map is read back
from its entries in any order (`Reads.mapOf`). What has been found of a record is known by the names that
have been read (`Draft.upTo`), so a member goes into its own slot and no other, and in the end every slot is
filled.
-/

set_option autoImplicit false

namespace DurableJobs

/-! ## Entries by key -/

namespace Keyed

variable {α : Type} {key : String} {value : α} {entries entries' : Keyed α}

/-- The entries are in the order of their keys, each key once. -/
def Sorted (entries : Keyed α) : Prop := entries.Pairwise fun a b => a.1 < b.1

theorem mem_put {e : String × α} (h : e ∈ put key value entries) : e = (key, value) ∨ e ∈ entries := by
  induction entries with
  | nil => exact Or.inl (List.mem_singleton.mp h)
  | cons entry entries ih =>
    unfold put at h
    split at h
    · exact List.mem_cons.mp h
    · split at h
      · rcases List.mem_cons.mp h with rfl | h
        · exact Or.inl rfl
        · exact Or.inr (List.mem_cons_of_mem _ h)
      · rcases List.mem_cons.mp h with rfl | h
        · exact Or.inr List.mem_cons_self
        · exact (ih h).imp_right (List.mem_cons_of_mem _)

theorem Sorted.put (h : Sorted entries) : Sorted (put key value entries) := by
  induction entries with
  | nil => exact List.pairwise_singleton _ _
  | cons entry entries ih =>
    obtain ⟨k, v⟩ := entry
    obtain ⟨hfirst, hrest⟩ := List.pairwise_cons.mp h
    unfold Keyed.put
    split
    · next hlt =>
      refine List.pairwise_cons.mpr ⟨fun e he => ?_, h⟩
      rcases List.mem_cons.mp he with rfl | he
      · exact hlt
      · exact String.lt_trans hlt (hfirst e he)
    · split
      · next heq => exact List.pairwise_cons.mpr ⟨fun e he => heq ▸ hfirst e he, hrest⟩
      · next hge hne =>
        refine List.pairwise_cons.mpr ⟨fun e he => ?_, ih hrest⟩
        rcases mem_put he with rfl | he
        · apply String.not_le.mp
          intro hle
          exact hne (String.le_antisymm hle (String.not_lt.mp hge))
        · exact hfirst e he

/-- A key that is new adds its entry. -/
theorem put_perm (h : key ∉ entries.map Prod.fst) :
    (put key value entries).Perm ((key, value) :: entries) := by
  induction entries with
  | nil => exact List.Perm.refl _
  | cons entry entries ih =>
    rw [List.map_cons, List.mem_cons, not_or] at h
    unfold put
    split
    · exact List.Perm.refl _
    · rw [if_neg h.1]
      exact ((ih h.2).cons _).trans (List.Perm.swap _ _ _)

theorem Sorted.eq_of_perm (h : Sorted entries) (h' : Sorted entries') (hperm : entries.Perm entries') :
    entries = entries' := by
  refine hperm.eq_of_pairwise (fun a b _ _ hab hba => ?_) h h'
  exact absurd hba (String.lt_asymm hab)

theorem Sorted.nodup (h : Sorted entries) : (entries.map Prod.fst).Nodup := by
  refine List.pairwise_map.mpr (h.imp fun {a b} hlt heq => ?_)
  rw [heq] at hlt
  exact String.lt_irrefl _ hlt

/-- Entries put in one after the other are all in, in the order of their keys. -/
theorem foldl_put {added : List (String × α)} (hadded : (added.map Prod.fst).Nodup)
    (hnew : ∀ e ∈ added, e.1 ∉ entries.map Prod.fst) (h : Sorted entries) :
    Sorted (added.foldl (fun sorted e => put e.1 e.2 sorted) entries) ∧
      (added.foldl (fun sorted e => put e.1 e.2 sorted) entries).Perm (added ++ entries) := by
  induction added generalizing entries with
  | nil => exact ⟨h, List.Perm.refl _⟩
  | cons e added ih =>
    obtain ⟨hfirst, hadded⟩ := List.nodup_cons.mp hadded
    have hput := @put_perm α e.1 e.2 entries (hnew e List.mem_cons_self)
    have hlater : ∀ e' ∈ added, e'.1 ∉ (put e.1 e.2 entries).map Prod.fst := by
      intro e' he' hmem
      rcases List.mem_cons.mp ((hput.map Prod.fst).mem_iff.mp hmem) with heq | hmem
      · exact hfirst (heq ▸ List.mem_map_of_mem he')
      · exact hnew e' (List.mem_cons_of_mem _ he') hmem
    obtain ⟨hsorted, hperm⟩ := ih hadded hlater h.put
    exact ⟨hsorted, hperm.trans ((hput.append_left added).trans List.perm_middle)⟩

/-- Sorted entries are what their entries make in any order. -/
theorem Sorted.ofList_of_perm (h : Sorted entries) (hperm : entries'.Perm entries) :
    ofList entries' = entries := by
  have hnodup : (entries'.map Prod.fst).Nodup := (hperm.map Prod.fst).nodup_iff.mpr h.nodup
  obtain ⟨hsorted, hperm'⟩ := @foldl_put α [] entries' hnodup (by simp) List.Pairwise.nil
  rw [List.append_nil] at hperm'
  exact hsorted.eq_of_perm h (hperm'.trans hperm)

end Keyed

namespace Json

open DurableJobs.Text

/-! ## Members -/

/-- A member as it is written. -/
def memberText (member : String × String) : String := stringText member.1 ++ ":" ++ member.2

theorem toList_memberText (member : String × String) :
    (memberText member).toList = (stringText member.1).toList ++ ':' :: member.2.toList := by
  rw [memberText, String.toList_append, String.toList_append, List.append_assoc]
  rfl

theorem toList_objectText (members : List (String × String)) :
    (objectText members).toList =
      '\x7b' :: (itemsText true (members.map memberText) ++ ['\x7d']) := by
  rw [objectText, String.toList_append, String.toList_append, toList_intercalate]
  rfl

section Members

variable {c : Cursor} {text : List Char} {rest : List Symbol} {first : Bool}

/-- A reader has enough fuel for the members in front of it. -/
theorem length_members_lt_of_at {members : List (String × String)}
    (h : c.At (objectText members).toList rest) : members.length < c.rest.length + 1 := by
  rw [toList_objectText] at h
  rw [← List.length_map (f := memberText)]
  refine length_lt_of_at (fun text htext => ?_) h
  obtain ⟨member, -, rfl⟩ := List.mem_map.mp htext
  rw [toList_memberText, toList_stringText]
  exact List.cons_ne_nil _ _

theorem nextKey_quote (h : c.At (separator first ++ '"' :: text) rest) :
    ∃ c' : Cursor, nextKey first c = .ok (.element c'.skip) ∧ c'.At ('"' :: text) rest := by
  cases first with
  | true =>
    have hat : c.At ('"' :: text) rest := h
    refine ⟨c, ?_, hat⟩
    rw [nextKey, hat.skipSpace (by decide), hat.peek]
    rfl
  | false =>
    have hat : c.At (',' :: '"' :: text) rest := h
    refine ⟨c.skip, ?_, hat.skip⟩
    rw [nextKey, hat.skipSpace (by decide), hat.peek]
    simp [hat.skip.skipSpace (by decide), hat.skip.peek]

/-- The next key is found and read; its colon and its value are left. -/
theorem nextKey_member {member : String × String} {members : List String}
    (h : c.At (itemsText first (memberText member :: members) ++ ['\x7d']) rest) :
    ∃ c₁ c₂, nextKey first c = .ok (.element c₁) ∧ readString c₁ = .ok (member.1, c₂) ∧
      c₂.At (':' :: member.2.toList) ((itemsText false members ++ ['\x7d']).map some ++ rest) := by
  rw [itemsText, List.append_assoc, Cursor.at_append, toList_memberText, toList_stringText,
    List.cons_append] at h
  obtain ⟨c₁, hnext, hat⟩ := nextKey_quote h
  rw [← List.cons_append, ← toList_stringText] at hat
  obtain ⟨c₂, hread, hat'⟩ := readString_stringText hat
  exact ⟨c₁.skip, c₂, hnext, hread, hat'⟩

theorem nextKey_close (h : c.At ('\x7d' :: text) rest) : nextKey first c = .ok (.close c) := by
  rw [nextKey, h.skipSpace (by decide), h.peek]
  rfl

theorem readColon_of_at (h : c.At (':' :: text) rest) : readColon c = .ok c.skip := by
  rw [readColon, h.skipSpace (by decide), h.peek]
  rfl

theorem endObject_of_at (h : c.At ('\x7d' :: text) rest) : endObject c = (c.skip, none) := by
  rw [endObject, h.skipSpace (by decide), h.peek]
  rfl

end Members

/-! ## Maps -/

section Maps

variable {α : Type} {codec : Codec α}

/-- The entries of a map are read back one after the other. -/
theorem readEntries_of_at {members : List (String × α)}
    (hmembers : ∀ e ∈ members, Reads codec.read (codec.write e.2) e.2) {fuel : Nat}
    (hfuel : members.length < fuel) {first : Bool} (entries : Keyed α) {c : Cursor} {rest : List Symbol}
    (h : c.At (itemsText first ((members.map fun e => (e.1, codec.write e.2)).map memberText) ++
      ['\x7d']) rest) :
    ∃ c', readEntries codec.read fuel first entries c =
        .ok (members.foldl (fun sorted e => Keyed.put e.1 e.2 sorted) entries, c') ∧
      c'.At ['\x7d'] rest := by
  induction members generalizing fuel first entries c with
  | nil =>
    obtain ⟨fuel, rfl⟩ := Nat.exists_eq_add_of_lt hfuel
    refine ⟨c, ?_, h⟩
    rw [readEntries, nextKey_close h]
    rfl
  | cons e members ih =>
    obtain ⟨fuel, rfl⟩ := Nat.exists_eq_add_of_lt hfuel
    obtain ⟨c₁, c₂, hnext, hkey, hat⟩ := nextKey_member h
    obtain ⟨c₃, hread, hrest⟩ := hmembers e List.mem_cons_self c₂.skip _ hat.skip
      (ends_itemsText (Or.inr rfl) _)
    rw [readEntries, hnext, ok_bind]
    simp only [hkey, readColon_of_at hat, hread, ok_bind]
    exact ih (fun e he => hmembers e (List.mem_cons_of_mem _ he)) (by rw [List.length_cons]; omega)
      _ hrest

/-- A map is read back from its entries in any order. -/
theorem Reads.mapOf {entries members : Keyed α} (hsorted : entries.Sorted)
    (hentries : ∀ e ∈ entries, Reads codec.read (codec.write e.2) e.2) (hperm : members.Perm entries) :
    Reads (mapOf codec).read (objectText (members.map fun e => (e.1, codec.write e.2))) entries := by
  intro c rest hat _
  have hlength := length_members_lt_of_at hat
  rw [List.length_map] at hlength
  rw [toList_objectText] at hat
  obtain ⟨c', hread, hclose⟩ := readEntries_of_at
    (fun e he => hentries e (hperm.mem_iff.mp he)) hlength [] hat.skip
  refine ⟨c'.skip, ?_, Cursor.at_nil.mp hclose.skip⟩
  change (toValue c >>= fun c => _) = _
  rw [hat.toValue (by decide), ok_bind, if_pos hat.peek, hread, ok_bind, closing]
  simp only [endObject_of_at hclose]
  exact congrArg (fun entries => Except.ok (entries, c'.skip)) (hsorted.ofList_of_perm hperm)

theorem readEntries_yields {fuel : Nat} {first : Bool} {entries entries' : Keyed α} {c c' : Cursor}
    (hsorted : entries.Sorted) (hentries : ∀ e ∈ entries, codec.Yields e.2)
    (h : readEntries codec.read fuel first entries c = .ok (entries', c')) :
    entries'.Sorted ∧ ∀ e ∈ entries', codec.Yields e.2 := by
  induction fuel generalizing first entries c with
  | zero => cases h
  | succ fuel ih =>
    rw [readEntries] at h
    obtain ⟨ahead, -, h⟩ := bind_eq_ok.mp h
    cases ahead with
    | close c =>
      cases h
      exact ⟨hsorted, hentries⟩
    | element c =>
      obtain ⟨⟨key, c₁⟩, -, h⟩ := bind_eq_ok.mp h
      obtain ⟨c₂, -, h⟩ := bind_eq_ok.mp h
      obtain ⟨⟨a, c₃⟩, ha, h⟩ := bind_eq_ok.mp h
      refine ih hsorted.put ?_ h
      intro e he
      rcases Keyed.mem_put he with rfl | he
      · exact Or.inl ⟨c₂, c₃, ha⟩
      · exact hentries e he

theorem Codec.Yields.of_mapOf {entries : Keyed α} (h : (Json.mapOf codec).Yields entries) :
    entries.Sorted ∧ ∀ e ∈ entries, codec.Yields e.2 := by
  rcases h with ⟨c, c', hread⟩ | habsent
  · obtain ⟨c, -, hread⟩ := bind_eq_ok.mp hread
    split at hread
    · obtain ⟨⟨entries', c''⟩, hentries, hclose⟩ := bind_eq_ok.mp hread
      rw [← closing_eq_ok hclose]
      exact readEntries_yields List.Pairwise.nil (by simp) hentries
    · exact absurd hread refuse_ne_ok
  · cases habsent

end Maps

/-! ## Records -/

/-- The members tell the row: one for each field, each with a text that is read as its value. -/
def Tells : (fs : List Field) → Row fs → List (String × String) → Prop
  | [], _, members => members = []
  | _ :: _, _, [] => False
  | f :: fs, (a, row), member :: members =>
      (member.1 = f.name ∧ Reads f.codec.read member.2 a) ∧ Tells fs row members

/-- What has been found of a row when the members with these names have been read. -/
def Draft.upTo : (fs : List Field) → Row fs → List String → Draft fs
  | [], _, _ => ()
  | f :: fs, (a, row), names => (if f.name ∈ names then some a else none, Draft.upTo fs row names)

/-- Each value is one that its field's codec yields. -/
def Row.Yielded : (fs : List Field) → Row fs → Prop
  | [], _ => True
  | f :: fs, (a, row) => f.codec.Yields a ∧ Row.Yielded fs row

/-- Each value found is one that its field's codec yields. -/
def Draft.Yielded : (fs : List Field) → Draft fs → Prop
  | [], _ => True
  | f :: fs, (slot, draft) => (∀ a ∈ slot, f.codec.Yields a) ∧ Draft.Yielded fs draft

theorem atPlace_eq_ok {α : Type} {x : Except Error α} {a : α} : atPlace x = .ok a ↔ x = .ok a := by
  cases x with
  | error e => exact iff_of_false (fun h => by cases h) (fun h => by cases h)
  | ok b =>
    constructor
    all_goals
      intro h
      cases h
      rfl

@[simp]
theorem atPlace_ok {α : Type} (a : α) : atPlace (.ok a) = .ok a := rfl

section Reading

variable {fs : List Field} {row : Row fs} {members : List (String × String)} {names : List String}

theorem Tells.map_fst (h : Tells fs row members) : members.map Prod.fst = fs.map Field.name := by
  induction fs generalizing members with
  | nil =>
    cases h
    rfl
  | cons f fs ih =>
    cases members with
    | nil => cases h
    | cons member members => rw [List.map_cons, List.map_cons, h.1.1, ih h.2]

theorem Draft.upTo_nil : Draft.upTo fs row [] = Draft.empty fs := by
  induction fs with
  | nil => rfl
  | cons f fs ih =>
    obtain ⟨a, row⟩ := row
    rw [Draft.upTo, Draft.empty, ih, if_neg List.not_mem_nil]

/-- A name that is no field's adds nothing. -/
theorem Draft.upTo_cons_of_not_mem {name : String} (h : name ∉ fs.map Field.name) :
    Draft.upTo fs row (name :: names) = Draft.upTo fs row names := by
  induction fs with
  | nil => rfl
  | cons f fs ih =>
    obtain ⟨a, row⟩ := row
    rw [List.map_cons, List.mem_cons, not_or] at h
    rw [Draft.upTo, Draft.upTo, ih h.2]
    simp only [List.mem_cons, Ne.symm h.1, false_or]
    rfl

/-- When every field's name has been read, the row is complete. -/
theorem complete_upTo (h : ∀ f ∈ fs, f.name ∈ names) :
    complete fs (Draft.upTo fs row names) = .ok row := by
  induction fs with
  | nil => rfl
  | cons f fs ih =>
    obtain ⟨a, row⟩ := row
    rw [Draft.upTo, if_pos (h f List.mem_cons_self), complete,
      ih fun f hf => h f (List.mem_cons_of_mem _ hf)]
    rfl

/-- A member is read into the slot of its field. -/
theorem readMemberInto_upTo (htells : Tells fs row members) (hnodup : (fs.map Field.name).Nodup)
    {member : String × String} (hmember : member ∈ members) (hnew : member.1 ∉ names) {c : Cursor}
    {rest : List Symbol} (h : c.At (':' :: member.2.toList) rest) (hrest : Ends rest) :
    ∃ c', readMemberInto member.1 fs (Draft.upTo fs row names) c =
        .ok (Draft.upTo fs row (member.1 :: names), c') ∧ c'.rest = rest := by
  induction fs generalizing members with
  | nil =>
    cases htells
    cases hmember
  | cons f fs ih =>
    obtain ⟨a, row⟩ := row
    obtain ⟨hname, hnodup⟩ := List.nodup_cons.mp hnodup
    cases members with
    | nil => cases htells
    | cons first members =>
      obtain ⟨⟨hfirst, hreads⟩, htells⟩ := htells
      rw [Draft.upTo, Draft.upTo, readMemberInto]
      rcases List.mem_cons.mp hmember with rfl | hlater
      · obtain ⟨c', hread, hrest'⟩ := hreads c.skip rest h.skip hrest
        refine ⟨c', ?_, hrest'⟩
        rw [if_pos hfirst.symm, ← hfirst, if_neg hnew, readColon_of_at h,
          Draft.upTo_cons_of_not_mem (hfirst ▸ hname)]
        simp [hread]
      · obtain ⟨c', hread, hrest'⟩ := ih htells hnodup hlater
        have hother : f.name ≠ member.1 := by
          intro heq
          rw [heq, ← htells.map_fst] at hname
          exact hname (List.mem_map_of_mem hlater)
        refine ⟨c', ?_, hrest'⟩
        rw [if_neg hother, hread]
        simp [hother]

/-- The members of a record are read one after the other, each into its slot. -/
theorem readDraft_upTo (htells : Tells fs row members) (hnodup : (fs.map Field.name).Nodup)
    {left : List (String × String)} (hleft : ∀ member ∈ left, member ∈ members)
    (hdistinct : (left.map Prod.fst).Nodup) (hnew : ∀ member ∈ left, member.1 ∉ names) {fuel : Nat}
    (hfuel : left.length < fuel) {first : Bool} {c : Cursor} {rest : List Symbol}
    (h : c.At (itemsText first (left.map memberText) ++ ['\x7d']) rest) :
    ∃ c', readDraft fs fuel first (Draft.upTo fs row names) c =
        .ok (Draft.upTo fs row ((left.map Prod.fst).reverse ++ names), c') ∧ c'.At ['\x7d'] rest := by
  induction left generalizing fuel first names c with
  | nil =>
    obtain ⟨fuel, rfl⟩ := Nat.exists_eq_add_of_lt hfuel
    refine ⟨c, ?_, h⟩
    rw [readDraft, nextKey_close h]
    rfl
  | cons member left ih =>
    obtain ⟨fuel, rfl⟩ := Nat.exists_eq_add_of_lt hfuel
    obtain ⟨hfirst, hdistinct⟩ := List.nodup_cons.mp hdistinct
    obtain ⟨c₁, c₂, hnext, hkey, hat⟩ := nextKey_member h
    obtain ⟨c₃, hread, hrest⟩ := readMemberInto_upTo htells hnodup (hleft member List.mem_cons_self)
      (hnew member List.mem_cons_self) hat (ends_itemsText (Or.inr rfl) _)
    have hlater : ∀ other ∈ left, other.1 ∉ member.1 :: names := by
      intro other hother hmem
      rcases List.mem_cons.mp hmem with heq | hmem
      · exact hfirst (heq ▸ List.mem_map_of_mem hother)
      · exact hnew other (List.mem_cons_of_mem _ hother) hmem
    rw [readDraft, hnext, atPlace_ok, ok_bind]
    simp only [hkey, atPlace_ok, hread, ok_bind]
    rw [List.map_cons, List.reverse_cons, List.append_assoc]
    exact ih (fun other hother => hleft other (List.mem_cons_of_mem _ hother)) hdistinct hlater
      (by rw [List.length_cons]; omega) hrest

/-- A record is read back from the texts of its members. -/
theorem Reads.readRow (name : String) (htells : Tells fs row members)
    (hnodup : (fs.map Field.name).Nodup) : Reads (readRow name fs) (objectText members) row := by
  intro c rest hat _
  have hlength := length_members_lt_of_at hat
  rw [toList_objectText] at hat
  obtain ⟨c', hread, hclose⟩ := @readDraft_upTo fs row members [] htells hnodup members (fun _ h => h)
    (htells.map_fst ▸ hnodup) (by simp) _ hlength true _ _ hat.skip
  have hcomplete : ∀ f ∈ fs, f.name ∈ (members.map Prod.fst).reverse ++ [] := by
    intro f hf
    rw [List.append_nil, List.mem_reverse, htells.map_fst]
    exact List.mem_map_of_mem hf
  refine ⟨c'.skip, ?_, Cursor.at_nil.mp hclose.skip⟩
  rw [Json.readRow, hat.toValue (by decide), ok_bind, if_neg (by simp [hat.peek]), if_pos hat.peek,
    ← Draft.upTo_nil, hread, ok_bind]
  simp only [complete_upTo hcomplete, closeRecord, closing, endObject_of_at hclose]

end Reading

section Yielding

variable {fs : List Field}

theorem Draft.Yielded.empty : (Draft.empty fs).Yielded := by
  induction fs with
  | nil => trivial
  | cons f fs ih => exact ⟨by simp, ih⟩

theorem readMemberInto_yields {key : String} {draft draft' : Draft fs} {c c' : Cursor}
    (hdraft : Draft.Yielded fs draft) (h : readMemberInto key fs draft c = .ok (draft', c')) :
    Draft.Yielded fs draft' := by
  induction fs generalizing c c' with
  | nil => trivial
  | cons f fs ih =>
    obtain ⟨slot, draft⟩ := draft
    rw [readMemberInto] at h
    split at h
    · split at h
      · cases h
      · obtain ⟨c₁, -, h⟩ := bind_eq_ok.mp h
        obtain ⟨⟨a, c₂⟩, ha, h⟩ := bind_eq_ok.mp h
        cases h
        refine ⟨fun b hb => ?_, hdraft.2⟩
        cases hb
        exact Or.inl ⟨c₁, _, atPlace_eq_ok.mp ha⟩
    · obtain ⟨⟨draft₁, c₁⟩, hrest, h⟩ := bind_eq_ok.mp h
      cases h
      exact ⟨hdraft.1, ih hdraft.2 hrest⟩

theorem readDraft_yields {fuel : Nat} {first : Bool} {draft draft' : Draft fs} {c c' : Cursor}
    (hdraft : Draft.Yielded fs draft) (h : readDraft fs fuel first draft c = .ok (draft', c')) :
    Draft.Yielded fs draft' := by
  induction fuel generalizing first draft c with
  | zero => cases h
  | succ fuel ih =>
    rw [readDraft] at h
    obtain ⟨ahead, -, h⟩ := bind_eq_ok.mp h
    cases ahead with
    | close c =>
      cases h
      exact hdraft
    | element c =>
      obtain ⟨⟨key, c₁⟩, -, h⟩ := bind_eq_ok.mp h
      obtain ⟨⟨draft₁, c₂⟩, hmember, h⟩ := bind_eq_ok.mp h
      exact ih (readMemberInto_yields hdraft hmember) h

theorem complete_yields {draft : Draft fs} {row : Row fs} (hdraft : Draft.Yielded fs draft)
    (h : complete fs draft = .ok row) : Row.Yielded fs row := by
  induction fs with
  | nil => trivial
  | cons f fs ih =>
    obtain ⟨slot, draft⟩ := draft
    rw [complete] at h
    split at h
    · cases h
    · next a ha =>
      obtain ⟨row', hrow, heq⟩ := map_eq_ok.mp h
      cases heq
      refine ⟨?_, ih hdraft.2 hrow⟩
      cases slot with
      | none => exact Or.inr ha
      | some b =>
        cases ha
        exact hdraft.1 a rfl

theorem readInOrder_yields {expected : String} {index : Nat} {row : Row fs} {c c' : Cursor}
    (h : readInOrder expected fs index c = .ok (row, c')) : Row.Yielded fs row := by
  induction fs generalizing index c c' with
  | nil => trivial
  | cons f fs ih =>
    rw [readInOrder] at h
    obtain ⟨ahead, -, h⟩ := bind_eq_ok.mp h
    cases ahead with
    | close c => cases h
    | element c =>
      obtain ⟨⟨a, c₁⟩, ha, h⟩ := bind_eq_ok.mp h
      obtain ⟨⟨row', c₂⟩, hrow, h⟩ := bind_eq_ok.mp h
      cases h
      exact ⟨Or.inl ⟨c, c₁, atPlace_eq_ok.mp ha⟩, ih hrow⟩

theorem closeRecord_eq_ok {α : Type} {close : Cursor → Cursor × Option Error}
    {result : Except Fault (α × Cursor)} {a : α} {c : Cursor}
    (h : closeRecord close result = .ok (a, c)) : ∃ c', result = .ok (a, c') := by
  cases result with
  | error fault => cases fault <;> cases h
  | ok result =>
    obtain ⟨b, c'⟩ := result
    have hb := closing_eq_ok h
    cases hb
    exact ⟨c', rfl⟩

theorem Codec.Yields.of_recordOf {name : String} {row : Row fs} (h : (recordOf name fs).Yields row) :
    Row.Yielded fs row := by
  rcases h with ⟨c, c', hread⟩ | habsent
  · obtain ⟨c, -, hread⟩ := bind_eq_ok.mp hread
    split at hread
    · obtain ⟨c₁, hrow⟩ := closeRecord_eq_ok hread
      exact readInOrder_yields hrow
    · split at hread
      · obtain ⟨c₁, hrow⟩ := closeRecord_eq_ok hread
        obtain ⟨⟨draft, c₂⟩, hdraft, hrow⟩ := bind_eq_ok.mp hrow
        have hyielded := readDraft_yields Draft.Yielded.empty hdraft
        cases hcomplete : complete fs draft with
        | error mismatch =>
          simp only [hcomplete] at hrow
          cases hrow
        | ok row' =>
          simp only [hcomplete] at hrow
          cases hrow
          exact complete_yields hyielded hcomplete
      · exact absurd hread refuse_ne_ok
  · cases habsent

/-- The texts that are written for a row tell it. -/
theorem tells_memberTexts {row : Row fs} (hfaithful : ∀ f ∈ fs, f.codec.Faithful)
    (hrow : Row.Yielded fs row) : Tells fs row (memberTexts fs row) := by
  induction fs with
  | nil => rfl
  | cons f fs ih =>
    obtain ⟨a, row⟩ := row
    refine ⟨⟨rfl, hfaithful f List.mem_cons_self a hrow.1⟩, ?_⟩
    exact ih (fun g hg => hfaithful g (List.mem_cons_of_mem _ hg)) hrow.2

/-- **A record whose fields have distinct names is faithful if its fields are.** -/
theorem recordOf_faithful (name : String) (hfaithful : ∀ f ∈ fs, f.codec.Faithful)
    (hnodup : (fs.map Field.name).Nodup) : (recordOf name fs).Faithful :=
  fun _ hyields => Reads.readRow name (tells_memberTexts hfaithful hyields.of_recordOf) hnodup

end Yielding

end Json

end DurableJobs
