import DurableJobs.Proofs.Url.Host
import DurableJobs.Url.Form

/-!
# The parts of a URL that has been read

Each part of a URL holds only what its place in the text allows: nothing in front of the query has a question mark
or a number sign in it (`front_uncut`), and the query has no number sign. So the text of a URL that has been read
is cut where its parts meet (`Apart.cutAt_text`).
-/

set_option autoImplicit false

namespace DurableJobs.Url

open DurableJobs.Text

/-! ## Segments -/

/-- What holds of each segment as it is written holds of the whole path, whatever the dots in it do. -/
theorem forall_mem_resolve {p : List Char → Prop} {drive : Bool} {path segments : List (List Char)} (hnil : p [])
    (hpath : ∀ segment ∈ path, p segment)
    (hwritten : ∀ segment ∈ segments, isDoubleDot (percentEncode pathSet segment) = false →
      isDot (percentEncode pathSet segment) = false → p (percentEncode pathSet segment))
    (hdrive : drive = true → ∀ segment ∈ segments, isDriveLetter segment = true → p (segment.take 1 ++ [':'])) :
    ∀ segment ∈ resolve drive path segments, p segment := by
  induction segments generalizing path with
  | nil => exact hpath
  | cons segment rest ih =>
    obtain ⟨hfirst, hrest⟩ := List.forall_mem_cons.mp hwritten
    have hnext {path : List (List Char)} (h : ∀ segment ∈ path, p segment) :
        ∀ segment ∈ resolve drive path rest, p segment :=
      ih h hrest fun hd other hother => hdrive hd other (List.mem_cons_of_mem _ hother)
    have hend {path : List (List Char)} (h : ∀ segment ∈ path, p segment) :
        ∀ segment ∈ (if rest.isEmpty then path ++ [[]] else path), p segment := by
      split
      · exact List.forall_mem_append.mpr ⟨h, List.forall_mem_singleton.mpr hnil⟩
      · exact h
    rw [resolve]
    dsimp only
    split
    next =>
      refine hnext (hend fun other hother => ?_)
      rw [shorten] at hother
      split at hother
      · exact hpath other hother
      · exact hpath other (List.dropLast_subset _ hother)
    next hdouble =>
      split
      next => exact hnext (hend hpath)
      next hdot =>
        split
        next hletter =>
          exact hnext (List.forall_mem_singleton.mpr (hdrive hletter.1 segment List.mem_cons_self hletter.2.2))
        next =>
          refine hnext (List.forall_mem_append.mpr ⟨hpath, List.forall_mem_singleton.mpr ?_⟩)
          exact hfirst (Bool.not_eq_true _ ▸ hdouble) (Bool.not_eq_true _ ▸ hdot)

theorem dropLeadingEmpty_subset (path : List (List Char)) : dropLeadingEmpty path ⊆ path := by
  fun_induction dropLeadingEmpty path with
  | case1 segment rest ih => exact fun s hs => List.mem_cons_of_mem _ (ih hs)
  | case2 => exact fun s hs => hs

theorem lasting_pathSet : Lasting pathSet := by
  decide

theorem kept_drive {segment : List Char} (h : isDriveLetter segment = true) : Kept pathSet (segment.take 1 ++ [':']) := by
  unfold isDriveLetter at h
  split at h
  next letter mark =>
    rw [Bool.and_eq_true] at h
    obtain ⟨hbare, -, -⟩ := bare_of_isAlphanum (c := letter) (by rw [Char.isAlphanum, h.1, Bool.true_or])
    intro c hc
    obtain rfl | rfl : c = letter ∨ c = ':' := by simpa using hc
    · exact ⟨hbare.2.1, forall_ascii (p := fun c => c.isAlpha = true → pathSet c = false) (by decide) hbare.2.1 h.1⟩
    · decide
  next => cases h

/-- Every segment of a path is written as it may be. -/
theorem kept_segmentsOf {kind : SchemeKind} {drive : Bool} {cs : List Char} :
    ∀ segment ∈ segmentsOf kind drive cs, Kept pathSet segment := by
  have hresolve (segments : List (List Char)) : ∀ segment ∈ resolve drive [] segments, Kept pathSet segment :=
    forall_mem_resolve kept_nil (fun _ h => absurd h List.not_mem_nil) (fun _ _ _ _ => lasting_pathSet.kept)
      fun _ segment _ h => kept_drive h
  intro segment hsegment
  rw [segmentsOf] at hsegment
  dsimp only at hsegment
  split at hsegment
  · split at hsegment
    · exact absurd hsegment List.not_mem_nil
    · rw [List.mem_singleton.mp hsegment]
      exact kept_nil
  · split at hsegment
    · exact hresolve _ segment (dropLeadingEmpty_subset _ hsegment)
    · exact hresolve _ segment hsegment

/-! ## Authorities -/

theorem lasting_userinfoSet : Lasting userinfoSet := by
  decide

theorem kept_credentialsOf (cs : List Char) :
    Kept userinfoSet (credentialsOf cs).1 ∧ Kept userinfoSet (credentialsOf cs).2.1 := by
  rw [credentialsOf]
  split
  · exact ⟨kept_nil, kept_nil⟩
  · exact ⟨lasting_userinfoSet.kept, lasting_userinfoSet.kept⟩

/-- A port that is written: none that a port cannot be, and not the one of the scheme. -/
def PortOf (scheme : List Char) (port : Option Nat) : Prop :=
  ∀ n, port = some n → n ≤ 65535 ∧ standardPort? scheme ≠ some n

theorem portOf_range {scheme cs behind : List Char} {port : Option Nat} (h : portOf scheme cs = .ok (port, behind)) :
    PortOf scheme port := by
  rw [portOf] at h
  split at h
  · cases h
  next hsmall =>
    split at h
    · cases h
      rintro n hn
      split at hn
      · cases hn
      next hother =>
        cases hn
        exact ⟨by omega, fun heq => hother (.inr heq)⟩
    · cases h

theorem portBehind_range {scheme cs behind : List Char} {port : Option Nat}
    (h : portBehind scheme cs = .ok (port, behind)) : PortOf scheme port := by
  unfold portBehind at h
  split at h
  · cases h
    exact fun n hn => by cases hn
  · exact portOf_range h

/-- What the authority of a URL holds. -/
theorem authorityOf_eq_ok {scheme cs : List Char} {followed : Bool} {a : Authority}
    (h : authorityOf scheme followed cs = .ok a) :
    Kept userinfoSet a.username ∧ Kept userinfoSet a.password ∧ PortOf scheme a.port ∧ ∃ text, hostOf scheme text = .ok a.host := by
  obtain ⟨husername, hpassword⟩ := kept_credentialsOf cs
  rw [authorityOf] at h
  dsimp only at h
  split at h
  · cases h
  · obtain ⟨host, hhost, h⟩ := bind_eq_ok.mp h
    obtain ⟨⟨port, behind⟩, hport, h⟩ := bind_eq_ok.mp h
    cases h
    exact ⟨husername, hpassword, portBehind_range hport, _, hhost⟩

/-! ## In front of the query -/

/-- Neither of the characters that a URL is cut at. -/
def Uncut (cs : List Char) : Prop := ∀ c ∈ cs, c ≠ '?' ∧ c ≠ '#'

theorem Kept.uncut_path {segment : List Char} (h : Kept pathSet segment) : Uncut segment :=
  h.all (p := fun c => c ≠ '?' ∧ c ≠ '#') (by decide)

theorem Kept.uncut_userinfo {cs : List Char} (h : Kept userinfoSet cs) : Uncut cs :=
  h.all (p := fun c => c ≠ '?' ∧ c ≠ '#') (by decide)

theorem Bare.uncut {c : Char} (h : Bare c) : c ≠ '?' ∧ c ≠ '#' := ⟨h.2.2.2.2.1, h.2.2.2.2.2.1⟩

theorem Uncut.append {cs ds : List Char} (hcs : Uncut cs) (hds : Uncut ds) : Uncut (cs ++ ds) :=
  List.forall_mem_append.mpr ⟨hcs, hds⟩

theorem Uncut.cons {c : Char} {cs : List Char} (hc : c ≠ '?' ∧ c ≠ '#') (hcs : Uncut cs) : Uncut (c :: cs) :=
  List.forall_mem_cons.mpr ⟨hc, hcs⟩

theorem uncut_nil : Uncut [] := fun _ h => absurd h List.not_mem_nil

theorem uncut_percentEncode {set : EncodeSet} {cs : List Char} (h : Uncut cs) : Uncut (percentEncode set cs) := by
  intro c hc
  obtain ⟨hmem, -⟩ | rfl | ⟨d, hd, rfl⟩ := mem_percentEncode hc
  · exact h c hmem
  · decide
  · exact (bare_of_isAlphanum (upperHex_ascii hd).2.1).1.uncut

theorem uncut_specialHost {cs : List Char} {host : Host} (h : specialHost cs = .ok host) : Uncut host.text :=
  fun c hc => ((specialHost_text h).2.1 c hc).uncut

theorem uncut_hostOf {scheme cs : List Char} {host : Host} (h : hostOf scheme cs = .ok host) : Uncut host.text := by
  rw [hostOf] at h
  split at h
  · exact uncut_specialHost h
  · unfold otherHost at h
    split at h
    next rest => exact uncut_specialHost (show specialHost ('[' :: rest) = .ok host from h)
    next =>
      split at h
      · cases h
      next hallowed =>
        cases h
        refine uncut_percentEncode fun c hc => ?_
        have hc' : forbiddenInHost c = false := by simpa using fun heq => hallowed (List.any_eq_true.mpr ⟨c, hc, heq⟩)
        constructor
        · rintro rfl
          cases hc'
        · rintro rfl
          cases hc'

theorem uncut_fileHost {cs : List Char} {host : Host} (h : fileHost cs = .ok host) : Uncut host.text := by
  rw [fileHost] at h
  split at h
  · cases h
    exact uncut_nil
  · obtain ⟨found, hfound, h⟩ := bind_eq_ok.mp h
    cases h
    split
    · exact uncut_nil
    · exact uncut_specialHost hfound

theorem uncut_segments {segments : List (List Char)} (h : ∀ segment ∈ segments, Kept pathSet segment) :
    Uncut (Path.segments segments).text := by
  intro c hc
  obtain ⟨segment, hsegment, hc⟩ := List.mem_flatMap.mp hc
  obtain rfl | hc := List.mem_cons.mp hc
  · decide
  · exact (h segment hsegment).uncut_path c hc

/-- The text of a URL up to its query. -/
def frontText (url : Url) : List Char := url.scheme ++ ':' :: url.authorityText ++ url.path.text

theorem text_eq (url : Url) : url.text = url.frontText ++ queryText url.query ++ fragmentText url.fragment := rfl

theorem uncut_portText (port : Option Nat) : Uncut (portText port) := by
  unfold portText
  split
  next n =>
    refine .cons (by decide) fun c hc => ?_
    rw [Nat.toString_eq_ofList_toDigits, String.toList_ofList] at hc
    have hdigit := isDigits_toDigits n c hc
    exact (bare_of_isAlphanum (by rw [Char.isAlphanum, hdigit, Bool.or_true])).1.uncut
  next => exact uncut_nil

/-- The front of a URL is uncut if its parts are. -/
theorem uncut_frontText {url : Url} (hscheme : Uncut url.scheme) (husername : Uncut url.username)
    (hpassword : Uncut url.password) (hhost : ∀ host, url.host = some host → Uncut host.text)
    (hpath : Uncut url.path.text) : Uncut url.frontText := by
  have hcredentials : Uncut url.credentialsText := by
    rw [credentialsText]
    split
    · exact uncut_nil
    · refine (husername.append ?_).append (.cons (by decide) uncut_nil)
      split
      · exact uncut_nil
      · exact .cons (by decide) hpassword
  have hauthority : Uncut url.authorityText := by
    unfold authorityText
    split
    next host hsome =>
      exact ((Uncut.cons (by decide) (.cons (by decide) hcredentials)).append (hhost host hsome)).append
        (uncut_portText _)
    next =>
      split
      · exact .cons (by decide) (.cons (by decide) uncut_nil)
      · exact uncut_nil
  exact (hscheme.append (.cons (by decide) hauthority)).append hpath

theorem uncut_ofAuthority {scheme cs : List Char} {more : Bool} {url : Url} (hscheme : Uncut scheme)
    (h : ofAuthority scheme cs more = .ok url) : Uncut url.frontText := by
  obtain ⟨a, ha, h⟩ := bind_eq_ok.mp h
  cases h
  obtain ⟨husername, hpassword, -, text, hhost⟩ := authorityOf_eq_ok ha
  refine uncut_frontText hscheme husername.uncut_userinfo hpassword.uncut_userinfo (fun host hsome => ?_)
    (uncut_segments kept_segmentsOf)
  cases hsome
  exact uncut_hostOf hhost

theorem uncut_ofPath {scheme : List Char} {host : Option Host} {path : Path} (hscheme : Uncut scheme)
    (hhost : ∀ found, host = some found → Uncut found.text) (hpath : Uncut path.text) :
    Uncut (ofPath scheme host path).frontText :=
  uncut_frontText hscheme uncut_nil uncut_nil hhost hpath

theorem uncut_ofFile {scheme cs : List Char} {url : Url} (hscheme : Uncut scheme) (h : ofFile scheme cs = .ok url) :
    Uncut url.frontText := by
  have hnoHost (found : Host) (hfound : some noHost = some found) : Uncut found.text := by
    cases hfound
    exact uncut_nil
  rw [ofFile] at h
  dsimp only at h
  split at h
  · cases h
    exact uncut_ofPath hscheme hnoHost (uncut_segments kept_segmentsOf)
  · split at h
    · cases h
      exact uncut_ofPath hscheme hnoHost (uncut_segments kept_segmentsOf)
    · obtain ⟨host, hhost, h⟩ := bind_eq_ok.mp h
      cases h
      refine uncut_ofPath hscheme (fun found hfound => ?_) (uncut_segments kept_segmentsOf)
      cases hfound
      split
      · exact uncut_nil
      · exact uncut_fileHost hhost

/-- Nothing in front of the query looks like the start of a query or a fragment. -/
theorem front_uncut {scheme cs : List Char} {more : Bool} {url : Url} (hscheme : Uncut scheme) (hcs : Uncut cs)
    (h : front scheme cs more = .ok url) : Uncut url.frontText := by
  have hnone (found : Host) (hfound : none = some found) : Uncut found.text := by cases hfound
  unfold front at h
  split at h
  · exact uncut_ofAuthority hscheme h
  · exact uncut_ofFile hscheme h
  · split at h
    · exact uncut_ofAuthority hscheme h
    · cases h
      exact uncut_ofPath hscheme hnone (uncut_segments kept_segmentsOf)
    · cases h
      exact uncut_ofPath hscheme hnone (uncut_percentEncode hcs)

/-! ## The whole -/

theorem isSchemeChar_uncut {c : Char} (h : isSchemeChar c = true) : c.toLower ≠ '?' ∧ c.toLower ≠ '#' := by
  have hascii : c.toNat < 0x80 := by
    rw [isSchemeChar, Bool.or_eq_true, Bool.or_eq_true, Bool.or_eq_true, beq_iff_eq, beq_iff_eq, beq_iff_eq] at h
    obtain ((halnum | rfl) | rfl) | rfl := h
    · exact (bare_of_isAlphanum halnum).1.2.1
    all_goals decide
  exact forall_ascii (p := fun c => isSchemeChar c = true → c.toLower ≠ '?' ∧ c.toLower ≠ '#') (by decide) hascii h

theorem scheme?_uncut {cs scheme rest : List Char} (h : scheme? cs = some (scheme, rest)) :
    Uncut scheme ∧ ∀ c ∈ rest, c ∈ cs := by
  rw [scheme?] at h
  split at h
  next first behind hfirst hdrop =>
    split at h
    · cases h
      refine ⟨fun c hc => ?_, fun c hc => ?_⟩
      · obtain ⟨d, hd, rfl⟩ := List.mem_map.mp hc
        exact isSchemeChar_uncut (List.mem_takeWhile_imp hd)
      · have hmem : c ∈ cs.dropWhile isSchemeChar := by
          rw [hdrop]
          exact List.mem_cons_of_mem _ hc
        exact (List.dropWhile_sublist _).subset hmem
    · cases h
  next => cases h

/-- What a query may not hold, by the scheme. -/
def querySetOf (scheme : List Char) : EncodeSet := if kindOfScheme scheme = .other then querySet else specialQuerySet

/-- What is read of a text that is a URL. -/
theorem parse_eq_ok {cs : List Char} {url : Url} (h : parse cs = .ok url) :
    ∃ scheme behind more parts, Uncut scheme ∧ Uncut behind ∧ front scheme behind more = .ok parts ∧
      url =
        { parts with
          query := (cutAt '?' (cutAt '#' (significant cs)).1).2.map (percentEncode (querySetOf scheme))
          fragment := (cutAt '#' (significant cs)).2.map (percentEncode fragmentSet) } := by
  rw [parse] at h
  dsimp only at h
  split at h
  · cases h
  next scheme behind hscheme =>
    obtain ⟨parts, hparts, h⟩ := bind_eq_ok.mp h
    cases h
    obtain ⟨huncut, hbehind⟩ := scheme?_uncut hscheme
    refine ⟨scheme, behind, _, parts, huncut, fun c hc => ⟨?_, ?_⟩, hparts, rfl⟩
    · rintro rfl
      exact not_mem_cutAt_fst (hbehind _ hc)
    · rintro rfl
      exact not_mem_cutAt_fst (mem_of_mem_cutAt_fst (hbehind _ hc))

theorem lasting_querySetOf (scheme : List Char) : Lasting (querySetOf scheme) ∧ querySetOf scheme '#' = true := by
  rw [querySetOf]
  split <;> decide

/-- A URL whose front and query are cut by nothing. -/
structure Apart (url : Url) : Prop where
  front : Uncut url.frontText
  query : ∀ q, url.query = some q → '#' ∉ q

/-- A URL that has been read is one. -/
theorem apart_of_parse {cs : List Char} {url : Url} (h : parse cs = .ok url) : Apart url := by
  obtain ⟨scheme, behind, more, parts, hscheme, hbehind, hparts, rfl⟩ := parse_eq_ok h
  have hfront : Uncut parts.frontText := front_uncut hscheme hbehind hparts
  refine ⟨hfront, fun q hq hmem => ?_⟩
  obtain ⟨source, -, rfl⟩ := Option.map_eq_some_iff.mp hq
  obtain ⟨hlasting, hsign⟩ := lasting_querySetOf scheme
  have hkept := (hlasting.kept _ hmem).2
  rw [hsign] at hkept
  cases hkept

/-- The text of a URL is cut into its parts. -/
theorem Apart.cutAt_text {url : Url} (h : Apart url) :
    cutAt '#' url.text = (url.frontText ++ queryText url.query, url.fragment) ∧
      cutAt '?' (url.frontText ++ queryText url.query) = (url.frontText, url.query) := by
  have hfront : '#' ∉ url.frontText := fun hmem => (h.front _ hmem).2 rfl
  have hmark : '?' ∉ url.frontText := fun hmem => (h.front _ hmem).1 rfl
  have hquery : '#' ∉ url.frontText ++ queryText url.query := by
    rw [List.mem_append, not_or]
    refine ⟨hfront, ?_⟩
    cases hq : url.query with
    | none => exact List.not_mem_nil
    | some q =>
      rw [queryText, List.mem_cons, not_or]
      exact ⟨by decide, h.query q hq⟩
  constructor
  · rw [text_eq]
    cases url.fragment with
    | none => rw [fragmentText, List.append_nil, cutAt_of_not_mem hquery]
    | some f => exact cutAt_append hquery
  · cases url.query with
    | none => rw [queryText, List.append_nil, cutAt_of_not_mem hmark]
    | some q => exact cutAt_append hmark

end DurableJobs.Url
