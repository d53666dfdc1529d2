import DurableJobs.Proofs.Url.Parts

/-!
# A web URL is read from its text

Of a URL of a web scheme a good deal is known once it has been read, `Web`: there is a host, every part is encoded
as it would be again, no segment of the path is one of dots, and the port is not the one of the scheme. All that
matters for reading its text is in these conditions, and they also hold of URLs that were put together by hand
from such parts. The text of such a URL is read, part by part, as this URL, if it is read at all: that its host is
accepted once more is the one thing left open (`Web.of_parse_text`).
-/

set_option autoImplicit false

namespace DurableJobs.Url

open DurableJobs.Text

/-! ## Segments -/

/-- A segment of a path of the web as it stays. -/
structure Final (segment : List Char) : Prop where
  kept : Kept pathSet segment
  noSlash : '/' ∉ segment
  noBackslash : '\\' ∉ segment
  noDot : isDot segment = false
  noDoubleDot : isDoubleDot segment = false

theorem final_nil : Final [] :=
  ⟨kept_nil, List.not_mem_nil, List.not_mem_nil, by decide, by decide⟩

theorem resolve_ne_nil {drive : Bool} {path segments : List (List Char)} (hne : segments ≠ []) :
    resolve drive path segments ≠ [] := by
  induction segments generalizing path with
  | nil => exact absurd rfl hne
  | cons segment rest ih =>
    rw [resolve]
    dsimp only
    cases rest with
    | nil =>
      simp only [resolve]
      split
      · exact List.append_ne_nil_of_right_ne_nil _ (List.cons_ne_nil _ _)
      · split
        · exact List.append_ne_nil_of_right_ne_nil _ (List.cons_ne_nil _ _)
        · split
          · exact List.cons_ne_nil _ _
          · exact List.append_ne_nil_of_right_ne_nil _ (List.cons_ne_nil _ _)
    | cons next rest =>
      split
      · exact ih (List.cons_ne_nil _ _)
      · split
        · exact ih (List.cons_ne_nil _ _)
        · split
          · exact ih (List.cons_ne_nil _ _)
          · exact ih (List.cons_ne_nil _ _)

/-- Encoding puts no separator into a text. -/
theorem not_mem_percentEncode {set : EncodeSet} {cs : List Char} {c : Char} (h : c ∉ cs) (hpercent : c ≠ '%')
    (halnum : c.isAlphanum = false) : c ∉ percentEncode set cs := by
  intro hc
  obtain ⟨hmem, -⟩ | rfl | ⟨d, hd, rfl⟩ := mem_percentEncode hc
  · exact h hmem
  · exact hpercent rfl
  · rw [(upperHex_ascii hd).2.1] at halnum
    cases halnum

/-- The path of a web URL has segments, and they are final. -/
theorem final_segmentsOf (cs : List Char) :
    segmentsOf .special false cs ≠ [] ∧ ∀ segment ∈ segmentsOf .special false cs, Final segment := by
  have hmapped : '\\' ∉ cs.map fun c => if c = '\\' then '/' else c := by
    intro h
    obtain ⟨c, -, hc⟩ := List.mem_map.mp h
    split at hc
    · cases hc
    next hne => exact hne hc
  rw [segmentsOf]
  simp only [reduceCtorEq, if_false]
  generalize (cs.map fun c => if c = '\\' then '/' else c) = text at hmapped
  cases text with
  | nil => exact ⟨List.cons_ne_nil _ _, List.forall_mem_singleton.mpr final_nil⟩
  | cons c rest =>
    dsimp only
    have hpieces : '\\' ∉ if c = '/' then rest else c :: rest := by
      split
      · exact fun h => hmapped (List.mem_cons_of_mem _ h)
      · exact hmapped
    refine ⟨resolve_ne_nil (splitOn_ne_nil _ _), ?_⟩
    refine forall_mem_resolve final_nil (fun _ h => absurd h List.not_mem_nil) (fun segment hsegment hdouble hdot => ?_)
      fun h => absurd h Bool.false_ne_true
    exact ⟨lasting_pathSet.kept,
      not_mem_percentEncode (not_mem_of_mem_splitOn hsegment) (by decide) (by decide),
      not_mem_percentEncode (fun h => hpieces (mem_of_mem_splitOn hsegment h)) (by decide) (by decide), hdot, hdouble⟩

/-- Final segments are resolved to themselves. -/
theorem resolve_final {path segments : List (List Char)} (h : ∀ segment ∈ segments, Final segment) :
    resolve false path segments = path ++ segments := by
  induction segments generalizing path with
  | nil => rw [resolve, List.append_nil]
  | cons segment rest ih =>
    obtain ⟨hfirst, hrest⟩ := List.forall_mem_cons.mp h
    rw [resolve]
    dsimp only
    rw [hfirst.kept.percentEncode, hfirst.noDoubleDot, hfirst.noDot, if_neg Bool.false_ne_true, if_neg Bool.false_ne_true,
      if_neg fun hdrive => Bool.false_ne_true hdrive.1, ih hrest, List.append_assoc]
    rfl

theorem path_text_cons (segment : List Char) (segments : List (List Char)) :
    (Path.segments (segment :: segments)).text = '/' :: ['/'].intercalate (segment :: segments) := by
  induction segments generalizing segment with
  | nil => rw [Path.text, List.flatMap_singleton, List.intercalate_singleton]
  | cons next segments ih =>
    have hnext := ih next
    rw [Path.text] at hnext ⊢
    rw [List.flatMap_cons, hnext, List.intercalate_cons_cons, List.append_assoc]
    rfl

/-- The path is read from its text. -/
theorem segmentsOf_text {segments : List (List Char)} (hne : segments ≠ [])
    (h : ∀ segment ∈ segments, Final segment) :
    segmentsOf .special false (Path.segments segments).text = segments := by
  obtain ⟨segment, rest, rfl⟩ := List.exists_cons_of_ne_nil hne
  have hmapped : ((Path.segments (segment :: rest)).text.map fun c => if c = '\\' then '/' else c) =
      (Path.segments (segment :: rest)).text := by
    refine (List.map_congr_left fun c hc => if_neg ?_).trans (List.map_id _)
    rintro rfl
    obtain ⟨part, hpart, hc⟩ := List.mem_flatMap.mp hc
    exact (h part hpart).noBackslash ((List.mem_cons.mp hc).resolve_left (by decide))
  rw [segmentsOf, if_neg (by decide), hmapped, path_text_cons]
  dsimp only
  rw [if_pos rfl, splitOn_intercalate hne fun part hpart => (h part hpart).noSlash, resolve_final h, List.nil_append]
  rfl

/-! ## Authorities -/

section Authorities

variable {scheme cs : List Char} {host : Host} {port : Option Nat}

theorem Kept.bare_userinfo {cs : List Char} (h : Kept userinfoSet cs) : ∀ c ∈ cs, Bare c ∧ c ≠ ':' :=
  h.all (p := fun c => Bare c ∧ c ≠ ':') (by decide)

theorem bare_portText (port : Option Nat) : ∀ c ∈ portText port, Bare c := by
  unfold portText
  split
  next n =>
    refine List.forall_mem_cons.mpr ⟨by decide, fun c hc => ?_⟩
    rw [Nat.toString_eq_ofList_toDigits, String.toList_ofList] at hc
    have hdigit := isDigits_toDigits n c hc
    exact (bare_of_isAlphanum (by rw [Char.isAlphanum, hdigit, Bool.or_true])).1
  next => exact fun _ h => absurd h List.not_mem_nil

/-- A port is read from its text. -/
theorem portBehind_text (h : PortOf scheme port) : portBehind scheme (portText port) = .ok (port, []) := by
  cases port with
  | none => rfl
  | some n =>
    obtain ⟨hsmall, hother⟩ := h n rfl
    have hdigits := isDigits_toDigits n
    have htake : (Nat.toDigits 10 n).takeWhile Char.isDigit = Nat.toDigits 10 n :=
      List.takeWhile_eq_self_iff.mpr hdigits
    have hdrop : (Nat.toDigits 10 n).dropWhile Char.isDigit = [] := List.dropWhile_eq_nil_iff.mpr hdigits
    rw [portText, portBehind, Nat.toString_eq_ofList_toDigits, String.toList_ofList, portOf]
    rw [htake, hdrop, Address.numberIn?_toDigits_ten, Option.getD_some, if_neg (by omega), if_pos (.inl rfl),
      if_neg]
    rintro (hempty | hsame)
    · exact Nat.toDigits_ne_nil (List.isEmpty_iff.mp hempty)
    · exact hother hsame

/-- A user's name and password are read from their text. -/
theorem credentialsOf_text {url : Url} {rest : List Char} (husername : Kept userinfoSet url.username)
    (hpassword : Kept userinfoSet url.password) (hrest : '@' ∉ rest) :
    credentialsOf (url.credentialsText ++ rest) = (url.username, url.password, rest) := by
  have hcolon : ':' ∉ url.username := fun h => (husername.bare_userinfo _ h).2 rfl
  rw [credentialsText]
  split
  next hempty =>
    rw [List.isEmpty_iff, List.isEmpty_iff] at hempty
    rw [List.nil_append, credentialsOf, cutAtLast?_of_not_mem hrest, hempty.1, hempty.2]
  next =>
    rw [List.append_assoc, List.singleton_append, credentialsOf, cutAtLast?_append hrest]
    dsimp only
    split
    next hempty =>
      rw [List.append_nil, cutAt_of_not_mem hcolon, List.isEmpty_iff.mp hempty]
      dsimp only
      rw [husername.percentEncode]
      rfl
    next =>
      rw [cutAt_append hcolon]
      dsimp only
      rw [husername.percentEncode, Option.getD_some, hpassword.percentEncode]

/-- The text of an authority, if its host is accepted, is read as the authority. -/
theorem authorityOf_text {url : Url} {followed : Bool} {a : Authority} (hkind : kindOfScheme scheme = .special)
    (husername : Kept userinfoSet url.username) (hpassword : Kept userinfoSet url.password) (hport : PortOf scheme url.port)
    (hhost : specialHost cs = .ok host)
    (h : authorityOf scheme followed (url.credentialsText ++ (host.text ++ portText url.port)) = .ok a) :
    a = ⟨url.username, url.password, host, url.port, []⟩ := by
  obtain ⟨hne, hbare, -⟩ := specialHost_text hhost
  have hat : '@' ∉ host.text ++ portText url.port := by
    rw [List.mem_append, not_or]
    exact ⟨fun hmem => (hbare _ hmem).2.2.2.2.2.2 rfl, fun hmem => (bare_portText _ _ hmem).2.2.2.2.2.2 rfl⟩
  have hcolon : portText url.port = [] ∨ (portText url.port).head? = some ':' := by
    cases url.port with
    | none => exact .inl rfl
    | some n => exact .inr rfl
  rw [authorityOf, credentialsOf_text husername hpassword hat] at h
  dsimp only at h
  rw [spanHost_text hhost hcolon] at h
  dsimp only at h
  split at h
  · cases h
  · obtain ⟨found, hfound, h⟩ := bind_eq_ok.mp h
    rw [hostOf, if_pos hkind] at hfound
    rw [specialHost_again hhost hfound, portBehind_text hport, ok_bind] at h
    cases h
    rfl

end Authorities

/-! ## Web URLs -/

/-- What is known of a URL of a web scheme. -/
structure Web (url : Url) : Prop where
  kind : kindOfScheme url.scheme = .special
  username : Kept userinfoSet url.username
  password : Kept userinfoSet url.password
  host : ∃ source host, specialHost source = .ok host ∧ url.host = some host
  port : PortOf url.scheme url.port
  path : ∃ segments, segments ≠ [] ∧ (∀ segment ∈ segments, Final segment) ∧ url.path = .segments segments
  query : ∀ q, url.query = some q → Kept specialQuerySet q
  fragment : ∀ f, url.fragment = some f → Kept fragmentSet f

theorem ofAuthority_scheme {scheme cs : List Char} {more : Bool} {url : Url} (h : ofAuthority scheme cs more = .ok url) :
    url.scheme = scheme := by
  obtain ⟨a, -, h⟩ := bind_eq_ok.mp h
  cases h
  rfl

theorem ofFile_scheme {scheme cs : List Char} {url : Url} (h : ofFile scheme cs = .ok url) : url.scheme = scheme := by
  rw [ofFile] at h
  dsimp only at h
  split at h
  · cases h
    rfl
  · split at h
    · cases h
      rfl
    · obtain ⟨host, -, h⟩ := bind_eq_ok.mp h
      cases h
      rfl

theorem front_scheme {scheme cs : List Char} {more : Bool} {url : Url} (h : front scheme cs more = .ok url) :
    url.scheme = scheme := by
  unfold front at h
  split at h
  · exact ofAuthority_scheme h
  · exact ofFile_scheme h
  · split at h
    · exact ofAuthority_scheme h
    · cases h
      rfl
    · cases h
      rfl

theorem front_special {scheme : List Char} (hkind : kindOfScheme scheme = .special) (cs : List Char) (more : Bool) :
    front scheme cs more = ofAuthority scheme (cs.dropWhile (isSeparator .special)) more := by
  unfold front
  rw [hkind]

theorem querySetOf_special {scheme : List Char} (hkind : kindOfScheme scheme = .special) :
    querySetOf scheme = specialQuerySet := by
  rw [querySetOf, hkind, if_neg (by decide)]

/-- A URL of a web scheme that has been read is one. -/
theorem web_of_parse {cs : List Char} {url : Url} (h : parse cs = .ok url)
    (hkind : kindOfScheme url.scheme = .special) : Web url := by
  obtain ⟨scheme, behind, more, parts, -, -, hparts, rfl⟩ := parse_eq_ok h
  replace hkind : kindOfScheme scheme = .special := front_scheme hparts ▸ hkind
  have hkept {cs : Option (List Char)} {set : EncodeSet} (hset : Lasting set) (kept : List Char)
      (h : cs.map (percentEncode set) = some kept) : Kept set kept := by
    obtain ⟨source, -, rfl⟩ := Option.map_eq_some_iff.mp h
    exact hset.kept
  rw [front_special hkind] at hparts
  obtain ⟨a, ha, hparts⟩ := bind_eq_ok.mp hparts
  obtain ⟨husername, hpassword, hport, source, hhost⟩ := authorityOf_eq_ok ha
  rw [hostOf, if_pos hkind] at hhost
  cases hparts
  rw [hkind, querySetOf_special hkind]
  obtain ⟨hne, hfinal⟩ := final_segmentsOf
    (a.behind ++ (behind.dropWhile (isSeparator .special)).dropWhile fun c => !isSeparator .special c)
  exact
    { kind := hkind
      username := husername
      password := hpassword
      host := ⟨source, a.host, hhost, rfl⟩
      port := hport
      path := ⟨_, hne, hfinal, rfl⟩
      query := hkept (by decide : Lasting specialQuerySet)
      fragment := hkept (by decide : Lasting fragmentSet) }

/-! ### Text without blanks -/

/-- No blanks and no controls. -/
def Solid (cs : List Char) : Prop := ∀ c ∈ cs, 0x20 < c.toNat

/-- All of a text without blanks and controls counts. -/
theorem Solid.significant {cs : List Char} (h : Solid cs) : significant cs = cs := by
  have hdrop {ds : List Char} (hds : ∀ c ∈ ds, c ∈ cs) : ds.dropWhile isControlOrBlank = ds := by
    cases ds with
    | nil => rfl
    | cons d ds =>
      have hd := h d (hds d List.mem_cons_self)
      rw [List.dropWhile_cons_of_neg (by rw [isControlOrBlank, decide_eq_true_eq]; omega)]
  rw [Url.significant, hdrop fun _ hc => hc, hdrop fun _ hc => List.mem_reverse.mp hc, List.reverse_reverse,
    List.filter_eq_self]
  intro c hc
  have hc := h c hc
  rw [isTabOrLineEnd, Bool.not_eq_true', Bool.or_eq_false_iff, Bool.or_eq_false_iff, beq_eq_false_iff_ne,
    beq_eq_false_iff_ne, beq_eq_false_iff_ne]
  refine ⟨⟨?_, ?_⟩, ?_⟩
  all_goals
    rintro rfl
    exact absurd hc (by decide)

theorem Solid.append {cs ds : List Char} (hcs : Solid cs) (hds : Solid ds) : Solid (cs ++ ds) :=
  List.forall_mem_append.mpr ⟨hcs, hds⟩

theorem Solid.cons {c : Char} {cs : List Char} (hc : 0x20 < c.toNat) (hcs : Solid cs) : Solid (c :: cs) :=
  List.forall_mem_cons.mpr ⟨hc, hcs⟩

theorem solid_nil : Solid [] := fun _ h => absurd h List.not_mem_nil

theorem Kept.solid_path {cs : List Char} (h : Kept pathSet cs) : Solid cs :=
  h.all (p := fun c => 0x20 < c.toNat) (by decide)

theorem Kept.solid_query {cs : List Char} (h : Kept specialQuerySet cs) : Solid cs :=
  h.all (p := fun c => 0x20 < c.toNat) (by decide)

theorem Kept.solid_fragment {cs : List Char} (h : Kept fragmentSet cs) : Solid cs :=
  h.all (p := fun c => 0x20 < c.toNat) (by decide)

/-! ### The scheme -/

section Schemes

variable {scheme : List Char}

theorem mem_of_special (h : kindOfScheme scheme = .special) :
    scheme ∈ standardPorts.map fun entry => entry.1.toList := by
  rw [kindOfScheme] at h
  split at h
  · cases h
  · split at h
    next hport =>
      obtain ⟨entry, hentry, hname⟩ := List.lookup_isSome_iff.mp hport
      exact List.mem_map.mpr ⟨entry, hentry, by rw [← beq_iff_eq.mp hname, String.toList_ofList]⟩
    next => cases h

/-- The schemes of the web are written in lower case. -/
theorem special_chars (h : kindOfScheme scheme = .special) :
    scheme.head?.any Char.isAlpha = true ∧
      ∀ c ∈ scheme, isSchemeChar c = true ∧ c.toLower = c ∧ 0x20 < c.toNat ∧ c ≠ '?' ∧ c ≠ '#' := by
  have hall : ∀ s ∈ standardPorts.map (fun entry => entry.1.toList), s.head?.any Char.isAlpha = true ∧
      s.all (fun c => decide (isSchemeChar c = true ∧ c.toLower = c ∧ 0x20 < c.toNat ∧ c ≠ '?' ∧ c ≠ '#')) = true := by
    decide
  exact (hall scheme (mem_of_special h)).imp_right forall_of_all

/-- A scheme of the web is read from its text. -/
theorem scheme?_text (h : kindOfScheme scheme = .special) (rest : List Char) :
    scheme? (scheme ++ ':' :: rest) = some (scheme, rest) := by
  obtain ⟨hhead, hchars⟩ := special_chars h
  have hscheme : ∀ c ∈ scheme, isSchemeChar c = true := fun c hc => (hchars c hc).1
  have hlower : scheme.map Char.toLower = scheme :=
    (List.map_congr_left fun c hc => (hchars c hc).2.1).trans (List.map_id _)
  obtain ⟨first, hfirst, halpha⟩ := (Option.any_eq_true _ _).mp hhead
  have hhead : (scheme ++ ':' :: rest).head? = some first := by rw [List.head?_append, hfirst, Option.some_or]
  rw [scheme?, hhead, List.dropWhile_append_of_pos hscheme, List.takeWhile_append_of_pos hscheme,
    List.dropWhile_cons_of_neg (by decide), List.takeWhile_cons_of_neg (by decide), List.append_nil, hlower]
  exact if_pos halpha

end Schemes

/-! ### The parts -/

section Parts

variable {url again : Url}

theorem bare_credentialsText (husername : Kept userinfoSet url.username) (hpassword : Kept userinfoSet url.password) :
    ∀ c ∈ url.credentialsText, Bare c ∨ c = '@' := by
  intro c hc
  rw [credentialsText] at hc
  split at hc
  · exact absurd hc List.not_mem_nil
  · rw [List.mem_append, List.mem_append, List.mem_singleton] at hc
    obtain (hc | hc) | hc := hc
    · exact .inl (husername.bare_userinfo c hc).1
    · split at hc
      · exact absurd hc List.not_mem_nil
      · obtain rfl | hc := List.mem_cons.mp hc
        · exact .inl (by decide)
        · exact .inl (hpassword.bare_userinfo c hc).1
    · exact .inr hc

/-- Between the slashes and the path: user, host and port. -/
theorem Web.authority (h : Web url) :
    ∃ source host, specialHost source = .ok host ∧ url.host = some host ∧
      url.authorityText = '/' :: '/' :: (url.credentialsText ++ (host.text ++ portText url.port)) ∧
      url.credentialsText ++ (host.text ++ portText url.port) ≠ [] ∧
      ∀ c ∈ url.credentialsText ++ (host.text ++ portText url.port), Bare c ∨ c = '@' := by
  obtain ⟨source, host, hhost, hsome⟩ := h.host
  refine ⟨source, host, hhost, hsome, ?_, ?_, fun c hc => ?_⟩
  · unfold authorityText
    rw [hsome]
    simp only [List.cons_append, List.append_assoc]
  · exact List.append_ne_nil_of_right_ne_nil _ (List.append_ne_nil_of_left_ne_nil (specialHost_text hhost).1 _)
  · rw [List.mem_append, List.mem_append] at hc
    obtain hc | hc | hc := hc
    · exact bare_credentialsText h.username h.password c hc
    · exact .inl ((specialHost_text hhost).2.1 c hc)
    · exact .inl (bare_portText _ c hc)

theorem Web.apart (h : Web url) : Apart url := by
  obtain ⟨source, host, hhost, hsome⟩ := h.host
  obtain ⟨segments, -, hfinal, hpath⟩ := h.path
  refine ⟨uncut_frontText (fun c hc => ((special_chars h.kind).2 c hc).2.2.2) h.username.uncut_userinfo
    h.password.uncut_userinfo (fun found hfound => ?_) ?_,
    fun q hq hmem => absurd (h.query q hq _ hmem).2 (by decide)⟩
  · rw [hsome] at hfound
    cases hfound
    exact uncut_specialHost hhost
  · rw [hpath]
    exact uncut_segments fun segment hsegment => (hfinal segment hsegment).kept

theorem Web.solid (h : Web url) : Solid url.text := by
  obtain ⟨source, host, -, -, hauthority, -, hchars⟩ := h.authority
  obtain ⟨segments, -, hfinal, hpath⟩ := h.path
  have hscheme : Solid url.scheme := fun c hc => ((special_chars h.kind).2 c hc).2.2.1
  have hauthority : Solid url.authorityText := by
    rw [hauthority]
    refine .cons (by decide) (.cons (by decide) fun c hc => ?_)
    obtain hbare | rfl := hchars c hc
    · exact hbare.1
    · decide
  have hsegments : Solid url.path.text := by
    rw [hpath]
    intro c hc
    obtain ⟨segment, hsegment, hc⟩ := List.mem_flatMap.mp hc
    obtain rfl | hc := List.mem_cons.mp hc
    · decide
    · exact (hfinal segment hsegment).kept.solid_path c hc
  have hquery : Solid (queryText url.query) := by
    cases hq : url.query with
    | none => exact solid_nil
    | some q => exact .cons (by decide) (h.query q hq).solid_query
  have hfragment : Solid (fragmentText url.fragment) := by
    cases hf : url.fragment with
    | none => exact solid_nil
    | some f => exact .cons (by decide) (h.fragment f hf).solid_fragment
  exact (((hscheme.append (.cons (by decide) hauthority)).append hsegments).append hquery).append hfragment

/-- An authority is read up to the slash of the path. -/
theorem ofAuthority_append {scheme text path : List Char} {more : Bool} (hkind : kindOfScheme scheme = .special)
    (htext : ∀ c ∈ text, isSeparator .special c = false) (hne : text ≠ []) (hpath : path.head? = some '/') :
    ofAuthority scheme (('/' :: '/' :: text ++ path).dropWhile (isSeparator .special)) more =
      authorityOf scheme true text >>= fun a =>
        .ok
          ⟨scheme, a.username, a.password, some a.host, a.port,
           .segments (segmentsOf .special false (a.behind ++ path)), none, none⟩ := by
  obtain ⟨c, text, rfl⟩ := List.exists_cons_of_ne_nil hne
  obtain ⟨slash, path, rfl⟩ := List.exists_cons_of_ne_nil fun hnil : path = [] => by rw [hnil] at hpath; cases hpath
  obtain rfl : slash = '/' := Option.some.inj hpath
  have hstart : ('/' :: '/' :: c :: text ++ '/' :: path).dropWhile (isSeparator .special) =
      c :: text ++ '/' :: path := by
    rw [List.cons_append, List.cons_append, List.dropWhile_cons_of_pos rfl, List.dropWhile_cons_of_pos rfl,
      List.cons_append, List.dropWhile_cons_of_neg (by rw [htext c List.mem_cons_self]; decide)]
  have hpositive : ∀ d ∈ c :: text, (!isSeparator .special d) = true := fun d hd => by rw [htext d hd]; rfl
  rw [hstart, ofAuthority, hkind]
  rw [List.takeWhile_append_of_pos hpositive, List.dropWhile_append_of_pos hpositive,
    List.takeWhile_cons_of_neg (by decide), List.dropWhile_cons_of_neg (by decide), List.append_nil,
    List.isEmpty_cons, Bool.not_false, Bool.or_true]

/-- What stands behind the scheme is read as the parts it was made of. -/
theorem Web.ofAuthority_text (h : Web url) {more : Bool}
    (hagain : ofAuthority url.scheme ((url.authorityText ++ url.path.text).dropWhile (isSeparator .special)) more =
      .ok again) :
    again = { url with query := none, fragment := none } := by
  obtain ⟨source, host, hhost, hsome, hauthority, hfirst, hchars⟩ := h.authority
  obtain ⟨segments, hne, hfinal, hpath⟩ := h.path
  have hinside : ∀ c ∈ url.credentialsText ++ (host.text ++ portText url.port), isSeparator .special c = false := by
    intro c hc
    obtain hbare | rfl := hchars c hc
    · rw [isSeparator, Bool.or_eq_false_iff, Bool.and_eq_false_imp]
      exact ⟨beq_eq_false_iff_ne.mpr hbare.2.2.1, fun _ => beq_eq_false_iff_ne.mpr hbare.2.2.2.1⟩
    · decide
  have hslash : url.path.text.head? = some '/' := by
    obtain ⟨segment, rest, rfl⟩ := List.exists_cons_of_ne_nil hne
    rw [hpath, path_text_cons]
    rfl
  rw [hauthority, ofAuthority_append h.kind hinside hfirst hslash] at hagain
  obtain ⟨a, ha, hagain⟩ := bind_eq_ok.mp hagain
  obtain rfl := authorityOf_text h.kind h.username h.password h.port hhost ha
  rw [List.nil_append, hpath, segmentsOf_text hne hfinal] at hagain
  cases hagain
  rw [hpath, hsome]

/-- The text of a web URL, if it is read at all, is read as that URL. -/
theorem Web.of_parse_text (h : Web url) (hagain : parse url.text = .ok again) : again = url := by
  -- nothing is trimmed off, and the text is cut where its parts meet
  obtain ⟨hfragment, hquery⟩ := h.apart.cutAt_text
  rw [parse, h.solid.significant, hfragment] at hagain
  dsimp only at hagain
  rw [hquery] at hagain
  dsimp only at hagain
  rw [frontText, List.append_assoc, List.cons_append, scheme?_text h.kind] at hagain
  dsimp only at hagain
  rw [front_special h.kind, h.kind, if_neg (by decide)] at hagain
  obtain ⟨parts, hparts, hagain⟩ := bind_eq_ok.mp hagain
  obtain rfl := h.ofAuthority_text hparts
  cases hagain
  -- query and fragment are encoded already
  have hsame {set : EncodeSet} {cs : Option (List Char)} (hkept : ∀ text, cs = some text → Kept set text) :
      cs.map (percentEncode set) = cs := by
    cases cs with
    | none => rfl
    | some text => rw [Option.map_some, (hkept text rfl).percentEncode]
  rw [hsame h.query, hsame h.fragment]

end Parts

end DurableJobs.Url
