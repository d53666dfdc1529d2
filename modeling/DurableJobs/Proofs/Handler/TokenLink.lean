import Mathlib.Data.List.Induction
import DurableJobs.Proofs.Handler.Errands
import DurableJobs.Proofs.Url.Form
import DurableJobs.Proofs.Url.Reread

/-!
# The link of a token

The mails about tokens are written around a link, which is made of the base's text: its slashes at the end go, the
mail's path goes to what is left, and what that is read as gets the token as a query pair. Wherever the path went, be
it behind a query, behind a fragment or to an opaque path, the token is the last pair that anyone reads of the link,
whatever its characters are; so a link tells its token (`mail_links_token`).

Of a web URL without a query and a fragment it is also known where the path went. Without the slashes at its end the
text of the base is the text of another web URL, whose path has fewer empty segments; with the mail's path for a
further segment it still is one (`address_web`), and so it is what is read.
-/

set_option autoImplicit false

namespace DurableJobs

namespace Url

open DurableJobs.Text

/-! ## Slashes at the end -/

theorem dropSlashes_concat (cs : List Char) : dropSlashes (cs ++ ['/']) = dropSlashes cs := by
  rw [dropSlashes, List.reverse_concat, List.dropWhile_cons_of_pos rfl, ← dropSlashes]

theorem dropSlashes_of_getLast? {cs : List Char} (h : cs.getLast? ≠ some '/') : dropSlashes cs = cs := by
  obtain rfl | ⟨front, last, rfl⟩ := List.eq_nil_or_concat' cs
  · rfl
  · have hlast : ¬ (last == '/') = true := by
      rw [beq_iff_eq]
      rintro rfl
      exact h List.getLast?_concat
    rw [dropSlashes, List.reverse_concat, List.dropWhile_cons, if_neg hlast, List.reverse_cons, List.reverse_reverse]

theorem path_text_concat (segments : List (List Char)) (segment : List Char) :
    (Path.segments (segments ++ [segment])).text = (Path.segments segments).text ++ '/' :: segment := by
  rw [Path.text, List.flatMap_append, List.flatMap_singleton, ← Path.text]

theorem text_of_none (url : Url) (hquery : url.query = none) (hfragment : url.fragment = none) :
    url.text = url.scheme ++ ':' :: url.authorityText ++ url.path.text := by
  rw [text_eq, hquery, hfragment, queryText, fragmentText, List.append_nil, List.append_nil, frontText]

/-- The authority of a URL with a host is written without a look at the path. -/
theorem authorityText_path {url : Url} {host : Host} {path : Path} (h : url.host = some host) :
    { url with path }.authorityText = url.authorityText := by
  unfold authorityText
  rw [h]
  rfl

/-- Of a path the empty segments at the end go. -/
theorem dropSlashes_path {front : List Char} {segments : List (List Char)} (hfront : front.getLast? ≠ some '/')
    (hsegments : ∀ segment ∈ segments, '/' ∉ segment) :
    ∃ kept, kept ⊆ segments ∧
      dropSlashes (front ++ (Path.segments segments).text) = front ++ (Path.segments kept).text := by
  induction segments using List.reverseRecOn with
  | nil => exact ⟨[], List.Subset.refl _, dropSlashes_of_getLast? (by rwa [Path.text, List.flatMap_nil, List.append_nil])⟩
  | append_singleton segments segment ih =>
    obtain ⟨hrest, hlast⟩ := List.forall_mem_append.mp hsegments
    rw [path_text_concat, ← List.append_assoc]
    cases segment with
    | nil =>
      obtain ⟨kept, hkept, htext⟩ := ih hrest
      exact ⟨kept, fun _ hs => List.mem_append_left _ (hkept hs), (dropSlashes_concat _).trans htext⟩
    | cons c segment =>
      refine ⟨segments ++ [c :: segment], List.Subset.refl _, ?_⟩
      rw [path_text_concat, ← List.append_assoc]
      refine dropSlashes_of_getLast? fun h => hlast _ (List.mem_singleton_self _) (List.mem_of_getLast? ?_)
      rwa [List.getLast?_append, List.getLast?_cons_cons, List.getLast?_cons, Option.some_or, ← List.getLast?_cons] at h

/-- In front of the path there is no slash at the end. -/
theorem Web.getLast?_authority {url : Url} (h : Web url) :
    (url.scheme ++ ':' :: url.authorityText).getLast? ≠ some '/' := by
  obtain ⟨source, host, -, -, hauthority, hfirst, hchars⟩ := h.authority
  obtain ⟨init, last, htext⟩ := (List.eq_nil_or_concat' _).resolve_left hfirst
  rw [htext] at hauthority hchars
  rw [hauthority, ← List.cons_append, ← List.cons_append, ← List.cons_append, ← List.append_assoc,
    List.getLast?_concat, Ne, Option.some.injEq]
  rintro rfl
  obtain hbare | hat := hchars _ (List.mem_append_right _ (List.mem_singleton_self _))
  · exact hbare.2.2.1 rfl
  · cases hat

end Url

namespace Builtin

open Url Text

variable {base link : Url} {mail : TokenMail} {token : String} {path : String} {cs : List Char}

/-! ## Where the path goes -/

theorem tokenLink_eq_ok :
    tokenLink base mail token = .ok link ↔
      ∃ found, parse (mail.address base) = .ok found ∧ link = found.withPair "token" token := by
  rw [tokenLink]
  split
  next found hfound => simp [hfound, eq_comm]
  next flaw hflaw => simp [hflaw]

/-- The address of a mail below a web URL without a query and a fragment is the text of another. -/
theorem address_web (hbase : Web base) (hquery : base.query = none) (hfragment : base.fragment = none)
    (hpath : Final mail.path.toList) :
    ∃ below, Web below ∧ below.query = none ∧ below.fragment = none ∧ mail.address base = below.text := by
  obtain ⟨segments, hne, hfinal, hsegments⟩ := hbase.path
  obtain ⟨source, host, -, hsome, -⟩ := hbase.authority
  obtain ⟨kept, hkept, htext⟩ := dropSlashes_path hbase.getLast?_authority fun segment hsegment =>
    (hfinal segment hsegment).noSlash
  let below : Url := { base with path := .segments (kept ++ [mail.path.toList]) }
  have hbelow : below.text = base.scheme ++ ':' :: base.authorityText ++ (Path.segments kept).text ++
      '/' :: mail.path.toList := by
    rw [text_of_none below hquery hfragment, authorityText_path hsome, path_text_concat, ← List.append_assoc]
  have hsegments' : kept ++ [mail.path.toList] ≠ [] := List.append_ne_nil_of_right_ne_nil _ (List.cons_ne_nil _ _)
  have hfinal' : ∀ segment ∈ kept ++ [mail.path.toList], Final segment :=
    List.forall_mem_append.mpr ⟨fun segment hsegment => hfinal segment (hkept hsegment),
      List.forall_mem_singleton.mpr hpath⟩
  refine ⟨below, { hbase with path := ⟨_, hsegments', hfinal', rfl⟩ }, hquery, hfragment, ?_⟩
  rw [TokenMail.address, text_of_none base hquery hfragment, hsegments, htext, hbelow]

/-! ## What is read of a link -/

/-- The pairs that are read of a link, each name and value as the text that its bytes are. -/
def linkPairs (link : List Char) : List (String × String) :=
  match (cutAt '?' (cutAt '#' link).1).2 with
  | none => []
  | some query =>
      (formPairs query).map fun pair => (String.ofList (readable pair.1), String.ofList (readable pair.2))

theorem formEncode_token : formEncode "token" = "token".toList := by
  decide

theorem text_withPair {url : Url} {value : String} (hquery : url.query = none) (hfragment : url.fragment = none) :
    (url.withPair "token" value).text = url.text ++ "?token=".toList ++ formEncode value := by
  have hfront : (url.withPair "token" value).frontText = url.frontText := rfl
  have hpair : (url.withPair "token" value).query = some (formPair "token" value) := by rw [withPair, hquery]; rfl
  rw [text_eq, text_eq url, hfront, hpair, hquery, show (url.withPair "token" value).fragment = none from hfragment,
    hfragment, formPair, formEncode_token]
  simp only [queryText, fragmentText, List.append_nil, List.append_assoc]
  rfl

theorem linkPairs_text (h : Apart link) (name value : String) :
    (linkPairs (link.withPair name value).text).getLast? = some (name, value) := by
  have happart : Apart (link.withPair name value) := by
    refine ⟨h.front, fun q hq => ?_⟩
    cases hq
    exact hash_not_mem_appendPair h.query
  obtain ⟨hfragment, hquery⟩ := happart.cutAt_text
  rw [linkPairs, hfragment]
  dsimp only
  rw [hquery]
  dsimp only [withPair]
  rw [List.getLast?_map, formPairs_appendPair, Option.map_some, readable_bytesOfString, readable_bytesOfString,
    String.ofList_toList, String.ofList_toList]

/-- The link of a token, as it stands in the mail, tells the token: read as a query, it ends with the pair of it.
Below a web URL without a query and a fragment it is the URL, slashes at its end apart, then the path of the mail and
the token as it is encoded. -/
theorem mail_links_token (hbase : parse cs = .ok base)
    (hmail : mail = verification ∧ path = "/verify-email?token=" ∨
      mail = passwordReset ∧ path = "/reset-password?token=")
    (hlink : tokenLink base mail token = .ok link) :
    (∀ email, mail.compose base ⟨email, token⟩ = .ok ⟨email, mail.subject, mail.body link.toString⟩) ∧
      (linkPairs link.text).getLast? = some ("token", token) ∧
      (∀ other otherLink, tokenLink base mail other = .ok otherLink → otherLink.toString = link.toString →
        other = token) ∧
      (kindOfScheme base.scheme = .special → base.query = none → base.fragment = none →
        link.text = dropSlashes base.text ++ path.toList ++ formEncode token) := by
  have hlast {other : String} {otherLink : Url} (h : tokenLink base mail other = .ok otherLink) :
      (linkPairs otherLink.text).getLast? = some ("token", other) := by
    obtain ⟨found, hfound, rfl⟩ := tokenLink_eq_ok.mp h
    exact linkPairs_text (apart_of_parse hfound) "token" other
  refine ⟨fun email => compose_eq_ok.mpr ⟨link, hlink, rfl⟩, hlast hlink, fun other otherLink hother hsame => ?_,
    fun hkind hquery hfragment => ?_⟩
  · have hpair := hlast hother
    rw [String.ofList_inj.mp hsame, hlast hlink] at hpair
    cases hpair
    rfl
  · have hfinal : Final mail.path.toList := by
      obtain ⟨rfl, -⟩ | ⟨rfl, -⟩ := hmail
      · exact ⟨by decide, by decide, by decide, by decide, by decide⟩
      · exact ⟨by decide, by decide, by decide, by decide, by decide⟩
    obtain ⟨below, hbelow, hnone, hnone', haddress⟩ := address_web (web_of_parse hbase hkind) hquery hfragment hfinal
    obtain ⟨found, hfound, rfl⟩ := tokenLink_eq_ok.mp hlink
    rw [haddress] at hfound
    obtain rfl := hbelow.of_parse_text hfound
    rw [text_withPair hnone hnone', ← haddress, TokenMail.address]
    obtain ⟨rfl, rfl⟩ | ⟨rfl, rfl⟩ := hmail
    · rw [List.append_assoc (dropSlashes _)]
      rfl
    · rw [List.append_assoc (dropSlashes _)]
      rfl

/-- Below a page whose text ends in slashes, a token of blanks, signs and letters beyond ASCII. -/
theorem mail_links_token_signs :
    let base : Url :=
      ⟨"https".toList, [], [], some (.domain "a.io".toList), none, .segments ["x".toList, [], []], none, none⟩
    let link : Url :=
      ⟨"https".toList, [], [], some (.domain "a.io".toList), none, .segments ["x".toList, "verify-email".toList],
        some "token=a+%26%3D%C3%A9".toList, none⟩
    parse "https://A.io/x//".toList = .ok base ∧ tokenLink base verification "a &=é" = .ok link ∧
      verification.compose base ⟨"b@c.de", "a &=é"⟩ =
        .ok ⟨"b@c.de", "Verify your email", verification.body link.toString⟩ ∧
      (linkPairs link.text).getLast? = some ("token", "a &=é") ∧
      link.text = "https://a.io/x/verify-email?token=a+%26%3D%C3%A9".toList := by
  intro base link
  have hbase : parse "https://A.io/x//".toList = .ok base := by decide +kernel
  have hlink : tokenLink base verification "a &=é" = .ok link := by decide +kernel
  obtain ⟨hmail, hpair, -, htext⟩ := mail_links_token hbase (.inl ⟨rfl, rfl⟩) hlink
  have hdrop : dropSlashes base.text = "https://a.io/x".toList := by decide
  have htoken : formEncode "a &=é" = "a+%26%3D%C3%A9".toList := by decide
  have hkind : kindOfScheme base.scheme = .special := by decide
  refine ⟨hbase, hlink, hmail "b@c.de", hpair, (htext hkind rfl rfl).trans ?_⟩
  rw [hdrop, htoken]
  rfl

end Builtin

end DurableJobs
