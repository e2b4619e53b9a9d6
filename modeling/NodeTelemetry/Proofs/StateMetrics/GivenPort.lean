import NodeTelemetry.Proofs.Connection.Credentials
import NodeTelemetry.Proofs.Url.Authority
import NodeTelemetry.Proofs.Url.Leaf
import NodeTelemetry.StateMetrics.Groups

/-!
# A given endpoint over plain HTTP

An endpoint of kube-state-metrics that is given in the encrypted scheme is asked without encryption. Host, path and
query stay as they are given. The port stays too, with one exception: the port of the encrypted scheme has been left out
when the change of the scheme is made, and the port of the other scheme takes its place.

## Main definitions

* `GivenEndpoint`: a text with a port that may be given as an endpoint.

## Main statements

* `Url.exists_join_eq`: what a path below a base leaves as it is.
* `port_overPlainHttp`: the port of a URL whose scheme is changed.
* `port_of_given`: the endpoint that is found, and the request for metrics.
* `port_of_given_default`: the port of the encrypted scheme.
-/

namespace NodeTelemetry

/-! ### Marks -/

namespace Text

variable {mark : List Char}

theorem isSome_afterMark (hmark : mark ≠ []) (front rest : List Char) :
    (afterMark mark (front ++ (mark ++ rest))).isSome = true := by
  induction front with
  | nil =>
    obtain ⟨c, more, rfl⟩ := List.exists_cons_of_ne_nil hmark
    have hprefix : (c :: more).isPrefixOf? (c :: (more ++ rest)) = some rest :=
      List.isPrefixOf?_eq_some_iff_append_eq.2 rfl
    rw [List.nil_append, List.cons_append, afterMark, hprefix]
    rfl
  | cons c front ih =>
    rw [List.cons_append, afterMark]
    split
    · rfl
    · exact ih

/-- A mark is not found in a text without one of its characters. -/
theorem afterMark_eq_none {c : Char} {s : List Char} (hc : c ∈ mark) (h : c ∉ s) : afterMark mark s = none := by
  induction s with
  | nil => rw [afterMark, if_neg (List.ne_nil_of_mem hc)]
  | cons d s ih =>
    rw [afterMark]
    split
    · next after hprefix =>
      have hsplit := List.isPrefixOf?_eq_some_iff_append_eq.1 hprefix
      exact absurd (hsplit ▸ List.mem_append_left after hc) h
    · exact ih fun hmem => h (.tail _ hmem)

end Text

namespace Url

variable {text last : String} {base : Url}

/-- A path below a base that is no file gives a URL with the scheme, the host and the port of the base. -/
theorem exists_join_eq (h : IsBelow text.toList last) (hsegments : base.isOpaque = false)
    (hscheme : base.scheme ≠ "file") :
    ∃ path query fragment, base.join text = .ok { base with path := path, query := query, fragment := fragment } :=
  ⟨_, _, _, (join_eq h hsegments hscheme).trans (relativeTo_eq h)⟩

theorem exists_withSlash_eq {u : Url} {segments : List String} (h : u.path = .segments segments) :
    ∃ more, u.withSlash = { u with path := .segments more } := by
  rw [withSlash, h]
  simp only
  split
  · exact ⟨segments, by rw [← h]⟩
  · exact ⟨_, rfl⟩

end Url

/-- A request below an endpoint with a path of segments goes to the host and the port of the endpoint. -/
theorem SourceClient.exists_requestUrl_eq {c : SourceClient} {path last : String} {segments : List String}
    (hleaf : PathLeaf path last) (hpath : c.endpoint.url.path = .segments segments)
    (hscheme : c.endpoint.url.scheme ≠ "file") :
    ∃ p query fragment, c.requestUrl path =
      .ok { c.endpoint.url with path := p, query := query, fragment := fragment } := by
  obtain ⟨more, hslash⟩ := Url.exists_withSlash_eq hpath
  have hbelow : Url.IsBelow (String.ofList (path.toList.dropWhile (· = '/'))).toList last := by
    rwa [String.toList_ofList]
  obtain ⟨p, query, fragment, hjoin⟩ := Url.exists_join_eq hbelow
    (show c.endpoint.url.withSlash.isOpaque = false by rw [hslash]; rfl)
    (show c.endpoint.url.withSlash.scheme ≠ "file" by rw [hslash]; exact hscheme)
  refine ⟨p, query, fragment, ?_⟩
  rw [requestUrl, hjoin, hslash]
  rfl

namespace StateMetrics

open Url (Authority)

/-- A text that may be given as an endpoint, with a port: in one of the schemes of the web, or without a scheme and
then without the mark that stands behind one. -/
structure GivenEndpoint where
  scheme : Option (List Char)
  authority : Authority
  tail : List Char
  web : Url.IsWebScheme (String.ofList ((scheme.getD "http".toList).map Char.toLower))
  tail_ends : ∀ c ∈ tail.head?, Url.endsAuthority c = true
  unmarked : scheme = none → Text.afterMark "://".toList (authority.text ++ tail) = none

namespace GivenEndpoint

variable (g : GivenEndpoint)

def text : String :=
  String.ofList (g.scheme.elim [] (fun s => s ++ "://".toList) ++ (g.authority.text ++ g.tail))

/-- The name of the scheme that is meant. -/
def schemeName : String := String.ofList ((g.scheme.getD "http".toList).map Char.toLower)

/-- A host and a port alone, perhaps with credentials. -/
def ofAuthority (a : Authority) : GivenEndpoint where
  scheme := none
  authority := a
  tail := []
  web := .inl rfl
  tail_ends := by simp
  unmarked := fun _ => by
    rw [List.append_nil]
    refine Text.afterMark_eq_none (show '/' ∈ "://".toList by decide) fun h => ?_
    exact absurd (a.forall_mem_text _ h) (by decide)

/-- The text without a scheme is read with the scheme for plain HTTP. -/
theorem ofText_text : Locator.ofText g.text = (Url.parse (String.ofList (g.scheme.getD "http".toList ++
    ':' :: '/' :: '/' :: (g.authority.text ++ g.tail)))).mapError (.invalidUrl g.text) := by
  have htext : (if (Text.afterMark "://".toList g.text.toList).isSome then g.text else "http://" ++ g.text) =
      String.ofList (g.scheme.getD "http".toList ++ ':' :: '/' :: '/' :: (g.authority.text ++ g.tail)) := by
    have htoList : g.text.toList =
        g.scheme.elim [] (fun s => s ++ "://".toList) ++ (g.authority.text ++ g.tail) := String.toList_ofList
    rw [htoList, text]
    cases hscheme : g.scheme with
    | none =>
      rw [Option.elim_none, List.nil_append, g.unmarked hscheme, if_neg (by simp), ← String.toList_inj]
      simp
    | some s =>
      have hmark := Text.isSome_afterMark (show "://".toList ≠ [] by decide) s (g.authority.text ++ g.tail)
      rw [Option.elim_some, List.append_assoc, if_pos hmark, Option.getD_some]
      rfl
  rw [Locator.ofText]
  simp only [htext]

end GivenEndpoint

/-- The port under plain HTTP is the one under the scheme that is given, unless that is the port of the encrypted
scheme, which is left out before the scheme is changed. -/
theorem port_overPlainHttp {u plain : Url} {port : Nat} (hweb : Url.IsWebScheme u.scheme)
    (hport : u.port = Url.portOf u.scheme port) (h : overPlainHttp u = .ok plain) :
    plain = { u with scheme := "http", port := plain.port } ∧ plain.effectivePort? =
      some (if u.scheme = "https" ∧ port = 443 then 80 else port) := by
  rcases hweb with hscheme | hscheme
  · rw [overPlainHttp, if_pos hscheme] at h
    obtain rfl := Except.ok.inj h
    refine ⟨by rw [← hscheme], ?_⟩
    rw [Url.effectivePort?, hport, Url.portOf_orElse, hscheme]
    rfl
  · have hplain : plain =
        { u with scheme := "http", port := if u.port = Url.defaultPort? "http" then none else u.port } := by
      rw [overPlainHttp, if_neg (by simp [hscheme]), Url.withScheme] at h
      split at h
      · next hchanged =>
        split at hchanged
        · obtain rfl := Except.ok.inj h
          exact (Option.some.inj hchanged).symm
        · cases hchanged
      · cases h
    have hsecure : Url.defaultPort? "https" = some 443 := rfl
    have hopen : Url.defaultPort? "http" = some 80 := rfl
    refine ⟨by rw [hplain], ?_⟩
    rw [hplain, Url.effectivePort?, hport, Url.portOf, hscheme, hsecure, hopen]
    -- 443 has been left out when the URL was read, and 80 is left out by the change of the scheme
    by_cases hdefault : port = 443
    · simp [hdefault]
    · by_cases hplainPort : port = 80
      · simp [hplainPort]
      · simp [hdefault, hplainPort]

/-- An endpoint that is found under a given one has its host, path and query. Requests to it go to the port that is
written, except for the port of the encrypted scheme in that scheme: they go to the port of plain HTTP then. -/
theorem port_of_given (g : GivenEndpoint) {w : Surroundings} {timeout : Time.Span} {e : Endpoint}
    (h : ((locator (some g.text)).locate w timeout).run.value = .ok e) :
    ∃ u, Locator.ofText g.text = .ok u ∧ u.effectivePort? = some g.authority.port ∧
      e.url.scheme = "http" ∧ e.url.host = u.host ∧ e.url.path = u.path ∧ e.url.query = u.query ∧
      e.url.effectivePort? =
        some (if g.schemeName = "https" ∧ g.authority.port = 443 then 80 else g.authority.port) ∧
      ∃ r, (SourceClient.plain e).requestUrl metricsPath = .ok r ∧ r.scheme = "http" ∧ r.host = u.host ∧
        r.effectivePort? = e.url.effectivePort? := by
  have hgiven : Locator.given? (some g.text) = some g.text := by
    refine Option.filter_some_pos (decide_eq_true ?_)
    rw [ne_eq, ← String.toList_inj, GivenEndpoint.text, String.toList_ofList]
    simp [g.authority.text_ne_nil]
  rw [locator] at h
  simp only [hgiven] at h
  obtain ⟨u, hu, h⟩ := Lookup.exists_of_value_bind_eq_ok h
  obtain ⟨plain, hplain, h⟩ := Lookup.exists_of_value_bind_eq_ok h
  obtain ⟨ip, -, h⟩ := Lookup.exists_of_value_bind_eq_ok h
  obtain rfl := Except.ok.inj h
  rw [Lookup.value_ofExcept, mapError_eq_ok_iff] at hu hplain
  have hparse := hu
  rw [g.ofText_text, mapError_eq_ok_iff] at hparse
  have hname : (g.scheme.getD "http".toList).map Char.toLower = g.schemeName.toList := String.toList_ofList.symm
  obtain ⟨hscheme, hport, segments, hpath⟩ := g.authority.port_of_parse hname g.web g.tail_ends hparse
  have hweb : Url.IsWebScheme u.scheme := hscheme ▸ g.web
  obtain ⟨hsame, heffective⟩ := port_overPlainHttp hweb (hscheme ▸ hport) hplain
  have hhttp : plain.scheme = "http" := by rw [hsame]
  have hhost : plain.host = u.host := by rw [hsame]
  have hpathPlain : plain.path = u.path := by rw [hsame]
  have hquery : plain.query = u.query := by rw [hsame]
  have hclient : (SourceClient.plain ⟨plain, ip, .none⟩).endpoint.url.path = .segments segments :=
    hpathPlain.trans hpath
  have hleaf : SourceClient.PathLeaf metricsPath "metrics" := by decide
  obtain ⟨p, query, fragment, hrequest⟩ := SourceClient.exists_requestUrl_eq hleaf hclient
    (show plain.scheme ≠ "file" by rw [hhttp]; decide)
  refine ⟨u, hu, ?_, hhttp, hhost, hpathPlain, hquery, ?_, _, hrequest, hhttp, hhost, rfl⟩
  · rw [Url.effectivePort?, hport, hscheme, Url.portOf_orElse]
  · rw [heffective, hscheme]

/-- Surroundings in which a pod of kube-state-metrics runs on a node. -/
def running : Surroundings :=
  { Surroundings.unreachable with pods := fun _ => .found [Pass.podOn "10.0.0.2"] }

def authorityOn (digits : List Char) (hne : digits ≠ []) (hdigits : ∀ c ∈ digits, c.isDigit = true) : Authority where
  credentials := none
  host := "ksm.example".toList
  digits := digits
  credentials_open := by simp
  host_text := .name (List.all_iff_forall_prop.1 (by decide))
  digits_ne_nil := hne
  digits_isDigit := hdigits

/-- An endpoint in the encrypted scheme, on another port than the one of that scheme. -/
def encrypted : GivenEndpoint where
  scheme := some "https".toList
  authority := authorityOn "8443".toList (by decide) (List.all_iff_forall_prop.1 (by decide))
  tail := "/base?x=1".toList
  web := .inr rfl
  tail_ends := by
    rintro c ⟨⟩
    decide
  unmarked := fun h => nomatch h

def bare : GivenEndpoint :=
  .ofAuthority (authorityOn "8080".toList (by decide) (List.all_iff_forall_prop.1 (by decide)))

/-- Endpoints with and without a scheme are found on their ports. -/
theorem port_of_given_nondefault :
    (encrypted.text = "https://ksm.example:8443/base?x=1" ∧
      ∃ e, ((locator (some encrypted.text)).locate running (.ofSeconds 5)).run.value = .ok e ∧
        e.url.effectivePort? = some 8443) ∧
    bare.text = "ksm.example:8080" ∧
      ∃ e, ((locator (some bare.text)).locate running (.ofSeconds 5)).run.value = .ok e ∧
        e.url.effectivePort? = some 8080 := by
  have hencrypted : ((locator (some encrypted.text)).locate running (.ofSeconds 5)).run.value =
      .ok ⟨⟨"http", "", "", some (.domain "ksm.example"), some 8443, .segments ["base"], some "x=1", none⟩,
        "10.0.0.2", .none⟩ := by
    decide +kernel
  have hbare : ((locator (some bare.text)).locate running (.ofSeconds 5)).run.value =
      .ok ⟨⟨"http", "", "", some (.domain "ksm.example"), some 8080, .segments [""], none, none⟩,
        "10.0.0.2", .none⟩ := by
    decide +kernel
  obtain ⟨-, -, -, -, -, -, -, hport, -⟩ := port_of_given encrypted hencrypted
  obtain ⟨-, -, -, -, -, -, -, hport', -⟩ := port_of_given bare hbare
  exact ⟨⟨by decide, _, hencrypted, hport⟩, by decide, _, hbare, hport'⟩

/-- On the port of the encrypted scheme another port is found. -/
theorem port_of_given_default :
    (Locator.ofText "https://ksm:443/").map Url.effectivePort? = .ok (some 443) ∧
      ((locator (some "https://ksm:443/")).locate running (.ofSeconds 5)).run.value.map
        (fun e => (e.url.text, e.url.effectivePort?)) = .ok ("http://ksm/", some 80) := by
  decide +kernel

end StateMetrics

end NodeTelemetry
