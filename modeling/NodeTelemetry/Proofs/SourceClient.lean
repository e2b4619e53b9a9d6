import NodeTelemetry.Proofs.Url.Names
import NodeTelemetry.Proofs.Url.Scheme

/-!
# Requests below an endpoint

The path of a request is put behind the path of the endpoint. A slash stands between the two whether or not the path of
the endpoint ends in one. Scheme, credentials, host and port are the ones of the endpoint; its query and its fragment
are not part of the request.

## Main definitions

* `RequestPath`: the paths that are asked for.
* `Url.slashed`: the written form of a path, with a slash at the end.

## Main statements

* `SourceClient.requestUrl_eq`: the URL of a request in its parts.
* `SourceClient.requestUrl_appends`: the URL of a request in its written form.
-/

namespace NodeTelemetry

/-- A path that is asked for: slashes at the front, and plain names with single slashes between them. -/
structure RequestPath where
  slashes : Nat
  names : List (List Char)
  plain : Url.PlainNames names

namespace RequestPath

/-- The path without the slashes at its front. -/
def below (p : RequestPath) : String := String.ofList (Url.namesText p.names)

def text (p : RequestPath) : String := String.ofList (List.replicate p.slashes '/') ++ p.below

/-- The names do not begin with a slash, so all slashes at the front are dropped. -/
theorem dropWhile_text (p : RequestPath) : String.ofList (p.text.toList.dropWhile (· = '/')) = p.below := by
  obtain ⟨s, hs, c, hc, hhead⟩ := p.plain.exists_head
  obtain ⟨rest, hnames⟩ := List.head?_eq_some_iff.1 hhead
  have hslash : c ≠ '/' := ne_of_mem_of_not_mem hc (p.plain.slash_not_mem hs)
  have hreplicate : ∀ d ∈ List.replicate p.slashes '/', decide (d = '/') = true := fun d hd =>
    decide_eq_true (List.eq_of_mem_replicate hd)
  rw [text, below, String.toList_append, String.toList_ofList, String.toList_ofList,
    List.dropWhile_append_of_pos hreplicate, hnames, List.dropWhile_cons, if_neg (by simpa using hslash)]

end RequestPath

namespace Url

/-- The written form of a path, with a slash at the end. -/
def slashed (path : String) : String := if path.toList.getLast? = some '/' then path else path ++ "/"

theorem getLast?_text_eq_slash_iff (init : List String) {last : String} (h : '/' ∉ last.toList) :
    (UrlPath.segments (init ++ [last])).text.toList.getLast? = some '/' ↔ last = "" := by
  rw [UrlPath.toList_text, List.flatMap_append, List.flatMap_singleton]
  constructor
  · intro hend
    by_contra hne
    obtain ⟨front, d, hlast⟩ := (List.eq_nil_or_concat last.toList).resolve_left (by simpa using hne)
    rw [hlast, List.concat_eq_append, ← List.cons_append, ← List.append_assoc, List.getLast?_concat] at hend
    refine h ?_
    simp [hlast, Option.some.inj hend]
  · rintro rfl
    simp

/-- The written form ends in a slash if the last segment is empty. -/
theorem slashed_text {ss : List String} (h : (UrlPath.segments ss).Slashless) :
    slashed (UrlPath.segments ss).text = (UrlPath.segments (folder ss ++ [""])).text := by
  have hempty : (UrlPath.segments [""]).text = "/" := by decide
  rcases List.eq_nil_or_concat ss with rfl | ⟨init, last, rfl⟩
  · decide
  · rw [List.concat_eq_append] at h ⊢
    have hlast : '/' ∉ last.toList := UrlPath.slashless_singleton.1 (UrlPath.slashless_append.1 h).2
    have hend := getLast?_text_eq_slash_iff init hlast
    rw [slashed, folder, List.getLast?_concat]
    by_cases hlastEmpty : last = ""
    · rw [if_pos (hend.2 hlastEmpty), if_pos (congrArg some hlastEmpty), List.dropLast_concat, hlastEmpty]
    · rw [if_neg (mt hend.1 hlastEmpty), if_neg (mt Option.some.inj hlastEmpty), UrlPath.text_append _ [""], hempty]

theorem slashless_folder {ss : List String} (h : (UrlPath.segments ss).Slashless) :
    (UrlPath.segments (folder ss)).Slashless := by
  rw [folder]
  split
  · exact h.of_subset (List.dropLast_sublist ss).subset
  · exact h

/-- Two URLs that differ at most in a slash at the end of the path, in the query and in the fragment. -/
structure SameBase (u v : Url) : Prop where
  scheme : v.scheme = u.scheme
  username : v.username = u.username
  password : v.password = u.password
  host : v.host = u.host
  port : v.port = u.port
  path : slashed v.path.text = slashed u.path.text

/-- Paths that differ at most in a slash at the end have the same folder. -/
theorem folder_eq_of_slashed_eq {ss rest : List String} (h : (UrlPath.segments ss).Slashless)
    (hrest : (UrlPath.segments rest).Slashless)
    (hslashed : slashed (UrlPath.segments ss).text = slashed (UrlPath.segments rest).text) :
    folder ss = folder rest := by
  have hempty : (UrlPath.segments [""]).Slashless := by decide
  rw [slashed_text h, slashed_text hrest, UrlPath.text_inj (UrlPath.slashless_append.2 ⟨slashless_folder h, hempty⟩)
    (UrlPath.slashless_append.2 ⟨slashless_folder hrest, hempty⟩)] at hslashed
  exact List.append_cancel_right hslashed

end Url

namespace SourceClient

variable {c : SourceClient}

/-- The names of a path stand behind the folder of the endpoint. -/
theorem requestUrl_eq (p : RequestPath) {ss : List String} (hpath : c.endpoint.url.path = .segments ss)
    (hscheme : c.endpoint.url.scheme ≠ "file") :
    c.requestUrl p.text = .ok { c.endpoint.url with
      path := .segments (Url.folder ss ++ p.names.map String.ofList)
      query := none
      fragment := none } := by
  have hjoin := p.plain.join_eq { c.endpoint.url with path := .segments (Url.folder ss ++ [""]) } rfl hscheme
  simp only [Url.baseSegments, List.dropLast_concat] at hjoin
  rw [requestUrl]
  simp only [p.dropWhile_text, Url.withSlash_eq hpath hscheme]
  rw [RequestPath.below, hjoin]
  rfl

/-- The path of a request in its written form. -/
theorem text_folder_append (p : RequestPath) {ss : List String} (h : (UrlPath.segments ss).Slashless) :
    (UrlPath.segments (Url.folder ss ++ p.names.map String.ofList)).text =
      Url.slashed (UrlPath.segments ss).text ++ p.below := by
  have hnames : (UrlPath.segments (p.names.map String.ofList)).Slashless := by
    intro t ht
    obtain ⟨s, hs, rfl⟩ := List.mem_map.1 ht
    rw [String.toList_ofList]
    exact p.plain.slash_not_mem hs
  have hmap : (p.names.map String.ofList).map String.toList = p.names := by
    simp [Function.comp_def]
  have hbelow : (UrlPath.segments (p.names.map String.ofList)).text = "/" ++ p.below := by
    rw [← String.toList_inj, UrlPath.toList_text_eq_cons (by simpa using p.plain.ne_nil) hnames, hmap]
    simp [RequestPath.below, Url.namesText]
  have hempty : (UrlPath.segments [""]).text = "/" := by decide
  rw [Url.slashed_text h, UrlPath.text_append, UrlPath.text_append, hbelow, hempty, String.append_assoc]

/-- A URL that is read, or whose scheme has been changed then, is well formed. Below any well-formed endpoint of the
web, the path of a request is put behind the path of the endpoint. Endpoints that differ at most in a slash at the end
get the same URL. -/
theorem requestUrl_appends :
    (∀ text u, Url.parse text = .ok u → u.IsWellFormed) ∧
    (∀ u scheme v, Url.IsWellFormed u → u.withScheme scheme = some v → v.IsWellFormed) ∧
    ∀ (c : SourceClient) (p : RequestPath), c.endpoint.url.IsWellFormed → Url.IsWebScheme c.endpoint.url.scheme →
      ∃ r, c.requestUrl p.text = .ok r ∧
        r.scheme = c.endpoint.url.scheme ∧ r.username = c.endpoint.url.username ∧
        r.password = c.endpoint.url.password ∧ r.host = c.endpoint.url.host ∧ r.port = c.endpoint.url.port ∧
        r.query = none ∧ r.fragment = none ∧ r.path.text = Url.slashed c.endpoint.url.path.text ++ p.below ∧
        ∀ other : SourceClient, other.endpoint.url.IsWellFormed →
          Url.SameBase c.endpoint.url other.endpoint.url → other.requestUrl p.text = .ok r := by
  refine ⟨fun _ _ => Url.isWellFormed_parse, fun _ _ _ => Url.IsWellFormed.withScheme, fun c p hformed hweb => ?_⟩
  obtain ⟨ss, hpath, hss⟩ := hformed.exists_segments hweb.isSpecial
  refine ⟨_, requestUrl_eq p hpath hweb.ne_file, rfl, rfl, rfl, rfl, rfl, rfl, rfl, ?_, ?_⟩
  · rw [hpath]
    exact text_folder_append p hss
  · intro other hother hsame
    have hotherWeb : Url.IsWebScheme other.endpoint.url.scheme := hsame.scheme ▸ hweb
    obtain ⟨rest, hrest, hslashless⟩ := hother.exists_segments hotherWeb.isSpecial
    have hfolder : Url.folder rest = Url.folder ss :=
      Url.folder_eq_of_slashed_eq hslashless hss (by rw [← hrest, ← hpath, hsame.path])
    rw [requestUrl_eq p hrest hotherWeb.ne_file, hfolder]
    simp only [hsame.scheme, hsame.username, hsame.password, hsame.host, hsame.port]

def summaryPath : RequestPath := ⟨1, ["stats".toList, "summary".toList], by decide +kernel⟩

/-- An endpoint with a slash at the end of its path and one without. -/
theorem requestUrl_appends_summary : ∃ u v r,
    Url.parse "http://me:pw@proxy:8001/svc/a%20b/proxy?x=1#top" = .ok u ∧
    Url.parse "http://me:pw@proxy:8001/svc/a%20b/proxy/" = .ok v ∧ summaryPath.text = "/stats/summary" ∧
    (plain ⟨u, "", .none⟩).requestUrl summaryPath.text = .ok r ∧
    (plain ⟨v, "", .none⟩).requestUrl summaryPath.text = .ok r ∧
    r.path.text = "/svc/a%20b/proxy/stats/summary" := by
  have hu : Url.parse "http://me:pw@proxy:8001/svc/a%20b/proxy?x=1#top" = .ok ⟨"http", "me", "pw",
      some (.domain "proxy"), some 8001, .segments ["svc", "a%20b", "proxy"], some "x=1", some "top"⟩ := by
    decide +kernel
  have hv : Url.parse "http://me:pw@proxy:8001/svc/a%20b/proxy/" = .ok ⟨"http", "me", "pw",
      some (.domain "proxy"), some 8001, .segments ["svc", "a%20b", "proxy", ""], none, none⟩ := by
    decide +kernel
  obtain ⟨hparse, -, happends⟩ := requestUrl_appends
  obtain ⟨r, hr, -, -, -, -, -, -, -, hpath, hother⟩ :=
    happends (plain ⟨_, "", .none⟩) summaryPath (hparse _ _ hu) (.inl rfl)
  refine ⟨_, _, r, hu, hv, by decide, hr,
    hother (plain ⟨_, "", .none⟩) (hparse _ _ hv) ⟨rfl, rfl, rfl, rfl, rfl, ?_⟩, ?_⟩
  · decide
  · rw [hpath]
    decide

end SourceClient

end NodeTelemetry
